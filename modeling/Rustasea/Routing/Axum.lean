import Mathlib.Logic.Basic

/-!
# Axum, as the route table uses it

Axum dispatches a request first by its path and then by its method.  A method
router answers some methods each with an endpoint of its own, and the others
with its fallback.  Building two endpoints for one place panics.
-/

namespace Rustasea.Routing

open Option

/--
What an application hands to the route table.  Its middleware are closures over
a method router; each is assumed to add one layer to it and to do nothing else.
-/
structure Application where
  Action : Type
  Middleware : Type
  Resource : Type
  Binder : Type
  TowerLayer : Type

/-- Which redirect status code a helper emits. -/
inductive RedirectKind where
  | temporary
  | permanent
  deriving DecidableEq

/-- A handler of a compiled route. -/
inductive Handler (app : Application) where
  | action (run : app.Action)
  | redirect (kind : RedirectKind) (target : String)
  | stub

/-- A layer around a handler, or around a whole router. -/
inductive Layer (app : Application) where
  | middleware (apply : app.Middleware)
  | authorize (checks : List (app.Resource × String))
  | bind (checks : List (app.Binder × String)) (template : String)
  | tower (layer : app.TowerLayer)

/-- A handler and the layers around it, the outermost first. -/
structure Endpoint (app : Application) where
  handler : Handler app
  layers : List (Layer app)

def Endpoint.layered {app : Application} (layer : Layer app)
    (endpoint : Endpoint app) : Endpoint app :=
  { endpoint with layers := layer :: endpoint.layers }

/-! ## Methods -/

/-- The verbs that have a method router of their own. -/
inductive Verb where
  | get
  | post
  | put
  | delete
  | patch
  | options
  deriving DecidableEq

namespace Verb

def name : Verb → String
  | get => "GET"
  | post => "POST"
  | put => "PUT"
  | delete => "DELETE"
  | patch => "PATCH"
  | options => "OPTIONS"

def all : List Verb := [get, post, put, delete, patch, options]

theorem mem_all (verb : Verb) : verb ∈ all := by
  cases verb <;> decide

def parse? (method : String) : Option Verb := all.find? fun verb => verb.name = method

@[simp] theorem parse?_name (verb : Verb) : parse? verb.name = some verb := by
  cases verb <;> decide

theorem name_of_parse? {method : String} {verb : Verb} (isVerb : parse? method = some verb) :
    verb.name = method := by
  simpa using List.find?_some isVerb

end Verb

abbrev MethodFilter := Option Verb

/-- Whether a request method is answered under a filter. -/
def MethodFilter.Serves (filter : MethodFilter) (method : String) : Prop :=
  match filter with
  | none => True
  | some verb => method = verb.name ∨ verb = .get ∧ method = "HEAD"

/-- The endpoints of a method router: one for each verb, and the fallback. -/
abbrev MethodTable (app : Application) := MethodFilter → Option (Endpoint app)

namespace MethodTable

variable {app : Application}

def single (filter : MethodFilter) (endpoint : Endpoint app) : MethodTable app :=
  fun other => if other = filter then some endpoint else none

def layered (layer : Layer app) (table : MethodTable app) : MethodTable app :=
  fun filter => (table filter).map (Endpoint.layered layer)

@[simp] theorem layered_single
    (layer : Layer app) (filter : MethodFilter) (endpoint : Endpoint app) :
    (single filter endpoint).layered layer = single filter (endpoint.layered layer) := by
  funext other
  by_cases same : other = filter <;> simp [layered, single, same]

def overlaps (first second : MethodTable app) : Bool :=
  (none :: Verb.all.map some).any fun filter => (first filter).isSome && (second filter).isSome

/-- The endpoints of both tables, unless they overlap. -/
def merge (first second : MethodTable app) : Option (MethodTable app) :=
  if first.overlaps second then none
  else some fun filter => (first filter).or (second filter)

/-- What two routers hold under one pattern, and what they hold once merged. -/
def MergedAs : Option (MethodTable app) → Option (MethodTable app) → Option (MethodTable app) → Prop
  | some own, some added, merged => ∃ table, own.merge added = some table ∧ merged = some table
  | some own, none, merged => merged = some own
  | none, added, merged => merged = added

/-- The endpoint that answers a method: its own, else the fallback. -/
def respond (table : MethodTable app) (method : String) : Option (Endpoint app) :=
  match Verb.parse? method with
  | some verb => (table (some verb)).or (table none)
  | none =>
    if method = "HEAD" then (table (some .get)).or (table none)
    else table none

theorem merge_apply {first second merged : MethodTable app}
    (isMerged : first.merge second = some merged) (filter : MethodFilter)
    (endpoint : Endpoint app) :
    merged filter = some endpoint ↔
      first filter = some endpoint ∨ second filter = some endpoint := by
  unfold merge at isMerged
  split at isMerged
  · cases isMerged
  · next apart =>
    cases isMerged
    have isListed : filter ∈ none :: Verb.all.map some := by
      cases filter with
      | none => exact List.mem_cons_self
      | some verb => exact List.mem_cons_of_mem _ (List.mem_map_of_mem (Verb.mem_all verb))
    have notBoth : ¬((first filter).isSome ∧ (second filter).isSome) := by
      rintro ⟨inFirst, inSecond⟩
      refine apart (List.any_eq_true.mpr ⟨filter, isListed, ?_⟩)
      rw [inFirst, inSecond]
      rfl
    cases atFirst : first filter with
    | none => simp [atFirst]
    | some own =>
      have notSecond : second filter = none := by simpa [atFirst] using notBoth
      simp [atFirst, notSecond]

variable {table : MethodTable app} {endpoint : Endpoint app}

theorem serves_of_respond {method : String} (answered : table.respond method = some endpoint) :
    ∃ filter : MethodFilter, filter.Serves method ∧ table filter = some endpoint := by
  unfold respond at answered
  split at answered
  · next verb isVerb =>
    rcases or_eq_some_iff.mp answered with own | ⟨-, fallback⟩
    · exact ⟨some verb, Or.inl (Verb.name_of_parse? isVerb).symm, own⟩
    · exact ⟨none, trivial, fallback⟩
  · split at answered
    · next isHead =>
      rcases or_eq_some_iff.mp answered with own | ⟨-, fallback⟩
      · exact ⟨some .get, Or.inr ⟨rfl, isHead⟩, own⟩
      · exact ⟨none, trivial, fallback⟩
    · exact ⟨none, trivial, answered⟩

theorem respond_name {verb : Verb} (own : table (some verb) = some endpoint) :
    table.respond verb.name = some endpoint := by
  simp [respond, own]

end MethodTable

/-! ## Routers -/

/-- A request, as far as it decides which handler runs. -/
structure Request where
  method : String
  path : String
  host : Option String
  deriving DecidableEq

/-- What is used of axum.  Where `none` is returned, axum panics. -/
structure Axum (app : Application) where
  MethodRouter : Type
  Router : Type
  /-- `get`, `post` and so on for a verb, `any` for none. -/
  on : MethodFilter → Handler app → MethodRouter
  layer : Layer app → MethodRouter → MethodRouter
  new : Router
  /-- A new router with one route. -/
  route : String → MethodRouter → Option Router
  merge : Router → Router → Option Router
  layerAll : Layer app → Router → Router
  /-- A new router whose fallback answers with an internal server error. -/
  internalServerError : Router
  /-- What a method router holds. -/
  methods : MethodRouter → MethodTable app
  /-- What a router holds under a path pattern. -/
  held : Router → String → Option (MethodTable app)
  matchesPath : String → String → Prop
  /-- The pattern that a request path is matched to. -/
  matched : Router → String → Option String
  /-- The endpoint that a request is dispatched to. -/
  dispatch : Router → Request → Option (Endpoint app)

structure Axum.Documented {app : Application} (axum : Axum app) : Prop where
  methods_on : ∀ filter handler,
      axum.methods (axum.on filter handler) = .single filter { handler := handler, layers := [] }
  methods_layer :
    ∀ layer router, axum.methods (axum.layer layer router) = (axum.methods router).layered layer
  held_new : ∀ pattern, axum.held axum.new pattern = none
  held_route : ∀ {pattern methodRouter router}, axum.route pattern methodRouter = some router →
        ∀ other, axum.held router other =
            if other = pattern then some (axum.methods methodRouter)
            else none
  /-- Routers are merged pattern by pattern. -/
  held_merge : ∀ {first second router}, axum.merge first second = some router → ∀ pattern,
          MethodTable.MergedAs (axum.held first pattern)
            (axum.held second pattern) (axum.held router pattern)
  held_layerAll : ∀ layer router pattern, axum.held (axum.layerAll layer router) pattern =
        (axum.held router pattern).map (.layered layer)
  held_internalServerError : ∀ pattern, axum.held axum.internalServerError pattern = none
  /-- A path is matched to a pattern of the router that it matches. -/
  matched_held : ∀ {router path pattern}, axum.matched router path = some pattern →
        (axum.held router pattern).isSome ∧ axum.matchesPath pattern path
  /-- A request is dispatched by its path, and then by its method. -/
  dispatch_eq : ∀ router request, axum.dispatch router request =
        (axum.matched router request.path).bind fun pattern =>
          (axum.held router pattern).bind fun table => table.respond request.method

namespace Axum

variable {app : Application} (axum : Axum app)

def endpoint (router : axum.Router) (pattern : String)
    (filter : MethodFilter) : Option (Endpoint app) :=
  (axum.held router pattern).bind fun table => table filter

def handled (router : axum.Router) (request : Request) : Option (Handler app) :=
  (axum.dispatch router request).map (·.handler)

variable {axum}

theorem endpoint_merge (documented : axum.Documented) {first second router : axum.Router}
    (isMerged : axum.merge first second = some router) (pattern : String)
    (filter : MethodFilter) (own : Endpoint app) :
    axum.endpoint router pattern filter = some own ↔
      axum.endpoint first pattern filter = some own ∨
        axum.endpoint second pattern filter = some own := by
  have merged := documented.held_merge isMerged pattern
  unfold endpoint
  cases atFirst : axum.held first pattern with
  | none =>
    simp only [atFirst, MethodTable.MergedAs] at merged
    simp [merged]
  | some firstTable =>
    cases atSecond : axum.held second pattern with
    | none =>
      simp only [atFirst, atSecond, MethodTable.MergedAs] at merged
      simp [merged]
    | some secondTable =>
      simp only [atFirst, atSecond, MethodTable.MergedAs] at merged
      obtain ⟨table, isTable, atRouter⟩ := merged
      simpa [atRouter] using MethodTable.merge_apply isTable filter own

variable {pattern : String} {before added router : axum.Router} {methodRouter : axum.MethodRouter}
  {filter : MethodFilter} {own : Endpoint app}

theorem endpoint_merge_route (documented : axum.Documented)
    (isRoute : axum.route pattern methodRouter = some added)
    (isMerged : axum.merge before added = some router)
    (holds : axum.methods methodRouter = .single filter own) (place : String)
    (other : MethodFilter) (found : Endpoint app) :
    axum.endpoint router place other = some found ↔
      axum.endpoint before place other = some found ∨
        place = pattern ∧ other = filter ∧ found = own := by
  rw [endpoint_merge documented isMerged]
  have atAdded : axum.endpoint added place other = some found ↔
      place = pattern ∧ other = filter ∧ found = own := by
    rw [endpoint, documented.held_route isRoute, holds]
    by_cases samePlace : place = pattern
    · by_cases sameFilter : other = filter
      · simp [samePlace, MethodTable.single, eq_comm]
      · simp [samePlace, sameFilter, MethodTable.single]
    · simp [samePlace]
  rw [atAdded]

theorem handler_merge_route (documented : axum.Documented)
    (isRoute : axum.route pattern methodRouter = some added)
    (isMerged : axum.merge before added = some router)
    (holds : axum.methods methodRouter = .single filter own) (place : String)
    (other : MethodFilter) (handler : Handler app) :
    (axum.endpoint router place other).map (·.handler) = some handler ↔
      (axum.endpoint before place other).map (·.handler) = some handler ∨
      place = pattern ∧ other = filter ∧ handler = own.handler := by
  simp only [map_eq_some_iff, endpoint_merge_route documented isRoute isMerged holds]
  constructor
  · rintro ⟨found, isBefore | ⟨samePlace, sameFilter, rfl⟩, isHandler⟩
    · exact Or.inl ⟨found, isBefore, isHandler⟩
    · exact Or.inr ⟨samePlace, sameFilter, isHandler.symm⟩
  · rintro (⟨found, isBefore, isHandler⟩ | ⟨samePlace, sameFilter, isHandler⟩)
    · exact ⟨found, Or.inl isBefore, isHandler⟩
    · exact ⟨own, Or.inr ⟨samePlace, sameFilter, rfl⟩, isHandler.symm⟩

theorem handler_layerAll (documented : axum.Documented) (layer : Layer app) (router : axum.Router)
    (pattern : String) (filter : MethodFilter) :
    (axum.endpoint (axum.layerAll layer router) pattern filter).map (·.handler) =
      (axum.endpoint router pattern filter).map (·.handler) := by
  rw [endpoint, documented.held_layerAll, endpoint]
  cases axum.held router pattern with
  | none => rfl
  | some table =>
    cases atFilter : table filter <;> simp [MethodTable.layered, atFilter, Endpoint.layered]

variable {request : Request} {handler : Handler app}

theorem handler_of_handled (documented : axum.Documented) {router : axum.Router}
    (runs : axum.handled router request = some handler) :
    ∃ pattern, ∃ filter : MethodFilter,
        axum.matchesPath pattern request.path ∧ filter.Serves request.method ∧
        (axum.endpoint router pattern filter).map (·.handler) = some handler := by
  rw [handled, documented.dispatch_eq, map_eq_some_iff] at runs
  obtain ⟨own, dispatched, isHandler⟩ := runs
  rw [bind_eq_some_iff] at dispatched
  obtain ⟨pattern, isMatched, dispatched⟩ := dispatched
  rw [bind_eq_some_iff] at dispatched
  obtain ⟨table, isHeld, responds⟩ := dispatched
  obtain ⟨filter, serves, atFilter⟩ := MethodTable.serves_of_respond responds
  refine ⟨pattern, filter, (documented.matched_held isMatched).2, serves, ?_⟩
  simp [endpoint, isHeld, atFilter, isHandler]

theorem handled_of_handler (documented : axum.Documented) {router : axum.Router} {verb : Verb}
    (isMatched : axum.matched router request.path = some pattern)
    (isVerb : request.method = verb.name)
    (holds : (axum.endpoint router pattern (some verb)).map (·.handler) = some handler) :
    axum.handled router request = some handler := by
  rw [endpoint, map_eq_some_iff] at holds
  obtain ⟨own, atVerb, isHandler⟩ := holds
  rw [bind_eq_some_iff] at atVerb
  obtain ⟨table, isHeld, own⟩ := atVerb
  rw [handled, documented.dispatch_eq, isMatched, bind_some, isHeld, bind_some,
    isVerb, MethodTable.respond_name own, map_some, isHandler]

end Axum

end Rustasea.Routing
