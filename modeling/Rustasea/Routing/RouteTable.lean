import Rustasea.Library.FirstClaim
import Rustasea.Library.PercentEncoding
import Rustasea.Routing.Axum

namespace Rustasea.Routing

open List

/-!
# The route table

Routes are registered with the metadata that is pending at the time.  A route
bound to an action also records the action, under the same method, path and
domain; a group registers on a table of its own that is then taken over.
-/

/-! ## Paths -/

/-- What a path is made of: text, and what stands between braces. -/
inductive PathPart where
  | text (character : Char)
  | placeholder (inner : List Char)
  | unterminated (rest : List Char)

/-- Walk over a path, with what was read since an opening brace. -/
def pathParts : Option (List Char) → List Char → List PathPart
  | none, [] => []
  | none, '{' :: rest => pathParts (some []) rest
  | none, character :: rest => .text character :: pathParts none rest
  | some inner, [] => [.unterminated inner]
  | some inner, '}' :: rest => .placeholder inner :: pathParts none rest
  | some inner, character :: rest => pathParts (some (inner ++ [character])) rest

/-- Normalize a prefix to start with a slash and not to end with one. -/
def normalizePrefix (text : String) : String :=
  if text = "" ∨ text = "/" then ""
  else
    let slashed :=
      if text.toList.head? = some '/' then text.toList
      else '/' :: text.toList
    String.ofList ((slashed.reverse.dropWhile (· = '/')).reverse)

def joinPrefix (start path : String) : String :=
  let slashed :=
    if path.toList.head? = some '/' then path
    else "/" ++ path
  if start = "" then slashed
  else if slashed = "/" then start
  else start ++ slashed

def prefixedName (start : String) (name : Option String) : Option String :=
  name.map fun own => start ++ own

/-- The binding fields of a path: what follows the last colon in each brace. -/
def parseBindingFields (path : String) : List String :=
  (pathParts none path.toList).filterMap fun
    | .placeholder inner =>
      if inner = [] then none
      else some (String.ofList ((inner.reverse.takeWhile (· ≠ ':')).reverse))
    | _ => none

def toAsciiUppercase (text : String) : String := String.ofList (text.toList.map Char.toUpper)

/-! ## Entries -/

/-- Controller reference carried by resource routes. -/
structure ControllerRef where
  name : String
  action : String
  deriving DecidableEq

/-- A declared authorization. -/
inductive AuthorizeSpec where
  | resource (ability resource : String)
  | ability (name : String)
  deriving DecidableEq

abbrev Slot := String × String

/-- Single route definition with method, path and metadata. -/
structure RouteEntry where
  method : String
  path : String
  name : Option String
  middleware : List String
  authorizations : List AuthorizeSpec
  domain : Option String
  bindingFields : List String
  controller : Option ControllerRef
  handler : Option String
  deriving DecidableEq

def RouteEntry.slot (entry : RouteEntry) : Slot := (entry.method, entry.path)

/-- A route bound to a concrete action; its method router is built from it. -/
structure BoundAction (app : Application) where
  method : String
  path : String
  domain : Option String
  handler : Handler app

def BoundAction.slot {app : Application} (action : BoundAction app) : Slot :=
  (action.method, action.path)

theorem BoundAction.slot_eq {app : Application} {action : BoundAction app} {entry : RouteEntry} :
    action.slot = entry.slot ↔ action.method = entry.method ∧ action.path = entry.path :=
  Prod.mk.injEq _ _ _ _ ▸ Iff.rfl

abbrev Place := Slot × Option String

def RouteEntry.place (entry : RouteEntry) : Place := (entry.slot, entry.domain)

def BoundAction.place {app : Application} (action : BoundAction app) : Place :=
  (action.slot, action.domain)

def boundPlaces (routes : List RouteEntry) : List Place :=
  (routes.filter (·.handler.isSome)).map RouteEntry.place

theorem boundPlaces_cons (entry : RouteEntry) (routes : List RouteEntry) :
    boundPlaces (entry :: routes) =
      if entry.handler.isSome then entry.place :: boundPlaces routes
      else boundPlaces routes := by
  by_cases isBound : entry.handler.isSome <;> simp [boundPlaces, isBound]

theorem boundPlaces_append (routes others : List RouteEntry) :
    boundPlaces (routes ++ others) = boundPlaces routes ++ boundPlaces others := by
  rw [boundPlaces, filter_append, map_append]
  rfl

/-! ## Registries -/

abbrev Registry (Value : Type) := List (String × Value)

namespace Registry

variable {Value : Type}

def insert (registry : Registry Value) (name : String) (value : Value) : Registry Value :=
  (name, value) :: registry.filter (·.1 ≠ name)

def get (registry : Registry Value) (name : String) : Option Value := registry.lookup name

def merge (registry other : Registry Value) : Registry Value :=
  other.foldl (fun merged entry => merged.insert entry.1 entry.2) registry

end Registry

/-- A registered middleware: a fixed transform or a parameterized factory. -/
inductive Registration (app : Application) where
  | plain (apply : app.Middleware)
  | factory (build : String → Option app.Middleware)

/-- The authorizers, and the gate of ability-only declarations. -/
structure AuthorizeRegistry (app : Application) where
  resources : Registry app.Resource
  ability : Option app.Resource

/-- An ability gate of the other registry overrides the current one. -/
def AuthorizeRegistry.merge {app : Application}
    (registry other : AuthorizeRegistry app) : AuthorizeRegistry app :=
  { resources := registry.resources.merge other.resources
    ability := other.ability.or registry.ability }

/-! ## The builder -/

/-- Expressive router builder. -/
structure Router (app : Application) where
  routes : List RouteEntry
  uriPrefix : String
  namePrefix : String
  pendingMiddleware : List String
  pendingAuthorizations : List AuthorizeSpec
  pendingDomain : Option String
  pendingController : Option String
  layers : List app.TowerLayer
  actions : List (BoundAction app)
  controllerActions : List (String × String × app.Action)
  middlewareRegistry : Registry (Registration app)
  authorizeRegistry : AuthorizeRegistry app
  bindingRegistry : Registry app.Binder
  batchStart : Nat

namespace Router

variable {app : Application}

def new : Router app :=
  { routes := []
    uriPrefix := ""
    namePrefix := ""
    pendingMiddleware := []
    pendingAuthorizations := []
    pendingDomain := none
    pendingController := none
    layers := []
    actions := []
    controllerActions := []
    middlewareRegistry := []
    authorizeRegistry := { resources := [], ability := none }
    bindingRegistry := []
    batchStart := 0 }

def beginBatch (router : Router app) : Router app :=
  { router with batchStart := router.routes.length }

def pendingEntry (router : Router app) (method path : String) (name : Option String) : RouteEntry :=
  let full := joinPrefix router.uriPrefix path
  { method := toAsciiUppercase method
    path := full
    name := prefixedName router.namePrefix name
    middleware := router.pendingMiddleware
    authorizations := router.pendingAuthorizations
    domain := router.pendingDomain
    bindingFields := parseBindingFields full
    controller :=
      router.pendingController.map fun controller =>
        { name := controller, action := "handle" }
    handler := none }

def push (router : Router app) (method path : String) : Router app :=
  { router with routes := router.routes ++ [router.pendingEntry method path none] }

def pushBound (router : Router app) (method path label : String)
    (handler : Handler app) : Router app :=
  let entry :=
    { router.pendingEntry method path none with controller := none, handler := some label }
  { router with
    routes := router.routes ++ [entry]
    actions :=
      router.actions ++
        [{ method := toAsciiUppercase method
           path := entry.path
           domain := router.pendingDomain
           handler := handler }] }

def pushAction (router : Router app) (method path typeName : String)
    (run : app.Action) : Router app :=
  router.pushBound method path typeName (.action run)

def pushRedirect (router : Router app) (source target : String)
    (kind : RedirectKind) : Router app :=
  router.beginBatch.pushBound "GET" source ("redirect:" ++ target) (.redirect kind target)

/-- Push a named resource route with an optional controller. -/
def resourceRoute (router : Router app)
    (method path resource action controller : String) : Router app :=
  let entry :=
    { router.pendingEntry method path (some (resource ++ "." ++ action)) with
      controller :=
        if controller = "" then none
        else some { name := controller, action := action } }
  { router with routes := router.routes ++ [entry] }

def anyMethods : List String := ["GET", "POST", "PUT", "DELETE", "PATCH", "OPTIONS"]

/-- A group starts from what is pending, and has nothing registered. -/
def groupStart (router : Router app) : Router app :=
  { Router.new with
    uriPrefix := router.uriPrefix
    namePrefix := router.namePrefix
    pendingMiddleware := router.pendingMiddleware
    pendingAuthorizations := router.pendingAuthorizations
    pendingDomain := router.pendingDomain
    pendingController := router.pendingController }

def absorb (router sub : Router app) : Router app :=
  let routes := router.routes ++ sub.routes
  { router with
    routes := routes
    actions := router.actions ++ sub.actions
    controllerActions := router.controllerActions ++ sub.controllerActions
    middlewareRegistry := router.middlewareRegistry.merge sub.middlewareRegistry
    authorizeRegistry := router.authorizeRegistry.merge sub.authorizeRegistry
    bindingRegistry := router.bindingRegistry.merge sub.bindingRegistry
    batchStart := routes.length }

/-! ## Registration -/

/-- A call on the builder; the verb helpers are `route` and `action`. -/
inductive Call (app : Application) where
  | uriPrefix (text : String)
  | name (text : String)
  | named (name : String)
  | domain (domain : String)
  | middleware (specs : List String)
  | controller (controller : String)
  | route (method path : String)
  | any (path : String)
  | action (method path typeName : String) (run : app.Action)
  | anyAction (path typeName : String) (run : app.Action)
  | redirect (source target : String) (kind : RedirectKind)
  | resource (name controller : String)
  | controllerAction (action : String) (run : app.Action)
  | controllerActionFor (controller action : String) (run : app.Action)
  | registerMiddleware (name : String) (registration : Registration app)
  | registerAuthorizer (name : String) (resource : app.Resource)
  | authorizeAbilities (gate : app.Resource)
  | authorize (spec : AuthorizeSpec)
  | registerBinding (name : String) (binder : app.Binder)
  | layer (layer : app.TowerLayer)

def rename (router : Router app) (name : String) : Router app :=
  let start := min router.batchStart router.routes.length
  { router with
    routes :=
      router.routes.take start ++
        (router.routes.drop start).map fun entry =>
          { entry with name := prefixedName router.namePrefix (some name) } }

def registerResource (router : Router app) (name controller : String) : Router app :=
  let resolved :=
    if controller = "" then router.pendingController.getD ""
    else controller
  let base := "/" ++ name
  let item := base ++ "/\x7bid\x7d"
  let routes := [("GET", base, "index"), ("GET", base ++ "/create", "create"),
      ("POST", base, "store"), ("GET", item, "show"),
      ("GET", item ++ "/edit", "edit"), ("PUT", item, "update"),
      ("PATCH", item, "update"), ("DELETE", item, "destroy")]
  routes.foldl (fun after route => after.resourceRoute route.1 route.2.1 name route.2.2 resolved)
    router.beginBatch

def controllerActionFor (router : Router app) (controller action : String)
    (run : app.Action) : Router app :=
  { router with controllerActions := router.controllerActions ++ [(controller, action, run)] }

def apply (router : Router app) : Call app → Router app
  | .uriPrefix text =>
    let child := normalizePrefix text
    if child = "" then router
    else { router with uriPrefix := joinPrefix router.uriPrefix child }
  | .name text =>
    { router with namePrefix := router.namePrefix ++ text }
  | .named name => router.rename name
  | .domain domain => { router with pendingDomain := some domain }
  | .middleware specs =>
    { router with pendingMiddleware := router.pendingMiddleware ++ specs }
  | .controller controller =>
    { router with pendingController := some controller }
  | .route method path => router.beginBatch.push method path
  | .any path => anyMethods.foldl (fun after method => after.push method path) router.beginBatch
  | .action method path typeName run => router.beginBatch.pushAction method path typeName run
  | .anyAction path typeName run =>
    anyMethods.foldl (fun after method => after.pushAction method path typeName run)
      router.beginBatch
  | .redirect source target kind => router.pushRedirect source target kind
  | .resource name controller => router.registerResource name controller
  | .controllerAction action run =>
    router.controllerActionFor (router.pendingController.getD "") action run
  | .controllerActionFor controller action run => router.controllerActionFor controller action run
  | .registerMiddleware name registration =>
    { router with middlewareRegistry := router.middlewareRegistry.insert name registration }
  | .registerAuthorizer name resource =>
    { router with
      authorizeRegistry :=
        { router.authorizeRegistry with
          resources := router.authorizeRegistry.resources.insert name resource } }
  | .authorizeAbilities gate =>
    { router with authorizeRegistry := { router.authorizeRegistry with ability := some gate } }
  | .authorize spec =>
    { router with pendingAuthorizations := router.pendingAuthorizations ++ [spec] }
  | .registerBinding name binder =>
    { router with bindingRegistry := router.bindingRegistry.insert name binder }
  | .layer layer => { router with layers := router.layers ++ [layer] }

/-- The tables that are reached from one by calls and groups of calls. -/
inductive Registers : Router app → Router app → Prop where
  | start (router : Router app) : Registers router router
  | call {router before : Router app} :
      Registers router before → ∀ made, Registers router (before.apply made)
  | group {router before sub : Router app} :
      Registers router before → Registers before.groupStart sub →
          Registers router (before.absorb sub)

theorem registers_calls (router : Router app) (calls : List (Call app)) :
    Registers router (calls.foldl apply router) := by
  induction calls using List.reverseRecOn with
  | nil => exact .start router
  | append_singleton calls made ih =>
    rw [foldl_append]
    exact ih.call made

/--
What registration keeps: a bound route has an action under its own slot and
domain, and no controller.
-/
structure Bound (router : Router app) : Prop where
  hasAction : ∀ entry ∈ router.routes, entry.handler.isSome →
        ∃ action ∈ router.actions, action.slot = entry.slot ∧ action.domain = entry.domain
  noController : ∀ entry ∈ router.routes, entry.handler.isSome → entry.controller = none

/-- What registration keeps: the actions are those of the bound routes. -/
structure Recorded (router : Router app) : Prop where
  places : router.actions.map BoundAction.place = boundPlaces router.routes
  noController : ∀ entry ∈ router.routes, entry.handler.isSome → entry.controller = none

namespace Recorded

theorem congr {router other : Router app} (recorded : router.Recorded)
    (routes : other.routes = router.routes)
    (actions : other.actions = router.actions) : other.Recorded := by
  constructor
  · rw [routes, actions]
    exact recorded.places
  · rw [routes]
    exact recorded.noController

theorem append {router other added : Router app} (recorded : router.Recorded)
    (addedRecorded : added.Recorded) (routes : other.routes = router.routes ++ added.routes)
    (actions : other.actions = router.actions ++ added.actions) : other.Recorded := by
  constructor
  · rw [routes, actions, map_append, recorded.places, addedRecorded.places, boundPlaces_append]
  · intro entry isEntry
    rw [routes, mem_append] at isEntry
    rcases isEntry with isOld | isNew
    · exact recorded.noController entry isOld
    · exact addedRecorded.noController entry isNew

theorem append_unbound {router other : Router app} (recorded : router.Recorded)
    {entry : RouteEntry} (unbound : entry.handler = none)
    (routes : other.routes = router.routes ++ [entry])
    (actions : other.actions = router.actions) : other.Recorded := by
  have addedRecorded : { (new : Router app) with routes := [entry] }.Recorded := by
    constructor
    · simp [boundPlaces, unbound, Router.new]
    · intro added isAdded isBound
      rw [mem_singleton] at isAdded
      rw [isAdded, unbound] at isBound
      cases isBound
  exact recorded.append addedRecorded routes (by simpa [Router.new] using actions)

variable {router : Router app}

theorem pushBound (recorded : router.Recorded) (method path label : String)
    (handler : Handler app) : (router.pushBound method path label handler).Recorded := by
  have addedRecorded :
      { (new : Router app) with
        routes :=
          [{ router.pendingEntry method path none with controller := none, handler := some label }]
        actions :=
          [{ method := toAsciiUppercase method
             path := joinPrefix router.uriPrefix path
             domain := router.pendingDomain
             handler := handler }] }.Recorded := by
    constructor
    · rfl
    · intro entry isEntry isBound
      rw [mem_singleton] at isEntry
      rw [isEntry]
  exact recorded.append addedRecorded rfl rfl

theorem push (recorded : router.Recorded) (method path : String) :
    (router.push method path).Recorded :=
  recorded.append_unbound rfl rfl rfl

theorem resourceRoute (recorded : router.Recorded)
    (method path resource action controller : String) :
    (router.resourceRoute method path resource action controller).Recorded :=
  recorded.append_unbound rfl rfl rfl

theorem foldl {Step : Type} {next : Router app → Step → Router app}
    (kept : ∀ {router : Router app} step, router.Recorded → (next router step).Recorded)
    (steps : List Step) {router : Router app} (recorded : router.Recorded) :
    (steps.foldl next router).Recorded := by
  induction steps generalizing router with
  | nil => exact recorded
  | cons step rest ih => exact ih (kept step recorded)

theorem rename (recorded : router.Recorded) (name : String) : (router.rename name).Recorded := by
  have unnamed : ∀ routes : List RouteEntry, boundPlaces
            (routes.map fun entry =>
              { entry with name := prefixedName router.namePrefix (some name) }) =
          boundPlaces routes := by
    intro routes
    rw [boundPlaces, filter_map, map_map]
    rfl
  constructor
  · rw [Router.rename]
    rw [recorded.places, boundPlaces_append, unnamed, ← boundPlaces_append, take_append_drop]
  · intro entry isEntry isBound
    rw [Router.rename, mem_append, mem_map] at isEntry
    rcases isEntry with isBefore | ⟨own, isOwn, rfl⟩
    · exact recorded.noController entry (mem_of_mem_take isBefore) isBound
    · exact recorded.noController own (mem_of_mem_drop isOwn) isBound

theorem apply (recorded : router.Recorded) (made : Call app) : (router.apply made).Recorded := by
  have batch : router.beginBatch.Recorded := recorded.congr rfl rfl
  cases made with
  | uriPrefix text =>
    simp only [Router.apply]
    split
    · exact recorded
    · exact recorded.congr rfl rfl
  | named name => exact recorded.rename name
  | route method path => exact batch.push method path
  | any path => exact foldl (fun method kept => kept.push method path) _ batch
  | action method path typeName run | redirect source target kind => exact batch.pushBound _ _ _ _
  | anyAction path typeName run => exact foldl (fun method kept => kept.pushBound _ _ _ _) _ batch
  | resource name controller => exact foldl (fun route kept => kept.resourceRoute _ _ _ _ _) _ batch
  | _ => exact recorded.congr rfl rfl

theorem registers {router after : Router app} (registered : Registers router after)
    (recorded : router.Recorded) : after.Recorded := by
  induction registered with
  | start => exact recorded
  | call before made ih => exact (ih recorded).apply made
  | @group router before sub _ _ beforeRecorded subRecorded =>
    have startRecorded : before.groupStart.Recorded := by
      constructor
      · rfl
      · intro entry isEntry
        cases isEntry
    exact (beforeRecorded recorded).append (subRecorded startRecorded) rfl rfl

theorem new : (Router.new : Router app).Recorded := by
  constructor
  · rfl
  · intro entry isEntry
    cases isEntry

theorem bound (recorded : router.Recorded) : router.Bound := by
  refine ⟨?_, recorded.noController⟩
  intro entry isEntry isBound
  have isPlace : entry.place ∈ router.actions.map BoundAction.place := by
    rw [recorded.places]
    exact mem_map_of_mem (mem_filter.mpr ⟨isEntry, isBound⟩)
  obtain ⟨action, isAction, samePlace⟩ := mem_map.mp isPlace
  obtain ⟨sameSlot, sameDomain⟩ := Prod.mk.inj samePlace
  exact ⟨action, isAction, sameSlot, sameDomain⟩

end Recorded

/-! ## The order of routes -/

def getRoutes (router : Router app) : List RouteEntry :=
  router.routes.insertionSort fun entry other => (!entry.domain.isSome) ≤ (!other.domain.isSome)

def claimant (router : Router app) (slot : Slot) : Option RouteEntry :=
  router.getRoutes.find? fun entry => entry.slot = slot

theorem getRoutes_eq (router : Router app) :
    router.getRoutes = router.routes.filter (·.domain.isSome) ++
      router.routes.filter (!·.domain.isSome) :=
  FirstClaim.insertionSort_priority _ _

variable {slot : Slot}

theorem mem_of_claimant {router : Router app} {entry : RouteEntry}
    (claimed : router.claimant slot = some entry) : entry ∈ router.routes ∧ entry.slot = slot := by
  constructor
  · exact (mem_insertionSort _).mp (mem_of_find?_eq_some claimed)
  · simpa using find?_some claimed

theorem claimant_of_domain {router : Router app} {constrained : RouteEntry}
    (isEntry : constrained ∈ router.routes) (hasSlot : constrained.slot = slot)
    (hasDomain : constrained.domain.isSome) :
    router.claimant slot = (router.routes.filter (·.domain.isSome)).find?
      fun entry => entry.slot = slot := by
  rw [claimant, getRoutes_eq, find?_append]
  refine Option.or_of_isSome ?_
  rw [find?_isSome]
  exact ⟨constrained, mem_filter.mpr ⟨isEntry, hasDomain⟩, decide_eq_true hasSlot⟩

end Router

end Rustasea.Routing
