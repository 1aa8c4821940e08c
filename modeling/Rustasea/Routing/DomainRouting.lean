import Rustasea.Routing.Dispatch

namespace Rustasea.Routing

open List

/-!
# Which route serves a request

The router that is built has one endpoint for each claimed slot.  Requests are
dispatched by path and method, so the claimant of a slot serves every host.
-/

variable {app : Application} {axum : Axum app}

/-! ## One route -/

def HasHandler (axum : Axum app) (methodRouter : axum.MethodRouter) (filter : MethodFilter)
    (handler : Handler app) : Prop :=
  ∃ layers, axum.methods methodRouter = .single filter { handler := handler, layers := layers }

namespace HasHandler

variable {methodRouter : axum.MethodRouter} {filter : MethodFilter} {handler : Handler app}

theorem on (documented : axum.Documented) (handler : Handler app) (method : String) :
    HasHandler axum (intoMethodRouter axum handler method) (methodFilter method) handler :=
  ⟨[], documented.methods_on _ _⟩

theorem layer (documented : axum.Documented) (has : HasHandler axum methodRouter filter handler)
    (layer : Layer app) : HasHandler axum (axum.layer layer methodRouter) filter handler := by
  obtain ⟨layers, isSingle⟩ := has
  refine ⟨layer :: layers, ?_⟩
  rw [documented.methods_layer, isSingle, MethodTable.layered_single]
  rfl

theorem applyAuthorize (documented : axum.Documented)
    (has : HasHandler axum methodRouter filter handler) {entry : RouteEntry}
    {registry : AuthorizeRegistry app} {authorized : axum.MethodRouter}
    (applied : applyAuthorize axum methodRouter entry registry = .ok authorized) :
    HasHandler axum authorized filter handler := by
  unfold Routing.applyAuthorize at applied
  split at applied
  · cases applied
    exact has
  · cases resolved : entry.authorizations.mapM registry.resolve with
    | error failure =>
      rw [resolved] at applied
      cases applied
    | ok checks =>
      rw [resolved] at applied
      cases applied
      exact has.layer documented _

theorem applyBinding (documented : axum.Documented)
    (has : HasHandler axum methodRouter filter handler)
    (laravelPath axumPath : String) (registry : Registry app.Binder) :
    HasHandler axum
      (applyBinding axum methodRouter laravelPath axumPath registry) filter handler := by
  unfold Routing.applyBinding
  dsimp only
  split
  · exact has
  · exact has.layer documented _

theorem applyMiddleware (documented : axum.Documented)
    (has : HasHandler axum methodRouter filter handler) {entry : RouteEntry}
    {registry : Registry (Registration app)} {wrapped : axum.MethodRouter}
    (applied : applyMiddleware axum methodRouter entry registry = .ok wrapped) :
    HasHandler axum wrapped filter handler := by
  unfold Routing.applyMiddleware at applied
  cases resolved : entry.middleware.mapM (resolveMiddleware registry) with
  | error failure =>
    rw [resolved] at applied
    cases applied
  | ok transforms =>
    rw [resolved] at applied
    cases applied
    induction transforms.reverse generalizing methodRouter with
    | nil => exact has
    | cons apply rest ih => exact ih (has.layer documented _)

end HasHandler

inductive Runs (router : Router app) (entry : RouteEntry) :
    Handler app → Prop where
  /-- An action bound under the route's slot and domain, by the route or a repetition of it. -/
  | bound {action : BoundAction app} : entry.handler.isSome → action ∈ router.actions →
          action.slot = entry.slot → action.domain = entry.domain → Runs router entry action.handler
  /-- The registered action of the route's controller, or the stub. -/
  | unbound :
      entry.handler = none → Runs router entry (resolveController entry router.controllerActions)

variable {entry : RouteEntry} {router : Router app}

/-- What resolving a route gives, and which actions it leaves. -/
theorem resolve_spec (documented : axum.Documented) {actions : List (BoundAction app)}
    (fewer : ∀ action ∈ actions, action ∈ router.actions)
    (present : entry.handler.isSome →
      ∃ action ∈ actions, action.slot = entry.slot ∧ action.domain = entry.domain) :
    (∃ handler,
      HasHandler axum (resolve axum entry actions router.controllerActions).1
        (methodFilter entry.method) handler ∧
      Runs router entry handler) ∧
    (∀ action ∈ (resolve axum entry actions router.controllerActions).2, action ∈ actions) ∧
    ∀ action ∈ actions, action.slot ≠ entry.slot →
      action ∈ (resolve axum entry actions router.controllerActions).2 := by
  unfold resolve
  split
  · next isBound =>
    split
    · next notFound =>
      obtain ⟨own, isOwn, sameSlot, sameDomain⟩ := present isBound
      have unmatched := findIdx?_eq_none_iff.mp notFound own isOwn
      simp [BoundAction.slot_eq.mp sameSlot, sameDomain] at unmatched
    · next index found =>
      obtain ⟨inRange, matching, -⟩ := findIdx?_eq_some_iff_getElem.mp found
      have isAction : actions[index] ∈ actions := getElem_mem inRange
      obtain ⟨sameMethod, samePath, sameDomain⟩ :
          actions[index].method = entry.method ∧ actions[index].path = entry.path ∧
              actions[index].domain = entry.domain := by
        simpa using matching
      have sameSlot : actions[index].slot = entry.slot :=
        BoundAction.slot_eq.mpr ⟨sameMethod, samePath⟩
      have removed := FirstClaim.swapRemove_perm inRange
      have left := getElem_cons_eraseIdx_perm inRange
      rw [getElem?_eq_getElem inRange]
      dsimp only
      refine ⟨⟨_, ?_, .bound isBound (fewer _ isAction) sameSlot sameDomain⟩, ?_, ?_⟩
      · rw [sameMethod]
        exact HasHandler.on documented _ _
      · intro other isOther
        exact left.mem_iff.mp (mem_cons_of_mem _ (removed.mem_iff.mp isOther))
      · intro other isOther otherSlot
        refine removed.mem_iff.mpr ?_
        rcases mem_cons.mp (left.mem_iff.mpr isOther) with rfl | isLeft
        · exact absurd sameSlot otherSlot
        · exact isLeft
  · next isUnbound =>
    rw [Option.isSome_iff_ne_none, not_not] at isUnbound
    exact ⟨⟨_, HasHandler.on documented _ _, .unbound isUnbound⟩,
      fun action isAction => isAction, fun action isAction _ => isAction⟩

/-! ## The table -/

/-- What holds of the routes that were compiled so far. -/
structure Progress (router : Router app) (done : List RouteEntry) (state : Compiling axum)
    (claimed : List (RouteEntry × Handler app)) : Prop where
  entries : claimed.map (·.1) = FirstClaim.claims RouteEntry.slot done
  registered : state.registered = claimed.map (·.1.slot)
  runs : ∀ claim ∈ claimed, Runs router claim.1 claim.2
  fewer : ∀ action ∈ state.actions, action ∈ router.actions
  /-- Actions of slots that are still free have not been taken out. -/
  remaining : ∀ action ∈ router.actions, action.slot ∉ state.registered → action ∈ state.actions
  /-- The router has the handlers of the claims, and no others. -/
  handlers : ∀ pattern filter handler, (axum.endpoint state.router pattern filter).map (·.handler) =
          some handler ↔
        ∃ claim ∈ claimed, claim.2 = handler ∧ toAxumPath claim.1.path = pattern ∧
            methodFilter claim.1.method = filter

namespace Progress

variable {router : Router app} {done : List RouteEntry} {state : Compiling axum}
  {claimed : List (RouteEntry × Handler app)}

theorem start (documented : axum.Documented) (router : Router app) :
    Progress router []
      { router := axum.new, registered := [], actions := router.actions }
      [] := by
  constructor
  · rfl
  · rfl
  · simp
  · exact fun action isAction => isAction
  · exact fun action isAction _ => isAction
  · intro pattern filter handler
    simp [Axum.endpoint, documented.held_new]

theorem mem_registered (progress : Progress router done state claimed) {slot : Slot} :
    slot ∈ state.registered ↔
      slot ∈ (FirstClaim.claims RouteEntry.slot done).map RouteEntry.slot := by
  rw [progress.registered, ← progress.entries, map_map]
  rfl

variable {entry : RouteEntry}

theorem present (progress : Progress router done state claimed) (bound : router.Bound)
    (isEntry : entry ∈ router.routes) (isFree : entry.slot ∉ state.registered)
    (isBound : entry.handler.isSome) :
    ∃ action ∈ state.actions, action.slot = entry.slot ∧ action.domain = entry.domain := by
  obtain ⟨action, isAction, sameSlot, sameDomain⟩ := bound.hasAction entry isEntry isBound
  refine ⟨action, progress.remaining action isAction ?_, sameSlot, sameDomain⟩
  rw [sameSlot]
  exact isFree

theorem claim (progress : Progress router done state claimed)
    (isFree : entry.slot ∉ state.registered) {handler : Handler app}
    (runs : Runs router entry handler) {actions : List (BoundAction app)}
    (fewer : ∀ action ∈ actions, action ∈ state.actions)
    (kept : ∀ action ∈ state.actions, action.slot ≠ entry.slot → action ∈ actions)
    {merged : axum.Router}
    (added : ∀ pattern filter other,
        (axum.endpoint merged pattern filter).map (·.handler) = some other ↔
          (axum.endpoint state.router pattern filter).map (·.handler) = some other ∨
            pattern = toAxumPath entry.path ∧
              filter = methodFilter entry.method ∧ other = handler) :
    Progress router (done ++ [entry])
      { router := merged, registered := state.registered ++ [entry.slot], actions := actions }
      (claimed ++ [(entry, handler)]) := by
  constructor
  · have notTaken : entry.slot ∉ (FirstClaim.claims RouteEntry.slot done).map RouteEntry.slot :=
      fun isTaken => isFree (progress.mem_registered.mpr isTaken)
    rw [FirstClaim.claims_concat, FirstClaim.claim, if_neg notTaken,
      map_append, progress.entries]
    rfl
  · rw [progress.registered, map_append]
    rfl
  · intro other isOther
    rcases mem_append.mp isOther with isEarlier | isNew
    · exact progress.runs other isEarlier
    · rw [mem_singleton] at isNew
      exact isNew ▸ runs
  · exact fun action isAction => progress.fewer action (fewer action isAction)
  · intro action isAction notTaken
    rw [mem_append, mem_singleton, not_or] at notTaken
    exact kept action (progress.remaining action isAction notTaken.1) notTaken.2
  · intro pattern filter other
    rw [added, progress.handlers]
    constructor
    · rintro (⟨earlier, isEarlier, same⟩ | ⟨samePath, sameFilter, same⟩)
      · exact ⟨earlier, mem_append_left _ isEarlier, same⟩
      · exact ⟨(entry, handler), mem_append_right _ (mem_singleton_self _),
          same.symm, samePath.symm, sameFilter.symm⟩
    · rintro ⟨earlier, isEarlier, same, samePath, sameFilter⟩
      rcases mem_append.mp isEarlier with isOld | isNew
      · exact Or.inl ⟨earlier, isOld, same, samePath, sameFilter⟩
      · rw [mem_singleton] at isNew
        subst isNew
        exact Or.inr ⟨samePath.symm, sameFilter.symm, same.symm⟩

theorem compileEntry (documented : axum.Documented) (bound : router.Bound)
    (progress : Progress router done state claimed) (isEntry : entry ∈ router.routes)
    {next : Compiling axum} (isCompiled : compileEntry axum router state entry = .ok next) :
    ∃ claims, Progress router (done ++ [entry]) next claims := by
  unfold Routing.compileEntry at isCompiled
  split at isCompiled
  · next isTaken =>
    cases isCompiled
    refine ⟨claimed, { progress with entries := ?_ }⟩
    rw [progress.entries, FirstClaim.claims_concat, FirstClaim.claim,
      if_pos (progress.mem_registered.mp isTaken)]
  · next isFree =>
    obtain ⟨⟨handler, hasHandler, runs⟩, resolvedFewer, kept⟩ :=
      resolve_spec documented progress.fewer (progress.present bound isEntry isFree)
    dsimp only at isCompiled
    split at isCompiled
    · cases isCompiled
    · next authorized isAuthorized =>
      split at isCompiled
      · cases isCompiled
      · next methodRouter isWrapped =>
        split at isCompiled
        · cases isCompiled
        · next added isRoute =>
          split at isCompiled
          · cases isCompiled
          · next merged isMerged =>
            cases isCompiled
            obtain ⟨layers, holds⟩ := ((hasHandler.applyAuthorize documented
                  isAuthorized).applyBinding documented _ _
                _).applyMiddleware documented isWrapped
            exact ⟨claimed ++ [(entry, handler)], progress.claim isFree runs resolvedFewer kept
              (Axum.handler_merge_route documented isRoute isMerged holds)⟩

theorem compileEntries (documented : axum.Documented) (bound : router.Bound)
    (progress : Progress router done state claimed) {rest : List RouteEntry}
    (areEntries : ∀ entry ∈ rest, entry ∈ router.routes) {final : Compiling axum}
    (isCompiled : compileEntries axum router state rest = .ok final) :
    ∃ claims, Progress router (done ++ rest) final claims := by
  induction rest generalizing done state claimed with
  | nil =>
    cases isCompiled
    rw [append_nil]
    exact ⟨claimed, progress⟩
  | cons entry rest ih =>
    rw [forall_mem_cons] at areEntries
    unfold Routing.compileEntries at isCompiled
    split at isCompiled
    · cases isCompiled
    · next next isNext =>
      obtain ⟨claims, nextProgress⟩ := progress.compileEntry documented bound areEntries.1 isNext
      have extended := ih nextProgress areEntries.2 isCompiled
      rwa [append_assoc] at extended

end Progress

/-! ## The router -/

theorem handler_layers (documented : axum.Documented) (layers : List app.TowerLayer)
    (router : axum.Router) (pattern : String) (filter : MethodFilter) :
    (axum.endpoint
      (layers.foldl (fun wrapped layer => axum.layerAll (.tower layer) wrapped) router)
      pattern filter).map (·.handler) = (axum.endpoint router pattern filter).map (·.handler) := by
  induction layers generalizing router with
  | nil => rfl
  | cons layer rest ih => rw [foldl_cons, ih, Axum.handler_layerAll documented]

variable {compiled : axum.Router}

theorem handler_of_tryIntoAxumRouter (documented : axum.Documented) (bound : router.Bound)
    (isCompiled : tryIntoAxumRouter axum router = .ok compiled) :
    (∀ pattern filter handler,
      (axum.endpoint compiled pattern filter).map (·.handler) = some handler →
      ∃ entry, router.claimant entry.slot = some entry ∧ Runs router entry handler ∧
        toAxumPath entry.path = pattern ∧ methodFilter entry.method = filter) ∧
    ∀ entry, router.claimant entry.slot = some entry →
      ∃ handler, Runs router entry handler ∧
        (axum.endpoint compiled (toAxumPath entry.path) (methodFilter entry.method)).map
          (·.handler) = some handler := by
  unfold tryIntoAxumRouter at isCompiled
  split at isCompiled
  · cases isCompiled
  · next final isFinal =>
    cases isCompiled
    obtain ⟨claimed, progress⟩ := (Progress.start documented router).compileEntries documented bound
        (fun entry isEntry => (mem_insertionSort _).mp isEntry)
        isFinal
    have claims_iff : ∀ entry, entry ∈ claimed.map (·.1) ↔
        router.claimant entry.slot = some entry := by
      intro entry
      rw [progress.entries, FirstClaim.mem_claims]
      rfl
    constructor
    · intro pattern filter handler holds
      rw [handler_layers documented, progress.handlers] at holds
      obtain ⟨claim, isClaim, isHandler, samePath, sameFilter⟩ := holds
      exact ⟨claim.1, (claims_iff _).mp (mem_map_of_mem isClaim),
        isHandler ▸ progress.runs claim isClaim, samePath, sameFilter⟩
    · intro entry isClaimant
      obtain ⟨claim, isClaim, rfl⟩ := mem_map.mp ((claims_iff entry).mpr isClaimant)
      refine ⟨claim.2, progress.runs claim isClaim, ?_⟩
      rw [handler_layers documented, progress.handlers]
      exact ⟨claim, isClaim, rfl, rfl, rfl⟩

/-- The route that a slot goes to: a domain-constrained one, if it has any. -/
structure Router.Prevails (router : Router app) (entry : RouteEntry) : Prop where
  isRoute : entry ∈ router.routes
  isFirst : router.claimant entry.slot = some entry
  shadows : ∀ constrained ∈ router.routes,
      constrained.slot = entry.slot → constrained.domain.isSome → entry.domain.isSome

theorem Router.prevails_of_claimant {slot : Slot}
    (claims : router.claimant slot = some entry) : router.Prevails entry ∧ entry.slot = slot := by
  obtain ⟨isRoute, rfl⟩ := Router.mem_of_claimant claims
  refine ⟨⟨isRoute, claims, ?_⟩, rfl⟩
  intro constrained isConstrained sameSlot hasDomain
  rw [Router.claimant_of_domain isConstrained sameSlot hasDomain] at claims
  exact (mem_filter.mp (mem_of_find?_eq_some claims)).2

theorem Router.exists_prevails {route : RouteEntry} (isRoute : route ∈ router.routes) :
    ∃ entry, router.Prevails entry ∧ entry.slot = route.slot := by
  have isClaimed : (router.claimant route.slot).isSome := by
    rw [Router.claimant, find?_isSome]
    exact ⟨route, (mem_insertionSort _).mpr isRoute, decide_eq_true rfl⟩
  obtain ⟨entry, claims⟩ := Option.isSome_iff_exists.mp isClaimed
  exact ⟨entry, Router.prevails_of_claimant claims⟩

theorem compiled_or_closed (isCompiled : intoAxumRouter axum router = some compiled) :
    tryIntoAxumRouter axum router = .ok compiled ∨ compiled = axum.internalServerError := by
  unfold intoAxumRouter at isCompiled
  split at isCompiled
  · next built isBuilt =>
    cases isCompiled
    exact Or.inl isBuilt
  · cases isCompiled
    exact Or.inr rfl
  · cases isCompiled

variable {request : Request}

theorem prevails_of_handled (documented : axum.Documented) (bound : router.Bound)
    (isCompiled : intoAxumRouter axum router = some compiled) {handler : Handler app}
    (runs : axum.handled compiled request = some handler) :
    ∃ entry, router.Prevails entry ∧ Runs router entry handler ∧
      axum.matchesPath (toAxumPath entry.path) request.path ∧
      (methodFilter entry.method).Serves request.method := by
  obtain ⟨pattern, filter, isPath, serves, holds⟩ := Axum.handler_of_handled documented runs
  rcases compiled_or_closed isCompiled with isBuilt | rfl
  · obtain ⟨entry, claims, belongs, rfl, rfl⟩ :=
      (handler_of_tryIntoAxumRouter documented bound isBuilt).1 _ _ _ holds
    exact ⟨entry, (Router.prevails_of_claimant claims).1, belongs, isPath, serves⟩
  · simp [Axum.endpoint, documented.held_internalServerError] at holds

theorem handled_of_prevails (documented : axum.Documented) (bound : router.Bound)
    (isCompiled : intoAxumRouter axum router = some compiled) (prevails : router.Prevails entry)
    {verb : Verb} (hasVerb : entry.method = verb.name) (isVerb : request.method = verb.name)
    (isMatched : axum.matched compiled request.path = some (toAxumPath entry.path)) :
    ∃ handler, Runs router entry handler ∧ axum.handled compiled request = some handler := by
  rcases compiled_or_closed isCompiled with isBuilt | rfl
  · obtain ⟨handler, belongs, holds⟩ :=
      (handler_of_tryIntoAxumRouter documented bound isBuilt).2 entry prevails.isFirst
    rw [hasVerb, methodFilter_name] at holds
    exact ⟨handler, belongs, Axum.handled_of_handler documented isMatched isVerb holds⟩
  · have isHeld := (documented.matched_held isMatched).1
    rw [documented.held_internalServerError] at isHeld
    cases isHeld

theorem handled_host (documented : axum.Documented) (compiled : axum.Router)
    (request : Request) (host : Option String) :
    axum.handled compiled { request with host := host } = axum.handled compiled request := by
  rw [Axum.handled, documented.dispatch_eq, Axum.handled, documented.dispatch_eq]

/--
The handler that runs was registered under the slot and domain of the route that
prevails in its slot, and the path and method of that route match.  In each slot
the route that prevails, a domain-constrained one if there is any, serves the
requests of every host.
-/
theorem prevailing_routes_serve_every_host (documented : axum.Documented) {router : Router app}
    (registered : Router.Registers Router.new router) {compiled : axum.Router}
    (isCompiled : intoAxumRouter axum router = some compiled) (request : Request) :
    (∀ handler, axum.handled compiled request = some handler →
      ∃ entry, router.Prevails entry ∧ Runs router entry handler ∧
        axum.matchesPath (toAxumPath entry.path) request.path ∧
        (methodFilter entry.method).Serves request.method) ∧
    (∀ route ∈ router.routes, ∀ verb : Verb, route.method = verb.name →
      request.method = verb.name →
      axum.matched compiled request.path = some (toAxumPath route.path) →
      ∃ entry handler, router.Prevails entry ∧ entry.slot = route.slot ∧
        Runs router entry handler ∧ axum.handled compiled request = some handler) ∧
    ∀ host, axum.handled compiled { request with host := host } =
      axum.handled compiled request := by
  have bound : router.Bound := (Router.Recorded.registers registered Router.Recorded.new).bound
  refine ⟨?_, ?_, handled_host documented compiled request⟩
  · intro handler runs
    exact prevails_of_handled documented bound isCompiled runs
  · intro route isRoute verb hasVerb isVerb isMatched
    obtain ⟨entry, prevails, sameSlot⟩ := Router.exists_prevails isRoute
    obtain ⟨sameMethod, samePath⟩ := Prod.mk.inj sameSlot
    rw [← sameMethod] at hasVerb
    rw [← samePath] at isMatched
    obtain ⟨handler, belongs, runs⟩ :=
      handled_of_prevails documented bound isCompiled prevails hasVerb isVerb isMatched
    exact ⟨entry, handler, prevails, sameSlot, belongs, runs⟩

/-! ## Two routes for one page -/

/-- An application whose actions are known by their names. -/
def plainApp : Application :=
  { Action := String, Middleware := Unit, Resource := Unit, Binder := Unit, TowerLayer := Unit }

/-- Routers that hold the endpoints of some patterns. -/
structure PlainRouter where
  patterns : List String
  held : String → Option (MethodTable plainApp)
  listed : ∀ pattern, (held pattern).isSome → pattern ∈ patterns

namespace PlainRouter

def new : PlainRouter :=
  { patterns := []
    held := fun _ => none
    listed := fun _ isHeld => (Bool.false_ne_true isHeld).elim }

def route (pattern : String) (table : MethodTable plainApp) : PlainRouter :=
  { patterns := [pattern]
    held := fun other => if other = pattern then some table else none
    listed := fun other isHeld => by
      split at isHeld
      · next same => exact mem_singleton.mpr same
      · cases isHeld }

/-- Whether two routers have endpoints at the same place. -/
def overlaps (first second : PlainRouter) : Bool :=
  first.patterns.any fun pattern =>
    ((first.held pattern).bind fun own => (second.held pattern).map own.overlaps).getD false

def mergedAt (first second : PlainRouter) (pattern : String) : Option (MethodTable plainApp) :=
  match first.held pattern, second.held pattern with
  | some own, some added => own.merge added
  | some own, none => some own
  | none, added => added

def merge (first second : PlainRouter) : Option PlainRouter :=
  if first.overlaps second then none
  else
    some
      { patterns := first.patterns ++ second.patterns
        held := first.mergedAt second
        listed := fun pattern isHeld => by
          rw [mem_append]
          unfold mergedAt at isHeld
          split at isHeld
          · next own added atFirst atSecond =>
            exact Or.inl (first.listed pattern (by rw [atFirst]; rfl))
          · next own atFirst atSecond => exact Or.inl (first.listed pattern (by rw [atFirst]; rfl))
          · exact Or.inr (second.listed pattern isHeld) }

/-- Whether the segments of a path match those of a pattern. -/
def segmentsMatch : List (List Char) → List (List Char) → Bool
  | [], [] => true
  | (':' :: _) :: pattern, segment :: path => segment ≠ [] && segmentsMatch pattern path
  | own :: pattern, segment :: path => own = segment && segmentsMatch pattern path
  | _, _ => false

def matchesPath (pattern path : String) : Bool :=
  segmentsMatch (pattern.toList.splitOn '/') (path.toList.splitOn '/')

/-- The pattern of a path: the path itself, else the first that matches. -/
def matched (router : PlainRouter) (path : String) : Option String :=
  let patterns :=
    router.patterns.filter fun pattern => (router.held pattern).isSome && matchesPath pattern path
  (patterns.find? (· = path)).or patterns.head?

theorem held_merge {first second router : PlainRouter}
    (isMerged : first.merge second = some router) (pattern : String) :
    MethodTable.MergedAs (first.held pattern) (second.held pattern) (router.held pattern) := by
  unfold merge at isMerged
  split at isMerged
  · cases isMerged
  · next apart =>
    cases isMerged
    simp only [mergedAt]
    cases atFirst : first.held pattern with
    | none => rfl
    | some own =>
      cases atSecond : second.held pattern with
      | none => rfl
      | some added =>
        have isListed : pattern ∈ first.patterns := first.listed pattern (by rw [atFirst]; rfl)
        have notOverlap : own.overlaps added = false := by
          rw [overlaps, Bool.not_eq_true, any_eq_false] at apart
          simpa [atFirst, atSecond] using apart pattern isListed
        simp [MethodTable.MergedAs, MethodTable.merge, notOverlap]

theorem mem_of_matched {router : PlainRouter} {path pattern : String}
    (isMatched : router.matched path = some pattern) :
    (router.held pattern).isSome ∧ matchesPath pattern path := by
  have isPattern : pattern ∈
        router.patterns.filter fun pattern =>
          (router.held pattern).isSome && matchesPath pattern path := by
    rcases Option.or_eq_some_iff.mp isMatched with isSame | ⟨-, isFirst⟩
    · exact mem_of_find?_eq_some isSame
    · exact mem_of_mem_head? isFirst
  simpa using (mem_filter.mp isPattern).2

end PlainRouter

/-- Routers that are dispatched by path and then by method. -/
def plainAxum : Axum plainApp :=
  { MethodRouter := MethodTable plainApp
    Router := PlainRouter
    on := fun filter handler => .single filter { handler := handler, layers := [] }
    layer := .layered
    new := .new
    route := fun pattern table =>
      if pattern.toList.head? = some '/' then some (.route pattern table)
      else none
    merge := PlainRouter.merge
    layerAll := fun layer router =>
      { patterns := router.patterns
        held := fun pattern => (router.held pattern).map (.layered layer)
        listed := fun pattern isHeld => router.listed pattern (by simpa using isHeld) }
    internalServerError := .new
    methods := fun table => table
    held := PlainRouter.held
    matchesPath := fun pattern path => PlainRouter.matchesPath pattern path = true
    matched := PlainRouter.matched
    dispatch := fun router request =>
      (router.matched request.path).bind fun pattern =>
        (router.held pattern).bind fun table => table.respond request.method }

theorem plainAxum_documented : plainAxum.Documented := by
  constructor
  · intro filter handler
    rfl
  · intro layer router
    rfl
  · intro pattern
    rfl
  · intro pattern methodRouter router isRoute other
    simp only [plainAxum] at isRoute
    split at isRoute
    · cases isRoute
      rfl
    · cases isRoute
  · intro first second router isMerged pattern
    exact PlainRouter.held_merge isMerged pattern
  · intro layer router pattern
    rfl
  · intro pattern
    rfl
  · intro router path pattern isMatched
    exact PlainRouter.mem_of_matched isMatched
  · intro router request
    rfl

/-- A page for all hosts, one for a domain, and a route of another verb. -/
def homeTable : Router plainApp :=
  [.action "GET" "/home" "catch_all_home" "catch-all-home", .domain "api.example.com",
    .action "GET" "/home" "domain_home" "domain-home",
    .action "trace" "/trace" "trace" "trace"].foldl Router.apply Router.new

def requestOf (method path : String) : Request :=
  { method := method, path := path, host := some "www.example.com" }

theorem prevailing_route_serves_home :
    (intoAxumRouter plainAxum homeTable).isSome ∧
    ∀ compiled ∈ intoAxumRouter plainAxum homeTable, ∃ entry handler,
          homeTable.Prevails entry ∧ entry.slot = ("GET", "/home") ∧ Runs homeTable entry handler ∧
          plainAxum.handled compiled (requestOf "GET" "/home") = some handler := by
  refine ⟨by decide +kernel, fun compiled isCompiled => ?_⟩
  have isMatched : ∀ compiled ∈ intoAxumRouter plainAxum homeTable,
      PlainRouter.matched compiled "/home" = some (toAxumPath "/home") := by
    decide +kernel
  have isSlot : ("GET", "/home") ∈ homeTable.routes.map RouteEntry.slot := by decide +kernel
  obtain ⟨route, isRoute, sameSlot⟩ := mem_map.mp isSlot
  obtain ⟨sameMethod, samePath⟩ := Prod.mk.inj sameSlot
  obtain ⟨entry, handler, prevails, hasSlot, belongs, runs⟩ :=
    (prevailing_routes_serve_every_host plainAxum_documented (Router.registers_calls _ _) isCompiled
          (requestOf "GET" "/home")).2.1
      route isRoute .get sameMethod rfl
      (by rw [samePath]; exact isMatched compiled isCompiled)
  exact ⟨entry, handler, prevails, hasSlot.trans sameSlot, belongs, runs⟩

def answerTo (request : Request) : Option String :=
  (intoAxumRouter plainAxum homeTable).bind fun compiled =>
    (plainAxum.handled compiled request).map fun
      | .action run => run
      | .redirect _ target => target
      | .stub => "ok"

/--
Another host is served by the route of the domain and not by the catch-all.
Routes for `GET` answer `HEAD`, and routes of other verbs answer any method.
-/
theorem constrained_route_serves_other_hosts :
    homeTable.routes.map (fun entry => (entry.slot, entry.domain)) = [(("GET", "/home"), none),
      (("GET", "/home"), some "api.example.com"), (("TRACE", "/trace"), some "api.example.com")] ∧
      answerTo (requestOf "GET" "/home") = some "domain-home" ∧
      answerTo (requestOf "HEAD" "/home") = some "domain-home" ∧
      answerTo (requestOf "GET" "/trace") = some "trace" := by
  refine ⟨?_, ?_, ?_, ?_⟩ <;> decide +kernel

end Rustasea.Routing
