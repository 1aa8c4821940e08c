import Rustasea.Routing.DomainRouting

namespace Rustasea.Routing

open List FirstClaim

/-!
# Which handler runs under which guards

Routes and actions are kept in two lists.  A route that is bound has its action
at the same place among the actions as the route has among the bound routes.
Compilation looks the action up by method, path and domain, and takes it out by
swapping in the last one, so a repeated registration may come in front.
-/

variable {app : Application} {axum : Axum app}

/-! ## Numbered routes -/

/-- A route, with the index of the action that was registered with it. -/
structure Numbered where
  entry : RouteEntry
  action : Option Nat

@[grind =] def number : Nat → List RouteEntry → List Numbered
  | _, [] => []
  | next, entry :: rest =>
    if entry.handler.isSome then { entry := entry, action := some next } :: number (next + 1) rest
    else { entry := entry, action := none } :: number next rest

@[simp] theorem map_entry_number (next : Nat) (routes : List RouteEntry) :
    (number next routes).map (·.entry) = routes := by
  induction routes generalizing next with
  | nil => rfl
  | cons entry rest ih =>
    unfold number
    split <;> rw [map_cons, ih]

variable {routes : List RouteEntry}

theorem isSome_action_of_number {next : Nat} {numbered : Numbered}
    (isNumbered : numbered ∈ number next routes) :
    numbered.action.isSome = numbered.entry.handler.isSome := by
  induction routes generalizing next with
  | nil => cases isNumbered
  | cons entry rest ih =>
    unfold number at isNumbered
    split at isNumbered
    · next isBound =>
      rcases mem_cons.mp isNumbered with rfl | isLater
      · exact isBound.symm
      · exact ih isLater
    · next isUnbound =>
      rcases mem_cons.mp isNumbered with rfl | isLater
      · simpa using isUnbound
      · exact ih isLater

theorem actions_number (next : Nat) (routes : List RouteEntry) :
    (number next routes).filterMap (·.action) = List.range' next (boundPlaces routes).length := by
  induction routes generalizing next with
  | nil => rfl
  | cons entry rest ih =>
    rw [number, boundPlaces_cons]
    split
    · simp only [filterMap_cons, length_cons]
      rw [ih, range'_succ]
    · simp only [filterMap_cons]
      rw [ih]

variable {index : Nat}

theorem place_of_number {places : List Place} (before : List Place)
    (same : places = before ++ boundPlaces routes) {numbered : Numbered}
    (isNumbered : numbered ∈ number before.length routes)
    (isAction : numbered.action = some index) : places[index]? = some numbered.entry.place := by
  induction routes generalizing before with
  | nil => cases isNumbered
  | cons entry rest ih =>
    rw [number] at isNumbered
    rw [boundPlaces_cons] at same
    split at isNumbered
    · next isBound =>
      rw [if_pos isBound] at same
      rcases mem_cons.mp isNumbered with rfl | isLater
      · obtain rfl : before.length = index := Option.some.inj isAction
        rw [same, getElem?_append_right (Nat.le_refl _), Nat.sub_self, getElem?_cons_zero]
      · refine
          ih (before ++ [entry.place]) ?_ (by simpa using isLater)
        rw [same, append_assoc]
        rfl
    · next isUnbound =>
      rw [if_neg isUnbound] at same
      rcases mem_cons.mp isNumbered with rfl | isLater
      · cases isAction
      · exact ih before same isLater

namespace Router

/-- The routes with the actions that were registered with them. -/
def numbered (router : Router app) : List Numbered := number 0 router.routes

def ordered (router : Router app) : List Numbered :=
  router.numbered.filter (·.entry.domain.isSome) ++ router.numbered.filter (!·.entry.domain.isSome)

def claimants (router : Router app) : List Numbered :=
  FirstClaim.claims (·.entry.slot) router.ordered

def placeAt (router : Router app) (index : Nat) : Option Place :=
  (router.actions[index]?).map BoundAction.place

def handlerAt (router : Router app) (index : Nat) : Option (Handler app) :=
  (router.actions[index]?).map (·.handler)

def turns (router : Router app) : List Nat := router.claimants.filterMap (·.action)

/--
No repeated registration gets in front: when the turn of a claimant comes, the
first action left with its method, path and domain has its own handler.
-/
def InOrder (router : Router app) : Prop :=
  FirstClaim.InTurn router.placeAt router.handlerAt router.turns (List.range router.actions.length)

@[simp] theorem map_entry_ordered (router : Router app) :
    router.ordered.map (·.entry) = router.getRoutes := by
  have byDomain : ∀ keeps : RouteEntry → Bool,
      (router.numbered.filter fun numbered => keeps numbered.entry).map (·.entry) =
        router.routes.filter keeps := by
    intro keeps
    have whole := map_entry_number 0 router.routes
    conv_rhs => rw [← whole, filter_map]
    rfl
  rw [ordered, map_append, getRoutes_eq]
  exact congrArg₂ (· ++ ·) (byDomain (·.domain.isSome)) (byDomain (!·.domain.isSome))

theorem mem_ordered {router : Router app} {numbered : Numbered} :
    numbered ∈ router.ordered ↔ numbered ∈ router.numbered := by
  rw [ordered, mem_append, mem_filter, mem_filter]
  cases numbered.entry.domain.isSome <;> simp

theorem nodup_actions_ordered (router : Router app) :
    (router.ordered.filterMap (·.action)).Nodup := by
  have same : router.ordered.Perm router.numbered := filter_append_perm _ _
  rw [(same.filterMap _).nodup_iff, numbered, actions_number]
  exact nodup_range'

theorem Recorded.placeAt_eq {router : Router app} (recorded : router.Recorded) {numbered : Numbered}
    (isNumbered : numbered ∈ router.ordered) {index : Nat}
    (isAction : numbered.action = some index) :
    router.placeAt index = some numbered.entry.place := by
  rw [placeAt, ← getElem?_map]
  exact place_of_number [] recorded.places (mem_ordered.mp isNumbered) isAction

end Router

/-! ## Guards -/

def authorizeLayers (registry : AuthorizeRegistry app)
    (entry : RouteEntry) : Except RouteError (List (Layer app)) :=
  if entry.authorizations = [] then .ok []
  else
    (entry.authorizations.mapM registry.resolve).map fun checks => [.authorize checks]

def bindingLayers (registry : Registry app.Binder) (entry : RouteEntry) : List (Layer app) :=
  let checks := bindingChecks entry.path registry
  if checks.isEmpty then []
  else [.bind checks (toAxumPath entry.path)]

/-- The layers of the declared middleware, the first declared outermost. -/
def middlewareLayers (registry : Registry (Registration app))
    (entry : RouteEntry) : Except RouteError (List (Layer app)) :=
  (entry.middleware.mapM (resolveMiddleware registry)).map fun transforms =>
    transforms.map .middleware

/-- The layers of a table around one of its routes, the outermost first. -/
def Router.Guards (router : Router app) (entry : RouteEntry) (layers : List (Layer app)) : Prop :=
  ∃ middleware authorizations, middlewareLayers router.middlewareRegistry entry = .ok middleware ∧
      authorizeLayers router.authorizeRegistry entry = .ok authorizations ∧
        layers = router.layers.reverse.map .tower ++
            (middleware ++ (bindingLayers router.bindingRegistry entry ++ authorizations))

variable {filter : MethodFilter} {handler : Handler app} {layers : List (Layer app)}
  {methodRouter : axum.MethodRouter}

theorem methods_layer_single (documented : axum.Documented)
    (holds : axum.methods methodRouter = .single filter { handler := handler, layers := layers })
    (layer : Layer app) :
    axum.methods (axum.layer layer methodRouter) =
      .single filter { handler := handler, layers := layer :: layers } := by
  rw [documented.methods_layer, holds, MethodTable.layered_single]
  rfl

theorem methods_applyAuthorize (documented : axum.Documented)
    {methodRouter authorized : axum.MethodRouter}
    (holds : axum.methods methodRouter = .single filter { handler := handler, layers := layers })
    {entry : RouteEntry} {registry : AuthorizeRegistry app}
    (applied : applyAuthorize axum methodRouter entry registry = .ok authorized) :
    ∃ added, authorizeLayers registry entry = .ok added ∧
      axum.methods authorized =
        .single filter { handler := handler, layers := added ++ layers } := by
  unfold applyAuthorize at applied
  unfold authorizeLayers
  split at applied
  · next none =>
    cases applied
    rw [if_pos none]
    exact ⟨[], rfl, holds⟩
  · next some =>
    rw [if_neg some]
    cases resolved : entry.authorizations.mapM registry.resolve with
    | error failure =>
      rw [resolved] at applied
      cases applied
    | ok checks =>
      rw [resolved] at applied
      cases applied
      exact ⟨_, rfl, methods_layer_single documented holds _⟩

theorem methods_applyBinding (documented : axum.Documented)
    (holds : axum.methods methodRouter = .single filter { handler := handler, layers := layers })
    (entry : RouteEntry) (registry : Registry app.Binder) :
    axum.methods
        (applyBinding axum methodRouter entry.path (toAxumPath entry.path) registry) =
      .single filter
        { handler := handler
          layers := bindingLayers registry entry ++ layers } := by
  unfold applyBinding bindingLayers
  dsimp only
  split
  · exact holds
  · exact methods_layer_single documented holds _

theorem methods_applyMiddleware
    (documented : axum.Documented) {methodRouter wrapped : axum.MethodRouter}
    (holds : axum.methods methodRouter = .single filter { handler := handler, layers := layers })
    {entry : RouteEntry} {registry : Registry (Registration app)}
    (applied : applyMiddleware axum methodRouter entry registry = .ok wrapped) :
    ∃ added, middlewareLayers registry entry = .ok added ∧
      axum.methods wrapped = .single filter { handler := handler, layers := added ++ layers } := by
  unfold applyMiddleware at applied
  unfold middlewareLayers
  cases resolved : entry.middleware.mapM (resolveMiddleware registry) with
  | error failure =>
    rw [resolved] at applied
    cases applied
  | ok transforms =>
    rw [resolved] at applied
    cases applied
    refine ⟨transforms.map .middleware, rfl, ?_⟩
    -- the reversed transforms are wrapped around one by one
    have wraps : ∀ (inner : List app.Middleware) (own : axum.MethodRouter) around,
        axum.methods own = .single filter { handler := handler, layers := around } → axum.methods
              (inner.foldl (fun wrapped apply => axum.layer (.middleware apply) wrapped) own) =
            .single filter
              { handler := handler
                layers := inner.reverse.map .middleware ++ around } := by
      intro inner
      induction inner with
      | nil => exact fun own around ownHolds => ownHolds
      | cons apply rest ih =>
        intro own around ownHolds
        rw [foldl_cons, ih _ _ (methods_layer_single documented ownHolds _), reverse_cons,
          map_append, append_assoc]
        rfl
    have whole := wraps transforms.reverse _ _ holds
    rwa [reverse_reverse] at whole

/-! ## Resolving -/

variable {entry : RouteEntry}

theorem resolve_of_findIdx? {actions : List (BoundAction app)}
    (controllerActions : List (String × String × app.Action))
    (isBound : entry.handler.isSome) {action : BoundAction app}
    (isIndex : actions.findIdx? (fun action => action.place = entry.place) = some index)
    (isAction : actions[index]? = some action) :
    resolve axum entry actions controllerActions = (intoMethodRouter axum action.handler
          action.method, FirstClaim.swapRemove actions index) := by
  have sameLookup :
      (fun action : BoundAction app =>
          decide (action.method = entry.method ∧ action.path = entry.path ∧
              action.domain = entry.domain)) =
        fun action => decide (action.place = entry.place) := by
    funext other
    rw [decide_eq_decide, BoundAction.place, RouteEntry.place,
      Prod.mk.injEq, BoundAction.slot_eq, and_assoc]
  unfold resolve
  simp only [isBound, if_true, sameLookup, isIndex, isAction]

theorem resolve_of_unbound (actions : List (BoundAction app))
    (controllerActions : List (String × String × app.Action)) (isUnbound : entry.handler = none) :
    resolve axum entry actions controllerActions = (intoMethodRouter axum
          (resolveController entry controllerActions) entry.method, actions) := by
  simp [resolve, isUnbound]

/-! ## The table -/

@[grind =] def Router.ownHandler (router : Router app) (numbered : Numbered) : Handler app :=
  match numbered.action.bind router.handlerAt with
  | some handler => handler
  | none => resolveController numbered.entry router.controllerActions

/-- A slot that was compiled: its claimant, and the action that was taken. -/
structure Service (app : Application) where
  numbered : Numbered
  taken : Option Nat
  endpoint : Endpoint app

def owners (served : List (Service app)) : List Nat := served.filterMap (·.numbered.action)

def leftAfter (router : Router app) (served : List (Service app)) : List Nat :=
  (owners served).foldl (FirstClaim.takeFront router.placeAt) (List.range router.actions.length)

theorem owners_concat (served : List (Service app)) (service : Service app) :
    owners (served ++ [service]) = owners served ++ service.numbered.action.toList := by
  cases isAction : service.numbered.action <;> simp [owners, isAction]

theorem leftAfter_concat (router : Router app) (served : List (Service app))
    (service : Service app) :
    leftAfter router (served ++ [service]) = service.numbered.action.toList.foldl
      (FirstClaim.takeFront router.placeAt) (leftAfter router served) := by
  rw [leftAfter, owners_concat, foldl_append]
  rfl

/-- What holds of one compiled slot. -/
structure Service.Fits (router : Router app) (service : Service app) : Prop where
  untaken : service.numbered.action = none → service.taken = none
  samePlace : ∀ own ∈ service.numbered.action,
      ∃ index, service.taken = some index ∧ router.placeAt index = router.placeAt own
  handler :
    service.endpoint.handler = router.ownHandler { service.numbered with action := service.taken }
  guards : router.Guards service.numbered.entry
      (router.layers.reverse.map .tower ++ service.endpoint.layers)

/-- What holds of the slots that were compiled so far. -/
structure Serving (router : Router app) (done : List Numbered) (state : Compiling axum)
    (served : List (Service app)) : Prop where
  claimed : served.map (·.numbered) = FirstClaim.claims (·.entry.slot) done
  registered : state.registered = served.map (·.numbered.entry.slot)
  fits : ∀ service ∈ served, service.Fits router
  /-- Each claimant took the action that it found in front. -/
  takes :
    (served.filterMap fun service =>
        service.numbered.action.map fun _ => service.taken) =
      FirstClaim.fronts router.placeAt (owners served) (List.range router.actions.length)
  left : state.actions.map some = (leftAfter router served).map (router.actions[·]?)
  /-- Actions of slots that are still free have not been taken. -/
  remaining : ∀ index place, router.placeAt index = some place →
        place.1 ∉ state.registered → index ∈ leftAfter router served
  endpoints : ∀ pattern filter found, axum.endpoint state.router pattern filter = some found ↔
        ∃ service ∈ served,
          service.endpoint = found ∧ toAxumPath service.numbered.entry.path = pattern ∧
              methodFilter service.numbered.entry.method = filter

namespace Serving

variable {router : Router app} {done : List Numbered} {state : Compiling axum}
  {served : List (Service app)}

theorem start (documented : axum.Documented) (router : Router app) :
    Serving router []
      { router := axum.new, registered := [], actions := router.actions }
      [] := by
  constructor
  · rfl
  · rfl
  · simp
  · rfl
  · exact ext_getElem (by simp [leftAfter, owners]) (by simp [leftAfter, owners])
  · intro index place isPlace _
    obtain ⟨action, isAction, -⟩ := Option.map_eq_some_iff.mp isPlace
    exact mem_range.mpr (List.getElem?_eq_some_iff.mp isAction).1
  · intro pattern filter found
    simp [Axum.endpoint, documented.held_new]

theorem mem_registered (serving : Serving router done state served) {slot : Slot} :
    slot ∈ state.registered ↔
      slot ∈ (FirstClaim.claims (·.entry.slot) done).map (·.entry.slot) := by
  rw [serving.registered, ← serving.claimed, map_map]
  rfl

variable {numbered : Numbered}

theorem exists_front (serving : Serving router done state served) (recorded : router.Recorded)
    (isNumbered : numbered ∈ router.ordered)
    (isFree : numbered.entry.slot ∉ state.registered) {own : Nat}
    (isAction : numbered.action = some own) :
    ∃ found action index,
      FirstClaim.front router.placeAt own (leftAfter router served) = some found ∧
      router.actions[found]? = some action ∧ action.place = numbered.entry.place ∧
      state.actions[index]? = some action ∧
      state.actions.findIdx? (fun action => action.place = numbered.entry.place) = some index ∧
      (FirstClaim.swapRemove state.actions index).map some = (FirstClaim.takeFront router.placeAt
          (leftAfter router served) own).map (router.actions[·]?) := by
  have ownPlace := recorded.placeAt_eq isNumbered isAction
  have isLeft : own ∈ leftAfter router served := serving.remaining own _ ownPlace isFree
  have isThere : (FirstClaim.front router.placeAt own (leftAfter router served)).isSome := by
    rw [FirstClaim.front, find?_isSome]
    exact ⟨own, isLeft, by simp⟩
  obtain ⟨found, isFront⟩ := Option.isSome_iff_exists.mp isThere
  obtain ⟨index, inRange, isFound, isIndex⟩ := findIdx?_of_front isFront
  have samePlace := (mem_of_front isFront).2
  rw [ownPlace] at samePlace
  obtain ⟨action, atFound, hasPlace⟩ := Option.map_eq_some_iff.mp samePlace
  refine ⟨found, action, index, isFront, atFound, hasPlace, ?_, ?_, ?_⟩
  · have atIndex := congrArg (·[index]?) serving.left
    simp only [getElem?_map, getElem?_eq_getElem inRange,
      isFound, Option.map_some, atFound] at atIndex
    simpa using atIndex
  · have mapped := congrArg
        (List.findIdx? fun found : Option (BoundAction app) =>
          found.map BoundAction.place = some numbered.entry.place)
        serving.left
    rw [findIdx?_map, findIdx?_map] at mapped
    simp only [Function.comp_def, Option.map_some, Option.some.injEq] at mapped
    rw [mapped]
    rw [ownPlace] at isIndex
    exact isIndex
  · rw [← swapRemove_map, serving.left,
      swapRemove_map, FirstClaim.takeFront, isIndex]

theorem claim (serving : Serving router done state served) {service : Service app}
    (isFree : service.numbered.entry.slot ∉ state.registered) (fits : service.Fits router)
    (takesFront : ∀ own ∈ service.numbered.action,
        service.taken = FirstClaim.front router.placeAt own (leftAfter router served))
    (inPlace :
      ∀ own ∈ service.numbered.action, router.placeAt own = some service.numbered.entry.place)
    {actions : List (BoundAction app)}
    (left : actions.map some = (leftAfter router (served ++ [service])).map (router.actions[·]?))
    {merged : axum.Router}
    (added : ∀ pattern filter found, axum.endpoint merged pattern filter = some found ↔
          axum.endpoint state.router pattern filter = some found ∨
            pattern = toAxumPath service.numbered.entry.path ∧
              filter = methodFilter service.numbered.entry.method ∧ found = service.endpoint) :
    Serving router (done ++ [service.numbered])
      { router := merged
        registered := state.registered ++ [service.numbered.entry.slot]
        actions := actions }
      (served ++ [service]) := by
  constructor
  · have notTaken :
        service.numbered.entry.slot ∉ (FirstClaim.claims (·.entry.slot) done).map (·.entry.slot) :=
      fun isTaken => isFree (serving.mem_registered.mpr isTaken)
    rw [claims_concat, FirstClaim.claim, if_neg notTaken,
      map_append, serving.claimed]
    rfl
  · rw [serving.registered, map_append]
    rfl
  · intro other isOther
    rcases mem_append.mp isOther with isEarlier | isNew
    · exact serving.fits other isEarlier
    · rw [mem_singleton] at isNew
      exact isNew ▸ fits
  · rw [filterMap_append, serving.takes, owners_concat]
    cases isAction : service.numbered.action with
    | none => simp [isAction]
    | some own =>
      have isFront := takesFront own isAction
      rw [leftAfter] at isFront
      rw [Option.toList_some, fronts_concat, ← isFront]
      simp [isAction]
  · exact left
  · intro index place isPlace notTaken
    rw [mem_append, mem_singleton, not_or] at notTaken
    have isLeft := serving.remaining index place isPlace notTaken.1
    rw [leftAfter_concat]
    cases isAction : service.numbered.action with
    | none => exact isLeft
    | some own =>
      have isFront := (takesFront own isAction).symm
      obtain ⟨found, isTaken, samePlace⟩ := fits.samePlace own isAction
      rw [isTaken] at isFront
      have others := takeFront_perm isFront
      rcases mem_cons.mp (others.mem_iff.mpr isLeft) with rfl | stillLeft
      · rw [isPlace, inPlace own isAction] at samePlace
        exact absurd (congrArg Prod.fst (Option.some.inj samePlace)) notTaken.2
      · exact stillLeft
  · intro pattern filter found
    rw [added, serving.endpoints]
    constructor
    · rintro (⟨earlier, isEarlier, same⟩ | ⟨samePath, sameFilter, same⟩)
      · exact ⟨earlier, mem_append_left _ isEarlier, same⟩
      · exact ⟨service, mem_append_right _ (mem_singleton_self _),
          same.symm, samePath.symm, sameFilter.symm⟩
    · rintro ⟨earlier, isEarlier, same, samePath, sameFilter⟩
      rcases mem_append.mp isEarlier with isOld | isNew
      · exact Or.inl ⟨earlier, isOld, same, samePath, sameFilter⟩
      · rw [mem_singleton] at isNew
        subst isNew
        exact Or.inr ⟨samePath.symm, sameFilter.symm, same.symm⟩

/-- What resolving a route whose slot is free gives. -/
theorem resolve (documented : axum.Documented)
    (serving : Serving router done state served) (recorded : router.Recorded)
    (isNumbered : numbered ∈ router.ordered) (isFree : numbered.entry.slot ∉ state.registered) :
    ∃ taken handler,
      axum.methods (Routing.resolve axum numbered.entry state.actions router.controllerActions).1 =
        .single (methodFilter numbered.entry.method) { handler := handler, layers := [] } ∧
      (numbered.action = none → taken = none) ∧
      (∀ own ∈ numbered.action,
        taken = FirstClaim.front router.placeAt own (leftAfter router served) ∧
        ∃ index, taken = some index ∧ router.placeAt index = router.placeAt own) ∧
      handler = router.ownHandler { numbered with action := taken } ∧
      (Routing.resolve axum numbered.entry state.actions router.controllerActions).2.map some =
        (numbered.action.toList.foldl (FirstClaim.takeFront router.placeAt)
          (leftAfter router served)).map (router.actions[·]?) := by
  have sameBound := isSome_action_of_number (Router.mem_ordered.mp isNumbered)
  cases isAction : numbered.action with
  | none =>
    have isUnbound : numbered.entry.handler = none := by simpa [isAction] using sameBound.symm
    rw [resolve_of_unbound _ _ isUnbound]
    refine ⟨none, _, documented.methods_on _ _, fun _ => rfl, ?_, rfl, ?_⟩
    · intro own isOwn
      cases isOwn
    · exact serving.left
  | some own =>
    obtain ⟨found, action, index, isFront, atFound, hasPlace, atIndex,
      isIndex, leftNext⟩ :=
      serving.exists_front recorded isNumbered isFree isAction
    have isBound : numbered.entry.handler.isSome := by
      rw [← sameBound, isAction]
      rfl
    have sameMethod : action.method = numbered.entry.method := congrArg (·.1.1) hasPlace
    rw [resolve_of_findIdx? _ isBound isIndex atIndex]
    refine ⟨some found, action.handler, ?_, ?_, ?_, ?_, leftNext⟩
    · rw [sameMethod]
      exact documented.methods_on _ _
    · intro none
      cases none
    · intro other isOther
      obtain rfl : own = other := Option.some.inj isOther
      exact ⟨isFront.symm, found, rfl, (mem_of_front isFront).2⟩
    · simp [Router.ownHandler, Router.handlerAt, atFound]

theorem compileEntry (documented : axum.Documented) (serving : Serving router done state served)
    (recorded : router.Recorded) (isNumbered : numbered ∈ router.ordered) {next : Compiling axum}
    (isCompiled : compileEntry axum router state numbered.entry = .ok next) :
    ∃ served, Serving router (done ++ [numbered]) next served := by
  unfold Routing.compileEntry at isCompiled
  split at isCompiled
  · next isTaken =>
    cases isCompiled
    refine ⟨served, { serving with claimed := ?_ }⟩
    rw [serving.claimed, claims_concat, FirstClaim.claim,
      if_pos (serving.mem_registered.mp isTaken)]
  · next isFree =>
    obtain ⟨taken, handler, holds, untaken, takes, isHandler, leftNext⟩ :=
      serving.resolve documented recorded isNumbered isFree
    dsimp only at isCompiled
    split at isCompiled
    · cases isCompiled
    · next authorized isAuthorized =>
      split at isCompiled
      · cases isCompiled
      · next methodRouter isWrapped =>
        split at isCompiled
        · cases isCompiled
        · next added isRoute =>
          split at isCompiled
          · cases isCompiled
          · next merged isMerged =>
            cases isCompiled
            obtain ⟨authorizations, areAuthorizations, holds⟩ :=
              methods_applyAuthorize documented holds isAuthorized
            have bound := methods_applyBinding documented holds numbered.entry
                router.bindingRegistry
            obtain ⟨middleware, areMiddleware, wrapped⟩ :=
              methods_applyMiddleware documented bound isWrapped
            rw [append_nil] at wrapped
            have fits : Service.Fits router
                { numbered := numbered
                  taken := taken
                  endpoint :=
                      { handler := handler
                        layers :=
                          middleware ++ (bindingLayers router.bindingRegistry
                                numbered.entry ++
                              authorizations) } } :=
              { untaken := untaken
                samePlace := fun own isOwn => (takes own isOwn).2
                handler := isHandler
                guards := ⟨middleware, authorizations, areMiddleware, areAuthorizations, rfl⟩ }
            refine ⟨_, serving.claim isFree fits
              (fun own isOwn => (takes own isOwn).1)
              (fun own isOwn => recorded.placeAt_eq isNumbered isOwn)
              ?_
              (Axum.endpoint_merge_route documented isRoute isMerged wrapped)⟩
            rw [leftNext, leftAfter_concat]

theorem compileEntries (documented : axum.Documented)
    (serving : Serving router done state served) (recorded : router.Recorded) {rest : List Numbered}
    (areNumbered : ∀ numbered ∈ rest, numbered ∈ router.ordered) {final : Compiling axum}
    (isCompiled : compileEntries axum router state (rest.map (·.entry)) = .ok final) :
    ∃ served, Serving router (done ++ rest) final served := by
  induction rest generalizing done state served with
  | nil =>
    cases isCompiled
    rw [append_nil]
    exact ⟨served, serving⟩
  | cons numbered rest ih =>
    rw [forall_mem_cons] at areNumbered
    rw [map_cons] at isCompiled
    unfold Routing.compileEntries at isCompiled
    split at isCompiled
    · cases isCompiled
    · next next isNext =>
      obtain ⟨nextServed, nextServing⟩ :=
        serving.compileEntry documented recorded areNumbered.1 isNext
      have extended := ih nextServing areNumbered.2 isCompiled
      rwa [append_assoc] at extended

end Serving

/-! ## The router -/

theorem endpoint_layers (documented : axum.Documented) (layers : List app.TowerLayer)
    (router : axum.Router) (pattern : String) (filter : MethodFilter) :
    axum.endpoint
        (layers.foldl (fun wrapped layer => axum.layerAll (.tower layer) wrapped) router)
        pattern filter =
      (axum.endpoint router pattern filter).map fun endpoint =>
        { endpoint with
          layers := layers.reverse.map .tower ++ endpoint.layers } := by
  induction layers generalizing router with
  | nil => simp
  | cons layer rest ih =>
    rw [foldl_cons, ih, Axum.endpoint, Axum.endpoint, documented.held_layerAll]
    cases axum.held router pattern with
    | none => rfl
    | some table =>
      cases atFilter : table filter <;> simp [MethodTable.layered, atFilter, Endpoint.layered]

structure Guarded (router : Router app) (compiled : axum.Router) (numbered : Numbered)
    (endpoint : Endpoint app) : Prop where
  isEndpoint : axum.endpoint compiled (toAxumPath numbered.entry.path)
        (methodFilter numbered.entry.method) =
      some endpoint
  guards : router.Guards numbered.entry endpoint.layers

/-- Every slot runs what was registered with its claimant, under its guards. -/
def PairsOwn (router : Router app) (compiled : axum.Router) : Prop :=
  ∀ numbered ∈ router.claimants, ∃ endpoint,
      Guarded router compiled numbered endpoint ∧ endpoint.handler = router.ownHandler numbered

variable {router : Router app}

theorem serving_of_tryIntoAxumRouter (documented : axum.Documented)
    (recorded : router.Recorded) {compiled : axum.Router}
    (isCompiled : tryIntoAxumRouter axum router = .ok compiled) :
    ∃ served : List (Service app),
      served.map (·.numbered) = router.claimants ∧ (∀ service ∈ served, service.Fits router) ∧
          (served.filterMap fun service =>
              service.numbered.action.map fun _ => service.taken) =
            FirstClaim.fronts router.placeAt (owners served) (List.range router.actions.length) ∧
            ∀ pattern filter found, axum.endpoint compiled pattern filter = some found ↔
                ∃ service ∈ served,
                  { service.endpoint with
                    layers :=
                      router.layers.reverse.map .tower ++ service.endpoint.layers } = found ∧
                    toAxumPath service.numbered.entry.path = pattern ∧
                      methodFilter service.numbered.entry.method = filter := by
  unfold tryIntoAxumRouter at isCompiled
  split at isCompiled
  · cases isCompiled
  · next final isFinal =>
    cases isCompiled
    rw [← Router.map_entry_ordered] at isFinal
    obtain ⟨served, serving⟩ := (Serving.start documented router).compileEntries documented recorded
        (fun numbered isNumbered => isNumbered) isFinal
    rw [nil_append] at serving
    refine ⟨served, serving.claimed, serving.fits, serving.takes, ?_⟩
    intro pattern filter found
    rw [endpoint_layers documented, Option.map_eq_some_iff]
    simp only [serving.endpoints]
    constructor
    · rintro ⟨own, ⟨service, isService, rfl, samePath, sameFilter⟩, same⟩
      exact ⟨service, isService, same, samePath, sameFilter⟩
    · rintro ⟨service, isService, same, samePath, sameFilter⟩
      exact ⟨_, ⟨service, isService, rfl, samePath, sameFilter⟩, same⟩

theorem Service.Fits.handler_eq_iff (recorded : router.Recorded) {service : Service app}
    (fits : service.Fits router) (isNumbered : service.numbered ∈ router.ordered) :
    service.endpoint.handler = router.ownHandler service.numbered ↔
      ∀ own ∈ service.numbered.action,
        service.taken.map router.handlerAt = some (router.handlerAt own) := by
  rw [fits.handler]
  cases isAction : service.numbered.action with
  | none => simp [Router.ownHandler, fits.untaken isAction, isAction]
  | some own =>
    obtain ⟨index, isTaken, samePlace⟩ := fits.samePlace own isAction
    have hasPlace := recorded.placeAt_eq isNumbered isAction
    obtain ⟨ownAction, atOwn, -⟩ := Option.map_eq_some_iff.mp hasPlace
    rw [hasPlace] at samePlace
    obtain ⟨takenAction, atTaken, -⟩ := Option.map_eq_some_iff.mp samePlace
    simp [Router.ownHandler, Router.handlerAt, isTaken, isAction, atOwn, atTaken, eq_comm]

theorem inOrder_iff {served : List (Service app)}
    (claimed : served.map (·.numbered) = router.claimants)
    (takes : (served.filterMap fun service => service.numbered.action.map fun _ => service.taken) =
      FirstClaim.fronts router.placeAt (owners served) (List.range router.actions.length)) :
    router.InOrder ↔
      ∀ service ∈ served, ∀ own ∈ service.numbered.action,
        service.taken.map router.handlerAt = some (router.handlerAt own) := by
  have areTurns : router.turns = owners served := by
    rw [Router.turns, ← claimed, filterMap_map]
    rfl
  rw [Router.InOrder, inTurn_iff, areTurns, ← takes]
  clear takes claimed areTurns
  induction served with
  | nil => simp [owners]
  | cons service rest ih =>
    rw [forall_mem_cons]
    refine Iff.trans ?_ (and_congr Iff.rfl ih)
    cases isAction : service.numbered.action <;> simp [owners, isAction]

theorem Router.inOrder_of_nodup (recorded : router.Recorded)
    (distinct : (boundPlaces router.routes).Nodup) : router.InOrder := by
  refine inTurn_of_nodup ?_ ?_ ?_
  · have places : (List.range router.actions.length).map router.placeAt =
        (boundPlaces router.routes).map some := by
      rw [← recorded.places]
      refine ext_getElem (by simp) fun index inRange _ => ?_
      have isIndex : index < router.actions.length := by simpa using inRange
      simp [Router.placeAt, isIndex]
    rw [places]
    exact distinct.map (Option.some_injective _)
  · exact ((claims_sublist _).filterMap _).nodup router.nodup_actions_ordered
  · intro own isTurn
    obtain ⟨numbered, isClaimant, isAction⟩ := mem_filterMap.mp isTurn
    have hasPlace := recorded.placeAt_eq (mem_of_mem_claims isClaimant) isAction
    rw [mem_range]
    by_contra outside
    rw [Router.placeAt, getElem?_eq_none (Nat.le_of_not_lt outside)] at hasPlace
    cases hasPlace

/--
Every endpoint is a claimant's, under exactly that claimant's guards, and runs
what was registered under its method, path and domain.  All of them run their
claimants' own handlers exactly when no repeated registration gets in front,
and so wherever no method, path and domain is registered twice.
-/
theorem claimed_slots_pair_own_handlers (documented : axum.Documented) {router : Router app}
    (registered : Router.Registers Router.new router) {compiled : axum.Router}
    (isCompiled : tryIntoAxumRouter axum router = .ok compiled) :
    (∀ pattern filter endpoint, axum.endpoint compiled pattern filter = some endpoint →
      ∃ numbered ∈ router.claimants,
        toAxumPath numbered.entry.path = pattern ∧ methodFilter numbered.entry.method = filter ∧
        Guarded router compiled numbered endpoint ∧
        ∃ taken,
          (∀ own ∈ numbered.action,
            ∃ index, taken = some index ∧ router.placeAt index = router.placeAt own) ∧
          (numbered.action = none → taken = none) ∧
          endpoint.handler = router.ownHandler { numbered with action := taken }) ∧
      (PairsOwn router compiled ↔ router.InOrder) ∧
      ((boundPlaces router.routes).Nodup → PairsOwn router compiled) := by
  have recorded : router.Recorded := Router.Recorded.registers registered Router.Recorded.new
  obtain ⟨served, claimed, fits, takes, endpoints⟩ :=
    serving_of_tryIntoAxumRouter documented recorded isCompiled
  have guarded : ∀ service ∈ served, Guarded router compiled service.numbered
          { service.endpoint with
            layers :=
              router.layers.reverse.map .tower ++ service.endpoint.layers } := by
    intro service isService
    exact ⟨(endpoints _ _ _).mpr ⟨service, isService, rfl, rfl, rfl⟩,
      (fits service isService).guards⟩
  have claims : ∀ service ∈ served, service.numbered ∈ router.claimants :=
    fun service isService => claimed ▸ mem_map_of_mem isService
  have handlerIff : ∀ service ∈ served,
      service.endpoint.handler = router.ownHandler service.numbered ↔
        ∀ own ∈ service.numbered.action,
          service.taken.map router.handlerAt = some (router.handlerAt own) :=
    fun service isService =>
      (fits service isService).handler_eq_iff recorded
        (mem_of_mem_claims (claims service isService))
  have pairs_iff : PairsOwn router compiled ↔ router.InOrder := by
    rw [inOrder_iff claimed takes]
    constructor
    · intro pairsOwn service isService
      obtain ⟨endpoint, ⟨isEndpoint, -⟩, isOwn⟩ :=
        pairsOwn service.numbered (claims service isService)
      rw [(guarded service isService).isEndpoint] at isEndpoint
      cases isEndpoint
      exact (handlerIff service isService).mp isOwn
    · intro inOrder numbered isClaimant
      rw [← claimed, mem_map] at isClaimant
      obtain ⟨service, isService, rfl⟩ := isClaimant
      exact ⟨_, guarded service isService,
        (handlerIff service isService).mpr (inOrder service isService)⟩
  refine ⟨?_, pairs_iff, fun distinct => pairs_iff.mpr (Router.inOrder_of_nodup recorded distinct)⟩
  intro pattern filter endpoint holds
  obtain ⟨service, isService, rfl, samePath, sameFilter⟩ := (endpoints _ _ _).mp holds
  exact ⟨service.numbered, claims service isService, samePath, sameFilter,
    guarded service isService, service.taken, (fits service isService).samePlace,
    (fits service isService).untaken, (fits service isService).handler⟩

/-! ## A table with a repeated route -/

/-- One page, and then another one that is registered twice. -/
def repeatedTable : Router plainApp :=
  [.action "GET" "/first" "first" "first", .action "GET" "/second" "second" "second",
    .action "GET" "/second" "third" "third"].foldl Router.apply Router.new

theorem home_pairs_own_handlers :
    (tryIntoAxumRouter plainAxum homeTable).isOk ∧
    ∀ compiled,
        tryIntoAxumRouter plainAxum homeTable = .ok compiled → PairsOwn homeTable compiled := by
  refine ⟨by decide +kernel, fun compiled isCompiled => ?_⟩
  have registered : Router.Registers Router.new homeTable := Router.registers_calls _ _
  exact (claimed_slots_pair_own_handlers plainAxum_documented registered isCompiled).2.2
    (by decide +kernel)

def actionOf : Handler plainApp → String
  | .action run => run
  | .redirect _ target => target
  | .stub => "ok"

theorem repeated_route_runs_another_handler :
    ¬ ∀ compiled, tryIntoAxumRouter plainAxum repeatedTable = .ok compiled →
      PairsOwn repeatedTable compiled := by
  intro pairsOwn
  have isOk : (tryIntoAxumRouter plainAxum repeatedTable).isOk := by decide +kernel
  have serves : ∀ compiled ∈ (tryIntoAxumRouter plainAxum repeatedTable).toOption,
      (plainAxum.endpoint compiled "/second" (methodFilter "GET")).map
          (fun endpoint => actionOf endpoint.handler) =
        some "third" := by
    decide +kernel
  have owns :
      repeatedTable.claimants.map (fun numbered =>
          (toAxumPath numbered.entry.path, methodFilter numbered.entry.method,
            actionOf (repeatedTable.ownHandler numbered))) =
        [("/first", methodFilter "GET", "first"), ("/second", methodFilter "GET", "second")] := by
    decide +kernel
  cases isCompiled : tryIntoAxumRouter plainAxum repeatedTable with
  | error failure =>
    rw [isCompiled] at isOk
    cases isOk
  | ok compiled =>
    have isSecond : ("/second", methodFilter "GET", "second") ∈
          repeatedTable.claimants.map fun numbered =>
            (toAxumPath numbered.entry.path, methodFilter numbered.entry.method,
              actionOf (repeatedTable.ownHandler numbered)) := by
      rw [owns]
      exact .tail _ (.head _)
    obtain ⟨numbered, isClaimant, isNumbered⟩ := List.mem_map.mp isSecond
    obtain ⟨samePath, sameFilter, sameAction⟩ := by
      simpa only [Prod.mk.injEq] using isNumbered
    obtain ⟨endpoint, ⟨isEndpoint, -⟩, isOwn⟩ := pairsOwn compiled isCompiled numbered isClaimant
    rw [isCompiled] at serves
    have third := serves compiled rfl
    rw [← samePath, ← sameFilter, isEndpoint, Option.map_some, isOwn, sameAction] at third
    exact absurd third (by decide)

end Rustasea.Routing
