import Mathlib.Data.List.TakeWhile
import Rustasea.Routing.DomainRouting
import Rustasea.Routing.PathCaptures

namespace Rustasea.Routing

open List

open PercentEncoding (splitOnce)

/-!
# Routes that axum cannot hold together

Slots are claimed under the path as it is registered, and axum is handed the
path as it is translated.  Two spellings of one path are two slots.  Merging a
route panics when the router has an endpoint for its method under the pattern,
or a pattern that cannot stand beside it.
-/

variable {app : Application}

/-! ## When axum panics -/

def templateSegment (pattern : Text) : Text :=
  match wildcardName pattern with
  | some _ => ['*']
  | none =>
    match splitOnce ':' pattern with
    | some (before, _) => before ++ [':']
    | none => pattern

def requestTemplate (pattern : String) : List Text := (segments pattern.toList).map templateSegment

structure Axum.PanicsOn (axum : Axum app) (takes : String → Bool)
    (clash : String → String → Prop) : Prop where
  route_isSome : ∀ pattern methodRouter, (axum.route pattern methodRouter).isSome = takes pattern
  /-- A merge panics at endpoints in one place, or at patterns that clash. -/
  merge_eq_none_iff : ∀ first second, axum.merge first second = none ↔ ∃ pattern other own added,
          axum.held first pattern = some own ∧ axum.held second other = some added ∧
              if pattern = other then own.overlaps added = true
              else clash pattern other
  /-- Patterns of one template cannot stand beside each other. -/
  clash_of_sameTemplate : ∀ {pattern other}, takes pattern = true → takes other = true →
          pattern ≠ other → requestTemplate pattern = requestTemplate other → clash pattern other

/-! ## What axum is handed -/

section Attempts

variable (axum : Axum app) (router : Router app)

def prepared (actions : List (BoundAction app)) (entry : RouteEntry) :
    Except BuildFailure (axum.Router × List (BoundAction app)) :=
  let (resolved, left) := resolve axum entry actions router.controllerActions
  match applyAuthorize axum resolved entry router.authorizeRegistry with
  | .error failure => .error (.error failure)
  | .ok authorized =>
    let bound := applyBinding axum authorized entry.path (toAxumPath entry.path)
        router.bindingRegistry
    match applyMiddleware axum bound entry router.middlewareRegistry with
    | .error failure => .error (.error failure)
    | .ok methodRouter =>
      match axum.route (toAxumPath entry.path) methodRouter with
      | none => .error .panics
      | some added => .ok (added, left)

theorem compileEntry_eq (state : Compiling axum) (entry : RouteEntry) :
    compileEntry axum router state entry =
      if entry.slot ∈ state.registered then .ok state
      else
        match prepared axum router state.actions entry with
        | .error failure => .error failure
        | .ok (added, left) =>
          match axum.merge state.router added with
          | none => .error .panics
          | some merged =>
            .ok
              { router := merged
                registered := state.registered ++ [entry.slot]
                actions := left } := by
  unfold compileEntry prepared
  split
  · rfl
  · dsimp only
    cases applyAuthorize axum (resolve axum entry state.actions router.controllerActions).1 entry
        router.authorizeRegistry with
    | error failure => rfl
    | ok authorized =>
      dsimp only
      cases applyMiddleware axum (applyBinding axum authorized entry.path (toAxumPath entry.path)
            router.bindingRegistry) entry router.middlewareRegistry with
      | error failure => rfl
      | ok methodRouter =>
        dsimp only
        cases axum.route (toAxumPath entry.path) methodRouter with
        | none => rfl
        | some added => rfl

/-- A route that is handed to axum, and the router that it is merged into. -/
structure Attempt where
  router : axum.Router
  entry : RouteEntry
  added : axum.Router

local instance lawfulSlots : LawfulBEq (String × String) := inferInstance

/-- The routes that are handed to axum, one after the other. -/
def attempts (state : Compiling axum) : List RouteEntry → List (Attempt axum)
  | [] => []
  | entry :: rest =>
    if entry.slot ∈ state.registered then attempts state rest
    else
      match prepared axum router state.actions entry with
      | .error _ => []
      | .ok (added, left) =>
        { router := state.router, entry := entry, added := added } ::
          match axum.merge state.router added with
          | none => []
          | some merged =>
            attempts
              { router := merged, registered := state.registered ++ [entry.slot], actions := left }
              rest

def Compiling.start : Compiling axum :=
  { router := axum.new, registered := [], actions := router.actions }

def buildAttempts : List (Attempt axum) :=
  attempts axum router (Compiling.start axum router) router.getRoutes

/--
No two routes of one method that are handed to axum have a common template, and
no route overlaps with the router that it is merged into.
-/
structure NeverOverlaps : Prop where
  apart :
    ((buildAttempts axum router).map (·.entry)).Pairwise fun earlier later =>
      ¬(methodFilter earlier.method = methodFilter later.method ∧
        requestTemplate (toAxumPath earlier.path) = requestTemplate (toAxumPath later.path))
  merges : ∀ attempt ∈ buildAttempts axum router, axum.merge attempt.router attempt.added ≠ none

variable {attempt : Attempt axum}

theorem compileEntries_of_overlap {state : Compiling axum} {entries : List RouteEntry}
    (isAttempt : attempt ∈ attempts axum router state entries)
    (overlaps : axum.merge attempt.router attempt.added = none) :
    compileEntries axum router state entries = .error .panics := by
  induction entries generalizing state with
  | nil => cases isAttempt
  | cons entry rest ih =>
    rw [compileEntries, compileEntry_eq]
    rw [attempts] at isAttempt
    split at isAttempt
    · next isTaken =>
      rw [if_pos isTaken]
      exact ih isAttempt
    · next isFree =>
      rw [if_neg isFree]
      split at isAttempt
      · cases isAttempt
      · next added left _ =>
        rcases mem_cons.mp isAttempt with rfl | isLater
        · simp [overlaps]
        · split at isLater
          · cases isLater
          · exact ih isLater

theorem tryIntoAxumRouter_of_overlap (isAttempt : attempt ∈ buildAttempts axum router)
    (overlaps : axum.merge attempt.router attempt.added = none) :
    tryIntoAxumRouter axum router = .error .panics := by
  have panics := compileEntries_of_overlap axum router isAttempt overlaps
  rw [Compiling.start] at panics
  rw [tryIntoAxumRouter, panics]

end Attempts

/-! ## The routes that claim a slot -/

section Claims

variable (router : Router app)

/-- The authorizations and the middleware are registered, and axum takes the path. -/
def isProper (takes : String → Bool) (entry : RouteEntry) : Bool :=
  (entry.authorizations.mapM router.authorizeRegistry.resolve).isOk &&
    (entry.middleware.mapM (resolveMiddleware router.middlewareRegistry)).isOk &&
      takes (toAxumPath entry.path)

/-- Axum cannot hold both: one path and method, or paths that clash. -/
def CannotStand (clash : String → String → Prop) (earlier later : RouteEntry) : Prop :=
  if toAxumPath earlier.path = toAxumPath later.path then
    methodFilter earlier.method = methodFilter later.method
  else clash (toAxumPath earlier.path) (toAxumPath later.path)

/-- The claimants in their order, up to the first that fails the build. -/
def handedClaims (takes : String → Bool) : List RouteEntry :=
  (FirstClaim.claims RouteEntry.slot router.getRoutes).takeWhile (isProper router takes)

def CanStandTogether (takes : String → Bool) (clash : String → String → Prop) : Prop :=
  (handedClaims router takes).Pairwise fun earlier later => ¬CannotStand clash earlier later

end Claims

/-! ### Preparing a route -/

section Prepared

variable {axum : Axum app} {router : Router app}

theorem resolve_hasHandler (documented : axum.Documented) (entry : RouteEntry)
    (actions : List (BoundAction app)) (controllerActions : List (String × String × app.Action)) :
    ∃ handler, HasHandler axum (resolve axum entry actions controllerActions).1
      (methodFilter entry.method) handler := by
  unfold resolve
  split
  · split
    · exact ⟨_, HasHandler.on documented _ _⟩
    · next index found =>
      obtain ⟨inRange, matching, -⟩ := findIdx?_eq_some_iff_getElem.mp found
      have sameMethod : actions[index].method = entry.method := by
        simp only [decide_eq_true_eq] at matching
        exact matching.1
      rw [getElem?_eq_getElem inRange]
      dsimp only
      rw [sameMethod]
      exact ⟨_, HasHandler.on documented _ _⟩
  · exact ⟨_, HasHandler.on documented _ _⟩

theorem held_of_prepared (documented : axum.Documented) {actions left : List (BoundAction app)}
    {entry : RouteEntry} {added : axum.Router}
    (isPrepared : prepared axum router actions entry = .ok (added, left)) :
    ∃ own, ∀ pattern,
        axum.held added pattern =
          if pattern = toAxumPath entry.path then some (.single (methodFilter entry.method) own)
          else
            none := by
  obtain ⟨handler, has⟩ := resolve_hasHandler documented entry actions router.controllerActions
  unfold prepared at isPrepared
  dsimp only at isPrepared
  split at isPrepared
  · cases isPrepared
  · next authorized isAuthorized =>
    split at isPrepared
    · cases isPrepared
    · next methodRouter isWrapped =>
      split at isPrepared
      · cases isPrepared
      · next route isRoute =>
        cases isPrepared
        obtain ⟨layers, holds⟩ :=
          ((has.applyAuthorize documented isAuthorized).applyBinding documented
            _ _ _).applyMiddleware documented isWrapped
        refine ⟨{ handler := handler, layers := layers }, fun pattern => ?_⟩
        rw [documented.held_route isRoute, holds]

variable (methodRouter : axum.MethodRouter)

theorem isOk_applyAuthorize (entry : RouteEntry) (registry : AuthorizeRegistry app) :
    (applyAuthorize axum methodRouter entry registry).isOk =
      (entry.authorizations.mapM registry.resolve).isOk := by
  unfold applyAuthorize
  split
  · next none =>
    rw [none]
    rfl
  · cases entry.authorizations.mapM registry.resolve <;> rfl

theorem isOk_applyMiddleware (entry : RouteEntry) (registry : Registry (Registration app)) :
    (applyMiddleware axum methodRouter entry registry).isOk =
      (entry.middleware.mapM (resolveMiddleware registry)).isOk := by
  unfold applyMiddleware
  cases entry.middleware.mapM (resolveMiddleware registry) <;> rfl

theorem isOk_prepared {takes : String → Bool} {clash : String → String → Prop}
    (panics : axum.PanicsOn takes clash) (actions : List (BoundAction app)) (entry : RouteEntry) :
    (prepared axum router actions entry).isOk = isProper router takes entry := by
  unfold prepared isProper
  dsimp only
  rw [← isOk_applyAuthorize (resolve axum entry actions router.controllerActions).1 entry]
  split
  · next failure isFailed =>
    rw [isFailed]
    rfl
  · next authorized isAuthorized =>
    rw [isAuthorized, ← isOk_applyMiddleware
      (applyBinding axum authorized entry.path (toAxumPath entry.path)
        router.bindingRegistry) entry]
    split
    · next failure isFailed =>
      rw [isFailed]
      rfl
    · next methodRouter isWrapped =>
      rw [isWrapped, ← panics.route_isSome _ methodRouter]
      split
      · next isRefused =>
        rw [isRefused]
        rfl
      · next added isRoute =>
        rw [isRoute]
        rfl

end Prepared

/-! ### The router that is built -/

theorem MethodTable.overlaps_single (own : MethodTable app) (filter : MethodFilter)
    (endpoint : Endpoint app) : own.overlaps (.single filter endpoint) = (own filter).isSome := by
  have isListed : filter ∈ none :: Verb.all.map some := by
    cases filter with
    | none => exact mem_cons_self
    | some verb => exact mem_cons_of_mem _ (mem_map_of_mem (Verb.mem_all verb))
  rw [Bool.eq_iff_iff, overlaps, any_eq_true]
  constructor
  · rintro ⟨other, -, both⟩
    rw [Bool.and_eq_true] at both
    by_cases same : other = filter
    · exact same ▸ both.1
    · simp [single, same] at both
  · intro isHeld
    exact ⟨filter, isListed, by simp [single, isHeld]⟩

/-- The router has the patterns and the endpoints of the claimed routes. -/
structure Merged {axum : Axum app} (state : Compiling axum) (claimed : List RouteEntry) : Prop where
  registered : state.registered = claimed.map RouteEntry.slot
  held : ∀ pattern, (axum.held state.router pattern).isSome = true ↔
        ∃ entry ∈ claimed, toAxumPath entry.path = pattern
  endpoint : ∀ pattern filter, (axum.endpoint state.router pattern filter).isSome = true ↔
        ∃ entry ∈ claimed, toAxumPath entry.path = pattern ∧ methodFilter entry.method = filter

namespace Merged

variable {axum : Axum app} {router : Router app} {state : Compiling axum}
  {claimed : List RouteEntry}

theorem start (documented : axum.Documented) (router : Router app) :
    Merged (Compiling.start axum router) [] := by
  constructor
  · rfl
  · simp [Compiling.start, documented.held_new]
  · simp [Compiling.start, Axum.endpoint, documented.held_new]

variable {actions left : List (BoundAction app)} {entry : RouteEntry} {added : axum.Router}

/-- A merge panics exactly at a claimed route that cannot stand beside. -/
theorem merge_eq_none_iff (documented : axum.Documented) {takes : String → Bool}
    {clash : String → String → Prop} (panics : axum.PanicsOn takes clash)
    (merged : Merged state claimed)
    (isPrepared : prepared axum router actions entry = .ok (added, left)) :
    axum.merge state.router added = none ↔
      ∃ earlier ∈ claimed, CannotStand clash earlier entry := by
  obtain ⟨own, isAdded⟩ := held_of_prepared documented isPrepared
  rw [panics.merge_eq_none_iff]
  constructor
  · rintro ⟨pattern, other, held, beside, isHeld, isBeside, excludes⟩
    rw [isAdded] at isBeside
    split at isBeside
    · next isPath =>
      subst isPath
      cases isBeside
      split at excludes
      · next samePath =>
        subst samePath
        rw [MethodTable.overlaps_single] at excludes
        have isEndpoint : (axum.endpoint state.router (toAxumPath entry.path)
            (methodFilter entry.method)).isSome = true := by
          rwa [Axum.endpoint, isHeld]
        obtain ⟨earlier, isEarlier, samePath, sameFilter⟩ := (merged.endpoint _ _).mp isEndpoint
        refine ⟨earlier, isEarlier, ?_⟩
        rwa [CannotStand, if_pos samePath]
      · next otherPath =>
        obtain ⟨earlier, isEarlier, rfl⟩ := (merged.held pattern).mp (by rw [isHeld]; rfl)
        refine ⟨earlier, isEarlier, ?_⟩
        rwa [CannotStand, if_neg otherPath]
    · cases isBeside
  · rintro ⟨earlier, isEarlier, cannot⟩
    obtain ⟨held, isHeld⟩ := Option.isSome_iff_exists.mp
        ((merged.held _).mpr ⟨earlier, isEarlier, rfl⟩)
    refine ⟨_, toAxumPath entry.path, held, _, isHeld, by rw [isAdded, if_pos rfl], ?_⟩
    rw [CannotStand] at cannot
    split
    · next samePath =>
      rw [if_pos samePath] at cannot
      have isEndpoint := (merged.endpoint (toAxumPath earlier.path) (methodFilter entry.method)).mpr
          ⟨earlier, isEarlier, rfl, cannot⟩
      rw [Axum.endpoint, isHeld] at isEndpoint
      rwa [MethodTable.overlaps_single]
    · next otherPath => rwa [if_neg otherPath] at cannot

theorem claim (documented : axum.Documented) (merged : Merged state claimed)
    (isPrepared : prepared axum router actions entry = .ok (added, left)) {next : axum.Router}
    (isMerged : axum.merge state.router added = some next) :
    Merged
      { router := next, registered := state.registered ++ [entry.slot], actions := left }
      (claimed ++ [entry]) := by
  obtain ⟨own, isAdded⟩ := held_of_prepared documented isPrepared
  constructor
  · simp [merged.registered]
  · intro pattern
    have together := documented.held_merge isMerged pattern
    have isOne : (axum.held added pattern).isSome = true ↔ toAxumPath entry.path = pattern := by
      rw [isAdded]
      split <;> simp_all [eq_comm]
    simp only [mem_append, mem_singleton, or_and_right, exists_or,
      exists_eq_left, ← merged.held, ← isOne]
    cases atFirst : axum.held state.router pattern with
    | none =>
      rw [atFirst] at together
      simp [show axum.held next pattern = _ from together]
    | some first =>
      rw [atFirst] at together
      cases atSecond : axum.held added pattern with
      | none =>
        rw [atSecond] at together
        simp [show axum.held next pattern = _ from together]
      | some second =>
        rw [atSecond] at together
        obtain ⟨table, -, isTable⟩ := together
        simp [isTable]
  · intro pattern filter
    have isOne :
        (axum.endpoint added pattern filter).isSome = true ↔ toAxumPath entry.path = pattern ∧
            methodFilter entry.method = filter := by
      rw [Axum.endpoint, isAdded]
      by_cases samePath : pattern = toAxumPath entry.path
      · by_cases sameFilter : filter = methodFilter entry.method
        · simp [samePath, sameFilter, MethodTable.single]
        · simp [sameFilter, MethodTable.single, Ne.symm sameFilter]
      · simp [samePath, Ne.symm samePath]
    have together : (axum.endpoint next pattern filter).isSome = true ↔
        (axum.endpoint state.router pattern filter).isSome = true ∨
          (axum.endpoint added pattern filter).isSome = true := by
      simp [Option.isSome_iff_exists, Axum.endpoint_merge documented isMerged, exists_or]
    simp only [mem_append, mem_singleton, or_and_right, exists_or,
      exists_eq_left, ← merged.endpoint, ← isOne]
    exact together

end Merged

/-! ## Overlaps and claims -/

/--
The routes that are handed to axum are the claimants, up to the first that fails
the build, and all of them are merged exactly when they can stand together.
-/
theorem attempts_spec {axum : Axum app} (documented : axum.Documented) {takes : String → Bool}
    {clash : String → String → Prop} (panics : axum.PanicsOn takes clash)
    {router : Router app} {state : Compiling axum} {claimed : List RouteEntry}
    (merged : Merged state claimed) (proper : ∀ entry ∈ claimed, isProper router takes entry = true)
    (stand : claimed.Pairwise fun earlier later => ¬CannotStand clash earlier later)
    (entries : List RouteEntry) :
    let claims :=
      (entries.foldl (FirstClaim.claim RouteEntry.slot) claimed).takeWhile (isProper router takes)
    ((∀ attempt ∈ attempts axum router state entries,
        axum.merge attempt.router attempt.added ≠ none) →
      claimed ++ (attempts axum router state entries).map (·.entry) = claims ∧
        claims.Pairwise fun earlier later => ¬CannotStand clash earlier later) ∧
      (claims.Pairwise (fun earlier later =>
          ¬CannotStand clash earlier later) →
        ∀ attempt ∈ attempts axum router state entries,
          axum.merge attempt.router attempt.added ≠ none) := by
  induction entries generalizing state claimed with
  | nil =>
    have all : claimed.takeWhile (isProper router takes) = claimed :=
      takeWhile_eq_self_iff.mpr proper
    simpa [attempts, all] using stand
  | cons entry rest ih =>
    rw [foldl_cons, FirstClaim.claim, ← merged.registered, attempts]
    split
    · exact ih merged proper stand
    · have isOk : (prepared axum router state.actions entry).isOk = isProper router takes entry :=
        isOk_prepared panics state.actions entry
      obtain ⟨later, isClaims⟩ : ∃ later,
          rest.foldl (FirstClaim.claim RouteEntry.slot) (claimed ++ [entry]) =
            claimed ++ [entry] ++ later :=
        FirstClaim.exists_foldl_claim _ _
      split
      · next failure isFailed =>
        have notProper : isProper router takes entry = false := by
          rw [← isOk, isFailed]
          rfl
        rw [isClaims, append_assoc, takeWhile_append_of_pos proper, singleton_append,
          takeWhile_cons_of_neg (by simp [notProper])]
        simpa using stand
      · next added left isPrepared =>
        have isProper : isProper router takes entry = true := by
          rw [← isOk, isPrepared]
          rfl
        have newProper :
            ∀ other ∈ claimed ++ [entry], Routing.isProper router takes other = true := by
          rw [forall_mem_append, forall_mem_singleton]
          exact ⟨proper, isProper⟩
        have cannot := merged.merge_eq_none_iff documented panics isPrepared
        cases isMerged : axum.merge state.router added with
        | none =>
          obtain ⟨earlier, isEarlier, excluded⟩ := cannot.mp isMerged
          constructor
          · intro merges
            exact absurd isMerged (merges _ mem_cons_self)
          · rw [isClaims, takeWhile_append_of_pos newProper]
            intro together
            have both := (pairwise_append.mp together).1
            exact absurd excluded ((pairwise_append.mp both).2.2 earlier isEarlier entry
              (mem_singleton_self entry))
        | some next =>
          have newStand :
              (claimed ++ [entry]).Pairwise fun earlier later =>
                ¬CannotStand clash earlier later := by
            rw [pairwise_append]
            refine ⟨stand, pairwise_singleton _ _, ?_⟩
            intro earlier isEarlier other isEntry excluded
            rw [mem_singleton] at isEntry
            subst isEntry
            have isNone := cannot.mpr ⟨earlier, isEarlier, excluded⟩
            rw [isMerged] at isNone
            cases isNone
          have further := ih (merged.claim documented isPrepared isMerged) newProper newStand
          simp only [forall_mem_cons, isMerged, ne_eq,
            reduceCtorEq, not_false_eq_true, true_and, map_cons]
          simpa only [append_assoc, singleton_append] using further

section Builds

variable {axum : Axum app} (documented : axum.Documented) {takes : String → Bool}
  {clash : String → String → Prop} (panics : axum.PanicsOn takes clash) (router : Router app)

include documented panics

theorem canStandTogether_of_neverOverlaps (never : NeverOverlaps axum router) :
    CanStandTogether router takes clash :=
  ((attempts_spec documented panics (Merged.start documented router) (by simp)
    .nil router.getRoutes).1 never.merges).2

theorem neverOverlaps_of_canStandTogether (together : CanStandTogether router takes clash) :
    NeverOverlaps axum router := by
  obtain ⟨handed, merges⟩ :=
    attempts_spec documented panics (Merged.start documented router) (by simp) .nil router.getRoutes
  have allMerge := merges together
  refine ⟨?_, allMerge⟩
  have areClaims := (handed allMerge).1
  rw [nil_append] at areClaims
  rw [buildAttempts, areClaims]
  refine together.imp_of_mem fun isEarlier isLater stand => ?_
  rintro ⟨sameFilter, sameTemplate⟩
  have areTaken {entry : RouteEntry} (isClaim : entry ∈ handedClaims router takes) :
      takes (toAxumPath entry.path) = true := by
    have isProper := mem_takeWhile_imp isClaim
    simp only [Routing.isProper, Bool.and_eq_true] at isProper
    exact isProper.2
  apply stand
  rw [CannotStand]
  split
  · exact sameFilter
  · next otherPath =>
    exact panics.clash_of_sameTemplate (areTaken isEarlier) (areTaken isLater)
      otherPath sameTemplate

/-- Claimants that cannot stand together make the build panic. -/
theorem clashing_claims_panic (clashes : ¬ CanStandTogether router takes clash) :
    tryIntoAxumRouter axum router = .error .panics := by
  have overlaps : ∃ attempt ∈ buildAttempts axum router,
      axum.merge attempt.router attempt.added = none := by
    by_contra noOverlap
    have merges : ∀ attempt ∈ buildAttempts axum router,
        axum.merge attempt.router attempt.added ≠ none :=
      fun attempt isIn isNone => noOverlap ⟨attempt, isIn, isNone⟩
    exact clashes ((attempts_spec documented panics (Merged.start documented router) (by simp)
      .nil router.getRoutes).1 merges).2
  obtain ⟨attempt, isAttempt, isNone⟩ := overlaps
  exact tryIntoAxumRouter_of_overlap axum router isAttempt isNone

end Builds

/-- No build overlaps exactly when the claimants can stand together. -/
theorem neverOverlaps_iff_canStandTogether {axum : Axum app} (documented : axum.Documented)
    {takes : String → Bool} {clash : String → String → Prop} (panics : axum.PanicsOn takes clash)
    (router : Router app) : NeverOverlaps axum router ↔ CanStandTogether router takes clash :=
  ⟨canStandTogether_of_neverOverlaps documented panics router,
    neverOverlaps_of_canStandTogether documented panics router⟩

/-! ## Two spellings of a path -/

def sameTemplate (pattern other : String) : Bool :=
  pattern ≠ other && requestTemplate pattern = requestTemplate other

/-- Whether a router has a pattern that cannot stand beside one of another. -/
def PlainRouter.clashes (first second : PlainRouter) : Bool :=
  first.patterns.any fun pattern =>
    (first.held pattern).isSome &&
      second.patterns.any fun other => (second.held other).isSome && sameTemplate pattern other

/-- The endpoints of both routers, unless they clash or overlap. -/
def PlainRouter.mergeApart (first second : PlainRouter) : Option PlainRouter :=
  if first.clashes second then none
  else first.merge second

def templateAxum : Axum plainApp :=
  { plainAxum with merge := PlainRouter.mergeApart }

theorem PlainRouter.held_mergeApart {first second router : PlainRouter}
    (isMerged : first.mergeApart second = some router) (pattern : String) :
    MethodTable.MergedAs (first.held pattern) (second.held pattern) (router.held pattern) := by
  unfold mergeApart at isMerged
  split at isMerged
  · cases isMerged
  · exact PlainRouter.held_merge isMerged pattern

theorem templateAxum_documented : templateAxum.Documented :=
  { plainAxum_documented with held_merge := PlainRouter.held_mergeApart }

def takesSlashed (pattern : String) : Bool := pattern.toList.head? = some '/'

variable {first second : PlainRouter}

theorem PlainRouter.clashes_eq_true_iff :
    first.clashes second = true ↔
      ∃ pattern other, (first.held pattern).isSome = true ∧ (second.held other).isSome = true ∧
          sameTemplate pattern other = true := by
  simp only [clashes, any_eq_true, Bool.and_eq_true]
  constructor
  · rintro ⟨pattern, -, isHeld, other, -, isBeside, same⟩
    exact ⟨pattern, other, isHeld, isBeside, same⟩
  · rintro ⟨pattern, other, isHeld, isBeside, same⟩
    exact ⟨pattern, first.listed pattern isHeld, isHeld, other,
      second.listed other isBeside, isBeside, same⟩

theorem PlainRouter.overlaps_eq_true_iff :
    first.overlaps second = true ↔
      ∃ pattern own added, first.held pattern = some own ∧ second.held pattern = some added ∧
          own.overlaps added = true := by
  simp only [overlaps, any_eq_true]
  constructor
  · rintro ⟨pattern, -, overlap⟩
    cases isHeld : first.held pattern with
    | none => simp [isHeld] at overlap
    | some own =>
      cases isBeside : second.held pattern with
      | none => simp [isBeside] at overlap
      | some added =>
        exact ⟨pattern, own, added, isHeld, isBeside, by simpa [isHeld, isBeside] using overlap⟩
  · rintro ⟨pattern, own, added, isHeld, isBeside, overlap⟩
    exact ⟨pattern, first.listed pattern (by rw [isHeld]; rfl),
      by simpa [isHeld, isBeside] using overlap⟩

theorem PlainRouter.mergeApart_eq_none_iff :
    first.mergeApart second = none ↔
      ∃ pattern other own added, first.held pattern = some own ∧ second.held other = some added ∧
            if pattern = other then own.overlaps added = true
            else sameTemplate pattern other = true := by
  have isNone : first.mergeApart second = none ↔
      first.clashes second = true ∨ first.overlaps second = true := by
    simp only [mergeApart, merge]
    split
    · next isClash => simp [isClash]
    · next noClash => simp [noClash]
  rw [isNone, clashes_eq_true_iff, overlaps_eq_true_iff]
  constructor
  · rintro (⟨pattern, other, isHeld, isBeside, same⟩ |
      ⟨pattern, own, added, isHeld, isBeside, overlap⟩)
    · obtain ⟨own, isOwn⟩ := Option.isSome_iff_exists.mp isHeld
      obtain ⟨added, isAdded⟩ := Option.isSome_iff_exists.mp isBeside
      have differs : pattern ≠ other := by
        simp only [sameTemplate, Bool.and_eq_true] at same
        simpa using same.1
      exact ⟨pattern, other, own, added, isOwn, isAdded, by rwa [if_neg differs]⟩
    · exact ⟨pattern, pattern, own, added, isHeld, isBeside, by rwa [if_pos rfl]⟩
  · rintro ⟨pattern, other, own, added, isHeld, isBeside, excludes⟩
    split at excludes
    · next samePattern =>
      subst samePattern
      exact .inr ⟨pattern, own, added, isHeld, isBeside, excludes⟩
    · exact .inl ⟨pattern, other, by rw [isHeld]; rfl, by rw [isBeside]; rfl, excludes⟩

theorem templateAxum_panicsOn :
    templateAxum.PanicsOn takesSlashed fun pattern other => sameTemplate pattern other = true := by
  constructor
  · intro pattern methodRouter
    simp only [templateAxum, plainAxum, takesSlashed]
    split <;> simp_all
  · exact fun first second => PlainRouter.mergeApart_eq_none_iff
  · intro pattern other _ _ differs same
    simp [sameTemplate, differs, same]

theorem homeTable_never_overlaps : NeverOverlaps templateAxum homeTable := by
  refine (neverOverlaps_iff_canStandTogether templateAxum_documented templateAxum_panicsOn
    homeTable).mpr ?_
  unfold CanStandTogether CannotStand
  decide +kernel

def userTable : Router plainApp :=
  [.action "GET" "/users/{user}" "show" "show",
    .action "GET" "/users/{user:slug}" "show_by_slug" "show-by-slug"].foldl Router.apply Router.new

/-- Two selectors of one parameter are two slots and one pattern. -/
theorem selectors_of_one_parameter_overlap :
    ¬ ∀ (axum : Axum plainApp), axum.Documented →
      ∀ takes clash, axum.PanicsOn takes clash →
        ∀ router : Router plainApp, Router.Registers Router.new router →
          NeverOverlaps axum router := by
  intro apart
  have never := apart templateAxum templateAxum_documented _ _ templateAxum_panicsOn
      userTable (Router.registers_calls _ _)
  have together := canStandTogether_of_neverOverlaps templateAxum_documented
      templateAxum_panicsOn userTable never
  have overlap :
      ¬(handedClaims userTable takesSlashed).Pairwise fun earlier later =>
        ¬(toAxumPath earlier.path = toAxumPath later.path ∧
          methodFilter earlier.method = methodFilter later.method) := by
    decide +kernel
  refine overlap (together.imp fun stand both => stand ?_)
  rw [CannotStand, if_pos both.1]
  exact both.2

theorem user_table_panics : tryIntoAxumRouter templateAxum userTable = .error .panics := by
  refine clashing_claims_panic templateAxum_documented templateAxum_panicsOn userTable
    fun together => ?_
  have overlap : ¬ (handedClaims userTable takesSlashed).Pairwise fun earlier later =>
      ¬ (toAxumPath earlier.path = toAxumPath later.path ∧
        methodFilter earlier.method = methodFilter later.method) := by
    decide +kernel
  refine overlap (together.imp fun stand both => stand ?_)
  rw [CannotStand, if_pos both.1]
  exact both.2

end Rustasea.Routing
