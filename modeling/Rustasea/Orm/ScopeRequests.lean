import Mathlib.Data.Fintype.Order
import Rustasea.Orm.PlaceholderNumbering
import Rustasea.Orm.WhereMeaning

namespace Rustasea.Orm

open TransitionSystem List QueryBuilder
open BooleanText (textRequires readsConjunction)

/-!
# Scopes conjoin with the caller's predicate

A session runs the builder and logs beside it what was asked: the caller's
own chain, which is never taken back, and the applications of global scopes,
which stay in force until they are bypassed or trashed rows are asked for.
The WHERE clause means the caller's chain and every scope in force, as long
as no run is torn apart by precedence and a suppressed guard is required by
another run.
-/

variable {Json : Type}

open QueryBuilder (guardText softDeletesType)

/-! ## Sessions -/

/-- A scope that adds constraints only, or the built-in soft-delete scope. -/
def GlobalScopeEntry.IsPlain (entry : GlobalScopeEntry Json) : Prop :=
  if entry.typeId = softDeletesType then entry.body = [.withSoftDeletes true]
  else ∀ clause ∈ entry.body, clause.isMode = false

instance [DecidableEq Json] (entry : GlobalScopeEntry Json) :
    Decidable entry.IsPlain := by
  unfold GlobalScopeEntry.IsPlain
  infer_instance

def appended (before after : QueryBuilder Json) : List (Condition Json) :=
  after.conditions.drop before.conditions.length

/-- One application of a scope, with the conditions it asked for. -/
structure Applied (Json : Type) where
  owner : TypeId
  conditions : List (Condition Json)
  deriving DecidableEq

def guardApplied : Applied Json where
  owner := softDeletesType
  conditions :=
    [{ glue := .and, sql := written guardText, scopeType := some softDeletesType, passed := [] }]

/-- A builder with what was asked of it. -/
structure Session (Json : Type) where
  builder : QueryBuilder Json
  caller : List (Condition Json)
  inForce : List (Applied Json)

namespace Session

/-- Start a query against `table`. -/
def ofTable (table : String) : Session Json where
  builder := .ofTable table
  caller := []
  inForce := []

def callerAsks (clause : Clause Json) (before after : QueryBuilder Json) : List (Condition Json) :=
  match clause with
  | .withSoftDeletes _ | .withTrashed => []
  | .onlyTrashed =>
    [{ glue := .and, sql := written "deleted_at IS NOT NULL", scopeType := none, passed := [] }]
  | _ => appended before after

/-- The soft-delete scope, unless trashed rows were asked for. -/
def guardAsked (before : QueryBuilder Json) : List (Applied Json) :=
  if before.softDeleteGuard = some true then []
  else [guardApplied]

def inForceAfter (clause : Clause Json) (session : Session Json) : List (Applied Json) :=
  match clause with
  | .withSoftDeletes true => session.inForce ++ guardAsked session.builder
  | .withTrashed | .onlyTrashed =>
    session.inForce.filter fun applied => applied.owner != softDeletesType
  | _ => session.inForce

def clause? (backend : Backend Json) (clause : Clause Json)
    (session : Session Json) : Option (Session Json) :=
  match session.builder.apply backend clause with
  | .error _ => none
  | .ok after =>
    some
      { builder := after
        caller := session.caller ++ callerAsks clause session.builder after
        inForce := session.inForceAfter clause }

def scopeAsks (entry : GlobalScopeEntry Json)
    (before after : QueryBuilder Json) : List (Applied Json) :=
  if entry.typeId = softDeletesType then guardAsked before
  else if (appended before after).isEmpty then []
  else [{ owner := entry.typeId, conditions := appended before after }]

/-- Apply the scopes one after the other, skipping the bypassed ones. -/
def applyScopes? (backend : Backend Json) : List (GlobalScopeEntry Json) → Session Json →
    Option (Session Json)
  | [], session => some session
  | entry :: rest, session =>
    if entry.typeId ∈ session.builder.bypassedScopes then applyScopes? backend rest session
    else
      match QueryBuilder.applyBody backend entry.body
          { session.builder with currentScope := some entry.typeId } with
      | .error _ => none
      | .ok after =>
        applyScopes? backend rest
          { session with
            builder := after
            inForce := session.inForce ++ scopeAsks entry session.builder after }

def resolved? (backend : Backend Json) (session : Session Json) : Option (Session Json) :=
  if session.builder.globalScopesApplied ||
      session.builder.globalScopesBypassed then
    some { session with builder := { session.builder with globalScopesApplied := true } }
  else
    match session.applyScopes? backend session.builder.globalScopes with
    | none => none
    | some applied =>
      some
        { applied with
          builder :=
            { applied.builder with currentScope := none, globalScopesApplied := true } }

def call? (backend : Backend Json) (session : Session Json)
    (call : Call Json) : Option (Session Json) :=
  match call with
  | .clause clause => session.clause? backend clause
  | .withGlobalScopes scopes =>
    some { session with builder := session.builder.withGlobalScopes scopes }
  | .withoutGlobalScopes =>
    some { session with builder := session.builder.withoutGlobalScopes, inForce := [] }
  | .withoutGlobalScope typeId =>
    some
      { session with
        builder := session.builder.withoutGlobalScope typeId
        inForce := session.inForce.filter fun applied => applied.owner != typeId }
  | .resolved => session.resolved? backend

/-- The runs of a request: the caller's chain and the scopes in force. -/
def runs (session : Session Json) : List (List (Condition Json)) :=
  session.caller :: session.inForce.map Applied.conditions

/-- The value of a request: the caller's predicate and every scope. -/
def requestValue {Truth : Type} [Lattice Truth] [OrderTop Truth] (negate : Truth → Truth)
    (value : Atom → Truth) (session : Session Json) : Option Truth :=
  QueryBuilder.runsValue negate value session.runs

/-- The scopes in force that own a condition of the builder. -/
def present (session : Session Json) : List (Applied Json) :=
  session.inForce.filter fun applied =>
    session.builder.conditions.any fun condition => condition.scopeType == some applied.owner

end Session

/--
The calls that take no condition of another party: an attached scope only
adds constraints, and trashed rows are asked for only while the guard text is
the soft-delete scope's own.
-/
def KeepsRequest (session : Session Json) : Call Json → Prop
  | .clause .withTrashed | .clause .onlyTrashed =>
    session.builder.softDeleteGuard = some false → ∀ condition ∈ session.builder.conditions,
        printSql condition.sql = guardText → condition.scopeType = some softDeletesType
  | .withGlobalScopes scopes => ∀ entry ∈ scopes, entry.IsPlain
  | _ => True

instance [DecidableEq Json]
    (session : Session Json) (call : Call Json) : Decidable (KeepsRequest session call) := by
  unfold KeepsRequest
  split <;> infer_instance

/--
Every run reads; the caller's run and the scopes' run stand alone when both
are there; the scopes in the builder are one, or conjunctions glued by `AND`;
and a scope that is not in the builder is required by a run that is.
-/
structure Separable (session : Session Json) : Prop where
  reads : ∀ run ∈ session.runs, run ≠ [] →
      (BooleanText.read (QueryBuilder.renderConditions run)).isSome = true
  apart : session.caller = [] ∨ session.builder.scopedConditions = [] ∨
      (QueryBuilder.standsAlone session.caller = true ∧
        QueryBuilder.standsAlone session.builder.scopedConditions = true)
  scopes : session.present.length ≤ 1 ∨
      (QueryBuilder.hasOr session.builder.scopedConditions = false ∧ ∀ applied ∈ session.present,
          readsConjunction (QueryBuilder.renderConditions applied.conditions) =
            true)
  guard : ∀ applied ∈ session.inForce, applied ∉ session.present →
      ∃ run ∈ session.caller :: session.present.map Applied.conditions,
        textRequires [.text guardText] (QueryBuilder.renderConditions run) =
          true

/-! ## What clause calls append -/

namespace QueryBuilder

/-- The call appends conditions of the current scope and no more. -/
structure Appends (builder after : QueryBuilder Json) (added : List (Condition Json)) : Prop where
  conditions : after.conditions = builder.conditions ++ added
  scope : ∀ condition ∈ added, condition.scopeType = builder.currentScope
  guard : after.softDeleteGuard = builder.softDeleteGuard
  currentScope : after.currentScope = builder.currentScope

variable {builder after : QueryBuilder Json}

theorem Appends.appended_eq {added : List (Condition Json)}
    (appends : Appends builder after added) : appended builder after = added := by
  rw [appended, appends.conditions, drop_left]

theorem Appends.trans {builder between after : QueryBuilder Json}
    {first second : List (Condition Json)} (earlier : Appends builder between first)
    (later : Appends between after second) : Appends builder after (first ++ second) where
  conditions := by
    rw [later.conditions, earlier.conditions, append_assoc]
  scope := by
    intro condition member
    rcases mem_append.mp member with inFirst | inSecond
    · exact earlier.scope condition inFirst
    · rw [later.scope condition inSecond, earlier.currentScope]
  guard := later.guard.trans earlier.guard
  currentScope := later.currentScope.trans earlier.currentScope

theorem appends_nothing (conditions : after.conditions = builder.conditions)
    (guard : after.softDeleteGuard = builder.softDeleteGuard)
    (currentScope : after.currentScope = builder.currentScope) :
    ∃ added, Appends builder after added :=
  ⟨[], by simpa using conditions, by simp, guard, currentScope⟩

/-- A call that is no soft-delete mode appends conditions only. -/
theorem appends_apply {backend : Backend Json} {clause : Clause Json}
    (noMode : clause.isMode = false)
    (made : builder.apply backend clause = .ok after) : ∃ added, Appends builder after added := by
  cases sets : clause.setsNone with
  | true =>
    have untouched := untouched_apply sets made
    exact appends_nothing untouched.conditions untouched.guard untouched.scopes.currentScope
  | false =>
    obtain ⟨_, _, _, _, rfl⟩ := pushed_apply noMode sets made
    exact ⟨_, rfl, by simp, rfl, rfl⟩

theorem appends_applyBody {backend : Backend Json} {body : List (Clause Json)}
    (noMode : ∀ clause ∈ body, clause.isMode = false)
    (made : applyBody backend body builder = .ok after) : ∃ added, Appends builder after added := by
  induction body generalizing builder with
  | nil =>
    obtain rfl := Except.ok.inj made
    exact appends_nothing rfl rfl rfl
  | cons clause rest ih =>
    unfold applyBody at made
    split at made
    · simp at made
    · next between taken =>
      obtain ⟨first, earlier⟩ := appends_apply (noMode clause mem_cons_self) taken
      obtain ⟨second, later⟩ := ih
          (fun other member => noMode other (mem_cons_of_mem _ member))
          made
      exact ⟨first ++ second, earlier.trans later⟩

end QueryBuilder

/-! ## The log accounts for the conditions -/

/-- The builder holds what was asked, but for a guard that was suppressed. -/
structure Session.Accounted (session : Session Json) : Prop where
  caller : session.builder.callerConditions = session.caller
  scopedRun : ∃ kept : List (Applied Json),
      kept.Sublist session.inForce ∧ session.builder.scopedConditions =
          (kept.map Applied.conditions).flatten ∧
        ∀ applied ∈ session.inForce, applied ∈ kept ∨ applied = guardApplied
  owned : ∀ applied ∈ session.inForce, applied.conditions ≠ [] ∧
        ∀ condition ∈ applied.conditions, condition.scopeType = some applied.owner
  guards : ∀ applied ∈ session.inForce, applied.owner = softDeletesType → applied = guardApplied
  guardState : guardApplied ∈ session.inForce → session.builder.softDeleteGuard = some false

namespace Session

variable {session : Session Json}

theorem Accounted.congr (accounted : session.Accounted) (after : QueryBuilder Json)
    (conditions : after.conditions = session.builder.conditions)
    (guard : after.softDeleteGuard = session.builder.softDeleteGuard) :
    Accounted { session with builder := after } := by
  obtain ⟨kept, sublist, scopedRun, accounts⟩ := accounted.scopedRun
  refine ⟨?_, ⟨kept, sublist, ?_, accounts⟩, accounted.owned, accounted.guards, ?_⟩
  · rw [← accounted.caller]
    unfold QueryBuilder.callerConditions
    rw [conditions]
  · rw [← scopedRun]
    unfold QueryBuilder.scopedConditions
    rw [conditions]
  · intro inForce
    rw [guard]
    exact accounted.guardState inForce

variable {added : List (Condition Json)}

private theorem filter_append_of_scope (first : List (Condition Json)) {owner : Option TypeId}
    (scope : ∀ condition ∈ added, condition.scopeType = owner) (keeps : Option TypeId → Bool) :
    (first ++ added).filter (fun condition => keeps condition.scopeType) =
      first.filter (fun condition => keeps condition.scopeType) ++
        if keeps owner then added else [] := by
  rw [filter_append]
  congr 1
  split
  · next kept =>
    rw [filter_eq_self]
    intro condition member
    rw [scope condition member, kept]
  · next dropped =>
    rw [filter_eq_nil_iff]
    intro condition member
    rw [scope condition member]
    exact dropped

variable {after : QueryBuilder Json}

theorem Accounted.appends_caller (accounted : session.Accounted)
    (outside : session.builder.currentScope = none)
    (appends : session.builder.Appends after added) :
    Accounted
      { session with
        builder := after
        caller := session.caller ++ added } := by
  have scope := appends.scope
  rw [outside] at scope
  obtain ⟨kept, sublist, scopedRun, accounts⟩ := accounted.scopedRun
  refine ⟨?_, ⟨kept, sublist, ?_, accounts⟩, accounted.owned, accounted.guards, ?_⟩
  · rw [← accounted.caller]
    unfold QueryBuilder.callerConditions
    rw [appends.conditions]
    exact filter_append_of_scope session.builder.conditions scope Option.isNone
  · rw [← scopedRun]
    unfold QueryBuilder.scopedConditions
    rw [appends.conditions]
    simpa using filter_append_of_scope session.builder.conditions scope Option.isSome
  · intro inForce
    rw [appends.guard]
    exact accounted.guardState inForce

/-- A scope comes into force; a guard whose text is there already adds no condition. -/
theorem Accounted.extends {applied : Applied Json} (accounted : session.Accounted)
    (owned : applied.conditions ≠ [] ∧
      ∀ condition ∈ applied.conditions, condition.scopeType = some applied.owner)
    (isGuard : applied.owner = softDeletesType → applied = guardApplied)
    (conditions : after.conditions = session.builder.conditions ++ applied.conditions ∨
      applied = guardApplied ∧ after.conditions = session.builder.conditions)
    (guard : guardApplied ∈ session.inForce ++ [applied] → after.softDeleteGuard = some false) :
    Accounted { session with builder := after, inForce := session.inForce ++ [applied] } := by
  obtain ⟨kept, sublist, scopedRun, accounts⟩ := accounted.scopedRun
  have allOwned :=
    forall_mem_append.mpr ⟨accounted.owned, forall_mem_singleton.mpr owned⟩
  have allGuards :=
    forall_mem_append.mpr ⟨accounted.guards, forall_mem_singleton.mpr isGuard⟩
  rcases conditions with conditions | ⟨rfl, conditions⟩
  · refine ⟨?_, ⟨kept ++ [applied], sublist.append (.refl _), ?_, ?_⟩, allOwned, allGuards, guard⟩
    · rw [← accounted.caller]
      unfold QueryBuilder.callerConditions
      rw [conditions]
      simpa using filter_append_of_scope session.builder.conditions owned.2 Option.isNone
    · rw [map_append, flatten_append, ← scopedRun]
      unfold QueryBuilder.scopedConditions
      rw [conditions]
      simpa using filter_append_of_scope session.builder.conditions owned.2 Option.isSome
    · refine forall_mem_append.mpr ⟨fun other old => ?_, by simp⟩
      exact (accounts other old).imp_left fun inKept => mem_append_left _ inKept
  · refine ⟨?_, ⟨kept, sublist.trans (sublist_append_left _ _), ?_, ?_⟩,
      allOwned, allGuards, guard⟩
    · rw [← accounted.caller]
      unfold QueryBuilder.callerConditions
      rw [conditions]
    · rw [← scopedRun]
      unfold QueryBuilder.scopedConditions
      rw [conditions]
    · exact forall_mem_append.mpr ⟨accounts, by simp⟩

/-- The guard is pushed, found under another owner, or not asked for. -/
theorem Accounted.guarded {before : QueryBuilder Json} (accounted : session.Accounted)
    (conditions : before.conditions = session.builder.conditions)
    (guard : before.softDeleteGuard = session.builder.softDeleteGuard) :
    Accounted
      { session with
        builder := before.applySoftDeleteGuard
        inForce := session.inForce ++ guardAsked session.builder } := by
  unfold QueryBuilder.applySoftDeleteGuard guardAsked
  rw [guard]
  split_ifs with lifted isThere
  · rw [append_nil]
    exact accounted.congr before conditions guard
  · exact accounted.extends (by simp [guardApplied]) (fun _ => rfl) (.inr ⟨rfl, conditions⟩)
      fun _ => rfl
  · refine accounted.extends (by simp [guardApplied]) (fun _ => rfl) (.inl ?_) fun _ => rfl
    simp [conditions, guardApplied]

variable {kept : List (Applied Json)}

private theorem flatten_retain
    (owned : ∀ applied ∈ kept, ∀ condition ∈ applied.conditions,
      condition.scopeType = some applied.owner) (keeps : TypeId → Bool) :
    (kept.map Applied.conditions).flatten.filter (fun condition => condition.scopeType.all keeps) =
      ((kept.filter fun applied => keeps applied.owner).map Applied.conditions).flatten := by
  induction kept with
  | nil => rfl
  | cons applied rest ih =>
    have later := ih fun other member => owned other (mem_cons_of_mem _ member)
    have own := owned applied mem_cons_self
    rw [map_cons, flatten_cons, filter_append, later]
    by_cases isKept : keeps applied.owner = true
    · have all : applied.conditions.filter
            (fun condition => condition.scopeType.all keeps) =
          applied.conditions := by
        rw [filter_eq_self]
        intro condition member
        rw [own condition member, Option.all_some, isKept]
      rw [all]
      simp [isKept]
    · have none : applied.conditions.filter
            (fun condition => condition.scopeType.all keeps) =
          [] := by
        rw [filter_eq_nil_iff]
        intro condition member
        rw [own condition member]
        exact isKept
      rw [none]
      simp [isKept]

theorem Accounted.retain (accounted : session.Accounted)
    (keeps : TypeId → Bool)
    (conditions : after.conditions =
        session.builder.conditions.filter fun condition => condition.scopeType.all keeps)
    (guard : keeps softDeletesType = true →
      after.softDeleteGuard = session.builder.softDeleteGuard) :
    Accounted
      { session with
        builder := after
        inForce :=
          session.inForce.filter fun applied => keeps applied.owner } := by
  obtain ⟨kept, sublist, scopedRun, accounts⟩ := accounted.scopedRun
  refine
    ⟨?_, ⟨kept.filter fun applied => keeps applied.owner, sublist.filter _, ?_, ?_⟩, ?_, ?_, ?_⟩
  · rw [← accounted.caller]
    unfold QueryBuilder.callerConditions
    rw [conditions, filter_filter]
    apply filter_congr
    intro condition _
    cases condition.scopeType <;> simp
  · rw [← flatten_retain
      (fun applied member => (accounted.owned applied (sublist.subset member)).2),
      ← scopedRun]
    unfold QueryBuilder.scopedConditions
    rw [conditions, filter_filter, filter_filter]
    apply filter_congr
    intro condition _
    exact Bool.and_comm _ _
  · intro applied member
    rw [mem_filter] at member
    exact (accounts applied member.1).imp_left fun inKept => mem_filter.mpr ⟨inKept, member.2⟩
  · intro applied member
    exact accounted.owned applied (mem_of_mem_filter member)
  · intro applied member
    exact accounted.guards applied (mem_of_mem_filter member)
  · intro member
    rw [mem_filter] at member
    rw [guard member.2]
    exact accounted.guardState member.1

theorem Accounted.owner_of_scopeType
    (accounted : session.Accounted) (sublist : kept.Sublist session.inForce)
    (scopedRun : session.builder.scopedConditions = (kept.map Applied.conditions).flatten)
    {condition : Condition Json} {owner : TypeId} (member : condition ∈ session.builder.conditions)
    (isOwned : condition.scopeType = some owner) :
    ∃ applied ∈ kept, applied.owner = owner ∧ condition ∈ applied.conditions := by
  have inRun : condition ∈ session.builder.scopedConditions :=
    mem_filter.mpr ⟨member, by simp [isOwned]⟩
  rw [scopedRun, mem_flatten] at inRun
  obtain ⟨run, isRun, inRun⟩ := inRun
  obtain ⟨applied, inKept, rfl⟩ := mem_map.mp isRun
  have own := (accounted.owned applied (sublist.subset inKept)).2 condition inRun
  rw [isOwned] at own
  exact ⟨applied, inKept, (Option.some.inj own).symm, inRun⟩

theorem print_guardApplied {condition : Condition Json}
    (member : condition ∈ (guardApplied : Applied Json).conditions) :
    printSql condition.sql = guardText := by
  rw [guardApplied, mem_singleton] at member
  subst member
  rfl

/-- Lifting the guard takes the soft-delete scope out of force. -/
theorem Accounted.lift (accounted : session.Accounted)
    (ownGuard : session.builder.softDeleteGuard = some false →
        ∀ condition ∈ session.builder.conditions, printSql condition.sql = guardText →
          condition.scopeType = some softDeletesType) :
    Accounted
      { session with
        builder := session.builder.liftGuard
        inForce :=
          session.inForce.filter fun applied =>
            applied.owner != softDeletesType } := by
  obtain ⟨kept, sublist, scopedRun, -⟩ := accounted.scopedRun
  have guardOf : ∀ condition ∈ session.builder.conditions,
      condition.scopeType = some softDeletesType → guardApplied ∈ session.inForce ∧
        printSql condition.sql = guardText := by
    intro condition member isOwned
    obtain ⟨applied, inKept, isGuard, inApplied⟩ :=
      accounted.owner_of_scopeType sublist scopedRun member isOwned
    have inForce := sublist.subset inKept
    obtain rfl := accounted.guards applied inForce isGuard
    exact ⟨inForce, print_guardApplied inApplied⟩
  refine accounted.retain (fun owner => owner != softDeletesType) ?_ ?_
  · unfold QueryBuilder.liftGuard
    dsimp only
    split
    · next applied =>
      apply filter_congr
      intro condition member
      by_cases isGuard : printSql condition.sql = guardText
      · simp [isGuard, ownGuard applied condition member isGuard]
      · have notOwned : condition.scopeType ≠ some softDeletesType :=
          fun isOwned => isGuard (guardOf condition member isOwned).2
        cases owner : condition.scopeType with
        | none => simp [isGuard]
        | some typeId =>
          have other : typeId ≠ softDeletesType := by simpa [owner] using notOwned
          rw [Option.all_some, bne_iff_ne.mpr isGuard, bne_iff_ne.mpr other]
    · next notApplied =>
      symm
      rw [filter_eq_self]
      intro condition member
      cases owner : condition.scopeType with
      | none => rfl
      | some typeId =>
        rw [Option.all_some, bne_iff_ne]
        rintro rfl
        exact notApplied (accounted.guardState (guardOf condition member owner).1)
  · simp

variable {backend : Backend Json} {session after : Session Json}

/-- Applying plain scopes keeps the log accounted for. -/
theorem Accounted.applyScopes {scopes : List (GlobalScopeEntry Json)}
    (accounted : session.Accounted) (plain : ∀ entry ∈ scopes, entry.IsPlain)
    (taken : session.applyScopes? backend scopes = some after) :
    after.Accounted ∧ session.builder.applyScopes backend scopes = .ok after.builder := by
  induction scopes generalizing session with
  | nil =>
    obtain rfl := Option.some.inj taken
    exact ⟨accounted, rfl⟩
  | cons entry rest ih =>
    have plainRest : ∀ other ∈ rest, other.IsPlain :=
      fun other member => plain other (mem_cons_of_mem _ member)
    have isPlain := plain entry mem_cons_self
    unfold Session.applyScopes? at taken
    unfold QueryBuilder.applyScopes
    split_ifs at taken ⊢ with bypassed
    · exact ih accounted plainRest taken
    · split at taken
      · simp at taken
      · next between made =>
        simp only [made]
        refine ih ?_ plainRest taken
        unfold GlobalScopeEntry.IsPlain at isPlain
        unfold scopeAsks
        split_ifs at isPlain ⊢ with isGuard nothing
        · rw [isPlain] at made
          obtain rfl := Except.ok.inj made
          exact accounted.guarded rfl rfl
        · obtain ⟨added, appends⟩ := appends_applyBody isPlain made
          have isAppended : appended session.builder between = added := appends.appended_eq
          rw [isAppended, List.isEmpty_iff] at nothing
          subst nothing
          rw [append_nil]
          apply accounted.congr between
          · simpa using appends.conditions
          · exact appends.guard
        · obtain ⟨added, appends⟩ := appends_applyBody isPlain made
          have isAppended : appended session.builder between = added := appends.appended_eq
          rw [isAppended] at nothing ⊢
          refine accounted.extends ⟨by simpa using nothing, appends.scope⟩
            (fun isSame => absurd isSame isGuard) (.inl appends.conditions) fun member => ?_
          rw [appends.guard]
          refine accounted.guardState ((mem_append.mp member).resolve_right fun isNew => ?_)
          exact isGuard (congrArg Applied.owner (mem_singleton.mp isNew)).symm

theorem Accounted.resolved (accounted : session.Accounted)
    (plain : ∀ entry ∈ session.builder.globalScopes, entry.IsPlain)
    (taken : session.resolved? backend = some after) :
    after.Accounted ∧ session.builder.resolved backend = .ok after.builder := by
  unfold Session.resolved? at taken
  unfold QueryBuilder.resolved
  split at taken
  · next isDone =>
    obtain rfl := Option.some.inj taken
    rw [if_pos isDone]
    exact ⟨accounted.congr _ rfl rfl, rfl⟩
  · next notDone =>
    rw [if_neg notDone]
    split at taken
    · simp at taken
    · next applied isApplied =>
      obtain rfl := Option.some.inj taken
      obtain ⟨accountedApplied, made⟩ := accounted.applyScopes plain isApplied
      rw [made]
      exact ⟨accountedApplied.congr _ rfl rfl, rfl⟩

/-- What every call keeps. -/
structure Invariant (session : Session Json) : Prop where
  accounted : session.Accounted
  outside : session.builder.currentScope = none
  plain : ∀ entry ∈ session.builder.globalScopes, entry.IsPlain

theorem Accounted.clause {clause : Clause Json}
    (accounted : session.Accounted) (outside : session.builder.currentScope = none)
    (keeps : KeepsRequest session (.clause clause))
    (taken : session.clause? backend clause = some after) : after.Accounted := by
  unfold Session.clause? at taken
  split at taken
  · simp at taken
  · next builder made =>
    obtain rfl := Option.some.inj taken
    cases isMode : clause.isMode with
    | false =>
      obtain ⟨added, appends⟩ := appends_apply isMode made
      have asks : callerAsks clause session.builder builder = added := by
        rw [← appends.appended_eq]
        cases clause <;> first | rfl | simp [Clause.isMode] at isMode
      have inForce : session.inForceAfter clause = session.inForce := by
        cases clause <;> first | rfl | simp [Clause.isMode] at isMode
      rw [asks, inForce]
      exact accounted.appends_caller outside appends
    | true =>
      cases clause with
      | withSoftDeletes uses =>
        obtain rfl := Except.ok.inj made
        rw [callerAsks, append_nil]
        cases uses with
        | false => exact accounted.congr _ rfl rfl
        | true => exact accounted.guarded rfl rfl
      | withTrashed =>
        obtain rfl := Except.ok.inj made
        rw [callerAsks, append_nil]
        exact accounted.lift keeps
      | onlyTrashed =>
        obtain rfl := Except.ok.inj made
        refine (accounted.lift keeps).appends_caller outside ⟨rfl, ?_, rfl, rfl⟩
        intro condition member
        rw [mem_singleton.mp member]
        exact outside.symm
      | _ => simp [Clause.isMode] at isMode

theorem invariant_call {call : Call Json} (holds : session.Invariant)
    (keeps : KeepsRequest session call) (taken : session.call? backend call = some after) :
    after.Invariant ∧ Orm.call? backend session.builder call = some after.builder := by
  obtain ⟨accounted, outside, plain⟩ := holds
  cases call with
  | clause clause =>
    have accountedAfter := accounted.clause outside keeps taken
    change session.clause? backend clause = some after at taken
    unfold Session.clause? at taken
    split at taken
    · simp at taken
    · next builder made =>
      obtain rfl := Option.some.inj taken
      have scopes := keepsScopes_apply made
      refine ⟨⟨accountedAfter, ?_, ?_⟩, ?_⟩
      · rw [scopes.currentScope, outside]
      · rw [scopes.globalScopes]
        exact plain
      · simp [Orm.call?, made, Except.toOption]
  | withGlobalScopes scopes =>
    obtain rfl := Option.some.inj taken
    exact ⟨⟨accounted.congr _ rfl rfl, outside, keeps⟩, rfl⟩
  | withoutGlobalScopes =>
    obtain rfl := Option.some.inj taken
    refine ⟨⟨?_, outside, ?_⟩, rfl⟩
    · have retained := accounted.retain (fun _ => false)
          (show
            session.builder.withoutGlobalScopes.conditions = _ by
            apply filter_congr
            intro condition _
            cases condition.scopeType <;> rfl)
          (by simp)
      simpa using retained
    · simp [QueryBuilder.withoutGlobalScopes]
  | withoutGlobalScope typeId =>
    obtain rfl := Option.some.inj taken
    refine ⟨⟨?_, outside, ?_⟩, rfl⟩
    · apply accounted.retain fun owner => owner != typeId
      · apply filter_congr
        intro condition _
        cases owner : condition.scopeType with
        | none => rfl
        | some other =>
          rw [Option.all_some]
          rw [Bool.eq_iff_iff, bne_iff_ne, bne_iff_ne, ne_eq, Option.some.injEq]
      · intro isKept
        have other : typeId ≠ softDeletesType := by
          rintro rfl
          simp at isKept
        exact if_neg other
    · intro entry member
      exact plain entry (mem_of_mem_filter member)
  | resolved =>
    obtain ⟨accountedAfter, made⟩ := accounted.resolved plain taken
    have scopes := keepsScopes_resolved outside made
    refine ⟨⟨accountedAfter, ?_, ?_⟩, ?_⟩
    · rw [scopes.currentScope, outside]
    · rw [scopes.globalScopes]
      exact plain
    · simp [Orm.call?, made, Except.toOption]

/-! ## The rendered clause -/

theorem Accounted.mem_kept_iff
    (accounted : session.Accounted) (sublist : kept.Sublist session.inForce)
    (scopedRun : session.builder.scopedConditions = (kept.map Applied.conditions).flatten)
    (accounts : ∀ applied ∈ session.inForce, applied ∈ kept ∨ applied = guardApplied)
    (applied : Applied Json) : applied ∈ kept ↔ applied ∈ session.present := by
  unfold present
  rw [mem_filter, any_eq_true]
  constructor
  · intro inKept
    have inForce := sublist.subset inKept
    obtain ⟨notEmpty, own⟩ := accounted.owned applied inForce
    obtain ⟨condition, member⟩ := exists_mem_of_ne_nil _ notEmpty
    have inRun : condition ∈ session.builder.scopedConditions := by
      rw [scopedRun, mem_flatten]
      exact ⟨_, mem_map_of_mem inKept, member⟩
    exact ⟨inForce, condition, mem_of_mem_filter inRun, by simp [own condition member]⟩
  · rintro ⟨inForce, condition, member, isOwned⟩
    rw [beq_iff_eq] at isOwned
    rcases accounts applied inForce with inKept | rfl
    · exact inKept
    · obtain ⟨other, inKept, isGuard, -⟩ :=
        accounted.owner_of_scopeType sublist scopedRun member isOwned
      obtain rfl := accounted.guards other (sublist.subset inKept) isGuard
      exact inKept

variable {run : List (Condition Json)}

private theorem runValue_of_reads
    {Truth : Type} [Lattice Truth] [OrderTop Truth] (negate : Truth → Truth) (value : Atom → Truth)
    (reads : run ≠ [] → (BooleanText.read (QueryBuilder.renderConditions run)).isSome = true) :
    ∃ truth, QueryBuilder.runValue negate value run = some truth := by
  unfold QueryBuilder.runValue
  split
  · exact ⟨⊤, rfl⟩
  · next notEmpty =>
    obtain ⟨tree, treeRead⟩ := Option.isSome_iff_exists.mp
        (reads fun empty => notEmpty (by simp [empty]))
    exact ⟨_, by simp [BooleanText.textValue, treeRead]; rfl⟩

private theorem runValue_le_guard {Truth : Type} [Lattice Truth] [OrderTop Truth]
    {negate : Truth → Truth} {value : Atom → Truth} {truth guardTruth : Truth}
    (required : textRequires [.text guardText] (QueryBuilder.renderConditions run) = true)
    (isRun : QueryBuilder.runValue negate value run = some truth)
    (isGuard : QueryBuilder.runValue negate value (guardApplied : Applied Json).conditions =
      some guardTruth) : truth ≤ guardTruth := by
  have guardValue : guardTruth = value [.text guardText] := (Option.some.inj isGuard).symm
  rw [guardValue]
  unfold QueryBuilder.runValue at isRun
  split at isRun
  · next empty =>
    rw [List.isEmpty_iff.mp empty] at required
    change false = true at required
    simp at required
  · exact BooleanText.textValue_le_of_requires negate value required isRun

theorem whereValue_eq_requestValue (accounted : session.Accounted) (separable : Separable session)
    {Truth : Type} [Lattice Truth] [OrderTop Truth] (negate : Truth → Truth)
    (value : Atom → Truth) :
    ∃ truth, session.requestValue negate value = some truth ∧
      QueryBuilder.whereValue negate value session.builder.renderWhereClause = some truth := by
  obtain ⟨kept, sublist, scopedRun, accounts⟩ := accounted.scopedRun
  have isKept := accounted.mem_kept_iff sublist scopedRun accounts
  have valued :
      ∀ run ∈ session.runs, ∃ truth, QueryBuilder.runValue negate value run = some truth :=
    fun run member => runValue_of_reads negate value (separable.reads run member)
  have inRuns : ∀ applied ∈ session.inForce, applied.conditions ∈ session.runs :=
    fun applied member => mem_cons_of_mem _ (mem_map_of_mem member)
  obtain ⟨callerTruth, callerReads⟩ := valued session.caller mem_cons_self
  obtain ⟨keptTruth, keptMeet⟩ := runsValue_isSome (show
        ∀ run ∈ kept.map Applied.conditions,
          ∃ truth, QueryBuilder.runValue negate value run = some truth by
        intro run member
        obtain ⟨applied, inKept, rfl⟩ := mem_map.mp member
        exact valued _ (inRuns applied (sublist.subset inKept)))
  obtain ⟨truth, meet⟩ := runsValue_isSome valued
  have scopedReads : QueryBuilder.runValue negate value
        session.builder.scopedConditions =
      some keptTruth := by
    rw [scopedRun]
    rcases separable.scopes with single | ⟨noOr, conjunctions⟩
    · have few : kept.length ≤ 1 := by
        have ownSublist : kept.Sublist session.present := by
          have filtered :=
            sublist.filter fun applied =>
              session.builder.conditions.any fun condition =>
                condition.scopeType == some applied.owner
          rwa [filter_eq_self.mpr
            (fun applied inKept => (mem_filter.mp ((isKept applied).mp inKept)).2)]
            at filtered
        exact ownSublist.length_le.trans single
      match kept, few, keptMeet with
      | [], _, keptMeet => exact keptMeet
      | [only], _, keptMeet =>
        rw [map_cons] at keptMeet
        unfold QueryBuilder.runsValue QueryBuilder.runsValue at keptMeet
        split at keptMeet
        · next own others isOwn isOthers =>
          obtain rfl := Option.some.inj isOthers
          rw [← keptMeet]
          simpa using isOwn
        · simp at keptMeet
    · rw [scopedRun] at noOr
      refine (runsValue_flatten ?_ ?_ noOr keptMeet).1
      · intro run member
        obtain ⟨applied, inKept, rfl⟩ := mem_map.mp member
        exact (accounted.owned applied (sublist.subset inKept)).1
      · intro run member
        obtain ⟨applied, inKept, rfl⟩ := mem_map.mp member
        exact conjunctions applied ((isKept applied).mp inKept)
  have rendered : QueryBuilder.whereValue negate value
        session.builder.renderWhereClause =
      some (callerTruth ⊓ keptTruth) := by
    apply whereValue_renderWhereClause
    · rw [accounted.caller]
      exact callerReads
    · exact scopedReads
    · rw [accounted.caller]
      exact separable.apart
  refine ⟨truth, meet, ?_⟩
  rw [rendered, Option.some.injEq]
  apply le_antisymm
  · rw [le_runsValue_iff meet]
    intro run member own isOwn
    rcases mem_cons.mp member with rfl | inScopes
    · rw [callerReads, Option.some.injEq] at isOwn
      exact inf_le_left.trans isOwn.le
    · obtain ⟨applied, inForce, rfl⟩ := mem_map.mp inScopes
      have belowKept := (le_runsValue_iff keptMeet keptTruth).mp le_rfl
      by_cases inKept : applied ∈ kept
      · exact inf_le_right.trans (belowKept _ (mem_map_of_mem inKept) own isOwn)
      · -- the guard was suppressed: some run that is there requires it
        obtain rfl := (accounts applied inForce).resolve_left inKept
        obtain ⟨run, isThere, required⟩ := separable.guard guardApplied inForce
            (fun isPresent => inKept ((isKept _).mpr isPresent))
        rcases mem_cons.mp isThere with rfl | inPresent
        · exact inf_le_left.trans (runValue_le_guard required callerReads isOwn)
        · obtain ⟨other, otherPresent, rfl⟩ := mem_map.mp inPresent
          have otherKept := (isKept other).mpr otherPresent
          obtain ⟨otherTruth, otherReads⟩ := valued _ (inRuns other (sublist.subset otherKept))
          exact inf_le_right.trans ((belowKept _ (mem_map_of_mem otherKept) otherTruth
            otherReads).trans
            (runValue_le_guard required otherReads isOwn))
  · have belowAll := (le_runsValue_iff meet truth).mp le_rfl
    apply le_inf
    · exact belowAll _ mem_cons_self _ callerReads
    · rw [le_runsValue_iff keptMeet]
      intro run member own isOwn
      obtain ⟨applied, inKept, rfl⟩ := mem_map.mp member
      exact belowAll _ (inRuns applied (sublist.subset inKept)) own isOwn

end Session

/--
Along calls that take no condition of another party, the WHERE clause of a
separable session means the caller's predicate and every scope in force, and
no row that violates such a scope satisfies it.
-/
theorem scopes_conjoined (backend : Backend Json) (table : String) {session final : Session Json}
    (reached : ReachableAlong (Session.call? backend) KeepsRequest (.ofTable table) session)
    (resolved : session.resolved? backend = some final) (separable : Separable final)
    {Truth : Type} [Lattice Truth] [OrderTop Truth] (negate : Truth → Truth)
    (value : Atom → Truth) :
    ∃ builder truth, Reachable (call? backend) (.ofTable table) session.builder ∧
      session.builder.resolved backend = .ok builder ∧
      final.requestValue negate value = some truth ∧
      QueryBuilder.whereValue negate value builder.renderWhereClause = some truth ∧
      ∀ applied ∈ final.inForce, ∀ own,
        QueryBuilder.runValue negate value applied.conditions = some own → truth ≤ own := by
  have holds : session.Invariant ∧ Reachable (call? backend) (.ofTable table) session.builder := by
    apply reached.invariant fun session =>
      session.Invariant ∧ Reachable (call? backend) (.ofTable table) session.builder
    · refine ⟨⟨⟨rfl, ⟨[], .refl _, rfl, ?_⟩, ?_, ?_, ?_⟩, rfl, ?_⟩,
        .start⟩ <;> simp [Session.ofTable, QueryBuilder.ofTable]
    · intro before call after holds keeps taken
      obtain ⟨invariant, follows⟩ := Session.invariant_call holds.1 keeps taken
      exact ⟨invariant, holds.2.next trivial follows⟩
  obtain ⟨⟨accounted, -, plain⟩, follows⟩ := holds
  obtain ⟨accountedFinal, made⟩ := accounted.resolved plain resolved
  obtain ⟨truth, meet, rendered⟩ :=
    Session.whereValue_eq_requestValue accountedFinal separable negate value
  refine ⟨final.builder, truth, follows, made, meet, rendered, ?_⟩
  intro applied inForce own isOwn
  exact (le_runsValue_iff meet truth).mp le_rfl _
    (mem_cons_of_mem _ (mem_map_of_mem inForce)) own isOwn

/-! ## Runs -/

theorem scopes_conjoined_tenant :
    ∃ session final : Session Unit,
      runAlong? (Session.call? postgres) KeepsRequest (.ofTable "users")
        [.withGlobalScopes [tenantScope, softDeletesScope], .clause (.whereEq "name" (.text "Ada")),
          .clause (.orWhereEq "name" (.text "Bob")),
          .clause (.whereRaw [.lparen, .atom "age > 30", .or, .atom "vip", .rparen]), .resolved,
          .withoutGlobalScope "TenantScope"] =
        some session ∧
      ∃ builder truth, Reachable (call? postgres) (.ofTable "users") session.builder ∧
        session.builder.resolved postgres = .ok builder ∧
        final.requestValue not (fun _ => true) = some truth ∧
        QueryBuilder.whereValue not (fun _ => true) builder.renderWhereClause = some truth ∧
        ∀ applied ∈ final.inForce, ∀ own,
          QueryBuilder.runValue not (fun _ => true) applied.conditions = some own →
          truth ≤ own :=
  ⟨_, _, rfl, scopes_conjoined postgres "users"
      (reachableAlong_of_runAlong? .start (show
          runAlong? (Session.call? postgres) KeepsRequest
              (.ofTable "users")
              [.withGlobalScopes [tenantScope, softDeletesScope],
                .clause (.whereEq "name" (.text "Ada")), .clause (.orWhereEq "name" (.text "Bob")),
                .clause (.whereRaw [.lparen, .atom "age > 30", .or, .atom "vip", .rparen]),
                .resolved,
                .withoutGlobalScope "TenantScope"] =
            some _ from rfl))
      rfl
      ⟨by decide, by decide, by decide, by decide⟩
      not (fun _ => true)⟩

/-- A scope that lets the tenant's rows and the shared ones through. -/
def sharedScope : GlobalScopeEntry Unit where
  typeId := "SharedScope"
  id := "shared"
  body := [.whereEq "tenant_id" (.int 7), .orWhereEq "shared" (.bool true)]

/--
A raw `OR`, a guard suppressed by the caller's own text, two scopes in one
run, and trashed rows asked for after the caller's own guard text: a row that
violates the request satisfies the clause.
-/
theorem scopes_escaped :
    List.Forall
      (fun run => ∃ session final : Session Unit,
        run? (Session.call? postgres) (.ofTable "users") run.1 = some session ∧
        session.resolved? postgres = some final ∧
        session.builder.resolved postgres = .ok final.builder ∧
        final.requestValue not (fun atom => decide (atom = run.2)) = some false ∧
        QueryBuilder.whereValue not (fun atom => decide (atom = run.2))
          final.builder.renderWhereClause = some true)
      [([.withGlobalScopes [softDeletesScope],
        .clause (.whereRaw [.atom "admin", .or, .atom "owner"])], [.text "admin"]),
        ([.withGlobalScopes [softDeletesScope], .clause (.whereNull "deleted_at"),
          .clause (.orWhereEq "name" (.text "Ada"))], [.text "name = ", .placeholder 1]),
        ([.withGlobalScopes [sharedScope, softDeletesScope]],
          [.text "tenant_id = ", .placeholder 1]),
        ([.clause (.withSoftDeletes true), .clause (.whereNull "deleted_at"), .clause .withTrashed],
            [])] := by
  refine ⟨?_, ?_, ?_, ?_⟩
  all_goals exact ⟨_, _, rfl, rfl, rfl, by decide, by decide⟩

end Rustasea.Orm
