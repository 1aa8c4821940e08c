import Mathlib.Order.BoundedOrder.Lattice
import Rustasea.Orm.QueryBuilder

namespace Rustasea.Orm

open List

open BooleanText (textValue readsConjunction textRequires)

/-!
# What a rendered WHERE clause means

A run of conditions is read with SQL precedence, in any lattice of truth
values with any meaning of `NOT` and of the atoms.  Two runs that stand alone
render to the meet of their values, and runs of conjunctions glued by `AND`
to the meet of all of them.
-/

variable {Json : Type}

namespace QueryBuilder

/-- The text of a run, in its own parentheses when it uses `OR`, is no part
of a neighbour. -/
def standsAlone (conditions : List (Condition Json)) : Bool :=
  if hasOr conditions then (BooleanText.read (renderConditions conditions)).isSome
  else readsConjunction (renderConditions conditions)

section Value

variable {Truth : Type} [Lattice Truth] [OrderTop Truth] (negate : Truth → Truth)
  (value : Atom → Truth)

def runValue (conditions : List (Condition Json)) : Option Truth :=
  if conditions.isEmpty then some ⊤
  else textValue negate value (renderConditions conditions)

/-- The value of a WHERE clause; without one every row matches. -/
def whereValue : Option Sql → Option Truth
  | none => some ⊤
  | some clause => textValue negate value clause

def runsValue : List (List (Condition Json)) → Option Truth
  | [] => some ⊤
  | run :: rest =>
    match runValue negate value run, runsValue rest with
    | some truth, some others => some (truth ⊓ others)
    | _, _ => none

variable {negate value} {runs : List (List (Condition Json))}

theorem runsValue_isSome (valued : ∀ run ∈ runs, ∃ truth, runValue negate value run = some truth) :
    ∃ truth, runsValue negate value runs = some truth := by
  induction runs with
  | nil => exact ⟨⊤, rfl⟩
  | cons run rest ih =>
    obtain ⟨truth, own⟩ := valued run mem_cons_self
    obtain ⟨others, meet⟩ := ih fun other member => valued other (mem_cons_of_mem _ member)
    exact ⟨truth ⊓ others, by simp [runsValue, own, meet]⟩

variable {truth : Truth}

theorem le_runsValue_iff (meet : runsValue negate value runs = some truth) (bound : Truth) :
    bound ≤ truth ↔ ∀ run ∈ runs, ∀ own, runValue negate value run = some own → bound ≤ own := by
  induction runs generalizing truth with
  | nil =>
    obtain rfl := Option.some.inj meet
    simp
  | cons run rest ih =>
    unfold runsValue at meet
    split at meet
    · next own others isOwn isOthers =>
      obtain rfl := Option.some.inj meet
      rw [le_inf_iff, ih isOthers]
      simp [isOwn]
    · simp at meet

variable {conditions : List (Condition Json)}

omit [OrderTop Truth] in
theorem renderRun_standsAlone (alone : standsAlone conditions = true)
    (reads : textValue negate value (renderConditions conditions) = some truth) :
    readsConjunction (renderRun conditions) = true ∧
    textValue negate value (renderRun conditions) = some truth := by
  unfold standsAlone at alone
  unfold renderRun
  split at alone
  · next usesOr =>
    rw [if_pos usesOr]
    exact BooleanText.textValue_group negate value reads
  · next noOr =>
    rw [if_neg noOr]
    exact ⟨alone, reads⟩

theorem renderConditions_append (notEmpty : conditions ≠ []) (next : Condition Json)
    (later : List (Condition Json)) :
    renderConditions (conditions ++ next :: later) =
      renderConditions conditions ++ next.glue.token :: renderConditions (next :: later) := by
  cases conditions with
  | nil => exact absurd rfl notEmpty
  | cons first rest => simp [renderConditions]

theorem glue_of_hasOr {conditions later : List (Condition Json)} {next : Condition Json}
    (notEmpty : conditions ≠ []) (noOr : hasOr (conditions ++ next :: later) = false) :
    next.glue = .and ∧ hasOr (next :: later) = false := by
  cases conditions with
  | nil => exact absurd rfl notEmpty
  | cons first rest =>
    simp only [hasOr, cons_append, drop_succ_cons, drop_zero, any_append,
      any_cons, Bool.or_eq_false_iff] at noOr ⊢
    obtain ⟨-, glue, laterGlues⟩ := noOr
    refine ⟨?_, laterGlues⟩
    cases isGlue : next.glue with
    | and => rfl
    | or =>
      rw [isGlue] at glue
      exact absurd glue (by decide)

/-- Runs of conjunctions without `OR` between them read as their meet. -/
theorem runsValue_flatten (notEmpty : ∀ run ∈ runs, run ≠ [])
    (conjunctions : ∀ run ∈ runs, readsConjunction (renderConditions run) = true)
    (noOr : hasOr runs.flatten = false) (meet : runsValue negate value runs = some truth) :
    runValue negate value runs.flatten = some truth ∧
    (runs ≠ [] → readsConjunction (renderConditions runs.flatten) = true) := by
  induction runs generalizing truth with
  | nil => exact ⟨meet, fun absent => absurd rfl absent⟩
  | cons run rest ih =>
    have ownNotEmpty := notEmpty run mem_cons_self
    have ownConjunction := conjunctions run mem_cons_self
    have restNotEmpty : ∀ other ∈ rest, other ≠ [] :=
      fun other member => notEmpty other (mem_cons_of_mem _ member)
    have restConjunctions : ∀ other ∈ rest, readsConjunction (renderConditions other) = true :=
      fun other member => conjunctions other (mem_cons_of_mem _ member)
    unfold runsValue at meet
    split at meet
    · next own others isOwn isOthers =>
      obtain rfl := Option.some.inj meet
      rw [flatten_cons] at noOr ⊢
      cases shape : rest.flatten with
      | nil =>
        -- the later runs are not empty, so there is none
        have none : rest = [] := by
          cases rest with
          | nil => rfl
          | cons second later =>
            exact absurd (append_eq_nil_iff.mp shape).1
              (restNotEmpty second mem_cons_self)
        subst none
        obtain rfl := Option.some.inj isOthers
        rw [append_nil, inf_top_eq]
        exact ⟨isOwn, fun _ => ownConjunction⟩
      | cons next later =>
        rw [shape] at noOr
        obtain ⟨glue, laterNoOr⟩ := glue_of_hasOr ownNotEmpty noOr
        obtain ⟨laterReads, laterConjunction⟩ :=
          ih restNotEmpty restConjunctions (by rw [shape]; exact laterNoOr) isOthers
        have restSome : rest ≠ [] := by
          rintro rfl
          simp at shape
        rw [shape] at laterReads laterConjunction
        have ownReads : textValue negate value (renderConditions run) = some own := by
          simpa [runValue, ownNotEmpty] using isOwn
        obtain ⟨conjunction, joined⟩ := BooleanText.textValue_and negate value ownConjunction
            (laterConjunction restSome) ownReads
            (by simpa [runValue] using laterReads)
        have rendered : renderConditions (run ++ next :: later) = renderConditions run ++
            .and :: renderConditions (next :: later) := by
          rw [renderConditions_append ownNotEmpty, glue]
          rfl
        rw [← rendered] at conjunction joined
        refine ⟨?_, fun _ => conjunction⟩
        simpa [runValue] using joined
    · simp at meet

/--
The WHERE clause of a builder means its caller's run and its scopes' run,
when one of them is empty or both stand alone.
-/
theorem whereValue_renderWhereClause {builder : QueryBuilder Json}
    {callerTruth scopedTruth : Truth}
    (callerReads : runValue negate value builder.callerConditions = some callerTruth)
    (scopedReads : runValue negate value builder.scopedConditions = some scopedTruth)
    (apart : builder.callerConditions = [] ∨ builder.scopedConditions = [] ∨
      (standsAlone builder.callerConditions = true ∧ standsAlone builder.scopedConditions = true)) :
    whereValue negate value builder.renderWhereClause = some (callerTruth ⊓ scopedTruth) := by
  unfold renderWhereClause
  by_cases noCaller : builder.callerConditions = []
  · -- every condition is a scope's
    have allScoped : builder.scopedConditions = builder.conditions := by
      unfold scopedConditions
      rw [filter_eq_self]
      intro condition member
      have notCaller := filter_eq_nil_iff.mp noCaller condition member
      simpa [Option.isSome_iff_ne_none] using notCaller
    simp only [noCaller, runValue, isEmpty_nil, if_true, Option.some.injEq] at callerReads
    rw [allScoped] at scopedReads
    rw [← callerReads, noCaller]
    split
    · next empty => simpa [whereValue, runValue, empty] using scopedReads
    · next notEmpty => simpa [whereValue, runValue, notEmpty] using scopedReads
  · by_cases noScoped : builder.scopedConditions = []
    · have allCaller : builder.callerConditions = builder.conditions := by
        unfold callerConditions
        rw [filter_eq_self]
        intro condition member
        have notScoped := filter_eq_nil_iff.mp noScoped condition member
        simpa using notScoped
      have notEmpty : builder.conditions.isEmpty = false := by simpa [← allCaller] using noCaller
      simp only [noScoped, runValue, isEmpty_nil, if_true, Option.some.injEq] at scopedReads
      rw [← scopedReads, noScoped]
      simpa [whereValue, runValue, allCaller, notEmpty] using callerReads
    · obtain ⟨callerAlone, scopedAlone⟩ := (apart.resolve_left noCaller).resolve_left noScoped
      have notEmpty : builder.conditions.isEmpty = false := by
        cases shape : builder.conditions with
        | nil => exact absurd (by simp [callerConditions, shape]) noCaller
        | cons first rest => rfl
      obtain ⟨callerConjunction, callerText⟩ :=
        renderRun_standsAlone callerAlone (by simpa [runValue, noCaller] using callerReads)
      obtain ⟨scopedConjunction, scopedText⟩ :=
        renderRun_standsAlone scopedAlone (by simpa [runValue, noScoped] using scopedReads)
      have joined := (BooleanText.textValue_and negate value callerConjunction
          scopedConjunction callerText scopedText).2
      simpa [whereValue, notEmpty, noCaller, noScoped] using joined

end Value

end QueryBuilder

end Rustasea.Orm
