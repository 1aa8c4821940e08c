import Mathlib.Data.List.Basic

/-!
# Computations that may fail

What a computation that succeeds has gone through: both halves of a sequence,
and every item of a list.
-/

namespace Fallible

variable {Error First Second Item Result : Type}

/-- A sequence succeeds when both halves do. -/
theorem bind_eq_ok {first : Except Error First} {next : First → Except Error Second}
    {result : Second} :
    first >>= next = .ok result ↔ ∃ value, first = .ok value ∧ next value = .ok result := by
  cases first with
  | error error =>
    constructor
    · nofun
    · rintro ⟨_, ⟨⟩, _⟩
  | ok value =>
    constructor
    · intro isOk
      exact ⟨value, rfl, isOk⟩
    · rintro ⟨_, ⟨⟩, isOk⟩
      exact isOk

theorem map_eq_ok {first : Except Error First} {change : First → Result} {result : Result} :
    first.map change = .ok result ↔ ∃ value, first = .ok value ∧ change value = result := by
  cases first with
  | error error =>
    constructor
    · nofun
    · rintro ⟨_, ⟨⟩, _⟩
  | ok value => simp [Except.map]

theorem mapError_eq_ok {change : First → Second} {result : Except First Item} {value : Item} :
    result.mapError change = .ok value ↔ result = .ok value := by
  cases result with
  | error error => constructor <;> nofun
  | ok found => exact Iff.of_eq (by rw [Except.mapError, Except.ok.injEq, Except.ok.injEq])

variable {items : List Item}

/-- A check of all items that succeeds has passed each. -/
theorem forall_of_forM_eq_ok {check : Item → Except Error Unit} (isOk : items.forM check = .ok ()) :
    ∀ item ∈ items, check item = .ok () := by
  induction items with
  | nil => nofun
  | cons first rest ih =>
    have isSequence : check first >>= (fun _ => rest.forM check) = .ok () := isOk
    obtain ⟨⟨⟩, isFirst, isRest⟩ := bind_eq_ok.mp isSequence
    exact List.forall_mem_cons.mpr ⟨isFirst, ih isRest⟩

variable {step : Item → Except Error Result} {results : List Result}

/-- Steps whose results are known give the list of these. -/
theorem eq_map_of_mapM_eq_ok {write : Item → Result} {valid : Item → Prop}
    (ofStep : ∀ {item result}, step item = .ok result → result = write item ∧ valid item)
    {items : List Item} (isOk : items.mapM step = .ok results) :
    results = items.map write ∧ ∀ item ∈ items, valid item := by
  induction items generalizing results with
  | nil =>
    cases isOk
    exact ⟨rfl, nofun⟩
  | cons first rest ih =>
    rw [List.mapM_cons] at isOk
    obtain ⟨result, isFirst, isOk⟩ := bind_eq_ok.mp isOk
    obtain ⟨later, isRest, isOk⟩ := bind_eq_ok.mp isOk
    cases isOk
    obtain ⟨rfl, isValid⟩ := ofStep isFirst
    obtain ⟨rfl, areValid⟩ := ih isRest
    exact ⟨rfl, List.forall_mem_cons.mpr ⟨isValid, areValid⟩⟩

/-- A traversal that succeeds has taken each item to its result. -/
theorem forall₂_of_mapM_eq_ok (isOk : items.mapM step = .ok results) :
    List.Forall₂ (fun item result => step item = .ok result) items results := by
  induction items generalizing results with
  | nil =>
    cases isOk
    exact .nil
  | cons first rest ih =>
    rw [List.mapM_cons] at isOk
    obtain ⟨result, isFirst, isOk⟩ := bind_eq_ok.mp isOk
    obtain ⟨later, isRest, isOk⟩ := bind_eq_ok.mp isOk
    cases isOk
    exact .cons isFirst (ih isRest)

theorem mapM_eq_some_iff {partially : Item → Option Result} :
    items.mapM partially = some results ↔
      List.Forall₂ (fun item result => partially item = some result) items results := by
  induction items generalizing results with
  | nil =>
    cases results with
    | nil => exact iff_of_true rfl .nil
    | cons result rest => exact iff_of_false nofun nofun
  | cons first rest ih =>
    rw [List.mapM_cons]
    cases isFirst : partially first with
    | none =>
      refine iff_of_false nofun ?_
      rintro (_ | ⟨isSome, -⟩)
      rw [isFirst] at isSome
      cases isSome
    | some value =>
      cases isRest : rest.mapM partially with
      | none =>
        refine iff_of_false nofun ?_
        rintro (_ | ⟨-, others⟩)
        rw [ih.mpr others] at isRest
        cases isRest
      | some values =>
        constructor
        · rintro ⟨⟩
          exact .cons isFirst (ih.mp isRest)
        · rintro (_ | ⟨isSome, others⟩)
          rw [isFirst] at isSome
          rw [ih.mpr others] at isRest
          cases isSome
          cases isRest
          rfl

end Fallible
