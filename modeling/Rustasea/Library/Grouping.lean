import Mathlib.Data.List.Basic

/-!
# Groups of values

Items of a list carry values, and some of the items end a group.  Groups
without values are left out.  A coarse grouping, which overlooks some ends, is
the same as a fine one unless it joins two values across an end.
-/

namespace Grouping

open List

variable {Item Value : Type*}

def closed (values : List Value) : List (List Value) :=
  if values = [] then []
  else [values]

@[grind =] def groupsFrom (ends : Item → Bool) (value : Item → Option Value) : List Value →
    List Item → List (List Value)
  | opened, [] => closed opened
  | opened, item :: rest =>
    if ends item then closed opened ++ groupsFrom ends value [] rest
    else groupsFrom ends value (opened ++ (value item).toList) rest

def groups (ends : Item → Bool) (value : Item → Option Value) : List Item → List (List Value) :=
  groupsFrom ends value []

variable {ends fine coarse : Item → Bool} {value other : Item → Option Value}

@[simp] theorem closed_nil : closed ([] : List Value) = [] :=
  rfl

theorem closed_of_ne_nil {values : List Value} (isSome : values ≠ []) : closed values = [values] :=
  if_neg isSome

@[simp] theorem flatten_closed (values : List Value) : (closed values).flatten = values := by
  unfold closed
  split
  · next isNone =>
    rw [isNone]
    rfl
  · simp

theorem groupsFrom_map {Source : Type*} (source : Source → Item) (opened : List Value)
    (items : List Source) :
    groupsFrom ends value opened (items.map source) =
      groupsFrom (ends ∘ source) (value ∘ source) opened items := by
  induction items generalizing opened with
  | nil => rfl
  | cons item rest ih => simp [groupsFrom, ih]

variable {items : List Item} {opened : List Value}

theorem groupsFrom_congr (same : ∀ item ∈ items, value item = other item) :
    groupsFrom ends value opened items = groupsFrom ends other opened items := by
  induction items generalizing opened with
  | nil => rfl
  | cons item rest ih =>
    rw [forall_mem_cons] at same
    simp [groupsFrom, same.1, ih same.2]

variable {item : Item}

theorem groupsFrom_nil_cons (isNone : value item = none) (rest : List Item) :
    groupsFrom ends value [] (item :: rest) = groupsFrom ends value [] rest := by
  rw [groupsFrom]
  split <;> simp [isNone]

theorem flatten_groupsFrom (noValue : ∀ item, ends item → value item = none) (opened : List Value)
    (items : List Item) :
    (groupsFrom ends value opened items).flatten = opened ++ items.filterMap value := by
  induction items generalizing opened with
  | nil => simp [groupsFrom]
  | cons item rest ih =>
    rw [groupsFrom]
    split
    · next isEnd =>
      rw [flatten_append, flatten_closed, ih,
        filterMap_cons_none (noValue item isEnd), nil_append]
    · rw [ih]
      cases found : value item <;> simp [found]

theorem mem_groupsFrom {opened group : List Value}
    (isGroup : group ∈ groupsFrom ends value opened items) :
    group ≠ [] ∧ ∀ found ∈ group, found ∈ opened ∨ ∃ item ∈ items, value item = some found := by
  have ofClosed : ∀ {values : List Value}, group ∈ closed values → group ≠ [] ∧ group = values := by
    intro values isClosed
    unfold closed at isClosed
    split at isClosed
    · cases isClosed
    · next isSome =>
      obtain rfl := mem_singleton.mp isClosed
      exact ⟨isSome, rfl⟩
  induction items generalizing opened with
  | nil =>
    obtain ⟨isSome, rfl⟩ := ofClosed isGroup
    exact ⟨isSome, fun _ isFound => .inl isFound⟩
  | cons item rest ih =>
    rw [groupsFrom] at isGroup
    split at isGroup
    · rcases mem_append.mp isGroup with isClosed | isLater
      · obtain ⟨isSome, rfl⟩ := ofClosed isClosed
        exact ⟨isSome, fun _ isFound => .inl isFound⟩
      · obtain ⟨isSome, others⟩ := ih isLater
        refine ⟨isSome, fun found isFound => ?_⟩
        rcases others found isFound with isOpen | ⟨other, isOther, same⟩
        · cases isOpen
        · exact .inr ⟨other, mem_cons_of_mem _ isOther, same⟩
    · obtain ⟨isSome, others⟩ := ih isGroup
      refine ⟨isSome, fun found isFound => ?_⟩
      rcases others found isFound with isOpen | ⟨other, isOther, same⟩
      · rcases mem_append.mp isOpen with isOpen | isHere
        · exact .inl isOpen
        · exact .inr ⟨item, mem_cons_self, Option.mem_toList.mp isHere⟩
      · exact .inr ⟨other, mem_cons_of_mem _ isOther, same⟩

theorem exists_groupsFrom_cons (isSome : opened ≠ []) (items : List Item) :
    ∃ added later, groupsFrom ends value opened items = (opened ++ added) :: later := by
  induction items generalizing opened with
  | nil => exact ⟨[], [], by rw [groupsFrom, closed_of_ne_nil isSome]; simp⟩
  | cons item rest ih =>
    rw [groupsFrom, closed_of_ne_nil isSome]
    split
    · exact ⟨[], _, by rw [append_nil]; rfl⟩
    · obtain ⟨added, later, same⟩ := ih
          (append_ne_nil_of_left_ne_nil isSome (value item).toList)
      exact ⟨(value item).toList ++ added, later, by rw [same, append_assoc]⟩

/-! ## Joined groups -/

/-- A value follows before the coarse grouping ends the group. -/
inductive Reaches (coarse : Item → Bool) (value : Item → Option Value) :
    List Item → Prop where
  | here {item : Item} {rest : List Item} :
      (value item).isSome → Reaches coarse value (item :: rest)
  | later {item : Item} {rest : List Item} :
      coarse item = false → Reaches coarse value rest → Reaches coarse value (item :: rest)

/-- A value follows behind an end that the coarse grouping overlooks. -/
inductive Crosses (fine coarse : Item → Bool) (value : Item → Option Value) :
    List Item → Prop where
  | here {item : Item} {rest : List Item} : fine item → coarse item = false →
          Reaches coarse value rest → Crosses fine coarse value (item :: rest)
  | later {item : Item} {rest : List Item} : coarse item = false → Crosses fine coarse value rest →
          Crosses fine coarse value (item :: rest)

/-- Two values with an end in between are in one coarse group. -/
inductive Joins (fine coarse : Item → Bool) (value : Item → Option Value) :
    List Item → Prop where
  | here {item : Item} {rest : List Item} :
      (value item).isSome → Crosses fine coarse value rest → Joins fine coarse value (item :: rest)
  | later {item : Item} {rest : List Item} :
      Joins fine coarse value rest → Joins fine coarse value (item :: rest)

variable {rest : List Item}

theorem reaches_cons :
    Reaches coarse value (item :: rest) ↔
      (value item).isSome ∨ coarse item = false ∧ Reaches coarse value rest := by
  constructor
  · rintro (isSome | ⟨goesOn, reaches⟩)
    · exact .inl isSome
    · exact .inr ⟨goesOn, reaches⟩
  · rintro (isSome | ⟨goesOn, reaches⟩)
    · exact .here isSome
    · exact .later goesOn reaches

theorem Crosses.reaches (crosses : Crosses fine coarse value items) :
    Reaches coarse value items := by
  induction crosses with
  | here _ goesOn reaches => exact .later goesOn reaches
  | later goesOn _ ih => exact .later goesOn ih

theorem crosses_cons :
    Crosses fine coarse value (item :: rest) ↔
      coarse item = false ∧
        (fine item ∧ Reaches coarse value rest ∨ Crosses fine coarse value rest) := by
  constructor
  · rintro (⟨isEnd, goesOn, reaches⟩ | ⟨goesOn, crosses⟩)
    · exact ⟨goesOn, .inl ⟨isEnd, reaches⟩⟩
    · exact ⟨goesOn, .inr crosses⟩
  · rintro ⟨goesOn, ⟨isEnd, reaches⟩ | crosses⟩
    · exact .here isEnd goesOn reaches
    · exact .later goesOn crosses

theorem joins_cons :
    Joins fine coarse value (item :: rest) ↔
      (value item).isSome ∧ Crosses fine coarse value rest ∨ Joins fine coarse value rest := by
  constructor
  · rintro (⟨isSome, crosses⟩ | joins)
    · exact .inl ⟨isSome, crosses⟩
    · exact .inr joins
  · rintro (⟨isSome, crosses⟩ | joins)
    · exact .here isSome crosses
    · exact .later joins

variable {items : List Item}

theorem reaches_iff :
    Reaches coarse value items ↔
      ∃ between last after, items = between ++ last :: after ∧ (value last).isSome ∧
          ∀ item ∈ between, coarse item = false := by
  constructor
  · intro reaches
    induction reaches with
    | here isSome => exact ⟨[], _, _, rfl, isSome, fun _ isItem => nomatch isItem⟩
    | later goesOn _ ih =>
      obtain ⟨between, last, after, rfl, isSome, others⟩ := ih
      exact ⟨_ :: between, last, after, rfl, isSome, forall_mem_cons.mpr ⟨goesOn, others⟩⟩
  · rintro ⟨between, last, after, rfl, isSome, others⟩
    induction between with
    | nil => exact .here isSome
    | cons item between ih =>
      rw [forall_mem_cons] at others
      exact .later others.1 (ih others.2)

theorem crosses_iff :
    Crosses fine coarse value items ↔
      ∃ between last after, items = between ++ last :: after ∧ (value last).isSome ∧
          (∃ item ∈ between, fine item) ∧ ∀ item ∈ between, coarse item = false := by
  constructor
  · intro crosses
    induction crosses with
    | here isEnd goesOn reaches =>
      obtain ⟨between, last, after, rfl, isSome, others⟩ := reaches_iff.mp reaches
      exact ⟨_ :: between, last, after, rfl, isSome, ⟨_, mem_cons_self, isEnd⟩,
        forall_mem_cons.mpr ⟨goesOn, others⟩⟩
    | later goesOn _ ih =>
      obtain ⟨between, last, after, rfl, isSome, ⟨item, isItem, isEnd⟩, others⟩ := ih
      exact ⟨_ :: between, last, after, rfl, isSome, ⟨item, mem_cons_of_mem _ isItem, isEnd⟩,
        forall_mem_cons.mpr ⟨goesOn, others⟩⟩
  · rintro ⟨between, last, after, rfl, isSome, ⟨item, isItem, isEnd⟩, others⟩
    induction between with
    | nil => cases isItem
    | cons first between ih =>
      rw [forall_mem_cons] at others
      rcases mem_cons.mp isItem with rfl | isLater
      · exact .here isEnd others.1 (reaches_iff.mpr ⟨between, last, after, rfl, isSome, others.2⟩)
      · exact .later others.1 (ih others.2 isLater)

theorem joins_iff :
    Joins fine coarse value items ↔
      ∃ before first between last after, items = before ++ first :: (between ++ last :: after) ∧
          (value first).isSome ∧ (value last).isSome ∧ (∃ item ∈ between, fine item) ∧
          ∀ item ∈ between, coarse item = false := by
  constructor
  · intro joins
    induction joins with
    | here isSome crosses =>
      obtain ⟨between, last, after, rfl, others⟩ := crosses_iff.mp crosses
      exact ⟨[], _, between, last, after, rfl, isSome, others⟩
    | later _ ih =>
      obtain ⟨before, first, between, last, after, rfl, others⟩ := ih
      exact ⟨_ :: before, first, between, last, after, rfl, others⟩
  · rintro ⟨before, first, between, last, after, rfl, isSome, others⟩
    induction before with
    | nil => exact .here isSome (crosses_iff.mpr ⟨between, last, after, rfl, others⟩)
    | cons item before ih => exact .later ih

theorem overlooked_ne (ends : Item → Bool) (value : Item → Option Value) (opened : List Value)
    (found : Value) (groups : List (List Value)) (items : List Item) :
    opened :: groups ≠ groupsFrom ends value (opened ++ [found]) items := by
  intro same
  obtain ⟨added, later, isOpen⟩ : ∃ added later,
      groupsFrom ends value (opened ++ [found]) items = (opened ++ [found] ++ added) :: later :=
    exists_groupsFrom_cons (append_ne_nil_of_right_ne_nil opened (cons_ne_nil found []))
      items
  rw [isOpen, List.cons.injEq, append_assoc, self_eq_append_right] at same
  cases same.1

/--
Both readings, for a coarse group that has gone over an end behind its last
value, and for one that has not.
-/
theorem groupsFrom_eq_iff (isFine : ∀ item, coarse item → fine item)
    (noValue : ∀ item, fine item → value item = none) (items : List Item) :
    (∀ opened : List Value, opened ≠ [] →
      (opened :: groupsFrom fine value [] items = groupsFrom coarse value opened items ↔
          ¬ (Reaches coarse value items ∨ Joins fine coarse value items))) ∧
    ∀ opened : List Value, groupsFrom fine value opened items =
          groupsFrom coarse value opened items ↔
        ¬ (opened ≠ [] ∧ Crosses fine coarse value items ∨ Joins fine coarse value items) := by
  induction items with
  | nil =>
    have noReach : ¬ Reaches coarse value [] := fun reaches => nomatch reaches
    have noCross : ¬ Crosses fine coarse value [] := fun crosses => nomatch crosses
    have noJoin : ¬ Joins fine coarse value [] := fun joins => nomatch joins
    constructor
    · intro opened isSome
      simp [groupsFrom, closed_of_ne_nil isSome, noReach, noJoin]
    · intro opened
      simp [groupsFrom, noCross, noJoin]
  | cons item rest ih =>
    obtain ⟨overlooked, same⟩ := ih
    have sameNil := same []
    rw [reaches_cons, crosses_cons, joins_cons]
    cases isCoarse : coarse item with
    | true =>
      -- Both groupings end the group here.
      have isEnd := isFine item isCoarse
      have isNone := noValue item isEnd
      constructor
      · intro opened isSome
        simpa [groupsFrom, isCoarse, isNone, closed_of_ne_nil isSome] using sameNil
      · intro opened
        simpa [groupsFrom, isCoarse, isEnd, isNone] using sameNil
    | false =>
      cases isEnd : fine item with
      | true =>
        -- Only the fine grouping ends the group.
        have isNone := noValue item isEnd
        constructor
        · intro opened isSome
          simpa [groupsFrom, isCoarse, isNone] using overlooked opened isSome
        · intro opened
          by_cases isOpen : opened = []
          · simpa [groupsFrom, isNone, isOpen] using sameNil
          · have crossed := overlooked opened isOpen
            have reached : Reaches coarse value rest ∨ Crosses fine coarse value rest ↔
                Reaches coarse value rest :=
              or_iff_left_of_imp Crosses.reaches
            simpa [groupsFrom, isCoarse, isEnd, isNone, isOpen,
              closed_of_ne_nil isOpen, reached] using crossed
      | false =>
        cases isValue : value item with
        | none =>
          constructor
          · intro opened isSome
            simpa [groupsFrom, isCoarse, isValue] using overlooked opened isSome
          · intro opened
            simpa [groupsFrom, isCoarse, isEnd, isValue] using same opened
        | some found =>
          constructor
          · intro opened isSome
            have differs := overlooked_ne coarse value opened found
                (groupsFrom fine value [found] rest) rest
            simpa [groupsFrom, isCoarse, isEnd, isValue] using differs
          · intro opened
            have joined := same (opened ++ [found])
            simp only [groupsFrom, isCoarse, isEnd, isValue, Bool.false_eq_true, if_false,
              Option.toList_some, joined]
            simp
            tauto

theorem eq_of_filterMap_eq (sameItems : ∀ item ∈ items, (value item).isSome = (other item).isSome)
    (same : items.filterMap value = items.filterMap other) :
    ∀ item ∈ items, value item = other item := by
  induction items with
  | nil =>
    intro item isItem
    cases isItem
  | cons item rest ih =>
    rw [forall_mem_cons] at sameItems ⊢
    cases isValue : value item with
    | none =>
      have isOther : other item = none := by simpa [isValue] using sameItems.1.symm
      rw [filterMap_cons_none isValue, filterMap_cons_none isOther] at same
      exact ⟨isOther.symm, ih sameItems.2 same⟩
    | some found =>
      obtain ⟨otherFound, isOther⟩ : ∃ found, other item = some found := by
        rw [← Option.isSome_iff_exists, ← sameItems.1, isValue]
        rfl
      rw [filterMap_cons_some isValue,
        filterMap_cons_some isOther, List.cons.injEq] at same
      exact ⟨by rw [isOther, same.1], ih sameItems.2 same.2⟩

/--
A coarse grouping of other values is the fine grouping of the values exactly
when it joins no two of them, and the values are the same.
-/
theorem groups_eq_iff (isFine : ∀ item, coarse item → fine item)
    (noValue : ∀ item, fine item → value item = none)
    (sameItems : ∀ item, (value item).isSome = (other item).isSome) :
    groups coarse other items = groups fine value items ↔
      ¬ Joins fine coarse value items ∧ ∀ item ∈ items, other item = value item := by
  have coarseNone : ∀ item, coarse item → other item = none := by
    intro item isEnd
    have isNone := noValue item (isFine item isEnd)
    simpa [isNone] using (sameItems item).symm
  have valuesIff : (∀ item ∈ items, other item = value item) →
      (groups coarse other items = groups fine value items ↔
        ¬ Joins fine coarse value items) := by
    intro sameValues
    unfold groups
    rw [groupsFrom_congr sameValues, eq_comm, (groupsFrom_eq_iff isFine noValue items).2 []]
    simp
  constructor
  · intro same
    have sameValues : ∀ item ∈ items, other item = value item := by
      refine eq_of_filterMap_eq (fun item _ => (sameItems item).symm) ?_
      have flat := congrArg List.flatten same
      unfold groups at flat
      rwa [flatten_groupsFrom coarseNone, flatten_groupsFrom noValue, nil_append] at flat
    exact ⟨(valuesIff sameValues).mp same, sameValues⟩
  · rintro ⟨unjoined, sameValues⟩
    exact (valuesIff sameValues).mpr unjoined

end Grouping
