import Mathlib.Data.List.Induction
import Mathlib.Data.List.Perm.Basic
import Mathlib.Data.List.Sort

/-!
# First come, first served

Entries of a list claim their keys in order: the first entry with a key has it,
and later ones with the same key are passed over.  Entries may be taken out of
a list by swapping them with the last one.  A stable sort by a Boolean key
puts the entries that have it first.
-/

namespace FirstClaim

open List

section Claims

variable {Entry Key : Type*} [DecidableEq Key]

def claim (key : Entry → Key) (taken : List Entry) (entry : Entry) : List Entry :=
  if key entry ∈ taken.map key then taken
  else taken ++ [entry]

def claims (key : Entry → Key) (entries : List Entry) : List Entry :=
  entries.foldl (claim key) []

variable {key : Entry → Key}

@[simp] theorem claims_nil : claims key [] = [] :=
  rfl

theorem claims_concat (entries : List Entry) (entry : Entry) :
    claims key (entries ++ [entry]) = claim key (claims key entries) entry := by
  simp [claims]

variable {entries : List Entry}

theorem mem_keys_claims {wanted : Key} :
    wanted ∈ (claims key entries).map key ↔ wanted ∈ entries.map key := by
  induction entries using List.reverseRecOn with
  | nil => rfl
  | append_singleton entries entry ih =>
    rw [claims_concat, claim, map_append, mem_append, ← ih]
    split
    · next isTaken =>
      constructor
      · exact Or.inl
      · rintro (isEarlier | isLast)
        · exact isEarlier
        · rw [map_singleton, mem_singleton] at isLast
          exact isLast ▸ isTaken
    · rw [map_append, mem_append]

theorem mem_claims {entry : Entry} :
    entry ∈ claims key entries ↔
      entries.find? (fun other => key other = key entry) = some entry := by
  induction entries using List.reverseRecOn with
  | nil => simp
  | append_singleton entries last ih =>
    rw [claims_concat, claim, find?_append]
    split
    · next isTaken =>
      rw [ih]
      rw [mem_keys_claims, mem_map] at isTaken
      obtain ⟨earlier, isEarlier, sameKey⟩ := isTaken
      cases found : entries.find? fun other => key other = key entry with
      | some first => simp
      | none =>
        have unseen := find?_eq_none.mp found earlier isEarlier
        have otherKey : key last ≠ key entry := by simpa [← sameKey] using unseen
        simp [otherKey]
    · next notTaken =>
      rw [mem_append, mem_singleton, ih]
      cases found : entries.find? fun other => key other = key entry with
      | some first =>
        have isFirst := mem_of_find?_eq_some found
        have sameKey : key first = key entry := by simpa using find?_some found
        have notLast : entry ≠ last := by
          rintro rfl
          exact notTaken (mem_keys_claims.mpr (mem_map.mpr ⟨first, isFirst, sameKey⟩))
        simp [notLast]
      | none =>
        constructor
        · rintro (isFound | rfl)
          · cases isFound
          · simp
        · intro isLast
          right
          have chosen := mem_of_find?_eq_some
              (by simpa using isLast :
                [last].find? (fun other => key other = key entry) = some entry)
          exact mem_singleton.mp chosen

theorem mem_of_mem_claims
    {entry : Entry} (isClaim : entry ∈ claims key entries) : entry ∈ entries :=
  mem_of_find?_eq_some (mem_claims.mp isClaim)

theorem exists_foldl_claim (taken entries : List Entry) :
    ∃ later, entries.foldl (claim key) taken = taken ++ later := by
  induction entries generalizing taken with
  | nil => exact ⟨[], (append_nil taken).symm⟩
  | cons entry rest ih =>
    obtain ⟨later, isClaimed⟩ := ih (claim key taken entry)
    rw [foldl_cons, isClaimed, claim]
    split
    · exact ⟨later, rfl⟩
    · exact ⟨entry :: later, by simp⟩

theorem claims_sublist (entries : List Entry) : (claims key entries).Sublist entries := by
  induction entries using List.reverseRecOn with
  | nil => exact .slnil
  | append_singleton entries entry ih =>
    rw [claims_concat, claim]
    split
    · exact ih.trans (sublist_append_left _ _)
    · exact ih.append (.refl _)

end Claims

section Priority

variable {Entry : Type*}

theorem orderedInsert_append {relation : Entry → Entry → Prop} [DecidableRel relation]
    {entry : Entry} {earlier : List Entry} (passed : ∀ other ∈ earlier, ¬relation entry other)
    (later : List Entry) :
    (earlier ++ later).orderedInsert relation entry =
      earlier ++ later.orderedInsert relation entry := by
  induction earlier with
  | nil => rfl
  | cons other rest ih =>
    rw [forall_mem_cons] at passed
    rw [cons_append, orderedInsert_of_not_le _ _ passed.1, ih passed.2, cons_append]

theorem insertionSort_priority (isFirst : Entry → Bool) (entries : List Entry) :
    entries.insertionSort (fun entry other => (!isFirst entry) ≤ (!isFirst other)) =
      entries.filter isFirst ++ entries.filter (!isFirst ·) := by
  induction entries with
  | nil => rfl
  | cons entry rest ih =>
    cases priority : isFirst entry with
    | true =>
      rw [insertionSort_cons_of_forall_rel _ (by simp [priority]),
        ih, filter_cons_of_pos priority,
        filter_cons_of_neg (by simp [priority]), cons_append]
    | false =>
      rw [insertionSort_cons, ih, filter_cons_of_neg (by simp [priority]),
        filter_cons_of_pos (by simp [priority]),
        orderedInsert_append (by simp +contextual [priority])]
      congr 1
      cases atLast : rest.filter (!isFirst ·) with
      | nil => rfl
      | cons other others =>
        refine orderedInsert_cons_of_le _ _ ?_
        have isLast : other ∈ rest.filter (!isFirst ·) := by
          rw [atLast]
          exact mem_cons_self
        have notFirst : isFirst other = false := by simpa using (mem_filter.mp isLast).2
        simp [notFirst]

end Priority

section SwapRemove

variable {Entry : Type*}

/-- Take out the entry at an index, and put the last one in its place. -/
def swapRemove (entries : List Entry) (index : Nat) : List Entry :=
  match entries.getLast? with
  | none => []
  | some last => (entries.set index last).dropLast

theorem swapRemove_perm {entries : List Entry} {index : Nat} (inRange : index < entries.length) :
    (swapRemove entries index).Perm (entries.eraseIdx index) := by
  rcases eq_nil_or_concat entries with rfl | ⟨start, last, rfl⟩
  · simp at inRange
  · rw [concat_eq_append] at inRange ⊢
    rw [length_append, length_singleton] at inRange
    rw [swapRemove, getLast?_concat]
    dsimp only
    rcases Nat.lt_succ_iff_lt_or_eq.mp inRange with inStart | rfl
    · rw [set_append_left _ _ inStart, dropLast_concat,
        eraseIdx_append_of_lt_length inStart]
      exact (set_perm_cons_eraseIdx inStart last).trans
        (perm_append_singleton last _).symm
    · rw [eraseIdx_append_of_length_le (Nat.le_refl _)]
      simp

theorem swapRemove_map {Image : Type*} (image : Entry → Image) (entries : List Entry)
    (index : Nat) :
    swapRemove (entries.map image) index = (swapRemove entries index).map image := by
  unfold swapRemove
  rw [getLast?_map]
  cases entries.getLast? with
  | none => rfl
  | some last =>
    simp only [Option.map_some]
    rw [← map_set, map_dropLast]

end SwapRemove

section Turns

variable {Entry Key Value : Type*} [DecidableEq Key]

def front (key : Entry → Key) (own : Entry) (left : List Entry) : Option Entry :=
  left.find? fun other => key other = key own

def takeFront (key : Entry → Key) (left : List Entry) (own : Entry) : List Entry :=
  match left.findIdx? fun other => key other = key own with
  | none => left
  | some index => swapRemove left index

/-- What each owner finds in front when its turn comes. -/
def fronts (key : Entry → Key) : List Entry → List Entry → List (Option Entry)
  | [], _ => []
  | own :: rest, left => front key own left :: fronts key rest (takeFront key left own)

/-- Each owner finds its own value in front when its turn comes. -/
def InTurn (key : Entry → Key) (value : Entry → Value) : List Entry → List Entry → Prop
  | [], _ => True
  | own :: rest, left =>
    (front key own left).map value = some (value own) ∧
      InTurn key value rest (takeFront key left own)

variable {key : Entry → Key} {value : Entry → Value}

theorem fronts_concat (owners left : List Entry) (own : Entry) :
    fronts key (owners ++ [own]) left = fronts key owners left ++
      [front key own (owners.foldl (takeFront key) left)] := by
  induction owners generalizing left with
  | nil => rfl
  | cons first rest ih =>
    rw [cons_append, fronts, ih, fronts, cons_append, foldl_cons]

theorem inTurn_iff {owners left : List Entry} :
    InTurn key value owners left ↔
      (fronts key owners left).map (Option.map value) = owners.map fun own => some (value own) := by
  induction owners generalizing left with
  | nil => exact ⟨fun _ => rfl, fun _ => trivial⟩
  | cons own rest ih => rw [InTurn, fronts, map_cons, map_cons, List.cons.injEq, ih]

variable {own found : Entry} {left : List Entry}

theorem mem_of_front (isFront : front key own left = some found) :
    found ∈ left ∧ key found = key own :=
  ⟨mem_of_find?_eq_some isFront, by simpa using find?_some isFront⟩

theorem findIdx?_of_front (isFront : front key own left = some found) :
    ∃ index, ∃ inRange : index < left.length, left[index] = found ∧
      left.findIdx? (fun other => key other = key own) = some index := by
  rw [front, find?_eq_some_iff_getElem] at isFront
  obtain ⟨hasKey, index, inRange, isFound, earlier⟩ := isFront
  refine ⟨index, inRange, isFound, ?_⟩
  rw [findIdx?_eq_some_iff_getElem]
  exact
    ⟨inRange, by rw [isFound]; exact hasKey, fun other isEarlier => by
      simpa using earlier other isEarlier⟩

theorem takeFront_perm (isFront : front key own left = some found) :
    (found :: takeFront key left own).Perm left := by
  obtain ⟨index, inRange, isFound, isIndex⟩ := findIdx?_of_front isFront
  rw [takeFront, isIndex, ← isFound]
  exact ((swapRemove_perm inRange).cons _).trans (getElem_cons_eraseIdx_perm inRange)

theorem inTurn_of_nodup {owners left : List Entry} (distinct : (left.map key).Nodup)
    (ownersDistinct : owners.Nodup) (areLeft : ∀ own ∈ owners, own ∈ left) :
    InTurn key value owners left := by
  induction owners generalizing left with
  | nil => trivial
  | cons own rest ih =>
    rw [nodup_cons] at ownersDistinct
    rw [forall_mem_cons] at areLeft
    have isFront : front key own left = some own := by
      cases found : front key own left with
      | none =>
        have unseen := find?_eq_none.mp found own areLeft.1
        simp at unseen
      | some other =>
        obtain ⟨isLeft, sameKey⟩ := mem_of_front found
        rw [inj_on_of_nodup_map distinct isLeft areLeft.1 sameKey]
    have others := takeFront_perm isFront
    refine ⟨by rw [isFront, Option.map_some], ih ?_ ownersDistinct.2 ?_⟩
    · have whole := (others.map key).nodup_iff.mpr distinct
      rw [map_cons, nodup_cons] at whole
      exact whole.2
    · intro other isOther
      rcases mem_cons.mp (others.mem_iff.mpr (areLeft.2 other isOther)) with rfl | isLeft
      · exact absurd isOther ownersDistinct.1
      · exact isLeft

end Turns

end FirstClaim
