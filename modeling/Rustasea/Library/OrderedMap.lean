import Mathlib.Data.List.Nodup

/-!
# Maps in the order of insertion

Entries of distinct keys, in the order in which the keys were added.  Two maps
are taken for the same when they have the same values under the same keys.
-/

/-- Entries in order; each key stands once. -/
structure OrderedMap (Key Value : Type*) where
  entries : List (Key × Value)
  distinct : (entries.map Prod.fst).Nodup

namespace OrderedMap

open List

variable {Key Value : Type*} [DecidableEq Key]

def empty : OrderedMap Key Value :=
  { entries := [], distinct := .nil }

def keys (map : OrderedMap Key Value) : List Key := map.entries.map Prod.fst

def values (map : OrderedMap Key Value) : List Value := map.entries.map Prod.snd

def get (map : OrderedMap Key Value) (key : Key) : Option Value := map.entries.lookup key

def insert (map : OrderedMap Key Value) (key : Key) (value : Value) : OrderedMap Key Value :=
  if isKey : key ∈ map.keys then
    { entries :=
        map.entries.map fun entry =>
          if entry.1 = key then (key, value) else entry
      distinct := by
        have sameKeys :
            (Prod.fst ∘ fun entry : Key × Value =>
              if entry.1 = key then (key, value) else entry) = Prod.fst := by
          funext entry
          by_cases same : entry.1 = key <;> simp [same]
        rw [map_map, sameKeys]
        exact map.distinct }
  else
    { entries := map.entries ++ [(key, value)]
      distinct := by
        rw [map_append, map_singleton, ← concat_eq_append]
        exact List.Nodup.concat isKey map.distinct }

def erase (map : OrderedMap Key Value) (key : Key) : OrderedMap Key Value :=
  { entries := map.entries.filter fun entry => entry.1 ≠ key
    distinct := map.distinct.sublist (filter_sublist.map Prod.fst) }

def filter (map : OrderedMap Key Value) (keeps : Value → Bool) : OrderedMap Key Value :=
  { entries := map.entries.filter fun entry => keeps entry.2
    distinct := map.distinct.sublist (filter_sublist.map Prod.fst) }

def Same (map other : OrderedMap Key Value) : Prop := ∀ key, map.get key = other.get key

variable (map : OrderedMap Key Value)

theorem Same.refl : map.Same map := fun _ => rfl

variable {entries : List (Key × Value)} {key : Key}

@[simp]
theorem get_empty (key : Key) : (empty : OrderedMap Key Value).get key = none :=
  rfl

theorem lookup_eq_none_of_not_mem (notKey : key ∉ entries.map Prod.fst) :
    entries.lookup key = none := by
  rw [lookup_eq_none_iff]
  intro entry isEntry
  rw [bne_iff_ne]
  rintro rfl
  exact notKey (mem_map.mpr ⟨entry, isEntry, rfl⟩)

theorem lookup_update {value : Value} (isKey : key ∈ entries.map Prod.fst) (asked : Key) :
    (entries.map fun entry =>
      if entry.1 = key then (key, value) else entry).lookup asked =
      if asked = key then some value else entries.lookup asked := by
  induction entries with
  | nil => cases isKey
  | cons entry rest ih =>
    obtain ⟨name, held⟩ := entry
    rw [map_cons, lookup_cons, lookup_cons]
    by_cases same : name = key
    · subst name
      by_cases isAsked : asked = key
      · simp [isAsked]
      · have notFound : (asked == key) = false := by simp [isAsked]
        simp only [if_pos, if_neg isAsked, notFound]
        by_cases isLater : key ∈ rest.map Prod.fst
        · rw [ih isLater, if_neg isAsked]
        · rw [map_congr_left (g := id), map_id]
          rintro ⟨other, stored⟩ isEntry
          rw [if_neg]
          · rfl
          · rintro rfl
            exact isLater (mem_map.mpr ⟨_, isEntry, rfl⟩)
    · have isLater : key ∈ rest.map Prod.fst := by simpa [Ne.symm same] using isKey
      simp only [if_neg same, ih isLater]
      by_cases isAsked : asked = name
      · subst asked
        simp [same]
      · have notFound : (asked == name) = false := by simp [isAsked]
        simp [notFound]

theorem get_insert (key : Key) (value : Value) (asked : Key) :
    (map.insert key value).get asked = if asked = key then some value else map.get asked := by
  unfold insert
  split
  · next isKey => exact lookup_update isKey asked
  · next isKey =>
    rw [get, lookup_append]
    by_cases isAsked : asked = key
    · subst asked
      simp [lookup_eq_none_of_not_mem isKey]
    · have notFound : (asked == key) = false := by simp [isAsked]
      simp [lookup_cons, notFound, isAsked, get]

theorem get_erase (key asked : Key) :
    (map.erase key).get asked = if asked = key then none else map.get asked := by
  obtain ⟨entries, distinct⟩ := map
  simp only [erase, get]
  clear distinct
  induction entries with
  | nil => simp
  | cons entry rest ih =>
    obtain ⟨name, held⟩ := entry
    rw [lookup_cons, filter_cons]
    by_cases same : name = key
    · subst name
      simp only [ne_eq, not_true, decide_false, Bool.false_eq_true, if_false, ih]
      by_cases isAsked : asked = key
      · simp [isAsked]
      · have notFound : (asked == key) = false := by simp [isAsked]
        simp [notFound]
    · simp only [ne_eq, same, not_false_eq_true, decide_true, if_true, lookup_cons, ih]
      by_cases isAsked : asked = name
      · subst asked
        simp [same]
      · have notFound : (asked == name) = false := by simp [isAsked]
        simp [notFound]

theorem get_filter (keeps : Value → Bool) (asked : Key) :
    (map.filter keeps).get asked = (map.get asked).filter keeps := by
  obtain ⟨entries, distinct⟩ := map
  simp only [filter, get]
  induction entries with
  | nil => rfl
  | cons entry rest ih =>
    obtain ⟨name, held⟩ := entry
    rw [map_cons, nodup_cons] at distinct
    rw [filter_cons]
    by_cases isAsked : asked = name
    · subst asked
      cases isKept : keeps held with
      | true => simp [Option.filter_some, isKept]
      | false =>
        have notFound := lookup_eq_none_of_not_mem distinct.1
        simp [Option.filter_some, isKept, ih distinct.2, notFound]
    · have notFound : (asked == name) = false := by simp [isAsked]
      split <;> simp [lookup_cons, notFound, ih distinct.2]

variable {pairs : List (Key × Value)}

theorem get_foldl_insert (distinct : (pairs.map Prod.fst).Nodup) (map : OrderedMap Key Value)
    (asked : Key) :
    (pairs.foldl (fun map pair => map.insert pair.1 pair.2) map).get asked =
      (pairs.lookup asked).or (map.get asked) := by
  induction pairs generalizing map with
  | nil => rfl
  | cons pair rest ih =>
    obtain ⟨key, value⟩ := pair
    rw [map_cons, nodup_cons] at distinct
    rw [foldl_cons, ih distinct.2, get_insert, lookup_cons]
    by_cases isAsked : asked = key
    · subst asked
      simp [lookup_eq_none_of_not_mem distinct.1]
    · have notFound : (asked == key) = false := by simp [isAsked]
      simp [notFound, isAsked]

theorem entries_foldl_insert (distinct : (pairs.map Prod.fst).Nodup) :
    (pairs.foldl (fun map pair => map.insert pair.1 pair.2) empty).entries = pairs := by
  suffices appended : ∀ map : OrderedMap Key Value, (∀ key ∈ pairs.map Prod.fst, key ∉ map.keys) →
        (pairs.foldl (fun map pair => map.insert pair.1 pair.2) map).entries =
          map.entries ++ pairs from
    appended empty fun _ _ => not_mem_nil
  induction pairs with
  | nil =>
    intro map _
    exact (append_nil _).symm
  | cons pair rest ih =>
    intro map areNew
    obtain ⟨key, value⟩ := pair
    rw [map_cons, nodup_cons] at distinct
    have isNew : key ∉ map.keys := areNew key mem_cons_self
    have inserted : (map.insert key value).entries = map.entries ++ [(key, value)] := by
      rw [insert, dif_neg isNew]
    rw [foldl_cons, ih distinct.2, inserted, append_assoc, singleton_append]
    intro other isOther isKey
    rw [keys, inserted, map_append, mem_append] at isKey
    rcases isKey with isOld | isSame
    · exact areNew other (mem_cons_of_mem _ isOther) isOld
    · rw [map_singleton, mem_singleton] at isSame
      subst isSame
      exact distinct.1 isOther

theorem lookup_zip_map {keys : List Key} (valueOf : Key → Value) (asked : Key) :
    (keys.zip (keys.map valueOf)).lookup asked =
      if asked ∈ keys then some (valueOf asked) else none := by
  induction keys with
  | nil => rfl
  | cons key rest ih =>
    rw [map_cons, zip_cons_cons, lookup_cons, ih]
    by_cases isAsked : asked = key
    · subst asked
      simp
    · have notFound : (asked == key) = false := by simp [isAsked]
      simp [notFound, isAsked]

variable {map : OrderedMap Key Value}

theorem get_isSome_iff {key : Key} : (map.get key).isSome ↔ key ∈ map.keys := by
  simp [get, keys]

theorem mem_values_iff {value : Value} : value ∈ map.values ↔ ∃ key, map.get key = some value := by
  constructor
  · intro isValue
    obtain ⟨⟨key, held⟩, isEntry, rfl⟩ := mem_map.mp isValue
    obtain ⟨before, after, split⟩ := append_of_mem isEntry
    refine ⟨key, lookup_eq_some_iff.mpr ⟨before, after, split, ?_⟩⟩
    intro entry isBefore
    have distinct := map.distinct
    rw [split, map_append] at distinct
    rw [bne_iff_ne]
    exact (nodup_append.mp distinct).2.2 entry.1
      (mem_map.mpr ⟨entry, isBefore, rfl⟩) key mem_cons_self
      |>.symm
  · rintro ⟨key, isGet⟩
    obtain ⟨before, after, split, -⟩ := lookup_eq_some_iff.mp isGet
    refine mem_map.mpr ⟨(key, value), ?_, rfl⟩
    rw [split]
    exact mem_append_right _ mem_cons_self

end OrderedMap
