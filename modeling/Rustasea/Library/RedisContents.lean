import Mathlib.Data.List.Sort
import Mathlib.Data.String.Basic

namespace Redis

/-!
# A keyspace of lists and sorted sets

The commands of one key-value store with lists and sorted sets.  A command on
a key of the other type fails and changes nothing; a collection that becomes
empty is removed together with its key.
-/

/-- The collection under a key; a sorted set keeps its members by score. -/
inductive Stored where
  | list (items : List String)
  | sortedSet (entries : List (String × Int))

abbrev Keyspace := String → Option Stored

def listAt? (key : String) (keys : Keyspace) : Option (List String) :=
  match keys key with
  | none => some []
  | some (.list items) => some items
  | some (.sortedSet _) => none

/-- The entries of a sorted set; a missing key is the empty set. -/
def sortedAt? (key : String) (keys : Keyspace) : Option (List (String × Int)) :=
  match keys key with
  | none => some []
  | some (.sortedSet entries) => some entries
  | some (.list _) => none

def putList (key : String) (items : List String) (keys : Keyspace) : Keyspace :=
  Function.update keys key (if items.isEmpty then none else some (.list items))

def putSorted (key : String) (entries : List (String × Int)) (keys : Keyspace) : Keyspace :=
  Function.update keys key (if entries.isEmpty then none else some (.sortedSet entries))

/-! ## Reading after writing -/

@[simp] theorem listAt?_putList (key : String) (items : List String) (keys : Keyspace) :
    listAt? key (putList key items keys) = some items := by
  unfold listAt? putList
  rw [Function.update_self]
  cases items <;> rfl

@[simp] theorem sortedAt?_putSorted (key : String) (entries : List (String × Int))
    (keys : Keyspace) : sortedAt? key (putSorted key entries keys) = some entries := by
  unfold sortedAt? putSorted
  rw [Function.update_self]
  cases entries <;> rfl

variable {key other : String}

theorem putList_of_ne (ne : other ≠ key) (items : List String)
    (keys : Keyspace) : putList key items keys other = keys other :=
  Function.update_of_ne ne _ _

theorem putSorted_of_ne (ne : other ≠ key) (entries : List (String × Int))
    (keys : Keyspace) : putSorted key entries keys other = keys other :=
  Function.update_of_ne ne _ _

variable {key : String} {keys after : Keyspace}

theorem listAt?_congr (same : after key = keys key) : listAt? key after = listAt? key keys := by
  unfold listAt?
  rw [same]

theorem sortedAt?_congr (same : after key = keys key) :
    sortedAt? key after = sortedAt? key keys := by
  unfold sortedAt?
  rw [same]

@[simp] theorem listAt?_putList_of_ne (ne : other ≠ key) (items : List String)
    (keys : Keyspace) : listAt? other (putList key items keys) = listAt? other keys :=
  listAt?_congr (putList_of_ne ne items keys)

@[simp] theorem listAt?_putSorted_of_ne (ne : other ≠ key) (entries : List (String × Int))
    (keys : Keyspace) : listAt? other (putSorted key entries keys) = listAt? other keys :=
  listAt?_congr (putSorted_of_ne ne entries keys)

@[simp] theorem sortedAt?_putList_of_ne (ne : other ≠ key) (items : List String)
    (keys : Keyspace) : sortedAt? other (putList key items keys) = sortedAt? other keys :=
  sortedAt?_congr (putList_of_ne ne items keys)

@[simp] theorem sortedAt?_putSorted_of_ne (ne : other ≠ key) (entries : List (String × Int))
    (keys : Keyspace) : sortedAt? other (putSorted key entries keys) = sortedAt? other keys :=
  sortedAt?_congr (putSorted_of_ne ne entries keys)

/-! ## Commands -/

def lpush (key item : String) (keys : Keyspace) : Option Keyspace :=
  (listAt? key keys).map fun items => putList key (item :: items) keys

/-- `RPOP key`; the blocking form answers the same when the list is there. -/
def rpop (key : String) (keys : Keyspace) : Option (Option String × Keyspace) :=
  (listAt? key keys).map fun items =>
    match items.getLast? with
    | none => (none, keys)
    | some item => (some item, putList key items.dropLast keys)

def llen (key : String) (keys : Keyspace) : Option Nat := (listAt? key keys).map List.length

/-- Entries are ordered by score, and by member under one score. -/
def EntryLe (first second : String × Int) : Prop :=
  first.2 < second.2 ∨ (first.2 = second.2 ∧ first.1 ≤ second.1)

instance : DecidableRel EntryLe :=
  fun first second =>
    inferInstanceAs (Decidable (first.2 < second.2 ∨ (first.2 = second.2 ∧ first.1 ≤ second.1)))

def withoutMember (member : String) (entries : List (String × Int)) : List (String × Int) :=
  entries.filter fun entry => entry.1 != member

def zadd (key member : String) (score : Int) (keys : Keyspace) : Option Keyspace :=
  (sortedAt? key keys).map fun entries =>
    putSorted key (List.orderedInsert EntryLe (member, score) (withoutMember member entries)) keys

def zrem (key member : String) (keys : Keyspace) : Option (Nat × Keyspace) :=
  (sortedAt? key keys).map fun entries =>
    (entries.length - (withoutMember member entries).length,
      putSorted key (withoutMember member entries) keys)

def zrangeByScore (key : String) (high : Int) (keys : Keyspace) : Option (List String) :=
  (sortedAt? key keys).map fun entries => (entries.filter fun entry => entry.2 ≤ high).map Prod.fst

def zcountUpTo (key : String) (high : Int) (keys : Keyspace) : Option Nat :=
  (sortedAt? key keys).map fun entries => entries.countP fun entry => entry.2 ≤ high

def zcountFrom (key : String) (low : Int) (keys : Keyspace) : Option Nat :=
  (sortedAt? key keys).map fun entries => entries.countP fun entry => low ≤ entry.2

def zcard (key : String) (keys : Keyspace) : Option Nat := (sortedAt? key keys).map List.length

/-! ## Commands on keys of their type -/

variable {keys : Keyspace} {items : List String}

theorem lpush_eq (isRead : listAt? key keys = some items) (item : String) :
    lpush key item keys = some (putList key (item :: items) keys) := by
  rw [lpush, isRead]
  rfl

theorem rpop_nil (isRead : listAt? key keys = some []) : rpop key keys = some (none, keys) := by
  rw [rpop, isRead]
  rfl

theorem rpop_concat {item : String} (isRead : listAt? key keys = some (items ++ [item])) :
    rpop key keys = some (some item, putList key items keys) := by
  rw [rpop, isRead]
  simp

variable {entries : List (String × Int)}

theorem zadd_eq (isRead : sortedAt? key keys = some entries) (member : String) (score : Int) :
    zadd key member score keys = some (putSorted key
      (List.orderedInsert EntryLe (member, score) (withoutMember member entries)) keys) := by
  rw [zadd, isRead]
  rfl

theorem zrem_eq (isRead : sortedAt? key keys = some entries) (member : String) :
    zrem key member keys = some (entries.length - (withoutMember member entries).length,
      putSorted key (withoutMember member entries) keys) := by
  rw [zrem, isRead]
  rfl

/-! ## Members -/

theorem map_fst_withoutMember (member : String) (entries : List (String × Int)) :
    (withoutMember member entries).map Prod.fst =
      (entries.map Prod.fst).filter fun other => other != member := by
  rw [List.filter_map]
  rfl

variable {member : String}

theorem removed_pos (isThere : member ∈ entries.map Prod.fst) :
    0 < entries.length - (withoutMember member entries).length := by
  obtain ⟨entry, isEntry, rfl⟩ := List.mem_map.mp isThere
  apply Nat.sub_pos_of_lt
  unfold withoutMember
  rw [List.length_filter_lt_length_iff_exists]
  exact ⟨entry, isEntry, by simp⟩

theorem withoutMember_eq_self (absent : member ∉ entries.map Prod.fst) :
    withoutMember member entries = entries := by
  rw [withoutMember, List.filter_eq_self]
  intro entry isEntry
  rw [bne_iff_ne]
  rintro rfl
  exact absent (List.mem_map_of_mem isEntry)

theorem perm_members_insert (isNew : member ∉ entries.map Prod.fst) (score : Int) :
    ((List.orderedInsert EntryLe (member, score) (withoutMember member entries)).map Prod.fst).Perm
      (member :: entries.map Prod.fst) := by
  rw [withoutMember_eq_self isNew]
  exact (List.perm_orderedInsert EntryLe (member, score) entries).map _

variable {others : List String}

theorem perm_members_remove (members : (entries.map Prod.fst).Perm (member :: others))
    (distinct : member ∉ others) : ((withoutMember member entries).map Prod.fst).Perm others := by
  rw [map_fst_withoutMember]
  refine (members.filter fun other => other != member).trans ?_
  have kept : others.filter (fun other => other != member) = others := by
    rw [List.filter_eq_self]
    intro other isOther
    rw [bne_iff_ne]
    rintro rfl
    exact distinct isOther
  simp [kept]

/-- The sorted set under a key has exactly these members. -/
def HasMembers (key : String) (keys : Keyspace) (members : List String) : Prop :=
  ∃ entries, sortedAt? key keys = some entries ∧ (entries.map Prod.fst).Perm members

variable {members : List String}

theorem HasMembers.congr (has : HasMembers key keys members)
    (same : sortedAt? key after = sortedAt? key keys) : HasMembers key after members := by
  obtain ⟨entries, isRead, isMembers⟩ := has
  exact ⟨entries, same.trans isRead, isMembers⟩

theorem HasMembers.perm {members others : List String} (has : HasMembers key keys members)
    (same : members.Perm others) : HasMembers key keys others := by
  obtain ⟨entries, isRead, isMembers⟩ := has
  exact ⟨entries, isRead, isMembers.trans same⟩

theorem HasMembers.zadd (has : HasMembers key keys members) (isNew : member ∉ members)
    (score : Int) :
    ∃ entries, Redis.zadd key member score keys = some (putSorted key entries keys) ∧
      HasMembers key (putSorted key entries keys) (member :: members) := by
  obtain ⟨entries, isRead, isMembers⟩ := has
  refine ⟨_, zadd_eq isRead member score, _, sortedAt?_putSorted _ _ _, ?_⟩
  refine (perm_members_insert ?_ score).trans (isMembers.cons member)
  exact fun isThere => isNew (isMembers.subset isThere)

theorem HasMembers.zrem {key member : String} (has : HasMembers key keys (member :: others))
    (distinct : member ∉ others) :
    ∃ removed entries, Redis.zrem key member keys = some (removed, putSorted key entries keys) ∧
      0 < removed ∧ HasMembers key (putSorted key entries keys) others := by
  obtain ⟨entries, isRead, isMembers⟩ := has
  have isThere : member ∈ entries.map Prod.fst := isMembers.symm.subset List.mem_cons_self
  exact ⟨_, _, zrem_eq isRead member, removed_pos isThere, _,
    sortedAt?_putSorted _ _ _, perm_members_remove isMembers distinct⟩

theorem HasMembers.zrem_absent {key member : String} (has : HasMembers key keys members)
    (absent : member ∉ members) :
    ∃ removed entries, Redis.zrem key member keys = some (removed, putSorted key entries keys) ∧
      HasMembers key (putSorted key entries keys) members := by
  obtain ⟨entries, isRead, isMembers⟩ := has
  refine ⟨_, _, zrem_eq isRead member, _, sortedAt?_putSorted _ _ _, ?_⟩
  rw [withoutMember_eq_self (fun isThere => absent (isMembers.subset isThere))]
  exact isMembers

theorem countP_boundary (entries : List (String × Int)) (score : Int) :
    entries.countP (fun entry => entry.2 ≤ score) + entries.countP (fun entry => score ≤ entry.2) =
      entries.length + entries.countP fun entry => entry.2 = score := by
  induction entries with
  | nil => rfl
  | cons entry rest ih =>
    simp only [List.countP_cons, List.length_cons, decide_eq_true_eq]
    rcases lt_trichotomy entry.2 score with below | at_ | above
    · rw [if_pos below.le, if_neg (not_le.mpr below), if_neg below.ne]
      omega
    · rw [if_pos at_.le, if_pos at_.ge, if_pos at_]
      omega
    · rw [if_neg (not_le.mpr above), if_pos above.le, if_neg above.ne']
      omega

/-!
## What commands change

A command touches one key.  What its list or its sorted set holds afterwards is
said here, for keyspaces in which a key may be of either type: under a key that
reads as a list there are no entries, and under one that reads as a sorted set
there are no items, so that no command changes collections of the other type.
-/

def itemsAt (key : String) (keys : Keyspace) : List String := (listAt? key keys).getD []

def entriesAt (key : String) (keys : Keyspace) : List (String × Int) := (sortedAt? key keys).getD []

variable {key : String} {keys : Keyspace}

theorem entriesAt_of_list {items : List String} (isRead : listAt? key keys = some items) :
    entriesAt key keys = [] := by
  unfold listAt? at isRead
  unfold entriesAt sortedAt?
  rcases stored : keys key with _ | (_ | _)
  · rfl
  · rfl
  · rw [stored] at isRead
    cases isRead

theorem itemsAt_of_sorted {entries : List (String × Int)}
    (isRead : sortedAt? key keys = some entries) : itemsAt key keys = [] := by
  unfold sortedAt? at isRead
  unfold itemsAt listAt?
  rcases stored : keys key with _ | (_ | _)
  · rfl
  · rw [stored] at isRead
    cases isRead
  · rfl

theorem entriesAt_putList {before : List String} (isRead : listAt? key keys = some before)
    (items : List String) (other : String) :
    entriesAt other (putList key items keys) = entriesAt other keys := by
  by_cases same : other = key
  · subst same
    rw [entriesAt_of_list isRead, entriesAt_of_list (listAt?_putList other items keys)]
  · rw [entriesAt, sortedAt?_putList_of_ne same, entriesAt]

variable {before : List (String × Int)}

theorem itemsAt_putSorted (isRead : sortedAt? key keys = some before)
    (entries : List (String × Int)) (other : String) :
    itemsAt other (putSorted key entries keys) = itemsAt other keys := by
  by_cases same : other = key
  · subst same
    rw [itemsAt_of_sorted isRead, itemsAt_of_sorted (sortedAt?_putSorted other entries keys)]
  · rw [itemsAt, listAt?_putSorted_of_ne same, itemsAt]

/-- What one command does to the lists and to the sorted sets. -/
structure Changes (listKey : Option String) (sortedKey : Option String)
    (keys after : Keyspace) : Prop where
  items : ∀ other, some other ≠ listKey → itemsAt other after = itemsAt other keys
  entries : ∀ other, some other ≠ sortedKey → entriesAt other after = entriesAt other keys

theorem changes_putList {before : List String} (isRead : listAt? key keys = some before)
    (items : List String) : Changes (some key) none keys (putList key items keys) where
  items := fun other ne => by
    rw [itemsAt, listAt?_putList_of_ne (fun same => ne (congrArg some same)), itemsAt]
  entries := fun other _ => entriesAt_putList isRead items other

theorem changes_putSorted (isRead : sortedAt? key keys = some before)
    (entries : List (String × Int)) :
    Changes none (some key) keys (putSorted key entries keys) where
  items := fun other _ => itemsAt_putSorted isRead entries other
  entries := fun other ne => by
    rw [entriesAt, sortedAt?_putSorted_of_ne (fun same => ne (congrArg some same)), entriesAt]

variable {keys after : Keyspace}

theorem changes_lpush {key item : String} (pushed : lpush key item keys = some after) :
    Changes (some key) none keys after ∧ itemsAt key after = item :: itemsAt key keys := by
  obtain ⟨items, isRead, rfl⟩ := Option.map_eq_some_iff.mp pushed
  refine ⟨changes_putList isRead _, ?_⟩
  rw [itemsAt, listAt?_putList, itemsAt, isRead]
  rfl

theorem changes_rpop {popped : Option String} (isPopped : rpop key keys = some (popped, after)) :
    Changes (some key) none keys after ∧ itemsAt key keys = itemsAt key after ++ popped.toList := by
  obtain ⟨items, isRead, popping⟩ := Option.map_eq_some_iff.mp isPopped
  cases isLast : items.getLast? with
  | none =>
    rw [isLast] at popping
    cases popping
    exact ⟨⟨fun _ _ => rfl, fun _ _ => rfl⟩, (List.append_nil _).symm⟩
  | some item =>
    rw [isLast] at popping
    cases popping
    refine ⟨changes_putList isRead _, ?_⟩
    rw [itemsAt, isRead, itemsAt, listAt?_putList, Option.getD_some]
    exact (List.dropLast_append_getLast? item isLast).symm

theorem changes_zadd {key member : String} {score : Int}
    (added : zadd key member score keys = some after) :
    Changes none (some key) keys after ∧
    (entriesAt key after).Perm ((member, score) :: withoutMember member (entriesAt key keys)) := by
  obtain ⟨entries, isRead, rfl⟩ := Option.map_eq_some_iff.mp added
  refine ⟨changes_putSorted isRead _, ?_⟩
  rw [entriesAt, sortedAt?_putSorted, entriesAt, isRead]
  exact List.perm_orderedInsert EntryLe (member, score) _

theorem changes_zrem {key member : String} {removed : Nat}
    (isRemoved : zrem key member keys = some (removed, after)) :
    Changes none (some key) keys after ∧
    entriesAt key after = withoutMember member (entriesAt key keys) ∧
    (0 < removed → member ∈ (entriesAt key keys).map Prod.fst) := by
  obtain ⟨entries, isRead, removing⟩ := Option.map_eq_some_iff.mp isRemoved
  cases removing
  have isHere : entriesAt key keys = entries := by
    rw [entriesAt, isRead]
    rfl
  refine ⟨changes_putSorted isRead _, ?_, fun some => ?_⟩
  · rw [isHere, entriesAt, sortedAt?_putSorted]
    rfl
  · rw [isHere]
    by_contra absent
    rw [withoutMember_eq_self absent, Nat.sub_self] at some
    exact Nat.lt_irrefl 0 some

end Redis
