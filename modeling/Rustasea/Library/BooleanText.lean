import Mathlib.Order.Lattice

namespace BooleanText

open List

/-!
# Boolean texts and their reading by precedence

A boolean text is a list of tokens over some type of atoms.  It is read as
SQL and most languages read it: parentheses first, then `NOT`, then `AND`,
then `OR`.  The trees below are the derivations of that grammar, so printing
adds no parentheses, and the reader recovers exactly the printed tree.
-/

inductive Token (Atom : Type) where
  | atom (text : Atom)
  | and
  | or
  | not
  | lparen
  | rparen
  deriving DecidableEq

mutual

/-- Conjunctions joined by `OR`. -/
inductive Disjunction (Atom : Type) where
  | one (only : Conjunction Atom)
  | or (first : Conjunction Atom) (later : Disjunction Atom)

/-- Factors joined by `AND`. -/
inductive Conjunction (Atom : Type) where
  | one (only : Factor Atom)
  | and (first : Factor Atom) (later : Conjunction Atom)

/-- Atoms, negations and parenthesised texts. -/
inductive Factor (Atom : Type) where
  | atom (text : Atom)
  | not (inner : Factor Atom)
  | group (inner : Disjunction Atom)

end

variable {Atom : Type}

/-! ## Printing -/

mutual

def Disjunction.print : Disjunction Atom → List (Token Atom)
  | .one only => only.print
  | .or first later => first.print ++ .or :: later.print

def Conjunction.print : Conjunction Atom → List (Token Atom)
  | .one only => only.print
  | .and first later => first.print ++ .and :: later.print

def Factor.print : Factor Atom → List (Token Atom)
  | .atom text => [.atom text]
  | .not inner => .not :: inner.print
  | .group inner => .lparen :: (inner.print ++ [.rparen])

end

/-! ## Reading -/

mutual

def readDisjunction : Nat → List (Token Atom) → Option (Disjunction Atom × List (Token Atom))
  | 0, _ => none
  | fuel + 1, tokens =>
    match readConjunction fuel tokens with
    | none => none
    | some (first, .or :: rest) =>
      match readDisjunction fuel rest with
      | none => none
      | some (later, rest) => some (.or first later, rest)
    | some (only, rest) => some (.one only, rest)

def readConjunction : Nat → List (Token Atom) → Option (Conjunction Atom × List (Token Atom))
  | 0, _ => none
  | fuel + 1, tokens =>
    match readFactor fuel tokens with
    | none => none
    | some (first, .and :: rest) =>
      match readConjunction fuel rest with
      | none => none
      | some (later, rest) => some (.and first later, rest)
    | some (only, rest) => some (.one only, rest)

def readFactor : Nat → List (Token Atom) → Option (Factor Atom × List (Token Atom))
  | 0, _ => none
  | fuel + 1, tokens =>
    match tokens with
    | .atom text :: rest => some (.atom text, rest)
    | .not :: rest =>
      match readFactor fuel rest with
      | none => none
      | some (inner, rest) => some (.not inner, rest)
    | .lparen :: rest =>
      match readDisjunction fuel rest with
      | some (inner, .rparen :: rest) => some (.group inner, rest)
      | _ => none
    | _ => none

end

def read (tokens : List (Token Atom)) : Option (Disjunction Atom) :=
  match readDisjunction (3 * tokens.length) tokens with
  | some (tree, []) => some tree
  | _ => none

/-! ## The reader recovers the printed tree -/

mutual

def Disjunction.weight : Disjunction Atom → Nat
  | .one only => only.weight + 1
  | .or first later => first.weight + later.weight + 1

def Conjunction.weight : Conjunction Atom → Nat
  | .one only => only.weight + 1
  | .and first later => first.weight + later.weight + 1

def Factor.weight : Factor Atom → Nat
  | .atom _ => 1
  | .not inner => inner.weight + 1
  | .group inner => inner.weight + 1

end

mutual

theorem Disjunction.weight_le : (tree : Disjunction Atom) → tree.weight ≤ 3 * tree.print.length
  | .one only => by
    have bound := only.weight_le
    simp only [Disjunction.weight, Disjunction.print]
    omega
  | .or first later => by
    have firstBound := first.weight_le
    have laterBound := later.weight_le
    simp only [Disjunction.weight, Disjunction.print, length_append, length_cons]
    omega

theorem Conjunction.weight_le : (tree : Conjunction Atom) → tree.weight + 1 ≤ 3 * tree.print.length
  | .one only => by
    have bound := only.weight_le
    simp only [Conjunction.weight, Conjunction.print]
    omega
  | .and first later => by
    have firstBound := first.weight_le
    have laterBound := later.weight_le
    simp only [Conjunction.weight, Conjunction.print, length_append, length_cons]
    omega

theorem Factor.weight_le : (tree : Factor Atom) → tree.weight + 2 ≤ 3 * tree.print.length
  | .atom text => by
    simp [Factor.weight, Factor.print]
  | .not inner => by
    have bound := inner.weight_le
    simp only [Factor.weight, Factor.print, length_cons]
    omega
  | .group inner => by
    have bound := inner.weight_le
    simp only [Factor.weight, Factor.print, length_cons, length_append, length_nil]
    omega

end

/-- The text goes on with neither `AND` nor `OR`. -/
def Ends (rest : List (Token Atom)) : Prop := rest.head? ≠ some .and ∧ rest.head? ≠ some .or

mutual

theorem readDisjunction_print : (tree : Disjunction Atom) → (fuel : Nat) →
    (rest : List (Token Atom)) → tree.weight ≤ fuel → Ends rest →
    readDisjunction fuel (tree.print ++ rest) = some (tree, rest)
  | .one only, fuel, rest, enough, ends => by
    obtain ⟨fuel, rfl⟩ : ∃ less, fuel = less + 1 :=
      ⟨fuel - 1, by simp only [Disjunction.weight] at enough; omega⟩
    simp only [Disjunction.weight, Nat.add_le_add_iff_right] at enough
    have recovered := readConjunction_print only fuel rest enough ends.1
    simp only [Disjunction.print, readDisjunction, recovered]
    split
    · next noTree => simp at noTree
    · next continues =>
      simp only [Option.some.injEq, Prod.mk.injEq] at continues
      simp [Ends, continues.2] at ends
    · next same =>
      simp only [Option.some.injEq, Prod.mk.injEq] at same
      rw [same.1, same.2]
  | .or first later, fuel, rest, enough, ends => by
    obtain ⟨fuel, rfl⟩ : ∃ less, fuel = less + 1 :=
      ⟨fuel - 1, by simp only [Disjunction.weight] at enough; omega⟩
    simp only [Disjunction.weight, Nat.add_le_add_iff_right] at enough
    have firstRead :=
      readConjunction_print first fuel (.or :: (later.print ++ rest)) (by omega) (by simp)
    have laterRead := readDisjunction_print later fuel rest (by omega) ends
    simp only [Disjunction.print, append_assoc, cons_append,
      readDisjunction, firstRead, laterRead]

theorem readConjunction_print : (tree : Conjunction Atom) → (fuel : Nat) →
    (rest : List (Token Atom)) → tree.weight ≤ fuel → rest.head? ≠ some .and →
    readConjunction fuel (tree.print ++ rest) = some (tree, rest)
  | .one only, fuel, rest, enough, ends => by
    obtain ⟨fuel, rfl⟩ : ∃ less, fuel = less + 1 :=
      ⟨fuel - 1, by simp only [Conjunction.weight] at enough; omega⟩
    simp only [Conjunction.weight, Nat.add_le_add_iff_right] at enough
    have recovered := readFactor_print only fuel rest enough
    simp only [Conjunction.print, readConjunction, recovered]
    split
    · next noTree => simp at noTree
    · next continues =>
      simp only [Option.some.injEq, Prod.mk.injEq] at continues
      simp [continues.2] at ends
    · next same =>
      simp only [Option.some.injEq, Prod.mk.injEq] at same
      rw [same.1, same.2]
  | .and first later, fuel, rest, enough, ends => by
    obtain ⟨fuel, rfl⟩ : ∃ less, fuel = less + 1 :=
      ⟨fuel - 1, by simp only [Conjunction.weight] at enough; omega⟩
    simp only [Conjunction.weight, Nat.add_le_add_iff_right] at enough
    have firstRead := readFactor_print first fuel (.and :: (later.print ++ rest)) (by omega)
    have laterRead := readConjunction_print later fuel rest (by omega) ends
    simp only [Conjunction.print, append_assoc, cons_append,
      readConjunction, firstRead, laterRead]

theorem readFactor_print : (tree : Factor Atom) → (fuel : Nat) → (rest : List (Token Atom)) →
    tree.weight ≤ fuel → readFactor fuel (tree.print ++ rest) = some (tree, rest)
  | .atom text, fuel, rest, enough => by
    obtain ⟨fuel, rfl⟩ : ∃ less, fuel = less + 1 :=
      ⟨fuel - 1, by simp only [Factor.weight] at enough; omega⟩
    simp [Factor.print, readFactor]
  | .not inner, fuel, rest, enough => by
    obtain ⟨fuel, rfl⟩ : ∃ less, fuel = less + 1 :=
      ⟨fuel - 1, by simp only [Factor.weight] at enough; omega⟩
    simp only [Factor.weight, Nat.add_le_add_iff_right] at enough
    have innerRead := readFactor_print inner fuel rest enough
    simp only [Factor.print, cons_append, readFactor, innerRead]
  | .group inner, fuel, rest, enough => by
    obtain ⟨fuel, rfl⟩ : ∃ less, fuel = less + 1 :=
      ⟨fuel - 1, by simp only [Factor.weight] at enough; omega⟩
    simp only [Factor.weight, Nat.add_le_add_iff_right] at enough
    have innerRead := readDisjunction_print inner fuel (.rparen :: rest) enough (by simp [Ends])
    simp only [Factor.print, cons_append, append_assoc,
      nil_append, readFactor, innerRead]

end

@[simp] theorem read_print (tree : Disjunction Atom) : read tree.print = some tree := by
  have recovered := readDisjunction_print tree (3 * tree.print.length) []
      tree.weight_le (by simp [Ends])
  rw [append_nil] at recovered
  unfold read
  rw [recovered]

/-- What the three readers took off the front is what their trees print. -/
private theorem taken_eq_print (fuel : Nat) :
    (∀ (tokens : List (Token Atom)) tree rest, readDisjunction fuel tokens = some (tree, rest) →
      tokens = tree.print ++ rest) ∧
    (∀ (tokens : List (Token Atom)) tree rest, readConjunction fuel tokens = some (tree, rest) →
      tokens = tree.print ++ rest) ∧
    ∀ (tokens : List (Token Atom)) tree rest, readFactor fuel tokens = some (tree, rest) →
      tokens = tree.print ++ rest := by
  induction fuel with
  | zero => simp [readDisjunction, readConjunction, readFactor]
  | succ fuel ih =>
    obtain ⟨disjunctions, conjunctions, factors⟩ := ih
    refine ⟨?_, ?_, ?_⟩
    · intro tokens tree rest taken
      simp only [readDisjunction] at taken
      split at taken
      · simp at taken
      · next first afterFirst firstRead =>
        split at taken
        · simp at taken
        · next later afterLater laterRead =>
          obtain ⟨rfl, rfl⟩ := taken
          rw [conjunctions _ _ _ firstRead, disjunctions _ _ _ laterRead]
          simp [Disjunction.print]
      · next only afterOnly _ onlyRead =>
        obtain ⟨rfl, rfl⟩ := taken
        exact conjunctions _ _ _ onlyRead
    · intro tokens tree rest taken
      simp only [readConjunction] at taken
      split at taken
      · simp at taken
      · next first afterFirst firstRead =>
        split at taken
        · simp at taken
        · next later afterLater laterRead =>
          obtain ⟨rfl, rfl⟩ := taken
          rw [factors _ _ _ firstRead, conjunctions _ _ _ laterRead]
          simp [Conjunction.print]
      · next only afterOnly _ onlyRead =>
        obtain ⟨rfl, rfl⟩ := taken
        exact factors _ _ _ onlyRead
    · intro tokens tree rest taken
      simp only [readFactor] at taken
      split at taken
      · obtain ⟨rfl, rfl⟩ := taken
        rfl
      · split at taken
        · simp at taken
        · next inner afterInner innerRead =>
          obtain ⟨rfl, rfl⟩ := taken
          rw [factors _ _ _ innerRead]
          rfl
      · split at taken
        · next inner afterInner innerRead =>
          obtain ⟨rfl, rfl⟩ := taken
          rw [disjunctions _ _ _ innerRead]
          simp [Factor.print]
        · simp at taken
      · simp at taken

variable {tokens : List (Token Atom)}

theorem read_eq_some_iff {tree : Disjunction Atom} :
    read tokens = some tree ↔ tokens = tree.print := by
  constructor
  · intro isRead
    unfold read at isRead
    split at isRead
    · next taken =>
      rw [← Option.some.inj isRead]
      simpa using (taken_eq_print _).1 _ _ _ taken
    · simp at isRead
  · rintro rfl
    exact read_print tree

/-! ## Joining texts -/

/-- Two texts around an `AND`, conjunction by conjunction. -/
def Conjunction.append : Conjunction Atom → Conjunction Atom → Conjunction Atom
  | .one only, later => .and only later
  | .and first rest, later => .and first (rest.append later)

/--
The tree of a text, `AND`, and a second text: the `AND` takes the last
conjunction of the one and the first conjunction of the other.
-/
def Disjunction.joinAnd : Disjunction Atom → Disjunction Atom → Disjunction Atom
  | .one only, .one next => .one (only.append next)
  | .one only, .or next rest => .or (only.append next) rest
  | .or first rest, later => .or first (rest.joinAnd later)

theorem Conjunction.print_append : (tree later : Conjunction Atom) →
    (tree.append later).print = tree.print ++ .and :: later.print
  | .one only, later => by
    rfl
  | .and first rest, later => by
    simp [Conjunction.append, Conjunction.print, rest.print_append later]

theorem Disjunction.print_joinAnd : (tree later : Disjunction Atom) →
    (tree.joinAnd later).print = tree.print ++ .and :: later.print
  | .one only, .one next => by
    simp [Disjunction.joinAnd, Disjunction.print, Conjunction.print_append]
  | .one only, .or next rest => by
    simp [Disjunction.joinAnd, Disjunction.print, Conjunction.print_append]
  | .or first rest, later => by
    simp [Disjunction.joinAnd, Disjunction.print, rest.print_joinAnd later]

variable {tree later : Disjunction Atom} {first second : List (Token Atom)}

theorem read_and (firstRead : read first = some tree) (secondRead : read second = some later) :
    read (first ++ .and :: second) = some (tree.joinAnd later) := by
  rw [read_eq_some_iff] at firstRead secondRead ⊢
  rw [firstRead, secondRead, Disjunction.print_joinAnd]

theorem read_group {inner : List (Token Atom)} {tree : Disjunction Atom}
    (innerRead : read inner = some tree) :
    read (.lparen :: (inner ++ [.rparen])) = some (.one (.one (.group tree))) := by
  rw [read_eq_some_iff] at innerRead ⊢
  rw [innerRead]
  rfl

/-- A text without an `OR` outside of parentheses. -/
def Disjunction.isConjunction : Disjunction Atom → Bool
  | .one _ => true
  | .or _ _ => false

theorem Disjunction.isConjunction_joinAnd (isConjunction : tree.isConjunction = true)
    (laterIsConjunction : later.isConjunction = true) :
    (tree.joinAnd later).isConjunction = true := by
  cases tree with
  | or first rest => simp [Disjunction.isConjunction] at isConjunction
  | one only =>
    cases later with
    | or next rest => simp [Disjunction.isConjunction] at laterIsConjunction
    | one next => rfl

/-! ## Required atoms -/

section Requires

variable [DecidableEq Atom]

mutual

/-- Every way to satisfy the disjunction satisfies the atom. -/
def Disjunction.requires (text : Atom) : Disjunction Atom → Bool
  | .one only => only.requires text
  | .or first later => first.requires text && later.requires text

def Conjunction.requires (text : Atom) : Conjunction Atom → Bool
  | .one only => only.requires text
  | .and first later => first.requires text || later.requires text

def Factor.requires (text : Atom) : Factor Atom → Bool
  | .atom other => decide (other = text)
  | .not _ => false
  | .group inner => inner.requires text

end

end Requires

/-! ## Values -/

variable {Value : Type}

section Lattice

variable [Lattice Value] (negate : Value → Value) (value : Atom → Value)

mutual

def Disjunction.eval : Disjunction Atom → Value
  | .one only => only.eval
  | .or first later => first.eval ⊔ later.eval

def Conjunction.eval : Conjunction Atom → Value
  | .one only => only.eval
  | .and first later => first.eval ⊓ later.eval

def Factor.eval : Factor Atom → Value
  | .atom text => value text
  | .not inner => negate inner.eval
  | .group inner => inner.eval

end

theorem Conjunction.eval_append : (tree later : Conjunction Atom) →
    (tree.append later).eval negate value = tree.eval negate value ⊓ later.eval negate value
  | .one only, later => by
    rfl
  | .and first rest, later => by
    simp only [Conjunction.append, Conjunction.eval]
    rw [rest.eval_append later, inf_assoc]

theorem Disjunction.eval_joinAnd {tree later : Disjunction Atom}
    (isConjunction : tree.isConjunction = true) (laterIsConjunction : later.isConjunction = true) :
    (tree.joinAnd later).eval negate value = tree.eval negate value ⊓ later.eval negate value := by
  cases tree with
  | or first rest => simp [Disjunction.isConjunction] at isConjunction
  | one only =>
    cases later with
    | or next rest => simp [Disjunction.isConjunction] at laterIsConjunction
    | one next => exact Conjunction.eval_append negate value only next

section Requires

variable [DecidableEq Atom]

mutual

theorem Disjunction.eval_le_of_requires {text : Atom} : (tree : Disjunction Atom) →
    tree.requires text = true → tree.eval negate value ≤ value text
  | .one only, required => only.eval_le_of_requires required
  | .or first later, required => by
    rw [Disjunction.requires, Bool.and_eq_true] at required
    exact sup_le (first.eval_le_of_requires required.1) (later.eval_le_of_requires required.2)

theorem Conjunction.eval_le_of_requires {text : Atom} : (tree : Conjunction Atom) →
    tree.requires text = true → tree.eval negate value ≤ value text
  | .one only, required => only.eval_le_of_requires required
  | .and first later, required => by
    rw [Conjunction.requires, Bool.or_eq_true] at required
    rcases required with inFirst | inLater
    · exact inf_le_left.trans (first.eval_le_of_requires inFirst)
    · exact inf_le_right.trans (later.eval_le_of_requires inLater)

theorem Factor.eval_le_of_requires {text : Atom} : (tree : Factor Atom) →
    tree.requires text = true → tree.eval negate value ≤ value text
  | .atom other, required => by
    rw [Factor.requires, decide_eq_true_eq] at required
    subst required
    exact le_rfl
  | .not inner, required => by
    simp [Factor.requires] at required
  | .group inner, required => inner.eval_le_of_requires required

end

end Requires

/-! ## Values of texts -/

def textValue (tokens : List (Token Atom)) : Option Value :=
  (read tokens).map fun tree => tree.eval negate value

def readsConjunction (tokens : List (Token Atom)) : Bool :=
  (read tokens).any Disjunction.isConjunction

theorem read_of_readsConjunction (conjunction : readsConjunction tokens = true) :
    ∃ tree, read tokens = some tree ∧ tree.isConjunction = true := by
  unfold readsConjunction at conjunction
  cases reads : read tokens with
  | none => simp [reads] at conjunction
  | some tree => exact ⟨tree, rfl, by simpa [reads] using conjunction⟩

theorem textValue_and {firstValue secondValue : Value}
    (firstConjunction : readsConjunction first = true)
    (secondConjunction : readsConjunction second = true)
    (firstReads : textValue negate value first = some firstValue)
    (secondReads : textValue negate value second = some secondValue) :
    readsConjunction (first ++ .and :: second) = true ∧
    textValue negate value (first ++ .and :: second) = some (firstValue ⊓ secondValue) := by
  obtain ⟨tree, treeRead, treeConjunction⟩ := read_of_readsConjunction firstConjunction
  obtain ⟨later, laterRead, laterConjunction⟩ := read_of_readsConjunction secondConjunction
  have joinedRead := read_and treeRead laterRead
  simp only [textValue, treeRead, laterRead, Option.map_some,
    Option.some.injEq] at firstReads secondReads
  constructor
  · simpa [readsConjunction, joinedRead] using
      Disjunction.isConjunction_joinAnd treeConjunction laterConjunction
  · simp [textValue, joinedRead, ← firstReads, ← secondReads,
      Disjunction.eval_joinAnd negate value treeConjunction laterConjunction]

theorem textValue_group {inner : List (Token Atom)} {innerValue : Value}
    (innerReads : textValue negate value inner = some innerValue) :
    readsConjunction (.lparen :: (inner ++ [.rparen])) = true ∧
    textValue negate value (.lparen :: (inner ++ [.rparen])) = some innerValue := by
  obtain ⟨tree, treeRead, evaluates⟩ := Option.map_eq_some_iff.mp innerReads
  have groupRead := read_group treeRead
  constructor
  · simp [readsConjunction, groupRead, Disjunction.isConjunction]
  · simp [textValue, groupRead, ← evaluates, Disjunction.eval, Conjunction.eval, Factor.eval]

def textRequires [DecidableEq Atom] (text : Atom) (tokens : List (Token Atom)) : Bool :=
  (read tokens).any fun tree => tree.requires text

theorem textValue_le_of_requires [DecidableEq Atom] {text : Atom} {truth : Value}
    (required : textRequires text tokens = true)
    (reads : textValue negate value tokens = some truth) : truth ≤ value text := by
  obtain ⟨tree, treeRead, rfl⟩ := Option.map_eq_some_iff.mp reads
  simp only [textRequires, treeRead] at required
  exact tree.eval_le_of_requires negate value required

end Lattice

end BooleanText
