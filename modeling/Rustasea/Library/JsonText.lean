import Rustasea.Library.PercentEncoding

namespace JsonText

open List Option

/-!
# String literals of compact JSON texts

A literal stands in quotes; quotes, backslashes and control characters in it
are escaped.  Literals are read back off the front of a text.  A text in which
backslashes and a separator stand in literals only cannot be cut at the
separator into two such texts in two ways.
-/

open PercentEncoding (lowerHexDigit lowerHexDigit_spec hexValue)

/-! ## Escapes -/

def controlEscape (code : Nat) : List Char :=
  match code with
  | 8 => ['b']
  | 9 => ['t']
  | 10 => ['n']
  | 12 => ['f']
  | 13 => ['r']
  | code => ['u', '0', '0', lowerHexDigit (code / 16), lowerHexDigit (code % 16)]

def escape (character : Char) : List Char :=
  if character = '"' then ['\\', '"']
  else if character = '\\' then ['\\', '\\']
  else if character.toNat < 32 then '\\' :: controlEscape character.toNat
  else [character]

def literal (text : List Char) : List Char := '"' :: (text.flatMap escape ++ ['"'])

def readEscape : List Char → Option (Nat × List Char)
  | '"' :: rest => some (34, rest)
  | '\\' :: rest => some (92, rest)
  | 'b' :: rest => some (8, rest)
  | 't' :: rest => some (9, rest)
  | 'n' :: rest => some (10, rest)
  | 'f' :: rest => some (12, rest)
  | 'r' :: rest => some (13, rest)
  | 'u' :: '0' :: '0' :: high :: low :: rest =>
    match hexValue (UInt8.ofNat high.toNat), hexValue (UInt8.ofNat low.toNat) with
    | some first, some second => some (16 * first + second, rest)
    | _, _ => none
  | _ => none

def readCharacter : List Char → Option (Nat × List Char)
  | [] => none
  | '\\' :: rest => readEscape rest
  | character :: rest => some (character.toNat, rest)

variable {code : Nat}

theorem readEscape_controlEscape (isControl : code < 32) (rest : List Char) :
    readEscape (controlEscape code ++ rest) = some (code, rest) := by
  unfold controlEscape
  split
  case h_6 =>
      have high := lowerHexDigit_spec (by omega : code / 16 < 16)
      have low := lowerHexDigit_spec (by omega : code % 16 < 16)
      simp [readEscape, high.2.2, low.2.2, Nat.div_add_mod]
  all_goals rfl

variable (character : Char)

theorem readCharacter_escape (rest : List Char) :
    readCharacter (escape character ++ rest) = some (character.toNat, rest) := by
  unfold escape
  split_ifs with isQuote isBackslash isControl
  · subst isQuote
    rfl
  · subst isBackslash
    rfl
  · exact readEscape_controlEscape isControl rest
  · rw [singleton_append, readCharacter]
    exact fun isHead => isBackslash isHead

theorem escape_append_inj {first second : Char} {rest otherRest : List Char}
    (same : escape first ++ rest = escape second ++ otherRest) :
    first = second ∧ rest = otherRest := by
  have read := congrArg readCharacter same
  rw [readCharacter_escape, readCharacter_escape, Option.some.injEq, Prod.mk.injEq] at read
  exact ⟨Char.toNat_inj.mp read.1, read.2⟩

theorem escape_append_ne (rest otherRest : List Char) :
    escape character ++ rest ≠ '"' :: otherRest := by
  intro same
  unfold escape at same
  split_ifs at same with isQuote isBackslash isControl
  all_goals simp only [cons_append, List.cons.injEq] at same
  · exact absurd same.1 (by decide)
  · exact absurd same.1 (by decide)
  · exact absurd same.1 (by decide)
  · exact isQuote same.1

theorem literal_append_inj {text other rest otherRest : List Char}
    (same : literal text ++ rest = literal other ++ otherRest) :
    text = other ∧ rest = otherRest := by
  simp only [literal, cons_append, append_assoc, List.cons.injEq, true_and] at same
  induction text generalizing other with
  | nil =>
    cases other with
    | nil => exact ⟨rfl, (List.cons.inj same).2⟩
    | cons character other =>
      rw [flatMap_cons, append_assoc] at same
      exact absurd same.symm (escape_append_ne _ _ _)
  | cons character text ih =>
    rw [flatMap_cons, append_assoc] at same
    cases other with
    | nil => exact absurd same (escape_append_ne _ _ _)
    | cons head other =>
      rw [flatMap_cons, append_assoc] at same
      obtain ⟨rfl, sameRest⟩ := escape_append_inj same
      obtain ⟨rfl, sameBehind⟩ := ih sameRest
      exact ⟨rfl, sameBehind⟩

/-! ## Where the quotes open and close -/

/-- Where in a text a character stands. -/
inductive Position where
  | outside
  | inside
  /-- Behind a backslash of a literal. -/
  | escaped

/-- Outside literals neither a backslash nor the separator may stand. -/
@[grind =]
def Position.step (separator : Char) : Position → Char → Option Position
  | outside, character =>
    if character = '"' then some inside
    else if character = '\\' ∨ character = separator then none
    else some outside
  | inside, character =>
    if character = '"' then some outside
    else if character = '\\' then some escaped
    else some inside
  | escaped, _ => some inside

@[grind =] def scan (separator : Char) : Position → List Char → Option Position
  | position, [] => some position
  | position, character :: rest => (position.step separator character).bind (scan separator · rest)

def IsClosed (separator : Char) (text : List Char) : Prop :=
  scan separator .outside text = some .outside

variable {separator : Char}

theorem scan_append (position : Position) (text rest : List Char) :
    scan separator position (text ++ rest) =
      (scan separator position text).bind (scan separator · rest) := by
  induction text generalizing position with
  | nil => rfl
  | cons character text ih =>
    rw [cons_append, scan, scan, bind_assoc]
    simp [ih]

theorem IsClosed.append {text other : List Char} (closed : IsClosed separator text)
    (otherClosed : IsClosed separator other) : IsClosed separator (text ++ other) := by
  unfold IsClosed at closed otherClosed ⊢
  rw [scan_append, closed, bind_some, otherClosed]

variable {text : List Char} {character : Char}

theorem IsClosed.cons (isPlain : character ≠ '"' ∧ character ≠ '\\' ∧ character ≠ separator)
    (closed : IsClosed separator text) : IsClosed separator (character :: text) := by
  obtain ⟨noQuote, noBackslash, noSeparator⟩ := isPlain
  rw [IsClosed, scan, Position.step, if_neg noQuote, if_neg (not_or.mpr ⟨noBackslash, noSeparator⟩)]
  exact closed

theorem isClosed_of_plain
    (isPlain : ∀ character ∈ text, character ≠ '"' ∧ character ≠ '\\' ∧ character ≠ separator) :
    IsClosed separator text := by
  induction text with
  | nil => rfl
  | cons character text ih =>
    rw [forall_mem_cons] at isPlain
    exact (ih isPlain.2).cons isPlain.1

theorem scan_inside_of_plain (isPlain : ∀ character ∈ text, character ≠ '"' ∧ character ≠ '\\') :
    scan separator .inside text = some .inside := by
  induction text with
  | nil => rfl
  | cons character text ih =>
    rw [forall_mem_cons] at isPlain
    rw [scan, Position.step, if_neg isPlain.1.1, if_neg isPlain.1.2]
    exact ih isPlain.2

theorem lowerHexDigit_plain {n : Nat} (below : n < 16) :
    lowerHexDigit n ≠ '"' ∧ lowerHexDigit n ≠ '\\' := by
  have all : ∀ m < 16, lowerHexDigit m ≠ '"' ∧ lowerHexDigit m ≠ '\\' := by decide
  exact all n below

theorem scan_controlEscape (isControl : code < 32) :
    scan separator .escaped (controlEscape code) = some .inside := by
  unfold controlEscape
  split
  case h_6 =>
      refine scan_inside_of_plain ?_
      simp only [forall_mem_cons, not_mem_nil, false_imp_iff, implies_true, and_true]
      exact ⟨by decide, by decide, lowerHexDigit_plain (by omega), lowerHexDigit_plain (by omega)⟩
  all_goals rfl

theorem scan_escape : scan separator .inside (escape character) = some .inside := by
  unfold escape
  split_ifs with isQuote isBackslash isControl
  · rfl
  · rfl
  · exact scan_controlEscape isControl
  · refine scan_inside_of_plain ?_
    rw [forall_mem_singleton]
    exact ⟨isQuote, isBackslash⟩

theorem isClosed_literal (text : List Char) : IsClosed separator (literal text) := by
  have stays : scan separator .inside (text.flatMap escape) = some .inside := by
    induction text with
    | nil => rfl
    | cons character text ih =>
      rw [flatMap_cons, scan_append, scan_escape, bind_some, ih]
  have opens : Position.step separator .outside '"' = some .inside := rfl
  rw [IsClosed, literal, scan, opens, bind_some, scan_append, stays]
  rfl

/-! ## Cutting at the separator -/

def Opposite (position other : Position) : Prop :=
  position = .outside ∧ other = .inside ∨ position = .inside ∧ other = .outside

theorem Opposite.symm {position other : Position} (opposite : Opposite position other) :
    Opposite other position :=
  (Or.symm opposite).imp And.symm And.symm

theorem step_opposite {next other : Position}
    (fromOutside : Position.step separator .outside character = some next)
    (fromInside : Position.step separator .inside character = some other) :
    Opposite next other := by
  simp only [Position.step] at fromOutside fromInside
  by_cases isQuote : character = '"'
  · rw [if_pos isQuote] at fromOutside fromInside
    exact .inr ⟨(Option.some.inj fromOutside).symm, (Option.some.inj fromInside).symm⟩
  · rw [if_neg isQuote] at fromOutside fromInside
    split_ifs at fromOutside with isRefused
    rw [if_neg (not_or.mp isRefused).1] at fromInside
    exact .inl ⟨(Option.some.inj fromOutside).symm, (Option.some.inj fromInside).symm⟩

theorem scan_opposite {position other last otherLast : Position}
    (opposite : Opposite position other) (scanned : scan separator position text = some last)
    (otherScanned : scan separator other text = some otherLast) : Opposite last otherLast := by
  induction text generalizing position other with
  | nil =>
    obtain rfl := Option.some.inj scanned
    obtain rfl := Option.some.inj otherScanned
    exact opposite
  | cons character text ih =>
    obtain ⟨next, stepped, rest⟩ := bind_eq_some_iff.mp scanned
    obtain ⟨otherNext, otherStepped, otherRest⟩ := bind_eq_some_iff.mp otherScanned
    refine ih ?_ rest otherRest
    rcases opposite with ⟨rfl, rfl⟩ | ⟨rfl, rfl⟩
    · exact step_opposite stepped otherStepped
    · exact (step_opposite otherStepped stepped).symm

theorem IsClosed.scan_inside_ne (closed : IsClosed separator text) :
    scan separator .inside text ≠ some .outside := by
  intro scanned
  rcases scan_opposite (.inl ⟨rfl, rfl⟩) closed scanned with ⟨-, isInside⟩ | ⟨isInside, -⟩
  · cases isInside
  · cases isInside

theorem IsClosed.ne_append_cons {text behind : List Char}
    (ordinary : separator ≠ '"' ∧ separator ≠ '\\') (closed : IsClosed separator text)
    (behindClosed : IsClosed separator behind) (front : List Char) :
    text ≠ front ++ separator :: behind := by
  intro isText
  rw [IsClosed, isText, scan_append] at closed
  obtain ⟨position, -, scanned⟩ := bind_eq_some_iff.mp closed
  obtain ⟨next, stepped, rest⟩ := bind_eq_some_iff.mp scanned
  have isInside : next = .inside := by
    cases position with
    | outside =>
      rw [Position.step, if_neg ordinary.1, if_pos (.inr rfl)] at stepped
      cases stepped
    | inside =>
      rw [Position.step, if_neg ordinary.1, if_neg ordinary.2] at stepped
      exact (Option.some.inj stepped).symm
    | escaped => exact (Option.some.inj stepped).symm
  rw [isInside] at rest
  exact behindClosed.scan_inside_ne rest

theorem IsClosed.append_cons_inj {front other text otherText : List Char}
    (ordinary : separator ≠ '"' ∧ separator ≠ '\\') (closed : IsClosed separator text)
    (otherClosed : IsClosed separator otherText)
    (same : front ++ separator :: text = other ++ separator :: otherText) :
    front = other ∧ text = otherText := by
  rcases append_eq_append_iff.mp same with ⟨between, rfl, isRest⟩ | ⟨between, rfl, isRest⟩
  · cases between with
    | nil => exact ⟨(append_nil _).symm, (List.cons.inj isRest).2⟩
    | cons head rest =>
      exact absurd (List.cons.inj isRest).2 (closed.ne_append_cons ordinary otherClosed rest)
  · cases between with
    | nil => exact ⟨append_nil _, (List.cons.inj isRest).2.symm⟩
    | cons head rest =>
      exact absurd (List.cons.inj isRest).2 (otherClosed.ne_append_cons ordinary closed rest)

end JsonText
