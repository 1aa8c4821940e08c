import Mathlib.Data.Char
import Mathlib.Data.List.Infix

namespace GlobPattern

/-!
# Glob patterns

The patterns of a key-value server: `*` is any text, `?` any symbol, brackets
are a class of symbols and a backslash escapes one.  A class may be negated and
hold ranges, and ends with the pattern when no bracket closes it.
-/

/-- One element of a pattern. -/
inductive Token where
  | any
  | one
  | oneOf (negated : Bool) (ranges : List (Char × Char))
  | literal (symbol : Char)

/-- The elements of a pattern, with the class that is open. -/
def tokens : Option (Bool × List (Char × Char)) → List Char → List Token
  | none, [] => []
  | none, '*' :: rest => .any :: tokens none rest
  | none, '?' :: rest => .one :: tokens none rest
  | none, '[' :: '^' :: rest => tokens (some (true, [])) rest
  | none, '[' :: rest => tokens (some (false, [])) rest
  | none, '\\' :: symbol :: rest => .literal symbol :: tokens none rest
  | none, symbol :: rest => .literal symbol :: tokens none rest
  | some (negated, ranges), [] => [.oneOf negated ranges]
  | some (negated, ranges), '\\' :: symbol :: rest =>
    tokens (some (negated, (symbol, symbol) :: ranges)) rest
  | some (negated, ranges), ']' :: rest => .oneOf negated ranges :: tokens none rest
  | some (negated, ranges), first :: '-' :: last :: rest =>
    tokens (some (negated, (first, last) :: ranges)) rest
  | some (negated, ranges), symbol :: rest =>
    tokens (some (negated, (symbol, symbol) :: ranges)) rest

/-- An element that stands for one symbol stands for this one. -/
def Token.accepts (symbol : Char) : Token → Bool
  | .any => false
  | .one => true
  | .oneOf negated ranges =>
    (ranges.any fun (first, last) => min first.toNat last.toNat ≤ symbol.toNat ∧
      symbol.toNat ≤ max first.toNat last.toNat) != negated
  | .literal own => own = symbol

def matchesTokens : List Token → List Char → Bool
  | [], text => text.isEmpty
  | .any :: rest, text => text.tails.any (matchesTokens rest)
  | _ :: _, [] => false
  | token :: rest, symbol :: text => token.accepts symbol && matchesTokens rest text

/-- The whole text matches the pattern. -/
def globMatches (pattern text : List Char) : Bool := matchesTokens (tokens none pattern) text

variable {stem : List Char}

/-- A pattern without classes and escapes, continued by anything, matches what continues itself. -/
theorem globMatches_self (plain : ∀ c ∈ stem, c ≠ '[' ∧ c ≠ '\\') (text : List Char) :
    globMatches (stem ++ ['*']) (stem ++ text) = true := by
  unfold globMatches
  induction stem with
  | nil => simp [tokens, matchesTokens]
  | cons c rest ih =>
    rw [List.forall_mem_cons] at plain
    have later := ih plain.2
    rw [List.cons_append]
    by_cases isStar : c = '*'
    · subst isStar
      rw [tokens, matchesTokens, List.any_eq_true]
      exact ⟨rest ++ text, by simp, later⟩
    · by_cases isOne : c = '?'
      · subst isOne
        simpa [tokens, matchesTokens, Token.accepts] using later
      · rw [tokens]
        · simpa [matchesTokens, Token.accepts] using later
        all_goals simp_all

/-- Without metacharacters it matches nothing else. -/
theorem globMatches_iff (plain : ∀ c ∈ stem, c ∉ ['*', '?', '[', '\\']) (text : List Char) :
    globMatches (stem ++ ['*']) text = true ↔ stem <+: text := by
  unfold globMatches
  induction stem generalizing text with
  | nil => simp [tokens, matchesTokens]
  | cons c rest ih =>
    rw [List.forall_mem_cons] at plain
    obtain ⟨isPlain, plainRest⟩ := plain
    have isLiteral : tokens none (c :: (rest ++ ['*'])) =
        .literal c :: tokens none (rest ++ ['*']) := by
      rw [tokens]
      all_goals simp_all
    rw [List.cons_append, isLiteral]
    cases text with
    | nil => simp [matchesTokens]
    | cons d others => simp [matchesTokens, Token.accepts, ih plainRest]

end GlobPattern
