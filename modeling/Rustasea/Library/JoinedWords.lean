import Mathlib.Data.List.DropRight
import Mathlib.Data.List.Infix

/-!
# Joined words

Words of letters with a single separator between any two of them.  A cut of such
a text is one again, once separators are trimmed from its end.
-/

namespace JoinedWords

variable {Character : Type*}

/-- A word has letters only, and one at least. -/
structure IsWord (isLetter : Character → Bool) (word : List Character) : Prop where
  nonempty : word ≠ []
  letters : ∀ character ∈ word, isLetter character = true

/-- A word, or a word, a separator and more. -/
inductive IsJoined (isLetter : Character → Bool) (separator : Character) :
    List Character → Prop where
  | word {word : List Character} (isWord : IsWord isLetter word) : IsJoined isLetter separator word
  | join {word rest : List Character} (isWord : IsWord isLetter word)
      (isRest : IsJoined isLetter separator rest) :
      IsJoined isLetter separator (word ++ separator :: rest)

variable {isLetter : Character → Bool} {separator : Character}

theorem IsWord.singleton {letter : Character} (isOne : isLetter letter = true) :
    IsWord isLetter [letter] where
  nonempty := List.cons_ne_nil letter []
  letters := List.forall_mem_singleton.mpr isOne

theorem IsWord.append {word other : List Character} (isWord : IsWord isLetter word)
    (areLetters : ∀ character ∈ other, isLetter character = true) :
    IsWord isLetter (word ++ other) where
  nonempty := List.append_ne_nil_of_left_ne_nil isWord.nonempty other
  letters := List.forall_mem_append.mpr ⟨isWord.letters, areLetters⟩

theorem IsWord.of_prefix {word part : List Character} (isWord : IsWord isLetter word)
    (isPrefix : part <+: word) (nonempty : part ≠ []) : IsWord isLetter part where
  nonempty := nonempty
  letters := fun character isIn => isWord.letters character (isPrefix.subset isIn)

namespace IsJoined

theorem append {text other : List Character}
    (isJoined : IsJoined isLetter separator text) (isOther : IsJoined isLetter separator other) :
    IsJoined isLetter separator (text ++ separator :: other) := by
  induction isJoined with
  | word isWord => exact .join isWord isOther
  | join isWord _ ih =>
    rw [List.append_assoc]
    exact .join isWord ih

theorem push {text : List Character} {letter : Character}
    (isJoined : IsJoined isLetter separator text)
    (isOne : isLetter letter = true) : IsJoined isLetter separator (text ++ [letter]) := by
  induction isJoined with
  | word isWord => exact .word (isWord.append (List.forall_mem_singleton.mpr isOne))
  | join isWord _ ih =>
    rw [List.append_assoc]
    exact .join isWord ih

variable {text part : List Character}

theorem prefix_cases (isJoined : IsJoined isLetter separator text) (isPrefix : part <+: text) :
    part = [] ∨ IsJoined isLetter separator part ∨
    ∃ front, IsJoined isLetter separator front ∧ part = front ++ [separator] := by
  by_cases isNil : part = []
  · exact .inl isNil
  refine .inr ?_
  induction isJoined generalizing part with
  | word isWord => exact .inl (.word (isWord.of_prefix isPrefix isNil))
  | @join word rest isWord _ ih =>
    obtain ⟨remainder, isText⟩ := isPrefix
    rcases List.append_eq_append_iff.mp isText with ⟨cut, rfl, -⟩ | ⟨tail, rfl, isTail⟩
    · have inWord := List.prefix_append part cut
      exact .inl (.word (isWord.of_prefix inWord isNil))
    · rcases List.prefix_cons_iff.mp ⟨remainder, isTail.symm⟩ with rfl | ⟨behind, rfl, inRest⟩
      · rw [List.append_nil]
        exact .inl (.word isWord)
      · by_cases isEnd : behind = []
        · subst isEnd
          exact .inr ⟨word, .word isWord, rfl⟩
        · rcases ih inRest isEnd with isJoined | ⟨front, isFront, rfl⟩
          · exact .inl (.join isWord isJoined)
          · exact .inr ⟨word ++ separator :: front, .join isWord isFront, by simp⟩

theorem of_trimmed_prefix [DecidableEq Character] (isJoined : IsJoined isLetter separator text)
    (isPrefix : part <+: text) :
    part.rdropWhile (· = separator) = [] ∨
    IsJoined isLetter separator (part.rdropWhile (· = separator)) := by
  have isCut :=
    (List.rdropWhile_prefix (fun letter => decide (letter = separator)) part).trans isPrefix
  rcases isJoined.prefix_cases isCut with isNil | isCut | ⟨front, -, isEnd⟩
  · exact .inl isNil
  · exact .inr isCut
  · have isTrimmed := List.rdropWhile_last_not (fun letter => decide (letter = separator)) part
    simp [isEnd] at isTrimmed

end IsJoined

end JoinedWords
