import Mathlib.Data.List.Basic
import Mathlib.Data.List.Induction

/-!
# Frames of a stream

A stream is cut into frames while it arrives in chunks.  What is left over of
one chunk is read again in front of the next one.  The frames do not depend on
the chunks when a frame that was found stays where it is as more arrives.
-/

namespace Framing

open List

variable {Symbol : Type*}

/-! ## Cutters -/

/-- How the first frame is cut off; more text does not change it. -/
structure Cutter (Symbol : Type*) where
  cut : List Symbol → Option (List Symbol × List Symbol)
  shrinks : ∀ {text frame rest}, cut text = some (frame, rest) → rest.length < text.length
  stable : ∀ {text frame rest},
      cut text = some (frame, rest) → ∀ more, cut (text ++ more) = some (frame, rest ++ more)

namespace Cutter

variable (cutter : Cutter Symbol)

def drain (text : List Symbol) : List (List Symbol) × List Symbol :=
  match _isCut : cutter.cut text with
  | none => ([], text)
  | some (frame, rest) =>
    let drained := drain rest
    (frame :: drained.1, drained.2)
termination_by text.length
decreasing_by exact cutter.shrinks _isCut

variable {cutter}

theorem drain_of_none {text : List Symbol} (uncut : cutter.cut text = none) :
    cutter.drain text = ([], text) := by
  unfold drain
  split
  · rfl
  · next isCut =>
    rw [uncut] at isCut
    cases isCut

theorem drain_of_some {text frame rest : List Symbol}
    (isCut : cutter.cut text = some (frame, rest)) :
    cutter.drain text = (frame :: (cutter.drain rest).1, (cutter.drain rest).2) := by
  conv_lhs => unfold drain
  split
  · next uncut =>
    rw [isCut] at uncut
    cases uncut
  · next frame rest same =>
    rw [isCut] at same
    cases same
    rfl

theorem drain_induction (cutter : Cutter Symbol) {motive : List Symbol → Prop}
    (uncut : ∀ text, cutter.cut text = none → motive text)
    (isCut : ∀ text frame rest, cutter.cut text = some (frame, rest) → motive rest → motive text)
    (text : List Symbol) : motive text := by
  induction size : text.length using Nat.strongRecOn generalizing text with
  | ind size ih =>
    cases found : cutter.cut text with
    | none => exact uncut text found
    | some cutOff =>
      obtain ⟨frame, rest⟩ := cutOff
      exact isCut text frame rest found (ih _ (size ▸ cutter.shrinks found) rest rfl)

theorem drain_append (first second : List Symbol) :
    cutter.drain (first ++ second) = ((cutter.drain first).1 ++
          (cutter.drain ((cutter.drain first).2 ++ second)).1,
            (cutter.drain ((cutter.drain first).2 ++ second)).2) := by
  induction first using drain_induction cutter with
  | uncut text uncut => rw [drain_of_none uncut, nil_append]
  | isCut text frame rest isCut ih =>
    rw [drain_of_some isCut, drain_of_some (cutter.stable isCut second), ih, cons_append]

end Cutter

/-! ## Lines -/

section Lines

variable [DecidableEq Symbol] {newline : Symbol}

theorem line_induction (newline : Symbol) {motive : List Symbol → Prop}
    (last : ∀ line, newline ∉ line → motive line)
    (line : ∀ line rest, newline ∉ line → motive rest → motive (line ++ newline :: rest))
    (text : List Symbol) : motive text := by
  induction size : text.length using Nat.strongRecOn generalizing text with
  | ind size ih =>
    by_cases isMore : newline ∈ text
    · obtain ⟨first, rest, rfl, isFirst⟩ := eq_append_cons_of_mem isMore
      refine line first rest isFirst (ih _ ?_ rest rfl)
      rw [← size]
      simp
      omega
    · exact last text isMore

theorem notMem_of_mem_splitOn {text line : List Symbol} (isLine : line ∈ text.splitOn newline) :
    newline ∉ line := by
  induction text using line_induction newline with
  | last text isText =>
    rw [splitOn_eq_singleton isText, mem_singleton] at isLine
    rwa [isLine]
  | line first rest isFirst ih =>
    rw [splitOn_append_cons_self_of_not_mem isFirst, mem_cons] at isLine
    rcases isLine with rfl | isLater
    · exact isFirst
    · exact ih isLater

theorem isInfix_of_mem_splitOn {text line : List Symbol} (isLine : line ∈ text.splitOn newline) :
    line <:+: text := by
  induction text using line_induction newline with
  | last text isText =>
    rw [splitOn_eq_singleton isText, mem_singleton] at isLine
    exact isLine ▸ infix_rfl
  | line first rest isFirst ih =>
    rw [splitOn_append_cons_self_of_not_mem isFirst, mem_cons] at isLine
    rcases isLine with rfl | isLater
    · exact (prefix_append _ _).isInfix
    · exact ((ih isLater).trans (suffix_cons _ _).isInfix).trans
        (suffix_append _ _).isInfix

variable (newline)

def completeLines (text : List Symbol) : List (List Symbol) := (text.splitOn newline).dropLast

def lastLine (text : List Symbol) : List Symbol :=
  (text.splitOn newline).getLast (splitOn_ne_nil _ _)

variable {newline} {line : List Symbol}

theorem completeLines_of_notMem (isLine : newline ∉ line) : completeLines newline line = [] := by
  simp [completeLines, splitOn_eq_singleton isLine]

theorem lastLine_of_notMem (isLine : newline ∉ line) : lastLine newline line = line := by
  simp [lastLine, splitOn_eq_singleton isLine]

theorem completeLines_cons (isLine : newline ∉ line) (rest : List Symbol) :
    completeLines newline (line ++ newline :: rest) = line :: completeLines newline rest := by
  rw [completeLines, splitOn_append_cons_self_of_not_mem isLine,
    dropLast_cons_of_ne_nil (splitOn_ne_nil _ _), completeLines]

theorem lastLine_cons (isLine : newline ∉ line) (rest : List Symbol) :
    lastLine newline (line ++ newline :: rest) = lastLine newline rest := by
  simp only [lastLine, splitOn_append_cons_self_of_not_mem isLine]
  exact getLast_cons (splitOn_ne_nil _ _)

theorem completeLines_append (first second : List Symbol) :
    completeLines newline (first ++ second) = completeLines newline first ++
      completeLines newline (lastLine newline first ++ second) := by
  induction first using line_induction newline with
  | last line isLine =>
    rw [completeLines_of_notMem isLine, lastLine_of_notMem isLine, nil_append]
  | line line rest isLine ih =>
    rw [append_assoc, cons_append, completeLines_cons isLine, completeLines_cons isLine,
      lastLine_cons isLine, ih, cons_append]

theorem lastLine_append (first second : List Symbol) :
    lastLine newline (first ++ second) = lastLine newline (lastLine newline first ++ second) := by
  induction first using line_induction newline with
  | last line isLine => rw [lastLine_of_notMem isLine]
  | line line rest isLine ih =>
    rw [append_assoc, cons_append, lastLine_cons isLine, lastLine_cons isLine, ih]

theorem splitOn_flatMap {lines : List (List Symbol)} (areLines : ∀ line ∈ lines, newline ∉ line) :
    completeLines newline (lines.flatMap (· ++ [newline])) = lines ∧
    lastLine newline (lines.flatMap (· ++ [newline])) = [] := by
  induction lines with
  | nil => exact ⟨rfl, rfl⟩
  | cons line rest ih =>
    rw [forall_mem_cons] at areLines
    obtain ⟨complete, last⟩ := ih areLines.2
    rw [flatMap_cons, append_assoc, singleton_append, completeLines_cons areLines.1,
      lastLine_cons areLines.1, complete, last]
    exact ⟨rfl, rfl⟩

theorem notMem_of_mem_completeLines
    {text line : List Symbol} (isLine : line ∈ completeLines newline text) : newline ∉ line :=
  notMem_of_mem_splitOn (dropLast_subset _ isLine)

end Lines

/-! ## Text -/

section Text

def stripSuffix [DecidableEq Symbol] (symbol : Symbol) (text : List Symbol) : List Symbol :=
  if text.getLast? = some symbol then text.dropLast
  else text

/-- The lines of a text; only complete ones lose a carriage return. -/
def lines (text : List Char) : List (List Char) :=
  (completeLines '\n' text).map (stripSuffix '\r') ++
    if lastLine '\n' text = [] then []
    else [lastLine '\n' text]

variable {symbol : Symbol} {text : List Symbol}

theorem exists_of_getLast? (isLast : text.getLast? = some symbol) :
    ∃ before, text = before ++ [symbol] :=
  getLast?_eq_some_iff.mp isLast

theorem stripSuffix_concat [DecidableEq Symbol] (symbol : Symbol) (text : List Symbol) :
    stripSuffix symbol (text ++ [symbol]) = text := by
  simp [stripSuffix]

theorem stripSuffix_of_ne [DecidableEq Symbol] (differs : text.getLast? ≠ some symbol) :
    stripSuffix symbol text = text :=
  if_neg differs

theorem lines_of_notMem {line : List Char} (isLine : '\n' ∉ line) :
    lines line = if line = [] then [] else [line] := by
  simp [lines, completeLines_of_notMem isLine, lastLine_of_notMem isLine]

theorem lines_cons {line : List Char} (isLine : '\n' ∉ line) (rest : List Char) :
    lines (line ++ '\n' :: rest) = stripSuffix '\r' line :: lines rest := by
  rw [lines, completeLines_cons isLine, lastLine_cons isLine, map_cons,
    cons_append, lines]

end Text

end Framing
