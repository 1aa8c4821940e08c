import Rustasea.Ai.McpClient

namespace Rustasea.Ai.Mcp

open List

open Framing (lines stripSuffix line_induction)

/-!
# Blocks of an event stream

An event stream is a list of lines, and a blank line ends an event.  The client
splits the body at two line feeds instead, which is the same as long as no line
ends in a carriage return.
-/

def isBlankLine (line : Text) : Bool := stripSuffix '\r' line = []

def dataOf (line : Text) : Option Text := dataValue (stripSuffix '\r' line)

def eventGroups (body : Text) : List (List Text) :=
  Grouping.groups isBlankLine dataOf (body.splitOn '\n')

def ssePayloads (body : Text) : List Text := (eventGroups body).map ['\n'].intercalate

def blockData (block : Text) : List Text := (lines block).filterMap dataOf

theorem eventData_toList (block : Text) :
    (eventData block).toList = (Grouping.closed (blockData block)).map ['\n'].intercalate := by
  have sameData :
      ((lines block).filterMap fun line => dataValue (stripSuffix '\r' line)) = blockData block :=
    rfl
  unfold eventData Grouping.closed
  rw [sameData]
  by_cases isEmpty : blockData block = []
  · simp [isEmpty]
  · simp [isEmpty]

/-! ## Splitting, line by line -/

theorem splitBlocks_ne_nil (text : Text) : splitBlocks text ≠ [] := by
  unfold splitBlocks
  split
  · exact cons_ne_nil _ _
  · split
    all_goals exact cons_ne_nil _ _
  · exact cons_ne_nil _ _

variable {rest block : Text} {blocks : List Text}

theorem splitBlocks_cons {char : Char} (isLast : char = '\n' → rest.head? ≠ some '\n')
    (splits : splitBlocks rest = block :: blocks) :
    splitBlocks (char :: rest) = (char :: block) :: blocks := by
  have noSeparator : ∀ more, char = '\n' → rest = '\n' :: more → False := by
    rintro more isFeed rfl
    exact isLast isFeed rfl
  rw [splitBlocks, splits]
  exact noSeparator

variable {line : Text}

theorem splitBlocks_line (isLine : '\n' ∉ line) (splits : splitBlocks rest = block :: blocks) :
    splitBlocks (line ++ rest) = (line ++ block) :: blocks := by
  induction line with
  | nil => exact splits
  | cons char line ih =>
    rw [mem_cons, not_or] at isLine
    refine splitBlocks_cons ?_ (ih isLine.2)
    intro isFeed
    exact absurd isFeed.symm isLine.1

theorem splitBlocks_last (isLine : '\n' ∉ line) : splitBlocks line = [line] := by
  have splits := splitBlocks_line isLine (rfl : splitBlocks [] = [[]])
  rwa [append_nil] at splits

theorem splitBlocks_separator (isLine : '\n' ∉ line) (rest : Text) :
    splitBlocks (line ++ '\n' :: '\n' :: rest) = line :: splitBlocks rest := by
  have splits : splitBlocks ('\n' :: '\n' :: rest) = [] :: splitBlocks rest := by rw [splitBlocks]
  rw [splitBlocks_line isLine splits, append_nil]

theorem splitBlocks_feed (isLine : '\n' ∉ line) (isSingle : rest.head? ≠ some '\n')
    (splits : splitBlocks rest = block :: blocks) :
    splitBlocks (line ++ '\n' :: rest) = (line ++ '\n' :: block) :: blocks :=
  splitBlocks_line isLine (splitBlocks_cons (fun _ => isSingle) splits)

/-! ## Groups of lines -/

section Plain

variable {line : Text} (isLine : '\n' ∉ line) (isPlain : '\r' ∉ line)

include isPlain

theorem stripSuffix_of_plain : stripSuffix '\r' line = line :=
  Framing.stripSuffix_of_ne fun isLast => isPlain (mem_of_getLast? isLast)

theorem isBlankLine_iff : isBlankLine line = true ↔ line = [] := by
  unfold isBlankLine
  rw [stripSuffix_of_plain isPlain]
  exact decide_eq_true_iff

include isLine

theorem blockData_last : blockData line = (dataOf line).toList := by
  unfold blockData
  rw [Framing.lines_of_notMem isLine]
  by_cases isEmpty : line = []
  · subst isEmpty
    rfl
  · rw [if_neg isEmpty]
    cases found : dataOf line <;> simp [found]

theorem blockData_cons (rest : Text) :
    blockData (line ++ '\n' :: rest) = (dataOf line).toList ++ blockData rest := by
  unfold blockData
  rw [Framing.lines_cons isLine, stripSuffix_of_plain isPlain]
  cases found : dataOf line <;> simp [found]

end Plain

theorem dataOf_nil : dataOf [] = none := rfl

variable {opened : List Text}

theorem groupsFrom_line (isPlain : '\r' ∉ line) (goesOn : opened = [] ∨ line ≠ [])
    (rest : List Text) :
    Grouping.groupsFrom isBlankLine dataOf opened (line :: rest) =
      Grouping.groupsFrom isBlankLine dataOf (opened ++ (dataOf line).toList) rest := by
  by_cases isEmpty : line = []
  · obtain rfl := goesOn.resolve_right (not_not_intro isEmpty)
    subst isEmpty
    exact Grouping.groupsFrom_nil_cons dataOf_nil rest
  · have goes : ¬isBlankLine line = true :=
      fun isBlank => isEmpty ((isBlankLine_iff isPlain).mp isBlank)
    rw [Grouping.groupsFrom, if_neg goes]

theorem groupsFrom_blank (opened : List Text) (rest : List Text) :
    Grouping.groupsFrom isBlankLine dataOf opened ([] :: rest) =
      Grouping.closed opened ++ Grouping.groupsFrom isBlankLine dataOf [] rest := by
  have isBlank : isBlankLine [] = true := rfl
  rw [Grouping.groupsFrom, if_pos isBlank]

variable {body : Text}

/--
Blocks, behind values of a group that is open, are the groups of the lines,
unless the text starts with the line feed that would have ended the group.
-/
theorem groupsFrom_splitBlocks (isPlain : '\r' ∉ body) {block : Text}
    (splits : splitBlocks body = block :: blocks) (goesOn : opened = [] ∨ body.head? ≠ some '\n') :
    Grouping.closed (opened ++ blockData block) ++
      blocks.flatMap (fun block => Grouping.closed (blockData block)) =
      Grouping.groupsFrom isBlankLine dataOf opened (body.splitOn '\n') := by
  induction isSize : body.length using Nat.strongRecOn generalizing body block blocks opened with
  | ind size ih =>
    by_cases isMore : '\n' ∈ body
    · obtain ⟨line, rest, rfl, isLine⟩ := eq_append_cons_of_mem isMore
      have linePlain : '\r' ∉ line := fun isIn => isPlain (mem_append_left _ isIn)
      have restPlain : '\r' ∉ rest :=
        fun isIn => isPlain (mem_append_right _ (mem_cons_of_mem _ isIn))
      have lineGoesOn : opened = [] ∨ line ≠ [] := by
        refine goesOn.imp_right fun notFeed isEmpty => ?_
        subst isEmpty
        exact notFeed rfl
      rw [splitOn_append_cons_self_of_not_mem isLine, groupsFrom_line linePlain lineGoesOn]
      obtain ⟨next, others, restSplits⟩ := exists_cons_of_ne_nil (splitBlocks_ne_nil rest)
      by_cases isSecond : rest.head? = some '\n'
      · -- Two line feeds: the block ends, and so does the group.
        obtain ⟨more, rfl⟩ := head?_eq_some_iff.mp isSecond
        rw [splitBlocks_separator isLine] at splits
        obtain ⟨first, later, moreSplits⟩ := exists_cons_of_ne_nil (splitBlocks_ne_nil more)
        rw [moreSplits] at splits
        cases splits
        have isEmptyLine : '\n' ∉ ([] : Text) := not_mem_nil
        have restLines : ('\n' :: more).splitOn '\n' = [] :: more.splitOn '\n' :=
          splitOn_append_cons_self_of_not_mem isEmptyLine more
        have morePlain : '\r' ∉ more := fun isIn => restPlain (mem_cons_of_mem _ isIn)
        have shorter : more.length < size := by
          rw [← isSize]
          simp
          omega
        have later := ih more.length shorter morePlain moreSplits (.inl rfl) rfl
        rw [restLines, groupsFrom_blank, ← later, blockData_last isLine linePlain,
          flatMap_cons, nil_append]
      · -- One line feed: the block goes on, and so does the group.
        rw [splitBlocks_feed isLine isSecond restSplits] at splits
        cases splits
        have shorter : rest.length < size := by
          rw [← isSize]
          simp
          omega
        rw [blockData_cons isLine linePlain, ← append_assoc]
        exact ih rest.length shorter restPlain restSplits (.inr isSecond) rfl
    · rw [splitBlocks_last isMore] at splits
      cases splits
      rw [splitOn_eq_singleton isMore,
        blockData_last isMore isPlain, flatMap_nil, append_nil]
      by_cases isEmpty : body = []
      · subst isEmpty
        rw [groupsFrom_blank, dataOf_nil, Option.toList_none, append_nil, Grouping.groupsFrom,
          Grouping.closed_nil, append_nil]
      · rw [groupsFrom_line isPlain (.inr isEmpty), Grouping.groupsFrom]

theorem blocks_eq_ssePayloads (isPlain : '\r' ∉ body) :
    (splitBlocks body).filterMap eventData = ssePayloads body := by
  obtain ⟨block, blocks, splits⟩ := exists_cons_of_ne_nil (splitBlocks_ne_nil body)
  have isGrouped := groupsFrom_splitBlocks isPlain splits (.inl rfl)
  rw [nil_append] at isGrouped
  unfold ssePayloads eventGroups Grouping.groups
  have isFlat : Grouping.closed (blockData block) ++
        blocks.flatMap (fun block => Grouping.closed (blockData block)) =
      (block :: blocks).flatMap (fun block => Grouping.closed (blockData block)) := by
    rw [flatMap_cons]
  rw [← isGrouped, splits, isFlat, map_flatMap, filterMap_eq_flatMap_toList]
  exact flatMap_congr fun block _ => eventData_toList block

end Rustasea.Ai.Mcp
