import Rustasea.Logging.TailReader

namespace Rustasea.Logging

open List

open Framing (completeLines lastLine lines stripSuffix)
open Rustasea.Schedule (trim)

/-!
# The end of a large log file

Of a large file a window at its end is read.  The first line of the window is
dropped when a newline ends it, whether the window starts within it or not.
-/

variable {runtime : Runtime}

/-! ## Reading the window -/

def maxTailBytes : Nat := 8 * 1024 * 1024

structure LimitedQuery (runtime : Runtime) extends LogQuery runtime where
  limit : Option Nat

@[grind =] def LimitedQuery.applyLimit (query : LimitedQuery runtime)
    (entries : List (LogEntry runtime)) : List (LogEntry runtime) :=
  match query.limit with
  | some limit =>
    if limit < entries.length then entries.drop (entries.length - limit)
    else entries
  | none => entries

structure LogReadResult (runtime : Runtime) where
  entries : List (LogEntry runtime)
  skipped : Nat
  /-- The size of the whole file. -/
  bytes : Nat

/-- The window behind its first newline, if there is one. -/
def drainLine (window : Text) : Text :=
  if '\n' ∈ window then (window.dropWhile (· ≠ '\n')).tail
  else window

@[grind =] def readEntries (content : Bytes) (query : LimitedQuery runtime) :
    Except LoggingError (LogReadResult runtime) :=
  let bytes := content.length
  let truncated := maxTailBytes < bytes
  match readToString (if truncated then content.drop (bytes - maxTailBytes) else content) with
  | .error error => .error error
  | .ok window =>
    let window := if truncated then drainLine window else window
    let parsed := parseLines runtime window
    .ok
      { entries := query.applyLimit (parsed.1.filter query.matches)
        skipped := parsed.2
        bytes := bytes }

/-! ## The lines within the window -/

def contentOf (text : Text) : Bytes := text.flatMap String.utf8EncodeChar

@[grind =] def linesBehind : Nat → List Text → List Text
  | _, [] => []
  | start, line :: rest =>
    if start = 0 then line :: rest
    else linesBehind (start - ((contentOf line).length + 1)) rest

/-- The entries are those of the lines that lie within the window. -/
def ReadsWindow (query : LimitedQuery runtime) (text : Text) : Prop :=
  ∃ result, readEntries (contentOf text) query = .ok result ∧ result.entries =
        query.applyLimit (lineEntries query.toLogQuery
          (linesBehind ((contentOf text).length - maxTailBytes) (text.splitOn '\n')))

def FirstLineHidden (query : LimitedQuery runtime) (window : Text) : Prop :=
  lineEntries query.toLogQuery ((window.splitOn '\n').take 1) = [] ∨ ∃ limit ∈ query.limit,
      limit ≤ (lineEntries query.toLogQuery (window.splitOn '\n').tail).length

/--
The window starts between two characters.  When it starts with a line that a
newline ends, or lies within one line, that line yields nothing.
-/
def WindowSettled (query : LimitedQuery runtime) (text : Text) : Prop :=
  ∃ before window, text = before ++ window ∧ (contentOf window).length = maxTailBytes ∧
      ((lastLine '\n' before = [] ↔ '\n' ∈ window) → FirstLineHidden query window)

variable {query : LimitedQuery runtime} {text before window : Text}

@[simp] theorem contentOf_append (first second : Text) :
    contentOf (first ++ second) = contentOf first ++ contentOf second :=
  flatMap_append

theorem length_contentOf_pos (isSome : text ≠ []) : 0 < (contentOf text).length := by
  cases text with
  | nil => exact absurd rfl isSome
  | cons char rest =>
    rw [contentOf, flatMap_cons, length_append, String.length_utf8EncodeChar]
    exact Nat.add_pos_left char.utf8Size_pos _

/-! ## Limits -/

theorem applyLimit_of_some {limit : Nat} (isLimit : query.limit = some limit)
    (entries : List (LogEntry runtime)) :
    query.applyLimit entries = entries.drop (entries.length - limit) := by
  simp only [LimitedQuery.applyLimit, isLimit]
  split
  · rfl
  · next fits => rw [Nat.sub_eq_zero_of_le (Nat.not_lt.mp fits), drop_zero]

theorem applyLimit_append_iff (earlier later : List (LogEntry runtime)) :
    query.applyLimit (earlier ++ later) = query.applyLimit later ↔
      earlier = [] ∨ ∃ limit ∈ query.limit, limit ≤ later.length := by
  cases isLimit : query.limit with
  | none => simp [LimitedQuery.applyLimit, isLimit]
  | some limit =>
    simp only [applyLimit_of_some isLimit, Option.mem_some_iff, exists_eq_left']
    by_cases hides : limit ≤ later.length
    · have skips :
          (earlier ++ later).length - limit = earlier.length + (later.length - limit) := by
        rw [length_append, Nat.add_sub_assoc hides]
      rw [skips]
      simp [hides]
    · refine ⟨fun same => .inl ?_, ?_⟩
      · have sameLength := congrArg List.length same
        simp only [length_drop, length_append] at sameLength
        refine eq_nil_of_length_eq_zero ?_
        omega
      · rintro (rfl | hidden)
        · rfl
        · exact absurd hidden hides

/-! ## Lines of a window -/

theorem filter_parseLines (query : LogQuery runtime) (text : Text) :
    (parseLines runtime text).1.filter query.matches = lineEntries query (text.splitOn '\n') := by
  have isSplit : text.splitOn '\n' = completeLines '\n' text ++ [lastLine '\n' text] :=
    (dropLast_append_getLast (splitOn_ne_nil _ _)).symm
  have isParsed :
      (parseLines runtime text).1.filter query.matches = lineEntries query (lines text) := rfl
  rw [isParsed, lines, lineEntries_append, lineEntries_stripSuffix, isSplit, lineEntries_append]
  split
  · next isEmpty =>
    rw [isEmpty]
    rfl
  · rfl

theorem splitOn_append (isLine : '\n' ∉ before) (window : Text) :
    ∃ first rest, window.splitOn '\n' = first :: rest ∧
      (before ++ window).splitOn '\n' = (before ++ first) :: rest := by
  by_cases isMore : '\n' ∈ window
  · obtain ⟨first, rest, rfl, isFirst⟩ := eq_append_cons_of_mem isMore
    have isLonger : '\n' ∉ before ++ first := by simp [isLine, isFirst]
    refine ⟨first, rest.splitOn '\n', splitOn_append_cons_self_of_not_mem isFirst _, ?_⟩
    rw [← append_assoc, splitOn_append_cons_self_of_not_mem isLonger]
  · refine ⟨window, [], splitOn_eq_singleton isMore, splitOn_eq_singleton ?_⟩
    simp [isLine, isMore]

theorem linesBehind_zero (lines : List Text) : linesBehind 0 lines = lines := by
  cases lines <;> simp [linesBehind]

theorem linesBehind_splitOn (before window : Text) :
    linesBehind (contentOf before).length ((before ++ window).splitOn '\n') =
      if lastLine '\n' before = [] then window.splitOn '\n'
      else (window.splitOn '\n').tail := by
  induction before using Framing.line_induction '\n' with
  | last before isLine =>
    rw [Framing.lastLine_of_notMem isLine]
    split
    · next isEmpty =>
      rw [isEmpty]
      exact linesBehind_zero _
    · next isSome =>
      obtain ⟨first, rest, isWindow, isWhole⟩ := splitOn_append isLine window
      have isBehind := length_contentOf_pos isSome
      rw [isWhole, isWindow, linesBehind, if_neg (by omega), Nat.sub_eq_zero_of_le]
      · exact linesBehind_zero rest
      · rw [contentOf_append, length_append]
        omega
  | line line rest isLine ih =>
    have length : (contentOf (line ++ '\n' :: rest)).length =
        (contentOf line).length + 1 + (contentOf rest).length := by
      have isNewline : contentOf ('\n' :: rest) = 10 :: contentOf rest := rfl
      rw [contentOf_append, isNewline, length_append, length_cons]
      omega
    rw [append_assoc, cons_append,
      splitOn_append_cons_self_of_not_mem isLine, linesBehind, length,
      if_neg (by omega), Nat.add_sub_cancel_left, Framing.lastLine_cons isLine, ih]

theorem splitOn_drainLine (window : Text) :
    (drainLine window).splitOn '\n' =
      if '\n' ∈ window then (window.splitOn '\n').tail
      else window.splitOn '\n' := by
  unfold drainLine
  split
  · next isMore =>
    obtain ⟨first, rest, rfl, isFirst⟩ := eq_append_cons_of_mem isMore
    have areDropped : ∀ char ∈ first, decide (char ≠ '\n') = true := by
      rintro char isChar
      refine decide_eq_true ?_
      rintro rfl
      exact isFirst isChar
    rw [splitOn_append_cons_self_of_not_mem isFirst, dropWhile_append_of_pos areDropped]
    simp
  · rfl

/-! ## Reading -/

theorem readEntries_of_some (content : Bytes) (query : LimitedQuery runtime)
    (isText : Utf8.decode (if maxTailBytes < content.length then content.drop
        (content.length - maxTailBytes) else content) =
      some window) :
    ∃ result, readEntries content query = .ok result ∧ result.entries =
          query.applyLimit (lineEntries query.toLogQuery
            ((if maxTailBytes < content.length then drainLine window
              else window).splitOn '\n')) := by
  refine ⟨_, by simp only [readEntries, readToString, isText]; rfl, ?_⟩
  rw [filter_parseLines]

theorem readsWindow_of_fits (fits : (contentOf text).length ≤ maxTailBytes) :
    ReadsWindow query text := by
  have untruncated : ¬ maxTailBytes < (contentOf text).length := Nat.not_lt.mpr fits
  obtain ⟨result, isRead, entries⟩ :=
    readEntries_of_some (contentOf text) query
      (by rw [if_neg untruncated]; exact Utf8.decode_flatMap_utf8EncodeChar text)
  refine ⟨result, isRead, ?_⟩
  rw [entries, if_neg untruncated, Nat.sub_eq_zero_of_le fits, linesBehind_zero]

theorem readsWindow_append_iff (isSome : before ≠ [])
    (isWindow : (contentOf window).length = maxTailBytes) :
    ReadsWindow query (before ++ window) ↔
      ((lastLine '\n' before = [] ↔ '\n' ∈ window) → FirstLineHidden query window) := by
  have isBefore := length_contentOf_pos isSome
  have length :
      (contentOf (before ++ window)).length = (contentOf before).length + maxTailBytes := by
    rw [contentOf_append, length_append, isWindow]
  have truncated : maxTailBytes < (contentOf (before ++ window)).length := by omega
  have isStart :
      (contentOf (before ++ window)).length - maxTailBytes = (contentOf before).length := by
    omega
  obtain ⟨result, isRead, entries⟩ :=
    readEntries_of_some (contentOf (before ++ window)) query
      (by
        rw [if_pos truncated, isStart, contentOf_append, drop_left]
        exact Utf8.decode_flatMap_utf8EncodeChar window)
  rw [if_pos truncated, splitOn_drainLine] at entries
  have readsIff : ReadsWindow query (before ++ window) ↔ result.entries =
      query.applyLimit (lineEntries query.toLogQuery
        (if lastLine '\n' before = [] then window.splitOn '\n'
        else (window.splitOn '\n').tail)) := by
    rw [ReadsWindow, isStart, linesBehind_splitOn, isRead]
    simp
  obtain ⟨first, rest, isSplit⟩ := exists_cons_of_ne_nil (splitOn_ne_nil '\n' window)
  have isWhole : lineEntries query.toLogQuery (first :: rest) =
      lineEntries query.toLogQuery [first] ++ lineEntries query.toLogQuery rest :=
    lineEntries_append _ [first] rest
  have hiddenIff : FirstLineHidden query window ↔
      query.applyLimit (lineEntries query.toLogQuery (first :: rest)) =
        query.applyLimit (lineEntries query.toLogQuery rest) := by
    rw [isWhole, applyLimit_append_iff, FirstLineHidden, isSplit]
    rfl
  rw [readsIff, entries, hiddenIff, isSplit]
  by_cases atLine : lastLine '\n' before = [] <;> by_cases isMore : '\n' ∈ window <;>
    simp [atLine, isMore, eq_comm]

theorem not_readsWindow_of_within (truncated : maxTailBytes < (contentOf text).length)
    (within : ∀ before window, text = before ++ window → (contentOf window).length ≠ maxTailBytes) :
    ¬ ReadsWindow query text := by
  rintro ⟨result, isRead, -⟩
  rcases Utf8.decode_drop text ((contentOf text).length - maxTailBytes) (Nat.sub_le _ _) with
    split | isError
  · obtain ⟨before, window, rfl, length⟩ := split
    refine within before window rfl ?_
    rw [← contentOf] at length
    rw [contentOf_append, length_append] at length truncated
    omega
  · rw [← contentOf] at isError
    simp only [readEntries, if_pos truncated, readToString, isError] at isRead
    cases isRead

/--
The entries are those of the lines within the window exactly when the file
fits, or its window is settled.
-/
theorem entries_of_window_iff (query : LimitedQuery runtime) (text : Text) :
    ReadsWindow query text ↔ (contentOf text).length ≤ maxTailBytes ∨ WindowSettled query text := by
  by_cases fits : (contentOf text).length ≤ maxTailBytes
  · simp [fits, readsWindow_of_fits fits]
  · have truncated := Nat.not_le.mp fits
    constructor
    · intro reads
      right
      by_contra unsettled
      refine not_readsWindow_of_within truncated ?_ reads
      intro before window isText isWindow
      have isSome : before ≠ [] := by
        rintro rfl
        rw [isText, nil_append] at truncated
        omega
      rw [isText, readsWindow_append_iff isSome isWindow] at reads
      exact unsettled ⟨before, window, isText, isWindow, reads⟩
    · rintro (small | ⟨before, window, isText, isWindow, hidden⟩)
      · exact absurd small fits
      · have isSome : before ≠ [] := by
          rintro rfl
          rw [isText, nil_append] at truncated
          omega
        rw [isText, readsWindow_append_iff isSome isWindow]
        exact hidden

def unlimited : LimitedQuery plainRuntime :=
  { allEntries with limit := none }

/-- The window starts within the first character of the file. -/
theorem window_within_character_fails :
    ¬ ReadsWindow unlimited ('é' :: List.replicate (maxTailBytes - 1) 'a') := by
  have length (count : Nat) : (contentOf (List.replicate count 'a')).length = count := by
    have isByte : 'a'.utf8Size = 1 := by decide
    simp [contentOf, isByte]
  have isChar (rest : Text) : (contentOf ('é' :: rest)).length = (contentOf rest).length + 2 := by
    have areBytes : 'é'.utf8Size = 2 := by decide
    rw [contentOf, flatMap_cons, length_append, String.length_utf8EncodeChar, areBytes,
      Nat.add_comm, contentOf]
  have isSome : 0 < maxTailBytes := by decide
  refine not_readsWindow_of_within ?_ ?_
  · rw [isChar, length]
    omega
  · intro before window isText isWindow
    cases before with
    | nil =>
      rw [← (nil_append window), ← isText, isChar, length] at isWindow
      omega
    | cons char before =>
      have isRest : List.replicate (maxTailBytes - 1) 'a' = before ++ window :=
        (List.cons.inj isText).2
      have sameLength := length (maxTailBytes - 1)
      rw [isRest, contentOf_append, length_append] at sameLength
      omega

end Rustasea.Logging
