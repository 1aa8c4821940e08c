import Mathlib.Data.List.Infix
import Rustasea.Library.Utf8
import Rustasea.Logging.LogLine

namespace Rustasea.Logging

open List

open Framing (completeLines lastLine lines stripSuffix)
open Rustasea.Schedule (isWhitespace trim)

/-!
# Tailing a log file

A log file grows while a reader polls it.  A poll reads what was appended since
the last one behind the line that was not complete then.
-/

abbrev Bytes := List UInt8

variable {runtime : Runtime}

/-! ## Filtering -/

structure LogQuery (runtime : Runtime) where
  minLevel : Option LogLevel
  since : Option runtime.Instant
  grep : Option Text

def entryHaystack (entry : LogEntry runtime) : Text :=
  runtime.toLowercase (entry.message ++ ' ' :: entry.target ++
      entry.fields.flatMap fun field => ' ' :: field.1 ++ '=' :: field.2)

def LogQuery.matches (query : LogQuery runtime) (entry : LogEntry runtime) : Bool :=
  (query.minLevel.all fun minLevel => minLevel.rank ≤ entry.level.rank) &&
    (query.since.all fun since => !runtime.before entry.timestamp since) &&
      ((query.grep.filter (· ≠ [])).all fun grep =>
        runtime.toLowercase grep <:+: entryHaystack entry)

/-! ## Reading -/

inductive LoggingError where
  | io (message : String)
  deriving DecidableEq

/-- The bytes that were read, and a line that is not complete. -/
structure TailState where
  offset : Nat
  carry : Text
  deriving DecidableEq

def TailState.new (offset : Nat) : TailState :=
  { offset := offset, carry := [] }

def readToString (bytes : Bytes) : Except LoggingError Text :=
  match Utf8.decode bytes with
  | some text => .ok text
  | none => .error (.io "stream did not contain valid UTF-8")

def TailState.restarted (state : TailState) (length : Nat) : TailState :=
  if length < state.offset then .new 0
  else state

/--
One poll; `length` is the length of the file when it was opened, and `content`
what it contains when it is read.
-/
def readNewEntries (state : TailState) (length : Nat) (content : Bytes)
    (query : LogQuery runtime) : Except LoggingError (List (LogEntry runtime)) × TailState :=
  let state := state.restarted length
  let unread := content.drop state.offset
  match readToString unread with
  | .error error => (.error error, state)
  | .ok chunk =>
    let buffer := state.carry ++ chunk
    let complete := (completeLines '\n' buffer).filter fun line => trim line ≠ []
    (.ok ((complete.filterMap (parseLine runtime)).filter query.matches),
      { offset := state.offset + unread.length, carry := lastLine '\n' buffer })

/-! ## A file that grows -/

/-- Bytes are appended, also between the opening and the reading of a poll. -/
inductive Event where
  | append (chunk : Bytes)
  | poll (meanwhile : Bytes)

/-- A file with its reader, what each poll read from, and what it returned. -/
structure Tail (runtime : Runtime) where
  file : Bytes
  state : TailState
  seen : List Bytes
  returned : List (Except LoggingError (List (LogEntry runtime)))

namespace Tail

def start (runtime : Runtime) (file : Bytes) : Tail runtime :=
  { file := file, state := .new file.length, seen := [], returned := [] }

def step (query : LogQuery runtime) (tail : Tail runtime) : Event → Tail runtime
  | .append chunk => { tail with file := tail.file ++ chunk }
  | .poll meanwhile =>
    let content := tail.file ++ meanwhile
    let polled := readNewEntries tail.state tail.file.length content query
    { file := content
      state := polled.2
      seen := tail.seen ++ [content]
      returned := tail.returned ++ [polled.1] }

def run (query : LogQuery runtime) (tail : Tail runtime) (events : List Event) : Tail runtime :=
  events.foldl (step query) tail

def entries (tail : Tail runtime) : List (LogEntry runtime) :=
  tail.returned.flatMap fun
    | .ok entries => entries
    | .error _ => []

end Tail

/-! ## Parsing once -/

def completeText (text : Text) : Text := (completeLines '\n' text).flatMap (· ++ ['\n'])

def parseOnce (query : LogQuery runtime) (text : Text) : List (LogEntry runtime) :=
  (parseLines runtime (completeText text)).1.filter query.matches

/-- What follows the first bytes of a file, if it is a text. -/
def textBehind (start : Nat) (content : Bytes) : Option Text := Utf8.decode (content.drop start)

def lineEntries (query : LogQuery runtime) (lines : List Text) : List (LogEntry runtime) :=
  ((lines.filter fun line => trim line ≠ []).filterMap (parseLine runtime)).filter query.matches

variable (query : LogQuery runtime)

theorem lineEntries_append (first second : List Text) :
    lineEntries query (first ++ second) = lineEntries query first ++ lineEntries query second := by
  simp [lineEntries]

theorem lineEntries_stripSuffix (lines : List Text) :
    lineEntries query (lines.map (stripSuffix '\r')) = lineEntries query lines := by
  induction lines with
  | nil => rfl
  | cons line rest ih =>
    have single : lineEntries query [stripSuffix '\r' line] = lineEntries query [line] := by
      by_cases ends : line.getLast? = some '\r'
      · obtain ⟨before, rfl⟩ := Framing.exists_of_getLast? ends
        have isSpace : isWhitespace '\r' := by decide
        rw [Framing.stripSuffix_concat]
        simp only [lineEntries, filter_cons, trim_concat isSpace]
        split
        · simp [filterMap_cons, parseLine_concat]
        · rfl
      · rw [Framing.stripSuffix_of_ne ends]
    rw [map_cons, ← singleton_append, lineEntries_append, single,
      ih, ← lineEntries_append, singleton_append]

theorem parseOnce_eq (text : Text) :
    parseOnce query text = lineEntries query (completeLines '\n' text) := by
  have areLines : ∀ line ∈ completeLines '\n' text, '\n' ∉ line :=
    fun _ => Framing.notMem_of_mem_completeLines
  obtain ⟨complete, last⟩ := Framing.splitOn_flatMap areLines
  rw [parseOnce, parseLines, completeText, lines, complete, last]
  simpa [lineEntries] using lineEntries_stripSuffix query (completeLines '\n' text)

variable {state : TailState} {length : Nat} {content : Bytes}

theorem readNewEntries_of_none (unchanged : state.restarted length = state)
    (isText : Utf8.decode (content.drop state.offset) = none) :
    readNewEntries state length content query =
      (.error (.io "stream did not contain valid UTF-8"), state) := by
  unfold readNewEntries
  simp [unchanged, readToString, isText]

theorem readNewEntries_of_some {chunk : Text}
    (unchanged : state.restarted length = state)
    (isText : Utf8.decode (content.drop state.offset) = some chunk) :
    readNewEntries state length content query =
      (.ok (lineEntries query (completeLines '\n' (state.carry ++ chunk))),
        { offset := state.offset + (content.drop state.offset).length
          carry := lastLine '\n' (state.carry ++ chunk) }) := by
  unfold readNewEntries
  simp only [unchanged, readToString, isText]
  rfl

/-! ## Following the file -/

/-- The reader has read a part of what was appended, in full lines. -/
structure CaughtUp (query : LogQuery runtime) (start : Bytes) (tail : Tail runtime) (read : Bytes)
    (text : Text) : Prop where
  file : ∃ unread, tail.file = start ++ (read ++ unread)
  offset : tail.state.offset = (start ++ read).length
  decoded : Utf8.decode read = some text
  carry : tail.state.carry = lastLine '\n' text
  entries : tail.entries = lineEntries query (completeLines '\n' text)
  /-- The last poll that saw a text has read it. -/
  last : text = ((tail.seen.filterMap (textBehind start.length)).getLast?).getD []
  returned : tail.returned.map (·.isOk) =
      tail.seen.map fun content => (textBehind start.length content).isSome

namespace CaughtUp

variable {query : LogQuery runtime} {start read : Bytes} {tail : Tail runtime} {text : Text}

theorem ofStart (query : LogQuery runtime) (start : Bytes) :
    CaughtUp query start (.start runtime start) [] [] := by
  refine ⟨⟨[], by simp [Tail.start]⟩, by simp [Tail.start, TailState.new], ?_, ?_, ?_, ?_, ?_⟩
  all_goals rfl

theorem append (caughtUp : CaughtUp query start tail read text) (chunk : Bytes) :
    CaughtUp query start (tail.step query (.append chunk)) read text := by
  obtain ⟨unread, isFile⟩ := caughtUp.file
  exact
    { caughtUp with file := ⟨unread ++ chunk, by simp [Tail.step, isFile]⟩ }

/-- A poll reads all that was appended, or nothing. -/
theorem poll (caughtUp : CaughtUp query start tail read text) (meanwhile : Bytes) :
    ∃ read text, CaughtUp query start (tail.step query (.poll meanwhile)) read text := by
  obtain ⟨unread, isFile⟩ := caughtUp.file
  have unchanged : tail.state.restarted tail.file.length = tail.state := by
    refine if_neg ?_
    rw [caughtUp.offset, isFile]
    simp
  have isUnread : (tail.file ++ meanwhile).drop tail.state.offset = unread ++ meanwhile := by
    rw [caughtUp.offset, isFile, ← append_assoc start,
      append_assoc (start ++ read), drop_left]
  have isBehind : textBehind start.length (tail.file ++ meanwhile) =
      (Utf8.decode (unread ++ meanwhile)).map (text ++ ·) := by
    rw [textBehind, isFile, append_assoc, drop_left,
      append_assoc, Utf8.decode_append caughtUp.decoded]
  cases isText : Utf8.decode (unread ++ meanwhile) with
  | none =>
    have polled : readNewEntries tail.state tail.file.length (tail.file ++ meanwhile) query =
        (.error (.io "stream did not contain valid UTF-8"), tail.state) :=
      readNewEntries_of_none query unchanged (by rw [isUnread, isText])
    rw [isText] at isBehind
    refine ⟨read, text, ?_⟩
    rw [Tail.step, polled]
    exact
      { file := ⟨unread ++ meanwhile, by simp [isFile]⟩
        offset := caughtUp.offset
        decoded := caughtUp.decoded
        carry := caughtUp.carry
        entries := by
          simpa [Tail.entries] using caughtUp.entries
        last := by
          simpa [isBehind] using caughtUp.last
        returned := by
          simp only [map_append, caughtUp.returned, map_cons, isBehind]
          rfl }
  | some chunk =>
    have polled := readNewEntries_of_some query unchanged (isUnread ▸ isText)
    rw [isText] at isBehind
    refine ⟨read ++ (unread ++ meanwhile), text ++ chunk, ?_⟩
    rw [Tail.step, polled, isUnread]
    exact
      { file := ⟨[], by simp [isFile]⟩
        offset := by
          simp only [caughtUp.offset, length_append]
          omega
        decoded := by
          rw [Utf8.decode_append caughtUp.decoded, isText, Option.map_some]
        carry := by
          rw [Framing.lastLine_append text, ← caughtUp.carry]
        entries := by
          rw [Framing.completeLines_append text, lineEntries_append,
            ← caughtUp.entries, ← caughtUp.carry]
          simp [Tail.entries]
        last := by
          simp [isBehind]
        returned := by
          simp only [map_append, caughtUp.returned, map_cons, isBehind]
          rfl }

theorem run (caughtUp : CaughtUp query start tail read text) (events : List Event) :
    ∃ read text, CaughtUp query start (tail.run query events) read text := by
  induction events generalizing tail read text with
  | nil => exact ⟨read, text, caughtUp⟩
  | cons event rest ih =>
    cases event with
    | append chunk => exact ih (caughtUp.append chunk)
    | poll meanwhile =>
      obtain ⟨read, text, next⟩ := caughtUp.poll meanwhile
      exact ih next

end CaughtUp

/--
No poll returned an error, and the polls have returned what parsing the
complete lines of the file yields, as the last of them saw it.
-/
def Tail.Follows (query : LogQuery runtime) (start : Bytes) (tail : Tail runtime) : Prop :=
  (∀ result ∈ tail.returned, result.isOk) ∧ ∀ content ∈ tail.seen.getLast?,
      ∃ text, textBehind start.length content = some text ∧ tail.entries = parseOnce query text

/--
The polls return each entry once and in order, up to the last one that read a
text.  They follow the file exactly when no poll sees it end within a character.
-/
theorem polls_return_complete_lines
    (query : LogQuery runtime) (start : Bytes) (events : List Event) :
    let tail := (Tail.start runtime start).run query events
    tail.entries = parseOnce query
          (((tail.seen.filterMap (textBehind start.length)).getLast?).getD []) ∧
      (tail.Follows query start ↔
        ∀ content ∈ tail.seen, (textBehind start.length content).isSome) := by
  intro tail
  obtain ⟨read, text, caughtUp⟩ := (CaughtUp.ofStart query start).run events
  have isRead : tail.entries = parseOnce query text :=
    caughtUp.entries.trans (parseOnce_eq query text).symm
  have errorsIff : (∀ result ∈ tail.returned, result.isOk) ↔
      ∀ content ∈ tail.seen, (textBehind start.length content).isSome := by
    have sameFlags : (∀ isOk ∈ tail.returned.map (·.isOk), isOk = true) ↔ ∀ isOk ∈
        tail.seen.map fun content => (textBehind start.length content).isSome,
        isOk = true := by
      rw [caughtUp.returned]
    rwa [forall_mem_map, forall_mem_map] at sameFlags
  refine ⟨isRead.trans (by rw [← caughtUp.last]), ?_⟩
  rw [Tail.Follows, errorsIff]
  refine ⟨And.left, fun areTexts => ⟨areTexts, ?_⟩⟩
  intro content isLast
  obtain ⟨before, isSeen⟩ := getLast?_eq_some_iff.mp isLast
  obtain ⟨found, isText⟩ := Option.isSome_iff_exists.mp
      (areTexts content (by rw [isSeen]; exact mem_concat_self))
  refine ⟨found, isText, ?_⟩
  have isLastText : (tail.seen.filterMap (textBehind start.length)).getLast? = some found := by
    rw [isSeen]
    simp [isText]
  have sameText := caughtUp.last
  rw [isLastText, Option.getD_some] at sameText
  rw [isRead, sameText]

/-! ## A character that is written in two parts -/

/-- Instants are not told apart, and texts are left as they are. -/
def plainRuntime : Runtime :=
  { Instant := Unit
    before := fun _ _ => false
    parseFromRfc3339 := fun _ => some ()
    toLowercase := id }

def allEntries : LogQuery plainRuntime :=
  { minLevel := none, since := none, grep := none }

/-- The two bytes of an `é` are appended apart, with a poll in between. -/
theorem poll_within_character_fails :
    ¬ ((Tail.start plainRuntime []).run allEntries
      [.append [0xC3], .poll [], .append [0xA9], .poll []]).Follows allEntries [] := by
  rintro ⟨areOk, -⟩
  have isError : ((Tail.start plainRuntime []).run allEntries
        [.append [0xC3], .poll [], .append [0xA9], .poll []]).returned.map
        (·.isOk) =
      [false, true] := by
    decide +kernel
  have isOk : ∀ isOk ∈ [false, true], isOk = true := by
    rw [← isError, forall_mem_map]
    exact areOk
  exact absurd (isOk false mem_cons_self) (by decide)

end Rustasea.Logging
