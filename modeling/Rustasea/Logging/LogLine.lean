import Rustasea.Library.Framing
import Rustasea.Schedule.Cron

namespace Rustasea.Logging

open Framing (lines stripSuffix)
open Rustasea.Schedule (isWhitespace trim)

/-!
# Log lines

A line of a log file has a timestamp, a level, a target, a message and fields.
Lines that are malformed yield no entry.
-/

abbrev Text := List Char

/-- Instants, how they are written, and the lower case of texts. -/
structure Runtime where
  Instant : Type
  before : Instant → Instant → Bool
  parseFromRfc3339 : Text → Option Instant
  toLowercase : Text → Text

/-! ## Levels -/

inductive LogLevel where
  | trace
  | debug
  | info
  | warn
  | error
  deriving DecidableEq

namespace LogLevel

def parse (token : Text) : Option LogLevel :=
  match String.ofList ((trim token).map Char.toUpper) with
  | "TRACE" => some .trace
  | "DEBUG" => some .debug
  | "INFO" => some .info
  | "WARN" => some .warn
  | "ERROR" => some .error
  | _ => none

def rank : LogLevel → Nat
  | .trace => 0
  | .debug => 1
  | .info => 2
  | .warn => 3
  | .error => 4

end LogLevel

/-! ## Entries -/

structure LogEntry (runtime : Runtime) where
  timestamp : runtime.Instant
  level : LogLevel
  target : Text
  message : Text
  fields : List (Text × Text)

def trimStart (text : Text) : Text := text.dropWhile isWhitespace

/-- Strip escape sequences; `inside` is the state within one. -/
def stripAnsiFrom (inside : Bool) : Text → Text
  | [] => []
  | char :: rest =>
    if inside then stripAnsiFrom (!('@' ≤ char ∧ char ≤ '~' : Bool)) rest
    else if char = '\x1b' then
      match rest with
      | '[' :: rest => stripAnsiFrom true rest
      | rest => stripAnsiFrom false rest
    else char :: stripAnsiFrom false rest

def stripAnsi (input : Text) : Text :=
  if '\x1b' ∈ input then stripAnsiFrom false input
  else input

/-- The first token between whitespace, and what follows it. -/
def splitFirstToken (input : Text) : Option (Text × Text) :=
  let trimmed := trimStart input
  if trimmed = [] then none
  else some (trimmed.takeWhile (!isWhitespace ·), trimmed.dropWhile (!isWhitespace ·))

/-- The texts before and after the first `": "`. -/
def splitTarget : Text → Option (Text × Text)
  | [] => none
  | ':' :: ' ' :: rest => some ([], rest)
  | char :: rest => (splitTarget rest).map fun found => (char :: found.1, found.2)

def isAsciiWhitespace (char : Char) : Bool :=
  char = ' ' ∨ char = '\t' ∨ char = '\n' ∨ char = '\x0c' ∨ char = '\r'

def isIdentStart (char : Char) : Bool := char.isAlpha || char = '_'

def isIdentChar (char : Char) : Bool := char.isAlphanum || char = '_' || char = '.'

/-- An identifier and an equals sign are at the start. -/
def startsField (input : Text) : Bool :=
  input.head?.any isIdentStart && (input.dropWhile isIdentChar).head? = some '='

def findFieldStartFrom (startsWord : Bool) : Text → Option Nat
  | [] => none
  | char :: rest =>
    if startsWord && startsField (char :: rest) then some 0
    else (findFieldStartFrom (isAsciiWhitespace char) rest).map (· + 1)

def findFieldStart (input : Text) : Option Nat := findFieldStartFrom true input

/-- A value that ends where the next field starts, and what follows. -/
def readUnquoted (input : Text) : Text × Text :=
  match findFieldStart input with
  | some index => (trim (input.take index), input.drop index)
  | none => (trim input, [])

def unescape : Char → Text
  | 'n' => ['\n']
  | 't' => ['\t']
  | 'r' => ['\r']
  | '0' => ['\x00']
  | '\\' => ['\\']
  | '"' => ['"']
  | other => ['\\', other]

/-- A value up to its closing quote, and what follows. -/
@[grind =] def readQuotedFrom : Text → Text × Text
  | [] => ([], [])
  | ['\\'] => (['\\'], [])
  | '\\' :: escaped :: rest =>
    let read := readQuotedFrom rest
    (unescape escaped ++ read.1, read.2)
  | '"' :: rest => ([], rest)
  | other :: rest =>
    let read := readQuotedFrom rest
    (other :: read.1, read.2)

def readQuoted (input : Text) : Text × Text := readQuotedFrom (input.drop 1)

def readValue (input : Text) : Text × Text :=
  if input.head? = some '"' then readQuoted input
  else readUnquoted input

theorem length_readQuotedFrom (input : Text) : (readQuotedFrom input).2.length ≤ input.length := by
  induction input using readQuotedFrom.induct with
  | case1 => rfl
  | case2 => exact Nat.zero_le _
  | case3 escaped rest ih =>
    exact ih.trans (Nat.le_add_right _ 2)
  | case4 rest =>
    exact Nat.le_succ _
  | case5 other rest _ _ _ ih =>
    rw [readQuotedFrom]
    · exact ih.trans (Nat.le_succ _)
    all_goals assumption

theorem length_readValue (input : Text) : (readValue input).2.length ≤ input.length := by
  unfold readValue
  split
  · exact (length_readQuotedFrom _).trans (by simp)
  · unfold readUnquoted
    split
    · simp
    · exact Nat.zero_le _

variable {char : Char}

theorem length_of_dropWhile {drops : Char → Bool} {text after : Text}
    (isRest : text.dropWhile drops = char :: after) : after.length < text.length := by
  have shorter := (List.dropWhile_sublist drops (l := text)).length_le
  rw [isRest] at shorter
  exact shorter

theorem length_trimStart (text : Text) : (trimStart text).length ≤ text.length :=
  (List.dropWhile_sublist _).length_le

def parseFields (rest : Text) : List (Text × Text) :=
  match _isKey : rest.dropWhile (· ≠ '=') with
  | [] => []
  | _ :: after =>
    let key := rest.takeWhile (· ≠ '=')
    if key = [] ∨ ¬ key.all isIdentChar then []
    else
      let read := readValue after
      (key, read.1) :: parseFields (trimStart read.2)
termination_by rest.length
decreasing_by
  exact ((length_trimStart _).trans (length_readValue _)).trans_lt (length_of_dropWhile _isKey)

def splitMessageFields (remainder : Text) : Text × List (Text × Text) :=
  match findFieldStart remainder with
  | some index => (trim (remainder.take index), parseFields (trimStart (remainder.drop index)))
  | none => (trim remainder, [])

variable {runtime : Runtime}

def parseLine (runtime : Runtime) (line : Text) : Option (LogEntry runtime) := do
  let cleaned := trim (stripAnsi line)
  if cleaned = [] then none
  else
    let (timestampToken, rest) ← splitFirstToken cleaned
    let timestamp ← runtime.parseFromRfc3339 timestampToken
    let (levelToken, rest) ← splitFirstToken rest
    let level ← LogLevel.parse levelToken
    let (target, remainder) :=
      match splitTarget rest with
      | some (target, remainder) => (trim target, remainder)
      | none => (trim rest, [])
    if target = [] then none
    else
      let (message, fields) := splitMessageFields remainder
      some
        { timestamp := timestamp
          level := level
          target := target
          message := message
          fields := fields }

def parseLines (runtime : Runtime) (text : Text) : List (LogEntry runtime) × Nat :=
  let written := (lines text).filter fun line => trim line ≠ []
  (written.filterMap (parseLine runtime),
    (written.filter fun line => (parseLine runtime line).isNone).length)

/-! ## Carriage returns at the end -/

theorem trim_concat (isSpace : isWhitespace char) (text : Text) :
    trim (text ++ [char]) = trim text := by
  unfold trim
  rw [List.dropWhile_append]
  split
  · next isEmpty =>
    rw [List.isEmpty_iff] at isEmpty
    simp [isEmpty, isSpace]
  · simp [isSpace]

theorem stripAnsiFrom_inside (char : Char) (rest : Text) :
    stripAnsiFrom true (char :: rest) = stripAnsiFrom (!('@' ≤ char ∧ char ≤ '~' : Bool)) rest := by
  rw [stripAnsiFrom.eq_def]
  rfl

theorem stripAnsiFrom_escape {rest : Text} (isBare : ∀ after, rest ≠ '[' :: after) :
    stripAnsiFrom false ('\x1b' :: rest) = stripAnsiFrom false rest := by
  rw [stripAnsiFrom]
  · rfl
  · exact isBare

theorem stripAnsiFrom_other (isOther : char ≠ '\x1b') (rest : Text) :
    stripAnsiFrom false (char :: rest) = char :: stripAnsiFrom false rest := by
  rw [stripAnsiFrom.eq_def]
  simp [isOther]

theorem stripAnsiFrom_concat (inside : Bool) (text : Text) :
    stripAnsiFrom inside (text ++ ['\r']) = stripAnsiFrom inside text ∨
    stripAnsiFrom inside (text ++ ['\r']) = stripAnsiFrom inside text ++ ['\r'] := by
  induction inside, text using stripAnsiFrom.induct with
  | case1 inside =>
    cases inside
    · exact .inr rfl
    · exact .inl rfl
  | case2 char rest ih =>
    rw [List.cons_append, stripAnsiFrom_inside, stripAnsiFrom_inside]
    exact ih
  | case3 inside isOutside rest ih =>
    simpa [stripAnsiFrom, isOutside] using ih
  | case4 inside isOutside rest isBare ih =>
    rw [Bool.not_eq_true] at isOutside
    have stillBare : ∀ after, rest ++ ['\r'] ≠ '[' :: after := by
      intro after same
      match rest with
      | [] => cases same
      | first :: rest =>
        cases same
        exact isBare _ rfl
    rw [isOutside, List.cons_append, stripAnsiFrom_escape stillBare, stripAnsiFrom_escape isBare]
    exact ih
  | case5 inside char rest isOutside isOther ih =>
    rw [Bool.not_eq_true] at isOutside
    rw [isOutside, List.cons_append, stripAnsiFrom_other isOther, stripAnsiFrom_other isOther,
      List.cons_append, List.cons.injEq]
    simpa using ih

theorem trim_stripAnsi_concat (line : Text) :
    trim (stripAnsi (line ++ ['\r'])) = trim (stripAnsi line) := by
  have isSpace : isWhitespace '\r' := by decide
  unfold stripAnsi
  by_cases isEscaped : '\x1b' ∈ line
  · rw [if_pos isEscaped, if_pos (List.mem_append_left _ isEscaped)]
    rcases stripAnsiFrom_concat false line with same | same
    · rw [same]
    · rw [same, trim_concat isSpace]
  · have unescaped : '\x1b' ∉ line ++ ['\r'] := by simp [isEscaped]
    rw [if_neg isEscaped, if_neg unescaped, trim_concat isSpace]

theorem parseLine_concat (line : Text) :
    parseLine runtime (line ++ ['\r']) = parseLine runtime line := by
  simp [parseLine, trim_stripAnsi_concat]

end Rustasea.Logging
