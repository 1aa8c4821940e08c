import Mathlib.Data.List.Infix

/-!
# The lexical rules of SQL

A script is read character by character into words, numbers, texts, quoted
names and single characters.  The dialects disagree on escapes in texts, on
comments and on what else is quoted.  Operators are kept as their characters.
-/

namespace SqlLexer

open List

/-! ## Rules and tokens -/

/-- What the dialects disagree on. -/
structure Rules where
  /-- A backslash in a text starts an escape; else a text holds no NUL. -/
  escapes : Bool
  /-- What stands in double quotes is a text, not a name. -/
  doubleIsText : Bool
  /-- A name may stand in backticks. -/
  backtick : Bool
  /-- A name may stand in brackets. -/
  bracket : Bool
  /-- A hash starts a comment. -/
  hash : Bool
  /-- Two dashes start a comment only in front of a blank. -/
  spacedDashes : Bool
  /-- Comments nest. -/
  nested : Bool
  /-- A comment with an exclamation mark is executed; it is not read here. -/
  executable : Bool
  /-- An `E` in front of a text turns escapes on. -/
  escapeTexts : Bool
  /-- A text may stand between dollar tags. -/
  dollar : Bool
  /-- How many characters of a name count, if not all of them. -/
  nameLength : Option Nat

/-- A token of a script. -/
inductive Token where
  | word (characters : List Char)
  | number (characters : List Char)
  | text (content : List Char)
  | name (content : List Char)
  | symbol (character : Char)
  deriving DecidableEq

/-- Where the reader stands between two characters. -/
inductive State where
  | start
  | word (read : List Char)
  | number (read : List Char)
  | text (quote : Char) (escapes : Bool) (read : List Char)
  | textQuote (quote : Char) (escapes : Bool) (read : List Char)
  | textEscape (quote : Char) (read : List Char)
  | name (close : Char) (read : List Char)
  | nameQuote (close : Char) (read : List Char)
  | dash
  | dashDash
  | slash
  | line
  | opened
  | block (depth : Nat)
  | blockStar (depth : Nat)
  | blockSlash (depth : Nat)
  | dollar (tag : List Char)
  | dollarText (tag read : List Char)
  | failed
  deriving DecidableEq

/-! ## Reading -/

def isBlank (character : Char) : Bool := character.toNat ≤ 32

def isWordStart (character : Char) : Bool :=
  character.isAlpha || character == '_' || 128 ≤ character.toNat

def isWordPart (character : Char) : Bool :=
  character.isAlphanum || character == '_' || character == '$' || 128 ≤ character.toNat

def escaped (character : Char) : List Char :=
  if character = '%' ∨ character = '_' then ['\\', character]
  else if character = '0' then ['\x00']
  else if character = 'b' then ['\x08']
  else if character = 'n' then ['\n']
  else if character = 'r' then ['\r']
  else if character = 't' then ['\t']
  else if character = 'Z' then ['\x1a']
  else [character]

variable (rules : Rules)

def begin (character : Char) : List Token × State :=
  if character = '\x00' then ([], .failed)
  else if isBlank character then ([], .start)
  else if character.isDigit then ([], .number [character])
  else if isWordStart character then ([], .word [character])
  else if character = '\'' then ([], .text '\'' rules.escapes [])
  else if character = '"' then
    ([], if rules.doubleIsText then .text '"' rules.escapes [] else .name '"' [])
  else if character = '\x60' ∧ rules.backtick then ([], .name '\x60' [])
  else if character = '[' ∧ rules.bracket then ([], .name ']' [])
  else if character = '-' then ([], .dash)
  else if character = '/' then ([], .slash)
  else if character = '#' ∧ rules.hash then ([], .line)
  else if character = '$' ∧ rules.dollar then ([], .dollar [])
  else ([.symbol character], .start)

/-- Complete some tokens, and read a character behind them. -/
def complete (tokens : List Token) (character : Char) : List Token × State :=
  (tokens ++ (begin rules character).1, (begin rules character).2)

/-- The tokens of an opening dollar that turned out to open nothing. -/
def dollarTokens (tag : List Char) : List Token :=
  .symbol '$' :: if tag.isEmpty then [] else [.word tag]

@[grind =] def step : State → Char → List Token × State
  | .start, character => begin rules character
  | .word read, character =>
    if isWordPart character then ([], .word (read ++ [character]))
    else if character = '\'' ∧ rules.escapeTexts ∧ (read = ['E'] ∨ read = ['e']) then
      ([], .text '\'' true [])
    else complete rules [.word read] character
  | .number read, character =>
    if isWordPart character ∨ character = '.' then ([], .number (read ++ [character]))
    else complete rules [.number read] character
  | .text quote escapes read, character =>
    if character = '\x00' ∧ escapes = false then ([], .failed)
    else if character = '\\' ∧ escapes then ([], .textEscape quote read)
    else if character = quote then ([], .textQuote quote escapes read)
    else ([], .text quote escapes (read ++ [character]))
  | .textQuote quote escapes read, character =>
    if character = quote then ([], .text quote escapes (read ++ [character]))
    else complete rules [.text read] character
  | .textEscape quote read, character => ([], .text quote true (read ++ escaped character))
  | .name close read, character =>
    if character = close then
      if close = ']' then ([.name read], .start)
      else ([], .nameQuote close read)
    else ([], .name close (read ++ [character]))
  | .nameQuote close read, character =>
    if character = close then ([], .name close (read ++ [character]))
    else complete rules [.name read] character
  | .dash, character =>
    if character = '-' then ([], if rules.spacedDashes then .dashDash else .line)
    else complete rules [.symbol '-'] character
  | .dashDash, character =>
    if isBlank character then ([], if character = '\n' then .start else .line)
    else complete rules [.symbol '-', .symbol '-'] character
  | .slash, character =>
    if character = '*' then ([], .opened)
    else complete rules [.symbol '/'] character
  | .line, character => ([], if character = '\n' then .start else .line)
  | .opened, character =>
    if character = '!' ∧ rules.executable then ([], .failed)
    else if character = '*' then ([], .blockStar 0)
    else if character = '/' ∧ rules.nested then ([], .blockSlash 0)
    else ([], .block 0)
  | .block depth, character =>
    if character = '*' then ([], .blockStar depth)
    else if character = '/' ∧ rules.nested then ([], .blockSlash depth)
    else ([], .block depth)
  | .blockStar depth, character =>
    if character = '/' then ([], if depth = 0 then .start else .block (depth - 1))
    else if character = '*' then ([], .blockStar depth)
    else ([], .block depth)
  | .blockSlash depth, character =>
    if character = '*' then ([], .block (depth + 1))
    else if character = '/' then ([], .blockSlash depth)
    else ([], .block depth)
  | .dollar tag, character =>
    if character = '$' then ([], .dollarText tag [])
    else if isWordPart character ∧ ¬(tag = [] ∧ character.isDigit) then
      ([], .dollar (tag ++ [character]))
    else complete rules (dollarTokens tag) character
  | .dollarText tag read, character =>
    let close := '$' :: (tag ++ ['$'])
    let extended := read ++ [character]
    if close.isSuffixOf extended then
      ([.text (extended.take (extended.length - close.length))], .start)
    else ([], .dollarText tag extended)
  | .failed, _ => ([], .failed)

def State.flush : State → Option (List Token)
  | .start => some []
  | .word read => some [.word read]
  | .number read => some [.number read]
  | .textQuote _ _ read => some [.text read]
  | .nameQuote _ read => some [.name read]
  | .dash => some [.symbol '-']
  | .dashDash => some [.symbol '-', .symbol '-']
  | .slash => some [.symbol '/']
  | .line => some []
  | .dollar tag => some (dollarTokens tag)
  | .text _ _ _ => none
  | .textEscape _ _ => none
  | .name _ _ => none
  | .opened => none
  | .block _ => none
  | .blockStar _ => none
  | .blockSlash _ => none
  | .dollarText _ _ => none
  | .failed => none

@[grind =] def lexFrom : State → List Char → Option (List Token)
  | state, [] => state.flush
  | state, character :: rest =>
    (lexFrom (step rules state character).2 rest).map ((step rules state character).1 ++ ·)

/-- The tokens that some characters complete, and the state behind them. -/
@[grind =] def run : State → List Char → List Token × State
  | state, [] => ([], state)
  | state, character :: rest =>
    let later := run (step rules state character).2 rest
    ((step rules state character).1 ++ later.1, later.2)

def lex (script : String) : Option (List Token) := lexFrom rules .start script.toList

/--
What a name outside of quotes stands for.  The case of its letters does not
count, and the name is ASCII, so that its bytes are its characters.
-/
def foldName (characters : List Char) : List Char :=
  let folded := characters.map Char.toLower
  match rules.nameLength with
  | some length => folded.take length
  | none => folded

variable {rules}

theorem lexFrom_append (state : State) (first second : List Char) :
    lexFrom rules state (first ++ second) =
      (lexFrom rules (run rules state first).2 second).map ((run rules state first).1 ++ ·) := by
  induction first generalizing state with
  | nil => simp [run]
  | cons character rest ih =>
    rw [cons_append, lexFrom, ih, Option.map_map]
    simp [run, Function.comp_def]

theorem lexFrom_failed (characters : List Char) : lexFrom rules .failed characters = none := by
  induction characters with
  | nil => rfl
  | cons character rest ih =>
    rw [lexFrom]
    simp [step, ih]

/-! ## Closed states -/

/-- The characters that end every word, number, text and name. -/
def delimiters : List Char := [' ', '(', ')', ',', ';']

/-- Nothing open, and no comment that would take what follows. -/
def State.isClosed : State → Bool
  | .start => true
  | .word _ => true
  | .number _ => true
  | .textQuote quote _ _ => quote ∉ delimiters
  | .nameQuote close _ => close ∉ delimiters
  | .dash => true
  | .slash => true
  | .dollar _ => true
  | _ => false

def State.last (state : State) : List Token := state.flush.getD []

def Delimited (rest : List Char) : Prop := ∀ character ∈ rest.head?, character ∈ delimiters

variable {state : State}

theorem flush_of_isClosed (isClosed : state.isClosed = true) : state.flush = some state.last := by
  cases state <;> first | rfl | cases isClosed

variable {character : Char}

theorem step_of_isClosed (isClosed : state.isClosed = true) (delimits : character ∈ delimiters) :
    step rules state character =
      (state.last ++ (step rules .start character).1, (step rules .start character).2) := by
  have plain : ∀ delimiter ∈ delimiters, isWordPart delimiter = false ∧ delimiter ≠ '.' ∧
      delimiter ≠ '\'' ∧ delimiter ≠ '-' ∧ delimiter ≠ '*' ∧
      delimiter ≠ '$' := by
    intro delimiter isIn
    simp only [delimiters, mem_cons, not_mem_nil, or_false] at isIn
    rcases isIn with rfl | rfl | rfl | rfl | rfl <;> decide
  obtain ⟨noPart, noDot, noQuote, noDash, noStar, noDollar⟩ := plain character delimits
  cases state with
  | start => rfl
  | word read =>
    simp only [step, noPart, noQuote]
    rfl
  | number read =>
    simp only [step, noPart, noDot]
    rfl
  | textQuote quote escapes read =>
    have other : character ≠ quote := by
      rintro rfl
      exact of_decide_eq_true isClosed delimits
    simp only [step, if_neg other]
    rfl
  | nameQuote close read =>
    have other : character ≠ close := by
      rintro rfl
      exact of_decide_eq_true isClosed delimits
    simp only [step, if_neg other]
    rfl
  | dash =>
    simp only [step, noDash]
    rfl
  | slash =>
    simp only [step, noStar]
    rfl
  | dollar tag =>
    simp only [step, noDollar, noPart]
    rfl
  | _ => cases isClosed

theorem lexFrom_of_isClosed (isClosed : state.isClosed = true) {rest : List Char}
    (delimited : Delimited rest) :
    lexFrom rules state rest = (lexFrom rules .start rest).map (state.last ++ ·) := by
  cases rest with
  | nil =>
    rw [lexFrom, flush_of_isClosed isClosed]
    simp [lexFrom, State.flush]
  | cons character later =>
    have delimits : character ∈ delimiters := delimited character rfl
    rw [lexFrom, lexFrom, step_of_isClosed isClosed delimits, Option.map_map]
    simp [Function.comp_def]

/-! ## Fragments -/

/--
A fragment stands for some tokens, exactly when a condition holds: then, and
only then, a script goes on behind it with the tokens of the rest.  A fragment
that is `bounded` needs a delimiter behind it.
-/
def Spells (rules : Rules) (bounded : Bool) (fragment : List Char) (tokens : List Token)
    (condition : Prop) : Prop :=
  ∀ rest following, (bounded = true → Delimited rest) →
    (lexFrom rules .start (fragment ++ rest) = some (tokens ++ following) ↔
      condition ∧ lexFrom rules .start rest = some following)

def startsDelimited (fragment : List Char) : Bool :=
  match fragment.head? with
  | some character => character ∈ delimiters
  | none => false

variable {fragment : List Char}

theorem delimited_of_startsDelimited (starts : startsDelimited fragment = true)
    (rest : List Char) : Delimited (fragment ++ rest) := by
  cases fragment with
  | nil => cases starts
  | cons first later =>
    intro character isHead
    cases isHead
    exact of_decide_eq_true starts

variable {tokens : List Token}

theorem spells_of_run (isRun : run rules .start fragment = (tokens, .start)) :
    Spells rules false fragment tokens True := by
  intro rest following _
  rw [lexFrom_append, isRun]
  cases lexFrom rules .start rest with
  | none => simp
  | some read => simp

theorem spells_of_run_closed
    (isRun : run rules .start fragment = (tokens, state)) (isClosed : state.isClosed = true) :
    Spells rules true fragment (tokens ++ state.last) True := by
  intro rest following delimited
  rw [lexFrom_append, isRun]
  simp only [lexFrom_of_isClosed isClosed (delimited rfl)]
  cases lexFrom rules .start rest with
  | none => simp
  | some read => simp

theorem prefix_of_run_closed {fragment rest : List Char} {tokens read : List Token}
    (isRun : run rules .start fragment = (tokens, state)) (isClosed : state.isClosed = true)
    (delimited : Delimited rest) (isLexed : lexFrom rules .start (fragment ++ rest) = some read) :
    tokens ++ state.last <+: read := by
  rw [lexFrom_append, isRun] at isLexed
  simp only [lexFrom_of_isClosed isClosed delimited, Option.map_map,
    Option.map_eq_some_iff] at isLexed
  obtain ⟨later, -, rfl⟩ := isLexed
  exact ⟨later, by simp⟩

namespace Spells

variable {bounded : Bool} {fragment : List Char} {tokens : List Token} {condition : Prop}

theorem congr {other : Prop} (spells : Spells rules bounded fragment tokens condition)
    (same : condition ↔ other) : Spells rules bounded fragment tokens other := by
  rw [← propext same]
  exact spells

theorem weaken (spells : Spells rules false fragment tokens condition) :
    Spells rules true fragment tokens condition :=
  fun rest following _ => spells rest following nofun

theorem append {before later : Bool} {first second : List Char}
    {firstTokens secondTokens : List Token} {firstCondition secondCondition : Prop}
    (spellsFirst : Spells rules before first firstTokens firstCondition)
    (spellsSecond : Spells rules later second secondTokens secondCondition)
    (apart : before = true → startsDelimited second = true) :
    Spells rules later (first ++ second) (firstTokens ++ secondTokens)
      (firstCondition ∧ secondCondition) := by
  intro rest following delimited
  rw [append_assoc, append_assoc, spellsFirst (second ++ rest) (secondTokens ++ following)
      (fun isBounded => delimited_of_startsDelimited (apart isBounded) rest),
    spellsSecond rest following delimited, and_assoc]

end Spells

/-! ## Texts in single quotes -/

def doubleQuotes (text : List Char) : List Char :=
  text.flatMap fun character =>
    if character = '\'' then ['\'', '\''] else [character]

def literal (text : List Char) : List Char := '\'' :: (doubleQuotes text ++ ['\''])

/-- Whether every backslash stands in front of a wildcard. -/
def isWellEscaped : List Char → Bool
  | [] => true
  | [character] => character ≠ '\\'
  | first :: second :: rest =>
    if first = '\\' then (second = '%' ∨ second = '_') && isWellEscaped rest
    else isWellEscaped (second :: rest)

/-- Whether doubling the quotes of a text is enough to keep it. -/
def isKept (escapes : Bool) (text : List Char) : Bool :=
  if escapes then isWellEscaped text else '\x00' ∉ text

def State.content? : State → Option (List Char)
  | .text _ _ read => some read
  | .textQuote _ _ read => some read
  | .textEscape _ read => some read
  | _ => none

variable {read characters : List Char}

/-- What has been read of a text is where the text begins. -/
theorem exists_text_of_content? (isContent : state.content? = some read)
    (isLexed : lexFrom rules state characters = some tokens) :
    ∃ content later, tokens = .text content :: later ∧ read <+: content := by
  induction characters generalizing state read tokens with
  | nil =>
    cases state with
    | textQuote quote escapes found =>
      cases isContent
      cases isLexed
      exact ⟨read, [], rfl, prefix_refl read⟩
    | text quote escapes found => cases isLexed
    | textEscape quote found => cases isLexed
    | _ => cases isContent
  | cons character rest ih =>
    rw [lexFrom, Option.map_eq_some_iff] at isLexed
    obtain ⟨later, isLater, rfl⟩ := isLexed
    have grown : ∀ {next : State} {extended : List Char}, next.content? = some extended →
        read <+: extended → lexFrom rules next rest = some later →
        ∃ content others, later = .text content :: others ∧ read <+: content := by
      intro next extended isNext longer isRest
      obtain ⟨content, others, isFirst, isPrefix⟩ := ih isNext isRest
      exact ⟨content, others, isFirst, longer.trans isPrefix⟩
    cases state with
    | text quote escapes found =>
      cases isContent
      simp only [step] at isLater ⊢
      split_ifs at isLater ⊢
      · rw [lexFrom_failed] at isLater
        cases isLater
      · exact grown rfl (prefix_refl _) isLater
      · exact grown rfl (prefix_refl _) isLater
      · exact grown rfl (prefix_append _ _) isLater
    | textQuote quote escapes found =>
      cases isContent
      simp only [step] at isLater ⊢
      split_ifs at isLater ⊢
      · exact grown rfl (prefix_append _ _) isLater
      · exact ⟨read, _, rfl, prefix_refl read⟩
    | textEscape quote found =>
      cases isContent
      exact grown rfl (prefix_append _ _) isLater
    | _ => cases isContent

theorem lexFrom_ne_of_content? {read content characters : List Char} {following : List Token}
    (isContent : state.content? = some read) (other : ¬read <+: content) :
    lexFrom rules state characters ≠ some (.text content :: following) := by
  intro isLexed
  obtain ⟨found, later, same, isPrefix⟩ := exists_text_of_content? isContent isLexed
  obtain ⟨sameContent, -⟩ := List.cons.inj same
  cases sameContent
  exact other isPrefix

/-! ### One character of a text -/

section Reading

variable {escapes : Bool} {read rest : List Char} {character : Char}

theorem lexFrom_text_plain (noQuote : character ≠ '\'')
    (noNul : ¬(character = '\x00' ∧ escapes = false))
    (noEscape : ¬(character = '\\' ∧ escapes = true)) :
    lexFrom rules (.text '\'' escapes read) (character :: rest) =
      lexFrom rules (.text '\'' escapes (read ++ [character])) rest := by
  have isStep : step rules (.text '\'' escapes read) character =
      ([], .text '\'' escapes (read ++ [character])) := by
    simp [step, if_neg noNul, if_neg noEscape, if_neg noQuote]
  rw [lexFrom, isStep]
  exact Option.map_id_apply

theorem lexFrom_text_doubled :
    lexFrom rules (.text '\'' escapes read) ('\'' :: '\'' :: rest) =
      lexFrom rules (.text '\'' escapes (read ++ ['\''])) rest := by
  have isFirst :
      step rules (.text '\'' escapes read) '\'' = ([], .textQuote '\'' escapes read) := by
    simp [step]
  rw [lexFrom, isFirst, lexFrom, Option.map_map]
  exact Option.map_id_apply

theorem lexFrom_text_closed (delimited : Delimited rest) :
    lexFrom rules (.text '\'' escapes read) ('\'' :: rest) =
      (lexFrom rules .start rest).map ([.text read] ++ ·) := by
  have isClosed : (State.textQuote '\'' escapes read).isClosed = true := rfl
  exact Option.map_id_apply.trans (lexFrom_of_isClosed isClosed delimited)

theorem lexFrom_text_escape (character : Char) :
    lexFrom rules (.text '\'' true read) ('\\' :: character :: rest) =
      lexFrom rules (.text '\'' true (read ++ escaped character)) rest := by
  rw [lexFrom, lexFrom, Option.map_map]
  exact Option.map_id_apply

theorem doubleQuotes_quote (text : List Char) :
    doubleQuotes ('\'' :: text) = '\'' :: '\'' :: doubleQuotes text :=
  rfl

theorem doubleQuotes_cons (noQuote : character ≠ '\'') (text : List Char) :
    doubleQuotes (character :: text) = character :: doubleQuotes text := by
  rw [doubleQuotes, flatMap_cons, if_neg noQuote]
  rfl

variable {text : List Char} {following : List Token}

theorem lexFrom_literal_plain (delimited : Delimited rest) :
    lexFrom rules (.text '\'' false read) (doubleQuotes text ++ '\'' :: rest) =
        some (.text (read ++ text) :: following) ↔
      '\x00' ∉ text ∧ lexFrom rules .start rest = some following := by
  induction text generalizing read with
  | nil =>
    show lexFrom rules (.text '\'' false read) ('\'' :: rest) = _ ↔ _
    rw [lexFrom_text_closed delimited]
    cases lexFrom rules .start rest with
    | none => simp
    | some tokens => simp
  | cons character text ih =>
    have shifted : read ++ character :: text = (read ++ [character]) ++ text := by simp
    by_cases isQuote : character = '\''
    · subst isQuote
      rw [doubleQuotes_quote, cons_append, cons_append, lexFrom_text_doubled, shifted, ih]
      simp
    rw [doubleQuotes_cons isQuote, cons_append]
    by_cases isNul : character = '\x00'
    · subst isNul
      rw [lexFrom]
      have isFailed : step rules (.text '\'' false read) '\x00' = ([], .failed) := by simp [step]
      rw [isFailed, lexFrom_failed]
      simp
    · rw [lexFrom_text_plain isQuote (fun both => isNul both.1)
        (fun both => Bool.false_ne_true both.2), shifted, ih]
      simp [Ne.symm isNul]

theorem escaped_ne_backslash (noWildcard : ¬(character = '%' ∨ character = '_'))
    (noBackslash : character ≠ '\\') : ∃ other, escaped character = [other] ∧ other ≠ '\\' := by
  unfold escaped
  split_ifs
  all_goals first
    | exact ⟨_, rfl, by decide⟩
    | exact ⟨_, rfl, noBackslash⟩

theorem not_prefix_append_singleton {character other : Char} (different : character ≠ other)
    (rest : List Char) : ¬read ++ [character] <+: read ++ other :: rest := by
  rw [prefix_append_right_inj, cons_prefix_cons]
  exact fun both => different both.1

variable {second : Char}

theorem lexFrom_lost_ne (noWildcard : ¬(second = '%' ∨ second = '_'))
    (noBackslash : second ≠ '\\') (later expected : List Char) (following : List Token) :
    lexFrom rules (.text '\'' true read) (doubleQuotes ('\\' :: second :: later) ++ rest) ≠
      some (.text (read ++ '\\' :: expected) :: following) := by
  obtain ⟨other, isEscaped, different⟩ := escaped_ne_backslash noWildcard noBackslash
  rw [doubleQuotes_cons (by decide), cons_append]
  by_cases isQuote : second = '\''
  · subst isQuote
    rw [doubleQuotes_quote, cons_append, lexFrom_text_escape, isEscaped]
    exact lexFrom_ne_of_content? rfl (not_prefix_append_singleton different _)
  · rw [doubleQuotes_cons isQuote, cons_append, lexFrom_text_escape, isEscaped]
    exact lexFrom_ne_of_content? rfl (not_prefix_append_singleton different _)

theorem lexFrom_wildcard (isWildcard : second = '%' ∨ second = '_') (later : List Char) :
    lexFrom rules (.text '\'' true read) (doubleQuotes ('\\' :: second :: later) ++ rest) =
      lexFrom rules (.text '\'' true (read ++ ['\\', second])) (doubleQuotes later ++ rest) := by
  have noQuote : second ≠ '\'' := by
    rcases isWildcard with rfl | rfl <;> decide
  have isEscaped : escaped second = ['\\', second] := if_pos isWildcard
  rw [doubleQuotes_cons (by decide), doubleQuotes_cons noQuote,
    cons_append, cons_append, lexFrom_text_escape, isEscaped]

theorem lexFrom_backslashes (later : List Char) :
    lexFrom rules (.text '\'' true read) (doubleQuotes ('\\' :: '\\' :: later) ++ rest) =
      lexFrom rules (.text '\'' true (read ++ ['\\'])) (doubleQuotes later ++ rest) := by
  rw [doubleQuotes_cons (by decide), doubleQuotes_cons (by decide),
    cons_append, cons_append, lexFrom_text_escape]
  rfl

theorem lexFrom_ordinary (noBackslash : character ≠ '\\') (later : List Char) :
    lexFrom rules (.text '\'' true read) (doubleQuotes (character :: later) ++ rest) =
      lexFrom rules (.text '\'' true (read ++ [character])) (doubleQuotes later ++ rest) := by
  by_cases isQuote : character = '\''
  · subst isQuote
    rw [doubleQuotes_quote, cons_append, cons_append, lexFrom_text_doubled]
  · rw [doubleQuotes_cons isQuote, cons_append,
      lexFrom_text_plain isQuote (fun both => Bool.false_ne_true both.2.symm)
        (fun both => noBackslash both.1)]

theorem lexFrom_last_backslash_ne (expected : List Char) (following : List Token) :
    lexFrom rules (.text '\'' true read) ('\\' :: '\'' :: rest) ≠
      some (.text (read ++ '\\' :: expected) :: following) := by
  rw [lexFrom_text_escape]
  exact lexFrom_ne_of_content? rfl (not_prefix_append_singleton (by decide) _)

theorem replicate_append_cons (count : Nat) (character : Char) (rest : List Char) :
    List.replicate count character ++ character :: rest =
      character :: (List.replicate count character ++ rest) := by
  induction count with
  | zero => rfl
  | succ count ih => rw [replicate_succ, cons_append, ih, cons_append]

/-- A backslash that was lost is not made up for by what follows. -/
theorem lexFrom_literal_ne (delimited : Delimited rest) (count : Nat) :
    lexFrom rules (.text '\'' true read) (doubleQuotes text ++ '\'' :: rest) ≠
      some (.text (read ++ (List.replicate (count + 1) '\\' ++ text)) :: following) := by
  induction text using isWellEscaped.induct generalizing read count with
  | case1 =>
    show lexFrom rules (.text '\'' true read) ('\'' :: rest) ≠ _
    rw [lexFrom_text_closed delimited]
    intro isLexed
    obtain ⟨tokens, -, same⟩ := Option.map_eq_some_iff.mp isLexed
    have sameRead := Token.text.inj (List.cons.inj same).1
    have longer := congrArg List.length sameRead
    simp at longer
  | case2 character =>
    by_cases isEscape : character = '\\'
    · subst isEscape
      exact lexFrom_last_backslash_ne _ _
    · rw [lexFrom_ordinary isEscape]
      exact lexFrom_ne_of_content? rfl (not_prefix_append_singleton isEscape _)
  | case3 second later ih =>
    by_cases isWildcard : second = '%' ∨ second = '_'
    · rw [lexFrom_wildcard isWildcard]
      have noBackslash : second ≠ '\\' := by
        rcases isWildcard with rfl | rfl <;> decide
      have twice :
          read ++ (List.replicate (count + 1) '\\' ++ '\\' :: second :: later) =
            (read ++ ['\\']) ++ '\\' :: (List.replicate count '\\' ++ second :: later) := by
        rw [replicate_succ, cons_append, replicate_append_cons]
        simp
      have split : read ++ ['\\', second] = (read ++ ['\\']) ++ [second] := by simp
      rw [twice, split]
      exact lexFrom_ne_of_content? rfl (not_prefix_append_singleton noBackslash _)
    · by_cases isEscape : second = '\\'
      · subst isEscape
        rw [lexFrom_backslashes]
        have shifted :
            read ++ (List.replicate (count + 1) '\\' ++ '\\' :: '\\' :: later) =
              (read ++ ['\\']) ++ (List.replicate (count + 1 + 1) '\\' ++ later) := by
          rw [replicate_append_cons, replicate_append_cons, replicate_succ (n := count + 1)]
          simp
        rw [shifted]
        exact ih (count + 1)
      · exact lexFrom_lost_ne isWildcard isEscape _ _ _
  | case4 first second later noEscape ih =>
    rw [lexFrom_ordinary noEscape]
    exact lexFrom_ne_of_content? rfl (not_prefix_append_singleton noEscape _)

/-- With escapes a text is kept when every backslash is a wildcard's. -/
theorem lexFrom_literal_escaped (delimited : Delimited rest) :
    lexFrom rules (.text '\'' true read) (doubleQuotes text ++ '\'' :: rest) =
        some (.text (read ++ text) :: following) ↔
      isWellEscaped text = true ∧ lexFrom rules .start rest = some following := by
  induction text using isWellEscaped.induct generalizing read with
  | case1 =>
    show lexFrom rules (.text '\'' true read) ('\'' :: rest) = _ ↔ _
    rw [lexFrom_text_closed delimited]
    cases lexFrom rules .start rest with
    | none => simp
    | some tokens => simp [isWellEscaped]
  | case2 character =>
    by_cases isEscape : character = '\\'
    · subst isEscape
      exact iff_of_false (lexFrom_last_backslash_ne _ _) fun both => Bool.false_ne_true both.1
    · rw [lexFrom_ordinary isEscape]
      show lexFrom rules (.text '\'' true (read ++ [character])) ('\'' :: rest) = _ ↔ _
      rw [lexFrom_text_closed delimited]
      cases lexFrom rules .start rest with
      | none => simp
      | some tokens => simp [isWellEscaped, isEscape]
  | case3 second later ih =>
    have isRead : isWellEscaped ('\\' :: second :: later) = true ↔
        (second = '%' ∨ second = '_') ∧ isWellEscaped later = true := by
      simp [isWellEscaped]
    by_cases isWildcard : second = '%' ∨ second = '_'
    · have shifted : read ++ '\\' :: second :: later = (read ++ ['\\', second]) ++ later := by simp
      rw [lexFrom_wildcard isWildcard, shifted, ih, isRead, and_iff_right isWildcard]
    · refine iff_of_false ?_ fun both => isWildcard (isRead.mp both.1).1
      by_cases isEscape : second = '\\'
      · subst isEscape
        have shifted : read ++ '\\' :: '\\' :: later =
            (read ++ ['\\']) ++ (List.replicate 1 '\\' ++ later) := by
          simp
        rw [lexFrom_backslashes, shifted]
        exact lexFrom_literal_ne delimited 0
      · exact lexFrom_lost_ne isWildcard isEscape _ _ _
  | case4 first second later noEscape ih =>
    have shifted : read ++ first :: second :: later = (read ++ [first]) ++ second :: later := by
      simp
    rw [lexFrom_ordinary noEscape, shifted, ih, isWellEscaped, if_neg noEscape]

end Reading

theorem spells_literal (text : List Char) :
    Spells rules true (literal text) [.text text] (isKept rules.escapes text = true) := by
  intro rest following delimited
  have opened : lexFrom rules .start (literal text ++ rest) =
      lexFrom rules (.text '\'' rules.escapes []) (doubleQuotes text ++ '\'' :: rest) := by
    rw [literal, cons_append, append_assoc, lexFrom]
    exact Option.map_id_apply
  rw [opened]
  unfold isKept
  cases isEscaping : rules.escapes with
  | false =>
    have reads : lexFrom rules (.text '\'' false []) (doubleQuotes text ++ '\'' :: rest) =
          some (.text ([] ++ text) :: following) ↔
        '\x00' ∉ text ∧ lexFrom rules .start rest = some following :=
      lexFrom_literal_plain (delimited rfl)
    simpa using reads
  | true =>
    have reads : lexFrom rules (.text '\'' true []) (doubleQuotes text ++ '\'' :: rest) =
          some (.text ([] ++ text) :: following) ↔
        isWellEscaped text = true ∧ lexFrom rules .start rest = some following :=
      lexFrom_literal_escaped (delimited rfl)
    simpa using reads

/-! ## Words, numbers and lists -/

/-- A letter or an underscore, and then letters, digits and underscores. -/
def isPlainWord : List Char → Bool
  | [] => false
  | first :: rest =>
    (first.isAlpha || first == '_') &&
      rest.all fun character => character.isAlphanum || character == '_'

def isNumeral : List Char → Bool
  | [] => false
  | first :: rest =>
    first.isDigit && rest.all fun character => character.isDigit || character == '.'

theorem run_word (areParts : ∀ character ∈ characters, isWordPart character = true) :
    run rules (.word read) characters = ([], .word (read ++ characters)) := by
  induction characters generalizing read with
  | nil => simp [run]
  | cons character rest ih =>
    have isPart := areParts character mem_cons_self
    have later : ∀ other ∈ rest, isWordPart other = true :=
      fun other isIn => areParts other (mem_cons_of_mem _ isIn)
    simp [run, step, isPart, ih later]

theorem run_number
    (areParts : ∀ character ∈ characters, isWordPart character = true ∨ character = '.') :
    run rules (.number read) characters = ([], .number (read ++ characters)) := by
  induction characters generalizing read with
  | nil => simp [run]
  | cons character rest ih =>
    have isPart := areParts character mem_cons_self
    have later : ∀ other ∈ rest, isWordPart other = true ∨ other = '.' :=
      fun other isIn => areParts other (mem_cons_of_mem _ isIn)
    simp [run, step, if_pos isPart, ih later]

theorem begin_word (isFirst : (character.isAlpha || character == '_') = true) :
    begin rules character = ([], .word [character]) := by
  have codes : 65 ≤ character.toNat := by
    rcases Bool.or_eq_true_iff.mp isFirst with isLetter | isUnderscore
    · unfold Char.isAlpha Char.isUpper Char.isLower at isLetter
      simp only [Bool.or_eq_true, Bool.and_eq_true, decide_eq_true_eq] at isLetter
      have isCode : character.toNat = character.val.toNat := rfl
      rcases isLetter with ⟨low, -⟩ | ⟨low, -⟩
      · exact UInt32.le_iff_toNat_le.mp low
      · exact le_trans (by decide) (UInt32.le_iff_toNat_le.mp low)
    · rw [beq_iff_eq.mp isUnderscore]
      decide
  have noNul : character ≠ '\x00' := by
    rintro rfl
    exact absurd codes (by decide)
  have noBlank : isBlank character = false := decide_eq_false (by omega)
  have noDigit : character.isDigit = false := by
    rw [Char.isDigit, Bool.and_eq_false_iff]
    right
    rw [decide_eq_false_iff_not, UInt32.le_iff_toNat_le]
    have isCode : character.toNat = character.val.toNat := rfl
    have nine : ('9' : Char).val.toNat = 57 := rfl
    omega
  have isStart : isWordStart character = true := by rw [isWordStart, isFirst, Bool.true_or]
  rw [begin, if_neg noNul, noBlank, noDigit, isStart]
  rfl

theorem begin_digit (isDigit : character.isDigit = true) :
    begin rules character = ([], .number [character]) := by
  have low : 48 ≤ character.toNat := by
    rw [Char.isDigit, Bool.and_eq_true, decide_eq_true_eq] at isDigit
    exact UInt32.le_iff_toNat_le.mp isDigit.1
  have noNul : character ≠ '\x00' := by
    rintro rfl
    exact absurd low (by decide)
  have noBlank : isBlank character = false := decide_eq_false (by omega)
  rw [begin, if_neg noNul, noBlank, isDigit]
  rfl

variable {characters : List Char}

theorem spells_word (isWord : isPlainWord characters = true) :
    Spells rules true characters [.word characters] True := by
  cases characters with
  | nil => cases isWord
  | cons first rest =>
    rw [isPlainWord, Bool.and_eq_true, all_eq_true] at isWord
    have areParts : ∀ character ∈ rest, isWordPart character = true := by
      intro character isIn
      have isPart := isWord.2 character isIn
      rw [isWordPart, isPart, Bool.true_or, Bool.true_or]
    have isRun : run rules .start (first :: rest) = ([], .word (first :: rest)) := by
      rw [run, step, begin_word isWord.1]
      simp only [run_word areParts]
      rfl
    exact spells_of_run_closed isRun rfl

theorem isWordPart_of_numeral {first : Char} {rest : List Char}
    (isNumber : isNumeral (first :: rest) = true) :
    ∀ character ∈ rest, isWordPart character = true ∨ character = '.' := by
  rw [isNumeral, Bool.and_eq_true, all_eq_true] at isNumber
  intro character isIn
  rcases Bool.or_eq_true_iff.mp (isNumber.2 character isIn) with isDigit | isPoint
  · left
    rw [isWordPart, Char.isAlphanum, isDigit]
    simp
  · exact .inr (beq_iff_eq.mp isPoint)

theorem spells_number (isNumber : isNumeral characters = true) :
    Spells rules true characters [.number characters] True := by
  cases characters with
  | nil => cases isNumber
  | cons first rest =>
    have areParts := isWordPart_of_numeral isNumber
    rw [isNumeral, Bool.and_eq_true] at isNumber
    have isRun : run rules .start (first :: rest) = ([], .number (first :: rest)) := by
      rw [run, step, begin_digit isNumber.1]
      simp only [run_number areParts]
      rfl
    exact spells_of_run_closed isRun rfl

theorem spells_negative (isNumber : isNumeral characters = true) :
    Spells rules true ('-' :: characters) [.symbol '-', .number characters] True := by
  cases characters with
  | nil => cases isNumber
  | cons first rest =>
    have areParts := isWordPart_of_numeral isNumber
    rw [isNumeral, Bool.and_eq_true] at isNumber
    have noDash : first ≠ '-' := by
      rintro rfl
      exact absurd isNumber.1 (by decide)
    have opened : step rules .start '-' = ([], .dash) := rfl
    have signed : step rules .dash first = ([.symbol '-'], .number [first]) := by
      simp [step, if_neg noDash, complete, begin_digit isNumber.1]
    have isRun :
        run rules .start ('-' :: first :: rest) = ([.symbol '-'], .number (first :: rest)) := by
      rw [run, opened, run, signed]
      simp only [run_number areParts]
      rfl
    exact spells_of_run_closed isRun rfl

variable {Item : Type} {items : List Item} {write : Item → List Char} {holds : Item → Prop}

theorem Spells.intercalate {read : Item → List Token}
    (spells : ∀ item ∈ items, Spells rules true (write item) (read item) (holds item))
    (notEmpty : items ≠ []) :
    Spells rules true ([',', ' '].intercalate (items.map write))
      ([Token.symbol ','].intercalate (items.map read)) (∀ item ∈ items, holds item) := by
  have comma : Spells rules false [',', ' '] [Token.symbol ','] True := spells_of_run rfl
  induction items with
  | nil => exact absurd rfl notEmpty
  | cons first rest ih =>
    have spellsFirst := spells first mem_cons_self
    cases rest with
    | nil =>
      simp only [map_cons, map_nil, intercalate_singleton]
      exact spellsFirst.congr (by simp)
    | cons second others =>
      have later := ih (fun item isIn => spells item (mem_cons_of_mem _ isIn))
        (cons_ne_nil _ _)
      simp only [map_cons, intercalate_cons_cons] at later ⊢
      refine ((spellsFirst.append comma fun _ => rfl).append later nofun).congr ?_
      rw [and_true]
      exact forall_mem_cons.symm

/-! ## Scripts -/

/-- The tokens of some statements, each with a semicolon behind it. -/
def terminated (statements : List (List Token)) : List Token :=
  statements.flatMap fun statement => statement ++ [.symbol ';']

def splitStatements : List Token → List (List Token)
  | [] => []
  | token :: rest =>
    if token = .symbol ';' then [] :: splitStatements rest
    else
      match splitStatements rest with
      | [] => [[token]]
      | first :: others => (token :: first) :: others

theorem splitStatements_append {statement : List Token} (noSemicolon : Token.symbol ';' ∉ statement)
    (rest : List Token) :
    splitStatements (statement ++ .symbol ';' :: rest) = statement :: splitStatements rest := by
  induction statement with
  | nil => rw [nil_append, splitStatements, if_pos rfl]
  | cons token others ih =>
    obtain ⟨other, noOthers⟩ := not_or.mp (mt mem_cons.mpr noSemicolon)
    rw [cons_append, splitStatements, if_neg (Ne.symm other), ih noOthers]

theorem splitStatements_terminated {statements : List (List Token)}
    (noSemicolon : ∀ statement ∈ statements, Token.symbol ';' ∉ statement) :
    splitStatements (terminated statements) = statements := by
  induction statements with
  | nil => rfl
  | cons first rest ih =>
    obtain ⟨noFirst, noRest⟩ := forall_mem_cons.mp noSemicolon
    have isTerminated : terminated (first :: rest) = first ++ .symbol ';' :: terminated rest := by
      simp [terminated]
    rw [isTerminated, splitStatements_append noFirst, ih noRest]

structure ReadsAs (rules : Rules) (script : String) (statements : List (List Token)) : Prop where
  isLexed : lex rules script = some (terminated statements)
  noSemicolon : ∀ statement ∈ statements, Token.symbol ';' ∉ statement

theorem lexFrom_script {read : Item → List Token}
    (spells : ∀ item ∈ items, Spells rules true (write item) (read item) (holds item))
    (notEmpty : items ≠ []) :
    lexFrom rules .start ([';', '\n'].intercalate (items.map write) ++ [';']) =
        some (terminated (items.map read)) ↔
      ∀ item ∈ items, holds item := by
  have separator : Spells rules false [';', '\n'] [Token.symbol ';'] True := spells_of_run rfl
  have terminator : Spells rules false [';'] [Token.symbol ';'] True := spells_of_run rfl
  have whole : Spells rules false ([';', '\n'].intercalate (items.map write) ++ [';'])
      (terminated (items.map read)) (∀ item ∈ items, holds item) := by
    induction items with
    | nil => exact absurd rfl notEmpty
    | cons first rest ih =>
      have spellsFirst := spells first mem_cons_self
      cases rest with
      | nil =>
        simp only [map_cons, map_nil, terminated, intercalate_singleton,
          flatMap_cons, flatMap_nil, append_nil]
        refine (spellsFirst.append terminator fun _ => rfl).congr ?_
        simp
      | cons second others =>
        have later := ih (fun item isIn => spells item (mem_cons_of_mem _ isIn))
          (cons_ne_nil _ _)
        simp only [map_cons, intercalate_cons_cons,
          terminated, flatMap_cons, append_assoc]
          at later ⊢
        refine (spellsFirst.append (separator.append later nofun) fun _ => rfl).congr ?_
        rw [true_and]
        exact forall_mem_cons.symm
  have atEnd := whole [] [] nofun
  rw [append_nil, append_nil] at atEnd
  rw [atEnd]
  exact and_iff_left rfl

end SqlLexer
