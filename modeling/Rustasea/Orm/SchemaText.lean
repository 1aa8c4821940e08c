import Rustasea.Library.DecimalText
import Rustasea.Orm.SchemaStatements

/-!
# What the text of a statement is read as

Every part of a statement is read as the tokens that it is meant to be, when
its names are identifiers and its texts survive the quoting.
-/

namespace Rustasea.Orm.Schema

open List SqlLexer

open SqlLexer (Token Rules Spells isPlainWord isNumeral isKept literal
  spells_of_run spells_of_run_closed spells_word spells_number spells_literal)
open PercentEncoding (forall_mem_intercalate)

variable {rules : Rules}

/-! ## Numbers -/

theorem isNumeral_toDigits (number : Nat) : isNumeral (Nat.toDigits 10 number) = true := by
  have areDigits : ∀ character ∈ Nat.toDigits 10 number, character.isDigit = true :=
    fun _ => DecimalText.isDigit_of_mem_toDigits
  cases isText : Nat.toDigits 10 number with
  | nil => exact absurd isText Nat.toDigits_ne_nil
  | cons first rest =>
    rw [isText] at areDigits
    rw [isNumeral, areDigits first mem_cons_self, Bool.true_and, all_eq_true]
    intro character isIn
    rw [areDigits character (mem_cons_of_mem _ isIn), Bool.true_or]

theorem spells_size (size : Nat) :
    Spells rules true (toString size).toList [sizeToken size] True := by
  refine spells_number ?_
  rw [DecimalText.toList_toString]
  exact isNumeral_toDigits size

variable {characters : List Char}

theorem spells_decimal (decimal : isDecimal characters = true) :
    Spells rules true characters (numeralTokens characters) True := by
  unfold isDecimal at decimal
  split at decimal
  · exact spells_negative decimal
  · next noSign =>
    have isNumber : numeralTokens characters = [.number characters] := by
      unfold numeralTokens
      split
      · exact absurd rfl (noSign _)
      · rfl
    rw [isNumber]
    exact spells_number decimal

theorem isDecimal_toString (number : Int) : isDecimal (toString number).toList = true := by
  cases number with
  | ofNat size =>
    have isText : (toString (Int.ofNat size)).toList =
        Nat.toDigits 10 size := DecimalText.toList_toString size
    have digits := isNumeral_toDigits size
    rw [isText]
    unfold isDecimal
    split
    · next isSigned =>
      rw [isSigned] at digits
      cases digits
    · exact digits
  | negSucc size =>
    have isText : (toString (Int.negSucc size)).toList = '-' :: Nat.toDigits 10 (size + 1) := by
      show ("-" ++ Nat.repr (size + 1)).toList = _
      rw [String.toList_append, Nat.toList_repr]
      rfl
    rw [isText]
    exact isNumeral_toDigits (size + 1)

theorem lexFrom_other_ne {text : String} (isOther : text ∈ ["NaN", "inf", "-inf"])
    {rest : List Char} (delimited : SqlLexer.Delimited rest) (following : List Token) :
    SqlLexer.lexFrom rules .start (text.toList ++ rest) ≠
      some (numeralTokens text.toList ++ following) := by
  intro isLexed
  simp only [mem_cons, not_mem_nil, or_false] at isOther
  rcases isOther with rfl | rfl | rfl
  · have isRun : SqlLexer.run rules .start "NaN".toList = ([], .word "NaN".toList) := rfl
    have isPrefix := prefix_of_run_closed isRun rfl delimited isLexed
    exact absurd isPrefix (by simp [numeralTokens, SqlLexer.State.last, SqlLexer.State.flush])
  · have isRun : SqlLexer.run rules .start "inf".toList = ([], .word "inf".toList) := rfl
    have isPrefix := prefix_of_run_closed isRun rfl delimited isLexed
    exact absurd isPrefix (by simp [numeralTokens, SqlLexer.State.last, SqlLexer.State.flush])
  · have isRun : SqlLexer.run rules .start "-inf".toList = ([.symbol '-'], .word "inf".toList) :=
      rfl
    have isPrefix := prefix_of_run_closed isRun rfl delimited isLexed
    exact absurd isPrefix (by simp [numeralTokens, SqlLexer.State.last, SqlLexer.State.flush])

/-! ## Columns -/

theorem spells_fixed {fragment : List Char} {tokens : List Token}
    (isRead : (SqlLexer.run rules .start fragment).1 ++
      (SqlLexer.run rules .start fragment).2.last = tokens)
    (isClosed : (SqlLexer.run rules .start fragment).2.isClosed = true) :
    Spells rules true fragment tokens True := by
  rw [← isRead]
  exact spells_of_run_closed rfl isClosed

section Columns

variable {floats : FloatText} {dialect : Dialect}

theorem toList_quoted (text : String) :
    ("'" ++ escapeQuotes text ++ "'").toList = literal text.toList := by
  simp [escapeQuotes, literal]

theorem spells_default {value : DefaultValue} (isClosed : value.IsClosed dialect.rules) :
    Spells dialect.rules true (defaultSql floats value dialect).toList
      (defaultTokens floats dialect value) (value.IsKept dialect.rules) := by
  have spellsBit : ∀ flag : Bool, Spells dialect.rules true (if flag then "1" else "0").toList
      (if flag then [sizeToken 1] else [sizeToken 0]) True := by
    intro flag
    cases flag <;> exact spells_fixed rfl rfl
  have spellsTruth : ∀ flag : Bool,
      Spells dialect.rules true (if flag then "TRUE" else "FALSE").toList
        (if flag then [word "TRUE"] else [word "FALSE"]) True := by
    intro flag
    cases flag <;> exact spells_fixed rfl rfl
  cases value with
  | null =>
    show Spells dialect.rules true "NULL".toList [word "NULL"] True
    exact spells_fixed rfl rfl
  | bool flag =>
    cases dialect with
    | sqlite => exact spellsBit flag
    | postgres => exact spellsTruth flag
    | mySql => exact spellsBit flag
  | int number => exact spells_decimal (isDecimal_toString number)
  | float bits =>
    cases finite : Casts.isFinite bits with
    | true =>
      exact (spells_decimal (floats.display_finite bits finite)).congr (iff_of_true trivial finite)
    | false =>
      intro rest following delimited
      refine iff_of_false ?_ fun both => ?_
      · exact lexFrom_other_ne (floats.display_other bits finite) (delimited rfl) following
      · exact Bool.false_ne_true (finite.symm.trans both.1)
  | text content =>
    show Spells _ _ ("'" ++ escapeQuotes content ++ "'").toList _ _
    rw [toList_quoted]
    exact spells_literal content.toList
  | raw expression => exact spells_of_run_closed rfl isClosed

variable {opening : String} {name : Token}

theorem spells_sized
    (isOpening : SqlLexer.run rules .start opening.toList = ([name, .symbol '('], .start))
    (size : Nat) :
    Spells rules false (opening ++ toString size ++ ")").toList
      (name :: parenthesized [sizeToken size]) True := by
  have close : Spells rules false ")".toList [Token.symbol ')'] True := spells_of_run rfl
  rw [String.toList_append, String.toList_append, append_assoc]
  exact ((spells_of_run isOpening).append
    ((spells_size size).append close fun _ => rfl) nofun).congr (by simp)

theorem spells_sized_twice
    (isOpening : SqlLexer.run rules .start opening.toList = ([name, .symbol '('], .start))
    (precision scale : Nat) :
    Spells rules false
      (opening ++ toString precision ++ "," ++ toString scale ++ ")").toList
      (name :: parenthesized [sizeToken precision, comma, sizeToken scale]) True := by
  have close : Spells rules false ")".toList [Token.symbol ')'] True := spells_of_run rfl
  have between : Spells rules false ",".toList [comma] True := spells_of_run rfl
  simp only [String.toList_append, append_assoc]
  exact ((spells_of_run isOpening).append ((spells_size precision).append
    (between.append ((spells_size scale).append close fun _ => rfl) nofun)
    fun _ => rfl) nofun).congr (by simp)

theorem spells_type (kind : ColumnKind) :
    Spells dialect.rules true (" " ++ typeSql kind dialect).toList
      (typeTokens kind dialect) True := by
  have spellsString : ∀ length, Spells dialect.rules true
      (" " ++ ("VARCHAR(" ++ toString length ++ ")")).toList
      (word "VARCHAR" :: parenthesized [sizeToken length]) True := by
    intro length
    exact (spells_sized (show SqlLexer.run dialect.rules .start
      (" " ++ "VARCHAR(").toList = _ from rfl) length).weaken
  have spellsNumeric : ∀ precision scale, Spells dialect.rules true
      (" " ++ ("NUMERIC(" ++ toString precision ++ "," ++ toString scale ++ ")")).toList
      (word "NUMERIC" :: parenthesized [sizeToken precision, comma, sizeToken scale])
      True := by
    intro precision scale
    exact (spells_sized_twice (show SqlLexer.run dialect.rules .start
      (" " ++ "NUMERIC(").toList = _ from rfl) precision scale).weaken
  have spellsDecimal : ∀ precision scale, Spells dialect.rules true
      (" " ++ ("DECIMAL(" ++ toString precision ++ "," ++ toString scale ++ ")")).toList
      (word "DECIMAL" :: parenthesized [sizeToken precision, comma, sizeToken scale])
      True := by
    intro precision scale
    exact (spells_sized_twice (show SqlLexer.run dialect.rules .start
      (" " ++ "DECIMAL(").toList = _ from rfl) precision scale).weaken
  cases kind with
  | string length => cases dialect <;> exact spellsString length
  | decimal precision scale =>
    cases dialect
    · exact spellsNumeric precision scale
    · exact spellsNumeric precision scale
    · exact spellsDecimal precision scale
  | _ => cases dialect <;> exact spells_fixed (by decide +kernel) (by decide +kernel)

theorem toList_columnSql (column : Column) :
    (columnSql floats column dialect).toList =
      column.name.toList ++ ((" " ++ typeSql column.kind dialect).toList ++
        ((if column.kind ≠ .increments ∧ !column.nullable then
            " NOT NULL".toList
          else []) ++
          match column.defaultValue with
          | some value => " DEFAULT ".toList ++ (defaultSql floats value dialect).toList
          | none => [])) := by
  unfold columnSql
  split_ifs <;> cases column.defaultValue <;> simp

/-- A column is read as itself exactly when quoting keeps its default. -/
theorem spells_column {column : Column} (isNamed : isPlainWord column.name.toList = true)
    (isClosed : column.EveryDefault (·.IsClosed dialect.rules)) :
    Spells dialect.rules true (columnSql floats column dialect).toList
      (columnTokens floats dialect column) (column.EveryDefault (·.IsKept dialect.rules)) := by
  have notNull : Spells dialect.rules true " NOT NULL".toList [word "NOT", word "NULL"] True :=
    spells_fixed rfl rfl
  have opening : Spells dialect.rules false " DEFAULT ".toList [word "DEFAULT"] True :=
    spells_of_run rfl
  have named : Spells dialect.rules true column.name.toList [word column.name] True :=
    spells_word isNamed
  have typed : Spells dialect.rules true (" " ++ typeSql column.kind dialect).toList
      (typeTokens column.kind dialect) True :=
    spells_type column.kind
  have typeStarts : ∀ rest,
      SqlLexer.startsDelimited ((" " ++ typeSql column.kind dialect).toList ++ rest) = true := by
    intro rest
    rw [String.toList_append]
    rfl
  rw [toList_columnSql, columnTokens]
  unfold Column.EveryDefault at isClosed ⊢
  cases isDefault : column.defaultValue with
  | none =>
    split_ifs
    · exact (named.append (typed.append notNull fun _ => rfl) fun _ => typeStarts _).congr (by simp)
    · simp only [append_nil]
      exact (named.append typed fun _ => by
        rw [String.toList_append]
        rfl).congr (by simp)
  | some value =>
    have written : Spells dialect.rules true
        (" DEFAULT ".toList ++ (defaultSql floats value dialect).toList)
        (word "DEFAULT" :: defaultTokens floats dialect value)
        (value.IsKept dialect.rules) :=
      (opening.append (spells_default (isClosed value isDefault)) nofun).congr (by rw [true_and])
    split_ifs
    · exact (named.append (typed.append (notNull.append written
        fun _ => rfl) fun _ => rfl) fun _ => typeStarts _).congr (by simp)
    · exact (named.append (typed.append written fun _ => rfl) fun _ => typeStarts _).congr (by simp)

end Columns

/-! ## Names -/

def isWordCharacter (character : Char) : Bool := character.isAlphanum || character == '_'

theorem isPlainWord_append {first second : List Char} (isWord : isPlainWord first = true)
    (areParts : ∀ character ∈ second, isWordCharacter character = true) :
    isPlainWord (first ++ second) = true := by
  cases first with
  | nil => cases isWord
  | cons head rest =>
    rw [isPlainWord, Bool.and_eq_true] at isWord
    rw [cons_append, isPlainWord, isWord.1, all_append, isWord.2,
      Bool.true_and, Bool.true_and, all_eq_true]
    exact areParts

theorem isWordCharacter_of_isPlainWord (isWord : isPlainWord characters = true) :
    ∀ character ∈ characters, isWordCharacter character = true := by
  cases characters with
  | nil => cases isWord
  | cons first rest =>
    rw [isPlainWord, Bool.and_eq_true, all_eq_true] at isWord
    intro character isIn
    rcases mem_cons.mp isIn with rfl | inRest
    · rcases Bool.or_eq_true_iff.mp isWord.1 with isLetter | isUnderscore
      · rw [isWordCharacter, Char.isAlphanum, isLetter]
        rfl
      · rw [isWordCharacter, isUnderscore, Bool.or_true]
    · exact isWord.2 character inRest

theorem isPlainWord_indexName {table : String} {columns : List String}
    (isTable : isPlainWord table.toList = true)
    (areNames : ∀ name ∈ columns, isPlainWord name.toList = true)
    (unique : Bool) : isPlainWord (indexName table columns unique).toList = true := by
  have underscores : ∀ character ∈ ['_'], isWordCharacter character = true :=
    forall_mem_singleton.mpr rfl
  have joined : ∀ character ∈ ['_'].intercalate (columns.map String.toList),
      isWordCharacter character = true := by
    refine (forall_mem_intercalate underscores).mpr fun piece isIn => ?_
    obtain ⟨name, isName, rfl⟩ := mem_map.mp isIn
    exact isWordCharacter_of_isPlainWord (areNames name isName)
  have ends : ∀ character ∈ (if unique then "unique" else "index").toList,
      isWordCharacter character = true := by
    cases unique <;> exact all_eq_true.mp rfl
  have underscore : isWordCharacter '_' = true := by decide
  have isText : (indexName table columns unique).toList = table.toList ++ ('_' ::
      (['_'].intercalate (columns.map String.toList) ++
        '_' :: (if unique then "unique" else "index").toList)) := by
    simp [indexName]
  rw [isText]
  refine isPlainWord_append isTable fun character isIn => ?_
  rcases mem_cons.mp isIn with rfl | inRest
  · exact underscore
  · rcases mem_append.mp inRest with inJoined | inEnd
    · exact joined character inJoined
    · rcases mem_cons.mp inEnd with rfl | inKind
      · exact underscore
      · exact ends character inKind

theorem isPlainWord_jsonIndexName {table column : String}
    (isTable : isPlainWord table.toList = true) (isColumn : isPlainWord column.toList = true)
    (ordinal : Nat) : isPlainWord (jsonIndexName table column ordinal).toList = true := by
  have digits : ∀ character ∈ (toString ordinal).toList, isWordCharacter character = true := by
    rw [DecimalText.toList_toString]
    intro character isIn
    have isDigit : character.isDigit = true := DecimalText.isDigit_of_mem_toDigits isIn
    rw [isWordCharacter, Char.isAlphanum, isDigit]
    simp
  have ends : ∀ character ∈ "_json".toList, isWordCharacter character = true :=
    all_eq_true.mp rfl
  have underscore : isWordCharacter '_' = true := by decide
  have isText :
      (jsonIndexName table column ordinal).toList = table.toList ++ ('_' :: (column.toList ++
          ('_' :: ((toString ordinal).toList ++ "_json".toList)))) := by
    simp [jsonIndexName]
  rw [isText]
  refine isPlainWord_append isTable fun character isIn => ?_
  rcases mem_cons.mp isIn with rfl | inRest
  · exact underscore
  · rcases mem_append.mp inRest with inColumn | inEnd
    · exact isWordCharacter_of_isPlainWord isColumn character inColumn
    · rcases mem_cons.mp inEnd with rfl | inDigits
      · exact underscore
      · rcases mem_append.mp inDigits with isDigit | inJson
        · exact digits character isDigit
        · exact ends character inJson

theorem spells_names {names : List String}
    (areNames : ∀ name ∈ names, isPlainWord name.toList = true) (notEmpty : names ≠ []) :
    Spells rules true (", ".intercalate names).toList (nameTokens names) True := by
  have spells : Spells rules true ([',', ' '].intercalate (names.map String.toList))
      ([Token.symbol ','].intercalate (names.map fun name => [word name]))
      (∀ name ∈ names, True) :=
    Spells.intercalate (fun name isIn => spells_word (areNames name isIn)) notEmpty
  rw [String.toList_intercalate]
  exact spells.congr (by simp)

/-! ## Statements -/

section Statements

variable {floats : FloatText} {dialect : Dialect} {table : String} {fragment : List Char}
  {condition : Prop}

theorem spells_parenthesized {tokens : List Token}
    (spells : Spells rules true fragment tokens condition) :
    Spells rules false (" (".toList ++ (fragment ++ ")".toList))
      (parenthesized tokens) condition := by
  have opening : Spells rules false " (".toList [Token.symbol '('] True := spells_of_run rfl
  have close : Spells rules false ")".toList [Token.symbol ')'] True := spells_of_run rfl
  exact (opening.append (spells.append close fun _ => rfl) nofun).congr (by simp)

/-- A part of a statement, its tokens and when they are read. -/
structure Clause where
  written : List Char
  tokens : List Token
  condition : Prop

def columnClause (floats : FloatText) (dialect : Dialect) (column : Column) : Clause where
  written := (columnSql floats column dialect).toList
  tokens := columnTokens floats dialect column
  condition := column.EveryDefault (·.IsKept dialect.rules)

def keyClause (primary : List String) : Clause where
  written := ("PRIMARY KEY (" ++ ", ".intercalate primary ++ ")").toList
  tokens := Statement.primaryTokens primary
  condition := True

variable {columns : List Column} {primary : List String}

/-- The definitions of a table: its columns, and the key over several. -/
theorem spells_definitions (isNamed : (Statement.createTable columns primary).IsNamed)
    (areClosed : ∀ column ∈ columns, column.EveryDefault (·.IsClosed dialect.rules)) :
    Spells dialect.rules true
      (", ".intercalate (Statement.definitions floats dialect columns primary)).toList
      ([comma].intercalate (Statement.definitionTokens floats dialect columns primary))
      (∀ column ∈ columns, column.EveryDefault (·.IsKept dialect.rules)) := by
  obtain ⟨notEmpty, areColumns, areKeys⟩ := isNamed
  have spellsColumn : ∀ column ∈ columns,
      Spells dialect.rules true (columnSql floats column dialect).toList
        (columnTokens floats dialect column)
        (column.EveryDefault (·.IsKept dialect.rules)) :=
    fun column isIn => spells_column (areColumns column isIn) (areClosed column isIn)
  rw [String.toList_intercalate]
  unfold Statement.definitions Statement.definitionTokens
  by_cases isPrimary : primary.isEmpty = true
  · rw [if_pos isPrimary, if_pos isPrimary, append_nil, append_nil, map_map]
    exact Spells.intercalate spellsColumn notEmpty
  · rw [if_neg isPrimary, if_neg isPrimary]
    have keys : primary ≠ [] := by
      rintro rfl
      exact isPrimary rfl
    have spellsKey : Spells dialect.rules true
        ("PRIMARY KEY (" ++ ", ".intercalate primary ++ ")").toList
        (Statement.primaryTokens primary) True := by
      have clause :
          Spells dialect.rules true "PRIMARY KEY".toList [word "PRIMARY", word "KEY"] True :=
        spells_fixed rfl rfl
      have isText : ("PRIMARY KEY (" ++ ", ".intercalate primary ++ ")").toList =
          "PRIMARY KEY".toList ++ (" (".toList ++
            ((", ".intercalate primary).toList ++ ")".toList)) := by
        simp
      rw [isText]
      exact ((clause.append (spells_parenthesized (spells_names areKeys keys))
        fun _ => rfl).weaken).congr (by simp)
    have spells : Spells dialect.rules true ([',', ' '].intercalate
          ((columns.map (columnClause floats dialect) ++ [keyClause primary]).map Clause.written))
        ([Token.symbol ','].intercalate
          ((columns.map (columnClause floats dialect) ++ [keyClause primary]).map Clause.tokens))
        (∀ clause ∈ columns.map (columnClause floats dialect) ++
          [keyClause primary], clause.condition) := by
      refine Spells.intercalate (fun clause isIn => ?_) (by simp)
      rcases mem_append.mp isIn with isColumn | isKey
      · obtain ⟨column, inColumns, rfl⟩ := mem_map.mp isColumn
        exact spellsColumn column inColumns
      · rw [mem_singleton.mp isKey]
        exact spellsKey
    have conditions : (∀ clause ∈ columns.map (columnClause floats dialect) ++
          [keyClause primary], clause.condition) ↔
        ∀ column ∈ columns, column.EveryDefault (·.IsKept dialect.rules) := by
      rw [forall_mem_append, forall_mem_map, forall_mem_singleton]
      exact and_iff_left trivial
    have same := spells.congr conditions
    simp only [map_append, map_map] at same ⊢
    exact same

/-- What stands in front of the column of a JSON expression. -/
def jsonOpening : Dialect → String
  | .sqlite => "json_extract("
  | .postgres => "("
  | .mySql => "(CAST(JSON_UNQUOTE(JSON_EXTRACT("

def jsonSeparator : Dialect → String
  | .postgres => " ->> "
  | _ => ", "

def jsonClosing : Dialect → String
  | .mySql => ")) AS CHAR(255)))"
  | _ => ")"

theorem toList_quotedPath (path : String) :
    "'$.".toList ++ ((escapeQuotes path).toList ++ ['\'']) =
      literal ('$' :: '.' :: path.toList) := by
  have doubled : SqlLexer.doubleQuotes ('$' :: '.' :: path.toList) =
      '$' :: '.' :: SqlLexer.doubleQuotes path.toList := by
    rw [doubleQuotes_cons (by decide), doubleQuotes_cons (by decide)]
  rw [literal, doubled, escapeQuotes]
  simp

theorem toList_jsonExpression (column path : String) :
    (jsonExpression column path dialect).toList = (jsonOpening dialect).toList ++
        (column.toList ++
            ((jsonSeparator dialect).toList ++
                (literal (pathText dialect path) ++ (jsonClosing dialect).toList))) := by
  cases dialect with
  | sqlite =>
    have isText : jsonExpression column path .sqlite =
        "json_extract(" ++ column ++ ", '$." ++ escapeQuotes path ++ "')" :=
      rfl
    simp [isText, jsonOpening, jsonSeparator, jsonClosing, pathText, ← toList_quotedPath]
  | postgres =>
    have isText : jsonExpression column path .postgres =
        "(" ++ column ++ " ->> '" ++ escapeQuotes path ++ "')" :=
      rfl
    simp [isText, jsonOpening, jsonSeparator, jsonClosing, pathText, literal, escapeQuotes]
  | mySql =>
    have isText : jsonExpression column path .mySql =
        "(CAST(JSON_UNQUOTE(JSON_EXTRACT(" ++ column ++ ", '$." ++
          escapeQuotes path ++ "')) AS CHAR(255)))" :=
      rfl
    simp [isText, jsonOpening, jsonSeparator, jsonClosing, pathText, ← toList_quotedPath]

/-- The tokens in front of the column of a JSON expression. -/
def jsonOpeningTokens : Dialect → List Token
  | .sqlite => [word "json_extract", .symbol '(']
  | .postgres => [.symbol '(']
  | .mySql =>
    [.symbol '(', word "CAST", .symbol '(', word "JSON_UNQUOTE",
      .symbol '(', word "JSON_EXTRACT", .symbol '(']

def jsonSeparatorTokens : Dialect → List Token
  | .postgres => [.symbol '-', .symbol '>', .symbol '>']
  | _ => [comma]

def jsonClosingTokens : Dialect → List Token
  | .mySql =>
    [.symbol ')', .symbol ')', word "AS", word "CHAR", .symbol '(',
      sizeToken 255, .symbol ')', .symbol ')', .symbol ')']
  | _ => [.symbol ')']

theorem spells_jsonExpression {column : String} (isNamed : isPlainWord column.toList = true)
    (path : String) :
    Spells dialect.rules false (jsonExpression column path dialect).toList
      (jsonTokens dialect column path)
      (isKept dialect.rules.escapes (pathText dialect path) = true) := by
  have named : Spells dialect.rules true column.toList [word column] True := spells_word isNamed
  have quoted : Spells dialect.rules true (literal (pathText dialect path))
      [.text (pathText dialect path)]
      (isKept dialect.rules.escapes (pathText dialect path) = true) :=
    spells_literal _
  have opening :
      Spells dialect.rules false (jsonOpening dialect).toList (jsonOpeningTokens dialect) True := by
    cases dialect <;> exact spells_of_run (by decide)
  have separator : Spells dialect.rules false (jsonSeparator dialect).toList
      (jsonSeparatorTokens dialect) True := by
    cases dialect <;> exact spells_of_run (by decide)
  have closing :
      Spells dialect.rules false (jsonClosing dialect).toList (jsonClosingTokens dialect) True := by
    cases dialect <;> exact spells_of_run (by decide)
  have separates :
      SqlLexer.startsDelimited ((jsonSeparator dialect).toList ++
        (literal (pathText dialect path) ++ (jsonClosing dialect).toList)) = true := by
    cases dialect <;> rfl
  have closes : SqlLexer.startsDelimited (jsonClosing dialect).toList = true := by
    cases dialect <;> decide
  have isTokens :
      jsonTokens dialect column path = jsonOpeningTokens dialect ++ ([word column] ++
          (jsonSeparatorTokens dialect ++
            ([.text (pathText dialect path)] ++ jsonClosingTokens dialect))) := by
    cases dialect <;> rfl
  rw [toList_jsonExpression, isTokens]
  exact (opening.append (named.append (separator.append
    (quoted.append closing fun _ => closes) nofun) fun _ => separates)
    nofun).congr (by simp)

theorem spells_engine :
    Spells dialect.rules true (Statement.engine dialect).toList
      (Statement.engineTokens dialect) True := by
  have nothing : Spells dialect.rules true [] [] True := spells_fixed rfl rfl
  cases dialect with
  | sqlite => exact nothing
  | postgres => exact nothing
  | mySql => exact spells_fixed (by decide) (by decide)

theorem spells_createTable (isTable : isPlainWord table.toList = true)
    (isNamed : (Statement.createTable columns primary).IsNamed)
    (areClosed : ∀ column ∈ columns, column.EveryDefault (·.IsClosed dialect.rules)) :
    Spells dialect.rules true
      ((Statement.createTable columns primary).text floats dialect table).toList
      ((Statement.createTable columns primary).tokens floats dialect table)
      ((Statement.createTable columns primary).IsKept dialect) := by
  have opening :
      Spells dialect.rules false "CREATE TABLE ".toList [word "CREATE", word "TABLE"] True :=
    spells_of_run rfl
  have named : Spells dialect.rules true table.toList [word table] True := spells_word isTable
  have definitions : Spells dialect.rules true
      (", ".intercalate (Statement.definitions floats dialect columns primary)).toList
      ([comma].intercalate (Statement.definitionTokens floats dialect columns primary))
      (∀ column ∈ columns, column.EveryDefault (·.IsKept dialect.rules)) :=
    spells_definitions isNamed areClosed
  have engine : Spells dialect.rules true (Statement.engine dialect).toList
      (Statement.engineTokens dialect) True :=
    spells_engine
  have body := (spells_parenthesized definitions).append engine nofun
  have isText : ((Statement.createTable columns primary).text floats dialect
        table).toList =
      "CREATE TABLE ".toList ++ (table.toList ++
        ((" (".toList ++ ((", ".intercalate (Statement.definitions floats
          dialect columns primary)).toList ++ ")".toList)) ++
            (Statement.engine dialect).toList)) := by
    have isStatement : (Statement.createTable columns primary).text floats dialect table =
        "CREATE TABLE " ++ table ++ " (" ++ ", ".intercalate
            (Statement.definitions floats dialect columns primary) ++
            ")" ++ Statement.engine dialect :=
      rfl
    rw [isStatement]
    simp
  rw [isText]
  exact (opening.append (named.append body fun _ => rfl) nofun).congr (by simp [Statement.IsKept])

theorem spells_alter {action : String} {actionTokens : List Token}
    (isTable : isPlainWord table.toList = true)
    (isAction : SqlLexer.run dialect.rules .start action.toList = (actionTokens, .start))
    (starts : ∀ rest, SqlLexer.startsDelimited (action.toList ++ rest) = true) {tokens : List Token}
    (spells : Spells dialect.rules true fragment tokens condition) :
    Spells dialect.rules true
      ("ALTER TABLE ".toList ++ (table.toList ++ (action.toList ++ fragment)))
      ([word "ALTER", word "TABLE", word table] ++ (actionTokens ++ tokens)) condition := by
  have opening :
      Spells dialect.rules false "ALTER TABLE ".toList [word "ALTER", word "TABLE"] True :=
    spells_of_run rfl
  have named : Spells dialect.rules true table.toList [word table] True := spells_word isTable
  exact (opening.append (named.append
    ((spells_of_run isAction).append spells nofun) fun _ => starts _)
    nofun).congr (by simp)

theorem spells_index {opening name : String} {openingTokens body : List Token}
    (isTable : isPlainWord table.toList = true) (isName : isPlainWord name.toList = true)
    (isOpening : SqlLexer.run dialect.rules .start opening.toList = (openingTokens, .start))
    (spells : Spells dialect.rules true fragment body condition) :
    Spells dialect.rules true
      (opening.toList ++ (name.toList ++ (" ON ".toList ++ (table.toList ++
      (" (".toList ++ (fragment ++ ")".toList))))))
      (openingTokens ++ ([word name, word "ON", word table] ++ parenthesized body)) condition := by
  have on : Spells dialect.rules false " ON ".toList [word "ON"] True := spells_of_run rfl
  have named : Spells dialect.rules true name.toList [word name] True := spells_word isName
  have tabled : Spells dialect.rules true table.toList [word table] True := spells_word isTable
  exact ((spells_of_run isOpening).append (named.append (on.append
    (tabled.append (spells_parenthesized spells) fun _ => rfl) nofun)
    fun _ => rfl) nofun).weaken.congr (by simp)

/--
The text of a statement is read as its tokens exactly when quoting keeps its
default values and its path.
-/
theorem spells_statement {statement : Statement} (isTable : isPlainWord table.toList = true)
    (isNamed : statement.IsNamed)
    (areClosed : ∀ column ∈ statement.columns, column.EveryDefault (·.IsClosed dialect.rules)) :
    Spells dialect.rules true (statement.text floats dialect table).toList
      (statement.tokens floats dialect table) (statement.IsKept dialect) := by
  cases statement with
  | createTable columns primary => exact spells_createTable isTable isNamed areClosed
  | dropColumn name =>
    have isText : ((Statement.dropColumn name).text floats dialect table).toList =
        "ALTER TABLE ".toList ++ (table.toList ++ (" DROP COLUMN ".toList ++ name.toList)) := by
      have isStatement : (Statement.dropColumn name).text floats dialect table =
          "ALTER TABLE " ++ table ++ " DROP COLUMN " ++ name :=
        rfl
      rw [isStatement]
      simp
    rw [isText]
    have isAction : SqlLexer.run dialect.rules .start " DROP COLUMN ".toList =
        ([word "DROP", word "COLUMN"], .start) :=
      rfl
    have starts : ∀ rest, SqlLexer.startsDelimited (" DROP COLUMN ".toList ++ rest) = true :=
      fun _ => rfl
    exact spells_alter isTable isAction starts (spells_word isNamed)
  | addColumn column =>
    have isText : ((Statement.addColumn column).text floats dialect table).toList =
        "ALTER TABLE ".toList ++ (table.toList ++
          (" ADD COLUMN ".toList ++ (columnSql floats column dialect).toList)) := by
      have isStatement : (Statement.addColumn column).text floats dialect table =
          "ALTER TABLE " ++ table ++ " ADD COLUMN " ++ columnSql floats column dialect :=
        rfl
      rw [isStatement]
      simp
    rw [isText]
    have isAction : SqlLexer.run dialect.rules .start " ADD COLUMN ".toList =
        ([word "ADD", word "COLUMN"], .start) :=
      rfl
    have starts : ∀ rest, SqlLexer.startsDelimited (" ADD COLUMN ".toList ++ rest) = true :=
      fun _ => rfl
    exact spells_alter isTable isAction starts
      (spells_column isNamed (areClosed column mem_cons_self))
  | createIndex columns unique =>
    have spellsNames :
        Spells dialect.rules true (", ".intercalate columns).toList (nameTokens columns) True :=
      spells_names isNamed.2 isNamed.1
    have isName := isPlainWord_indexName isTable isNamed.2 unique
    have isText : ((Statement.createIndex columns unique).text floats dialect
          table).toList =
        ((if unique then "CREATE UNIQUE INDEX" else "CREATE INDEX") ++ " ").toList ++
          ((indexName table columns unique).toList ++ (" ON ".toList ++
            (table.toList ++ (" (".toList ++
              ((", ".intercalate columns).toList ++ ")".toList))))) := by
      have isStatement : (Statement.createIndex columns unique).text floats dialect
            table =
          (if unique then "CREATE UNIQUE INDEX" else "CREATE INDEX") ++
            " " ++ indexName table columns unique ++ " ON " ++ table ++
              " (" ++ ", ".intercalate columns ++ ")" :=
        rfl
      rw [isStatement]
      simp
    rw [isText]
    have isOpening : SqlLexer.run dialect.rules .start
          ((if unique then "CREATE UNIQUE INDEX" else "CREATE INDEX") ++ " ").toList =
        (if unique then [word "CREATE", word "UNIQUE", word "INDEX"]
          else [word "CREATE", word "INDEX"], .start) := by
      cases unique <;> rfl
    exact spells_index isTable isName isOpening spellsNames
  | jsonIndex column path ordinal =>
    have isName := isPlainWord_jsonIndexName isTable isNamed ordinal
    have isText : ((Statement.jsonIndex column path ordinal).text floats dialect
          table).toList =
        "CREATE INDEX ".toList ++ ((jsonIndexName table column ordinal).toList ++
            (" ON ".toList ++ (table.toList ++ (" (".toList ++
              ((jsonExpression column path dialect).toList ++ ")".toList))))) := by
      have isStatement : (Statement.jsonIndex column path ordinal).text floats dialect
            table =
          "CREATE INDEX " ++ jsonIndexName table column ordinal ++
            " ON " ++ table ++ " (" ++ jsonExpression column path dialect ++ ")" :=
        rfl
      rw [isStatement]
      simp
    rw [isText]
    have isOpening : SqlLexer.run dialect.rules .start "CREATE INDEX ".toList =
        ([word "CREATE", word "INDEX"], .start) :=
      rfl
    exact spells_index isTable isName isOpening (spells_jsonExpression isNamed path).weaken

end Statements

end Rustasea.Orm.Schema
