import Rustasea.Library.Fallible
import Rustasea.Orm.SchemaText

/-!
# What a rendered script declares

A script that was rendered is the text of the blueprint's statements, with
identifiers for names.  It is read as these statements, declares one primary
key and names its indexes apart exactly under conditions on the blueprint.
-/

namespace Rustasea.Orm.Schema

open List Fallible

open PercentEncoding (forall_mem_intercalate)
open SqlLexer (Token Rules ReadsAs Spells isPlainWord isKept)

/-! ## Rendering -/

theorem isPlainWord_of_validateIdentifier {name : String} {emptyError : SchemaError}
    (isOk : validateIdentifier name emptyError = .ok ()) : isPlainWord name.toList = true := by
  unfold validateIdentifier at isOk
  split_ifs at isOk with isEmpty isWord
  exact isWord

theorem isPlainWord_of_validatedColumns {table : String} {seen : List String}
    {columns : List Column} (isOk : Blueprint.validatedColumns table seen columns = .ok ()) :
    ∀ column ∈ columns, isPlainWord column.name.toList = true := by
  induction columns generalizing seen with
  | nil => exact forall_mem_nil _
  | cons first rest ih =>
    obtain ⟨⟨⟩, isFirst, isRest⟩ := bind_eq_ok.mp isOk
    split_ifs at isRest
    exact forall_mem_cons.mpr ⟨isPlainWord_of_validateIdentifier isFirst, ih isRest⟩

namespace Blueprint

variable {floats : FloatText} {blueprint : Blueprint} {dialect : Dialect}

def texts (floats : FloatText) (blueprint : Blueprint) (dialect : Dialect)
    (statements : List Statement) : List String :=
  statements.map (·.text floats dialect blueprint.table)

theorem texts_append (first second : List Statement) :
    texts floats blueprint dialect (first ++ second) =
      texts floats blueprint dialect first ++ texts floats blueprint dialect second :=
  map_append

variable {written : List String}

theorem tableIndexes_eq_ok (floats : FloatText) (dialect : Dialect) {unique : Bool}
    {indexes : List (List String)} (isOk : blueprint.tableIndexes unique indexes = .ok written) :
    written = texts floats blueprint dialect (indexes.map (.createIndex · unique)) ∧
    ∀ columns ∈ indexes, (Statement.createIndex columns unique).IsNamed := by
  have ofStep : ∀ {columns : List String} {result : String},
        (do
          validateIndexColumns columns
          .ok (indexStatement blueprint.table columns unique) :
            Except SchemaError String) = .ok result →
        result = indexStatement blueprint.table columns unique ∧
          (Statement.createIndex columns unique).IsNamed := by
    intro columns result isStep
    obtain ⟨⟨⟩, isValid, isResult⟩ := bind_eq_ok.mp isStep
    cases isResult
    refine ⟨rfl, ?_⟩
    unfold validateIndexColumns at isValid
    split_ifs at isValid with isEmpty
    refine ⟨?_, fun name isIn => ?_⟩
    · rintro rfl
      exact isEmpty rfl
    · exact isPlainWord_of_validateIdentifier (forall_of_forM_eq_ok isValid name isIn)
  obtain ⟨isWritten, areNamed⟩ := eq_map_of_mapM_eq_ok ofStep isOk
  rw [isWritten, texts, map_map]
  exact ⟨rfl, areNamed⟩

theorem emitJsonIndexes_eq_ok (floats : FloatText)
    (isOk : blueprint.emitJsonIndexes dialect = .ok written) :
    written = texts floats blueprint dialect
        (blueprint.jsonIndexes.zipIdx.map fun ((column, path), ordinal) =>
          .jsonIndex column path ordinal) ∧
    ∀ entry ∈ blueprint.jsonIndexes.zipIdx,
      (Statement.jsonIndex entry.1.1 entry.1.2 entry.2).IsNamed := by
  have ofStep : ∀ {entry : (String × String) × Nat} {result : String},
        (do
          validateIdentifier entry.1.1 .emptyColumnName
          if isBlank entry.1.2 then .error .emptyColumnName
          else
            .ok (jsonIndexStatement blueprint.table entry.1.1 entry.1.2
              entry.2 dialect) : Except SchemaError String) = .ok result →
        result = jsonIndexStatement blueprint.table entry.1.1 entry.1.2
            entry.2 dialect ∧
          (Statement.jsonIndex entry.1.1 entry.1.2 entry.2).IsNamed := by
    intro entry result isStep
    obtain ⟨⟨⟩, isValid, isResult⟩ := bind_eq_ok.mp isStep
    split_ifs at isResult
    cases isResult
    exact ⟨rfl, isPlainWord_of_validateIdentifier isValid⟩
  obtain ⟨isWritten, areNamed⟩ := eq_map_of_mapM_eq_ok ofStep isOk
  rw [isWritten, texts, map_map]
  exact ⟨rfl, areNamed⟩

theorem emitIndexes_eq_ok (floats : FloatText)
    (areColumns : ∀ column ∈ blueprint.columns, isPlainWord column.name.toList = true)
    (isOk : blueprint.emitIndexes dialect = .ok written) :
    written = texts floats blueprint dialect blueprint.indexStatements ∧
    ∀ statement ∈ blueprint.indexStatements, statement.IsNamed := by
  obtain ⟨unique, isUnique, isOk⟩ := bind_eq_ok.mp isOk
  obtain ⟨plain, isPlain, isOk⟩ := bind_eq_ok.mp isOk
  obtain ⟨json, isJson, isOk⟩ := bind_eq_ok.mp isOk
  cases isOk
  obtain ⟨rfl, areUnique⟩ := tableIndexes_eq_ok floats dialect isUnique
  obtain ⟨rfl, arePlain⟩ := tableIndexes_eq_ok floats dialect isPlain
  obtain ⟨rfl, areJson⟩ := emitJsonIndexes_eq_ok floats isJson
  have ofColumn : ∀ column, blueprint.columnIndex? column =
      (columnIndex column).map (·.text floats dialect blueprint.table) := by
    intro column
    unfold columnIndex? columnIndex
    split_ifs <;> rfl
  constructor
  · have ofColumns : blueprint.columns.filterMap blueprint.columnIndex? =
        texts floats blueprint dialect (blueprint.columns.filterMap columnIndex) := by
      rw [texts, map_filterMap, funext ofColumn]
    rw [indexStatements, texts_append, texts_append, texts_append, ofColumns,
      append_assoc, append_assoc]
  · intro statement isIn
    rcases mem_append.mp isIn with ofColumns | isIn
    · obtain ⟨column, inColumns, isIndex⟩ := mem_filterMap.mp ofColumns
      have named : (Statement.createIndex [column.name] true).IsNamed :=
        ⟨cons_ne_nil _ _, forall_mem_singleton.mpr (areColumns column inColumns)⟩
      unfold columnIndex at isIndex
      split_ifs at isIndex <;> cases isIndex <;> exact named
    · rcases mem_append.mp isIn with ofUnique | isIn
      · obtain ⟨columns, inUnique, rfl⟩ := mem_map.mp ofUnique
        exact areUnique columns inUnique
      · rcases mem_append.mp isIn with ofPlain | ofJson
        · obtain ⟨columns, inPlain, rfl⟩ := mem_map.mp ofPlain
          exact arePlain columns inPlain
        · obtain ⟨entry, inJson, rfl⟩ := mem_map.mp ofJson
          exact areJson entry inJson

theorem emitCreate_eq_ok (isCreate : blueprint.mode = .create)
    (isOk : blueprint.emitCreate floats dialect = .ok written) :
    written = texts floats blueprint dialect blueprint.statements ∧
    ∀ statement ∈ blueprint.statements, statement.IsNamed := by
  unfold emitCreate at isOk
  by_cases isEmpty : blueprint.columns.isEmpty = true
  · rw [if_pos isEmpty] at isOk
    cases isOk
  rw [if_neg isEmpty] at isOk
  obtain ⟨⟨⟩, isValid, isOk⟩ := bind_eq_ok.mp isOk
  obtain ⟨⟨⟩, areKeys, isOk⟩ := bind_eq_ok.mp isOk
  obtain ⟨indexes, isIndexes, isOk⟩ := bind_eq_ok.mp isOk
  cases isOk
  have areColumns := isPlainWord_of_validatedColumns isValid
  obtain ⟨rfl, areNamed⟩ := emitIndexes_eq_ok floats areColumns isIndexes
  have notEmpty : blueprint.columns ≠ [] :=
    fun noColumns => isEmpty (List.isEmpty_iff.mpr noColumns)
  have isNamed : (Statement.createTable blueprint.columns blueprint.primary).IsNamed :=
    ⟨notEmpty, areColumns, fun name isIn =>
      isPlainWord_of_validateIdentifier (forall_of_forM_eq_ok areKeys name isIn)⟩
  have areStatements : blueprint.statements = .createTable blueprint.columns blueprint.primary ::
      blueprint.indexStatements := by
    rw [statements, isCreate]
  rw [areStatements]
  exact ⟨rfl, forall_mem_cons.mpr ⟨isNamed, areNamed⟩⟩

theorem emitAlter_eq_ok (isAlter : blueprint.mode = .alter)
    (isOk : blueprint.emitAlter floats dialect = .ok written) :
    written = texts floats blueprint dialect blueprint.statements ∧
    (∀ statement ∈ blueprint.statements, statement.IsNamed) ∧ blueprint.statements ≠ [] := by
  unfold emitAlter at isOk
  split_ifs at isOk with isEmpty
  obtain ⟨⟨⟩, isValid, isOk⟩ := bind_eq_ok.mp isOk
  obtain ⟨drops, isDrops, isOk⟩ := bind_eq_ok.mp isOk
  obtain ⟨indexes, isIndexes, isOk⟩ := bind_eq_ok.mp isOk
  cases isOk
  have areColumns := isPlainWord_of_validatedColumns isValid
  obtain ⟨rfl, areIndexes⟩ := emitIndexes_eq_ok floats areColumns isIndexes
  have ofDrop : ∀ {name result : String},
        (do
          validateIdentifier name .emptyColumnName
          .ok ("ALTER TABLE " ++ blueprint.table ++ " DROP COLUMN " ++
            name) : Except SchemaError String) = .ok result →
        result = (Statement.dropColumn name).text floats dialect blueprint.table ∧
          isPlainWord name.toList = true := by
    intro name result isStep
    obtain ⟨⟨⟩, isName, isResult⟩ := bind_eq_ok.mp isStep
    cases isResult
    exact ⟨rfl, isPlainWord_of_validateIdentifier isName⟩
  obtain ⟨rfl, areDrops⟩ := eq_map_of_mapM_eq_ok ofDrop isDrops
  have areStatements : blueprint.statements = blueprint.drops.map .dropColumn ++
      (blueprint.columns.map .addColumn ++ blueprint.indexStatements) := by
    rw [statements, isAlter]
  rw [areStatements]
  refine ⟨?_, ?_, ?_⟩
  · rw [texts_append, texts_append, append_assoc]
    unfold texts
    rw [map_map, map_map]
    rfl
  · rw [forall_mem_append, forall_mem_append, forall_mem_map, forall_mem_map]
    exact ⟨areDrops, areColumns, areIndexes⟩
  · intro noStatements
    simp only [append_eq_nil_iff, map_eq_nil_iff,
      indexStatements, zipIdx_eq_nil_iff] at noStatements
    obtain ⟨noDrops, noColumns, -, noUnique, noPlain, noJson⟩ := noStatements
    simp only [List.isEmpty_iff] at isEmpty
    exact isEmpty ⟨noColumns, noDrops, noPlain, noUnique, noJson⟩

theorem toSql_eq_ok {name sql : String} (isOk : blueprint.toSql floats name = .ok sql) :
    ∃ dialect, Dialect.resolve name = .ok dialect ∧ isPlainWord blueprint.table.toList = true ∧
      blueprint.statements ≠ [] ∧ (∀ statement ∈ blueprint.statements, statement.IsNamed) ∧
      sql = ";\n".intercalate (texts floats blueprint dialect blueprint.statements) ++ ";" := by
  obtain ⟨dialect, isDialect, isOk⟩ := bind_eq_ok.mp isOk
  obtain ⟨⟨⟩, isTable, isOk⟩ := bind_eq_ok.mp isOk
  obtain ⟨written, isWritten, isOk⟩ := bind_eq_ok.mp isOk
  cases isOk
  refine ⟨dialect, isDialect, isPlainWord_of_validateIdentifier isTable, ?_⟩
  cases isMode : blueprint.mode with
  | create =>
    rw [isMode] at isWritten
    obtain ⟨rfl, areNamed⟩ := emitCreate_eq_ok isMode isWritten
    refine ⟨?_, areNamed, rfl⟩
    rw [statements, isMode]
    exact cons_ne_nil _ _
  | alter =>
    rw [isMode] at isWritten
    obtain ⟨rfl, areNamed, notEmpty⟩ := emitAlter_eq_ok isMode isWritten
    exact ⟨notEmpty, areNamed, rfl⟩

end Blueprint

/-! ## Semicolons -/

/-- Whether an expression among the default values has no semicolon. -/
def DefaultValue.IsSingle (rules : Rules) : DefaultValue → Prop
  | .raw expression => Token.symbol ';' ∉ rawTokens rules expression
  | _ => True

section Semicolons

variable {floats : FloatText} {dialect : Dialect} {table : String}

def isInner (token : Token) : Bool := token ≠ .symbol ';'

theorem isInner_word (text : String) : isInner (word text) = true := rfl

theorem isInner_iff {tokens : List Token} :
    Token.symbol ';' ∉ tokens ↔ ∀ token ∈ tokens, isInner token = true := by
  simp only [isInner, decide_eq_true_eq]
  exact ⟨fun absent token isIn same => absent (same ▸ isIn), fun all isIn => all _ isIn rfl⟩

theorem isInner_parenthesized {tokens : List Token} :
    (∀ token ∈ parenthesized tokens, isInner token = true) ↔
      ∀ token ∈ tokens, isInner token = true := by
  unfold parenthesized
  rw [forall_mem_cons, forall_mem_append, forall_mem_singleton]
  exact ⟨fun all => all.2.1, fun all => ⟨rfl, all, rfl⟩⟩

theorem isInner_nameTokens (names : List String) :
    ∀ token ∈ nameTokens names, isInner token = true := by
  refine (forall_mem_intercalate (by decide)).mpr fun piece isIn => ?_
  obtain ⟨name, -, rfl⟩ := mem_map.mp isIn
  exact forall_mem_singleton.mpr rfl

theorem isInner_numeralTokens (characters : List Char) :
    ∀ token ∈ numeralTokens characters, isInner token = true := by
  unfold numeralTokens
  split <;> simp [isInner]

theorem isInner_typeTokens (kind : ColumnKind) :
    ∀ token ∈ typeTokens kind dialect, isInner token = true := by
  cases kind <;> cases dialect <;> exact all_eq_true.mp rfl

theorem isInner_defaultTokens {value : DefaultValue} :
    (∀ token ∈ defaultTokens floats dialect value, isInner token = true) ↔
      value.IsSingle dialect.rules := by
  cases value with
  | null | text content => exact iff_of_true (all_eq_true.mp rfl) trivial
  | bool flag =>
    refine iff_of_true ?_ trivial
    cases dialect <;> cases flag <;> exact all_eq_true.mp rfl
  | int number | float bits => exact iff_of_true (isInner_numeralTokens _) trivial
  | raw expression => exact isInner_iff.symm

theorem isInner_columnTokens {column : Column} :
    (∀ token ∈ columnTokens floats dialect column, isInner token = true) ↔
      column.EveryDefault (·.IsSingle dialect.rules) := by
  have isNullability :
      ∀ token ∈ (if column.kind ≠ .increments ∧ !column.nullable then
          [word "NOT", word "NULL"]
        else []),
        isInner token = true := by
    split_ifs
    · exact all_eq_true.mp rfl
    · exact forall_mem_nil _
  unfold columnTokens Column.EveryDefault
  rw [forall_mem_cons, forall_mem_append, forall_mem_append,
    and_iff_right (isInner_word _), and_iff_right (isInner_typeTokens column.kind),
    and_iff_right isNullability]
  cases column.defaultValue with
  | none => exact iff_of_true nofun nofun
  | some value =>
    rw [forall_mem_cons, and_iff_right (isInner_word _), isInner_defaultTokens]
    simp

theorem isInner_jsonTokens (column path : String) :
    ∀ token ∈ jsonTokens dialect column path, isInner token = true := by
  cases dialect <;> exact all_eq_true.mp rfl

/-- Only an expression can hold a semicolon. -/
theorem noSemicolon_iff {statement : Statement} :
    Token.symbol ';' ∉ statement.tokens floats dialect table ↔
      ∀ column ∈ statement.columns, column.EveryDefault (·.IsSingle dialect.rules) := by
  rw [isInner_iff]
  cases statement with
  | createTable columns primary =>
    have isEngine : ∀ token ∈ Statement.engineTokens dialect, isInner token = true := by
      cases dialect <;> exact all_eq_true.mp rfl
    have isKey :
        ∀ tokens ∈ (if primary.isEmpty then
            []
          else [Statement.primaryTokens primary]),
          ∀ token ∈ tokens, isInner token = true := by
      split_ifs
      · exact forall_mem_nil _
      · rw [forall_mem_singleton, Statement.primaryTokens, forall_mem_cons,
          forall_mem_cons, isInner_parenthesized]
        exact ⟨rfl, rfl, isInner_nameTokens primary⟩
    have isOpening : ∀ token ∈ [word "CREATE", word "TABLE", word table], isInner token = true :=
      all_eq_true.mp rfl
    show (∀ token ∈ [word "CREATE", word "TABLE", word table] ++
      (parenthesized ([comma].intercalate (Statement.definitionTokens
        floats dialect columns primary)) ++
          Statement.engineTokens dialect), isInner token = true) ↔ _
    rw [forall_mem_append, forall_mem_append,
      isInner_parenthesized, forall_mem_intercalate (by decide),
      Statement.definitionTokens, forall_mem_append,
      forall_mem_map, and_iff_right isOpening, and_iff_left isEngine,
      and_iff_left isKey]
    exact forall₂_congr fun column _ => isInner_columnTokens
  | dropColumn name => exact iff_of_true (all_eq_true.mp rfl) (forall_mem_nil _)
  | addColumn column =>
    have isOpening :
        ∀ token ∈ [word "ALTER", word "TABLE", word table, word "ADD",
            word "COLUMN"],
          isInner token = true :=
      all_eq_true.mp rfl
    show (∀ token ∈ [word "ALTER", word "TABLE", word table, word "ADD",
      word "COLUMN"] ++ columnTokens floats dialect column, isInner token = true) ↔ _
    rw [forall_mem_append, and_iff_right isOpening, isInner_columnTokens]
    exact forall_mem_singleton.symm
  | createIndex columns unique =>
    refine iff_of_true ?_ (forall_mem_nil _)
    have isOpening :
        ∀ token ∈ (if unique then
            [word "CREATE", word "UNIQUE", word "INDEX"]
          else [word "CREATE", word "INDEX"]),
          isInner token = true := by
      cases unique <;> exact all_eq_true.mp rfl
    have isNamed :
        ∀ token ∈ [word (indexName table columns unique), word "ON",
            word table],
          isInner token = true :=
      all_eq_true.mp rfl
    exact forall_mem_append.mpr ⟨isOpening,
      forall_mem_append.mpr ⟨isNamed, isInner_parenthesized.mpr (isInner_nameTokens columns)⟩⟩
  | jsonIndex column path ordinal =>
    refine iff_of_true ?_ (forall_mem_nil _)
    have isNamed :
        ∀ token ∈ [word "CREATE", word "INDEX",
            word (jsonIndexName table column ordinal), word "ON",
            word table],
          isInner token = true :=
      all_eq_true.mp rfl
    exact forall_mem_append.mpr
      ⟨isNamed, isInner_parenthesized.mpr (isInner_jsonTokens column path)⟩

end Semicolons

/-! ## Reading -/

/--
Whether a default value is read as what it is: a text that quoting keeps, a
number, or an expression that stands by itself and ends no statement.
-/
def DefaultValue.IsReadable (rules : Rules) : DefaultValue → Prop
  | .text content => isKept rules.escapes content.toList = true
  | .float bits => Casts.isFinite bits = true
  | .raw expression =>
    isClosedRaw rules expression = true ∧ Token.symbol ';' ∉ rawTokens rules expression
  | _ => True

theorem DefaultValue.isReadable_iff {rules : Rules} {value : DefaultValue} :
    value.IsReadable rules ↔ value.IsClosed rules ∧ value.IsKept rules ∧ value.IsSingle rules := by
  cases value <;> simp [IsReadable, IsClosed, IsKept, IsSingle]

namespace Blueprint

/-- The statements that a blueprint intends, if its expressions have an end. -/
structure Intends (floats : FloatText) (dialect : Dialect) (blueprint : Blueprint)
    (intended : List (List Token)) : Prop where
  areClosed : ∀ column ∈ blueprint.columns, column.EveryDefault (·.IsClosed dialect.rules)
  areStatements : intended = blueprint.statements.map (·.tokens floats dialect blueprint.table)

/-- Whether default values and JSON paths are read as what they are. -/
structure IsReadable (dialect : Dialect) (blueprint : Blueprint) : Prop where
  defaults : ∀ column ∈ blueprint.columns, column.EveryDefault (·.IsReadable dialect.rules)
  paths :
    ∀ entry ∈ blueprint.jsonIndexes, isKept dialect.rules.escapes (pathText dialect entry.2) = true

variable {floats : FloatText} {blueprint : Blueprint} {dialect : Dialect}
  {property : Statement → Prop}

theorem forall_indexStatements
    (ofColumns : ∀ columns unique, property (.createIndex columns unique)) :
    (∀ statement ∈ blueprint.indexStatements, property statement) ↔
      ∀ entry ∈ blueprint.jsonIndexes.zipIdx,
        property (.jsonIndex entry.1.1 entry.1.2 entry.2) := by
  have ofColumn : ∀ statement ∈ blueprint.columns.filterMap columnIndex, property statement := by
    intro statement isIn
    obtain ⟨column, -, isIndex⟩ := mem_filterMap.mp isIn
    unfold columnIndex at isIndex
    split_ifs at isIndex <;> cases isIndex <;> exact ofColumns _ _
  rw [indexStatements, forall_mem_append, forall_mem_append,
    forall_mem_append, forall_mem_map, forall_mem_map,
    forall_mem_map, and_iff_right ofColumn,
    and_iff_right fun columns _ => ofColumns columns true,
    and_iff_right fun columns _ => ofColumns columns false]

theorem forall_statements {ofColumn : Column → Prop}
    (ofTable : ∀ columns primary, property (.createTable columns primary) ↔
        ∀ column ∈ columns, ofColumn column) (ofDrop : ∀ name, property (.dropColumn name))
    (ofAdd : ∀ column, property (.addColumn column) ↔ ofColumn column) :
    (∀ statement ∈ blueprint.statements, property statement) ↔
      (∀ column ∈ blueprint.columns, ofColumn column) ∧
        ∀ statement ∈ blueprint.indexStatements, property statement := by
  unfold statements
  cases blueprint.mode with
  | create => rw [forall_mem_cons, ofTable]
  | alter =>
    rw [forall_mem_append, forall_mem_append, forall_mem_map, forall_mem_map,
      and_iff_right fun name _ => ofDrop name]
    exact and_congr_left' (forall₂_congr fun column _ => ofAdd column)

theorem forall_columns {property : Column → Prop} :
    (∀ statement ∈ blueprint.statements, ∀ column ∈ statement.columns, property column) ↔
      ∀ column ∈ blueprint.columns, property column := by
  have ofIndexes :
      ∀ statement ∈ blueprint.indexStatements, ∀ column ∈ statement.columns, property column :=
    (forall_indexStatements fun _ _ => forall_mem_nil _).mpr fun _ _ => forall_mem_nil _
  rw [forall_statements (fun _ _ => Iff.rfl)
    (fun _ => forall_mem_nil _) fun _ => forall_mem_singleton]
  exact and_iff_left ofIndexes

theorem forall_isKept :
    (∀ statement ∈ blueprint.statements, statement.IsKept dialect) ↔
      (∀ column ∈ blueprint.columns, column.EveryDefault (·.IsKept dialect.rules)) ∧
        ∀ entry ∈ blueprint.jsonIndexes,
          isKept dialect.rules.escapes (pathText dialect entry.2) = true := by
  have ofEntries : (∀ entry ∈ blueprint.jsonIndexes.zipIdx,
        isKept dialect.rules.escapes (pathText dialect entry.1.2) = true) ↔
      ∀ entry ∈ blueprint.jsonIndexes,
        isKept dialect.rules.escapes (pathText dialect entry.2) = true := by
    conv_rhs => rw [← zipIdx_map_fst 0 blueprint.jsonIndexes]
    rw [forall_mem_map]
  rw [forall_statements (fun _ _ => Iff.rfl) (fun _ => trivial) fun _ => Iff.rfl]
  exact and_congr_right' ((forall_indexStatements fun _ _ => trivial).trans ofEntries)

/-- A script is read as the intended statements, if they are readable. -/
theorem reads_iff {name sql : String} (isOk : blueprint.toSql floats name = .ok sql)
    (isDialect : Dialect.resolve name = .ok dialect) :
    (∃ intended, blueprint.Intends floats dialect intended ∧ ReadsAs dialect.rules sql intended) ↔
      blueprint.IsReadable dialect := by
  obtain ⟨found, isFound, isTable, notEmpty, areNamed, rfl⟩ := toSql_eq_ok isOk
  cases isDialect.symm.trans isFound
  have isRead : (∀ column ∈ blueprint.columns,
        column.EveryDefault (·.IsClosed dialect.rules)) →
      (SqlLexer.lex dialect.rules
            (";\n".intercalate (texts floats blueprint dialect blueprint.statements) ++ ";") =
          some (SqlLexer.terminated (blueprint.statements.map
            (·.tokens floats dialect blueprint.table))) ↔
        ∀ statement ∈ blueprint.statements, statement.IsKept dialect) := by
    intro areClosed
    have areClosedEach := forall_columns.mpr areClosed
    have spellsEach : ∀ statement ∈ blueprint.statements, Spells dialect.rules true
        (statement.text floats dialect blueprint.table).toList
        (statement.tokens floats dialect blueprint.table)
        (statement.IsKept dialect) :=
      fun statement isIn =>
        spells_statement isTable (areNamed statement isIn) (areClosedEach statement isIn)
    rw [SqlLexer.lex, String.toList_append, String.toList_intercalate, texts, map_map]
    exact SqlLexer.lexFrom_script spellsEach notEmpty
  have areSingle : (∀ statement ∈ blueprint.statements.map
          (·.tokens floats dialect blueprint.table),
        Token.symbol ';' ∉ statement) ↔
      ∀ column ∈ blueprint.columns, column.EveryDefault (·.IsSingle dialect.rules) := by
    rw [forall_mem_map, ← forall_columns]
    exact forall₂_congr fun statement _ => noSemicolon_iff
  constructor
  · rintro ⟨intended, ⟨areClosed, rfl⟩, isLexed, noSemicolon⟩
    obtain ⟨defaults, paths⟩ := forall_isKept.mp ((isRead areClosed).mp isLexed)
    refine ⟨fun column isIn value isValue => ?_, paths⟩
    exact DefaultValue.isReadable_iff.mpr
      ⟨areClosed column isIn value isValue, defaults column isIn value isValue,
        areSingle.mp noSemicolon column isIn value isValue⟩
  · intro readable
    have each : ∀ column ∈ blueprint.columns, ∀ value ∈ column.defaultValue,
        value.IsClosed dialect.rules ∧ value.IsKept dialect.rules ∧
          value.IsSingle dialect.rules :=
      fun column isIn value isValue =>
        DefaultValue.isReadable_iff.mp (readable.defaults column isIn value isValue)
    have areClosed : ∀ column ∈ blueprint.columns, column.EveryDefault (·.IsClosed dialect.rules) :=
      fun column isIn value isValue => (each column isIn value isValue).1
    refine ⟨_, ⟨areClosed, rfl⟩, ?_, ?_⟩
    · refine (isRead areClosed).mpr (forall_isKept.mpr ⟨?_, readable.paths⟩)
      exact fun column isIn value isValue => (each column isIn value isValue).2.1
    · exact areSingle.mpr fun column isIn value isValue => (each column isIn value isValue).2.2

end Blueprint

end Rustasea.Orm.Schema
