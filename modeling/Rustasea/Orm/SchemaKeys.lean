import Rustasea.Orm.SchemaScripts

/-!
# Keys and indexes of the scripts of a table

The primary keys and the index names of a script are read from its tokens.
Over all scripts of a table each of them is what its blueprint declares, and
the names are apart, exactly under a condition on the blueprints.
-/

namespace Rustasea.Orm.Schema

open List

open PercentEncoding (append_separator_inj_last)
open SqlLexer (Token Rules ReadsAs foldName)

/-! ## Primary keys -/

def isKeyword (keyword : String) : Token → Bool
  | .word characters => characters.map Char.toUpper = keyword.toList
  | _ => false

@[grind =] def primaryKeys : List Token → Nat
  | first :: second :: rest =>
    (if isKeyword "PRIMARY" first && isKeyword "KEY" second then 1 else 0) +
      primaryKeys (second :: rest)
  | _ => 0

@[grind =] def DefaultValue.primaryKeys (rules : Rules) : DefaultValue → Nat
  | .raw expression => Schema.primaryKeys (rawTokens rules expression)
  | _ => 0

@[grind =] def Column.primaryKeys (rules : Rules) (column : Column) : Nat :=
  (if column.kind = .increments then 1 else 0) +
    match column.defaultValue with
    | some value => value.primaryKeys rules
    | none => 0

/-- The primary keys of a blueprint; an alteration declares none by itself. -/
def Blueprint.primaryKeys (rules : Rules) (blueprint : Blueprint) : Nat :=
  (blueprint.columns.map (·.primaryKeys rules)).sum +
    if blueprint.mode = .create ∧ blueprint.primary ≠ [] then 1 else 0

/-- The primary keys of a statement next to those of its columns. -/
def Statement.tableKeys : Statement → Nat
  | .createTable _ primary => if primary.isEmpty then 0 else 1
  | _ => 0

def startsKey (tokens : List Token) : Bool := tokens.head?.any (isKeyword "KEY")

theorem primaryKeys_cons {token : Token} (noPrimary : isKeyword "PRIMARY" token = false)
    (rest : List Token) : primaryKeys (token :: rest) = primaryKeys rest := by
  cases rest with
  | nil => rfl
  | cons second later =>
    rw [primaryKeys, noPrimary]
    exact Nat.zero_add _

theorem primaryKeys_append (first : List Token) {second : List Token}
    (noKey : startsKey second = false) :
    primaryKeys (first ++ second) = primaryKeys first + primaryKeys second := by
  induction first with
  | nil => exact (Nat.zero_add _).symm
  | cons token rest ih =>
    cases rest with
    | nil =>
      cases second with
      | nil => rfl
      | cons head later =>
        have noHead : isKeyword "KEY" head = false := noKey
        rw [singleton_append, primaryKeys, noHead, Bool.and_false]
        rfl
    | cons next others =>
      rw [cons_append, cons_append, primaryKeys, ← cons_append, ih, primaryKeys,
        Nat.add_assoc]

theorem primaryKeys_before {rest : List Token} (noKey : startsKey rest = false) (token : Token) :
    primaryKeys (token :: rest) = primaryKeys rest := by
  rw [← singleton_append, primaryKeys_append _ noKey]
  exact Nat.zero_add _

theorem primaryKeys_parenthesized (tokens : List Token) :
    primaryKeys (parenthesized tokens) = primaryKeys tokens := by
  rw [parenthesized, primaryKeys_cons rfl, primaryKeys_append _ rfl]
  rfl

theorem primaryKeys_intercalate (pieces : List (List Token)) :
    primaryKeys ([comma].intercalate pieces) = (pieces.map primaryKeys).sum := by
  induction pieces with
  | nil => rfl
  | cons first rest ih =>
    cases rest with
    | nil =>
      rw [intercalate_singleton]
      exact (Nat.add_zero _).symm
    | cons second others =>
      rw [intercalate_cons_cons, append_assoc, singleton_append,
        primaryKeys_append _ rfl, primaryKeys_cons rfl, ih]
      rfl

theorem primaryKeys_nameTokens (names : List String) : primaryKeys (nameTokens names) = 0 := by
  have ofName : (primaryKeys ∘ fun name : String => [word name]) = fun _ => 0 := rfl
  rw [nameTokens, primaryKeys_intercalate, map_map, ofName]
  simp

section Counting

variable {floats : FloatText} {dialect : Dialect} {table : String}

theorem primaryKeys_typeTokens (kind : ColumnKind) :
    primaryKeys (typeTokens kind dialect) = if kind = .increments then 1 else 0 := by
  cases kind <;> cases dialect <;> rfl

theorem primaryKeys_defaultTokens (value : DefaultValue) :
    primaryKeys (defaultTokens floats dialect value) = value.primaryKeys dialect.rules := by
  have ofNumeral : ∀ characters, primaryKeys (numeralTokens characters) = 0 := by
    intro characters
    unfold numeralTokens
    split <;> rfl
  cases value with
  | null => rfl
  | bool flag => cases dialect <;> cases flag <;> rfl
  | int number => exact ofNumeral _
  | float bits => exact ofNumeral _
  | text content => rfl
  | raw expression => rfl

theorem primaryKeys_columnTokens (column : Column) :
    primaryKeys (columnTokens floats dialect column) = column.primaryKeys dialect.rules := by
  have noKey : ∀ rest, startsKey (typeTokens column.kind dialect ++ rest) = false := by
    intro rest
    cases column.kind <;> cases dialect <;> rfl
  have isName : primaryKeys [word column.name] = 0 := rfl
  rw [columnTokens, ← singleton_append, primaryKeys_append _ (noKey _),
    isName, Nat.zero_add, Column.primaryKeys, ← primaryKeys_typeTokens]
  cases column.defaultValue with
  | none =>
    split_ifs
    all_goals exact primaryKeys_append _ rfl
  | some value =>
    have ofDefault :
        primaryKeys (word "DEFAULT" ::
            defaultTokens floats dialect value) =
          value.primaryKeys dialect.rules := by
      rw [primaryKeys_cons rfl, primaryKeys_defaultTokens]
    split_ifs
    · rw [primaryKeys_append _ rfl, primaryKeys_append _ rfl, ofDefault]
      exact congrArg _ (Nat.zero_add _)
    · rw [primaryKeys_append _ rfl, nil_append, ofDefault]

/-- The primary keys of a statement are those of its columns, and its own. -/
theorem primaryKeys_tokens (statement : Statement) :
    primaryKeys (statement.tokens floats dialect table) =
      (statement.columns.map (·.primaryKeys dialect.rules)).sum + statement.tableKeys := by
  cases statement with
  | createTable columns primary =>
    have ofEngine : primaryKeys (Statement.engineTokens dialect) = 0 := by
      cases dialect <;> rfl
    have noEngine : startsKey (Statement.engineTokens dialect) = false := by
      cases dialect <;> rfl
    have ofColumns : (columns.map (columnTokens floats dialect)).map primaryKeys =
        columns.map (·.primaryKeys dialect.rules) := by
      rw [map_map]
      exact map_congr_left fun column _ => primaryKeys_columnTokens column
    have ofKey :
        ((if primary.isEmpty then
            []
          else [Statement.primaryTokens primary]).map primaryKeys).sum =
          if primary.isEmpty then 0 else 1 := by
      have isOne : primaryKeys (Statement.primaryTokens primary) = 1 := by
        have isNone : primaryKeys (word "KEY" :: parenthesized (nameTokens primary)) = 0 := by
          rw [primaryKeys_cons rfl, primaryKeys_parenthesized, primaryKeys_nameTokens]
        rw [Statement.primaryTokens, primaryKeys, isNone]
        rfl
      split_ifs
      · rfl
      · exact isOne
    show primaryKeys ([word "CREATE", word "TABLE", word table] ++
      (parenthesized ([comma].intercalate (Statement.definitionTokens
        floats dialect columns primary)) ++ Statement.engineTokens dialect)) = _
    have isOpening : primaryKeys [word "CREATE", word "TABLE", word table] = 0 := rfl
    rw [primaryKeys_append _ rfl, isOpening, Nat.zero_add, primaryKeys_append _ noEngine, ofEngine,
      primaryKeys_parenthesized, primaryKeys_intercalate, Statement.definitionTokens,
        map_append, sum_append, ofColumns, ofKey]
    rfl
  | dropColumn name =>
    exact (primaryKeys_cons rfl _).trans ((primaryKeys_cons rfl _).trans (primaryKeys_before rfl _))
  | addColumn column =>
    have isOpening : primaryKeys [word "ALTER", word "TABLE", word table, word "ADD"] = 0 :=
      (primaryKeys_cons rfl _).trans ((primaryKeys_cons rfl _).trans (primaryKeys_before rfl _))
    have isColumn :
        primaryKeys (word "COLUMN" ::
            columnTokens floats dialect column) =
          column.primaryKeys dialect.rules := by
      rw [primaryKeys_cons rfl, primaryKeys_columnTokens]
    show primaryKeys ([word "ALTER", word "TABLE", word table,
      word "ADD"] ++ word "COLUMN" :: columnTokens floats dialect column) = _
    rw [primaryKeys_append _ rfl, isColumn, isOpening, Nat.zero_add]
    rfl
  | createIndex columns unique =>
    have isBody :
        primaryKeys ([word (indexName table columns unique), word "ON",
          word table] ++ parenthesized (nameTokens columns)) = 0 := by
      rw [primaryKeys_append _ rfl, primaryKeys_parenthesized, primaryKeys_nameTokens]
      exact primaryKeys_before rfl _
    cases unique
    · exact (primaryKeys_cons rfl _).trans ((primaryKeys_cons rfl _).trans isBody)
    · exact (primaryKeys_cons rfl _).trans ((primaryKeys_cons rfl _).trans
        ((primaryKeys_cons rfl _).trans isBody))
  | jsonIndex column path ordinal =>
    have isExpression : primaryKeys (jsonTokens dialect column path) = 0 := by
      cases dialect with
      | sqlite =>
        exact (primaryKeys_cons rfl _).trans
          ((primaryKeys_cons rfl _).trans (primaryKeys_before rfl _))
      | postgres => exact (primaryKeys_cons rfl _).trans (primaryKeys_before rfl _)
      | mySql =>
        iterate 7 refine (primaryKeys_cons rfl _).trans ?_
        exact primaryKeys_before rfl _
    have isName :
        primaryKeys [word "CREATE", word "INDEX",
          word (jsonIndexName table column ordinal), word "ON",
          word table] = 0 :=
      (primaryKeys_cons rfl _).trans ((primaryKeys_cons rfl _).trans (primaryKeys_before rfl _))
    show primaryKeys ([word "CREATE", word "INDEX",
      word (jsonIndexName table column ordinal), word "ON", word table] ++
        parenthesized (jsonTokens dialect column path)) = _
    rw [primaryKeys_append _ rfl, primaryKeys_parenthesized, isExpression, isName]
    rfl

theorem primaryKeys_terminated (statements : List (List Token)) :
    primaryKeys (SqlLexer.terminated statements) = (statements.map primaryKeys).sum := by
  induction statements with
  | nil => rfl
  | cons first rest ih =>
    have isTerminated :
        SqlLexer.terminated (first :: rest) = first ++ .symbol ';' :: SqlLexer.terminated rest := by
      simp [SqlLexer.terminated]
    rw [isTerminated, primaryKeys_append _ rfl, primaryKeys_cons rfl,
      ih, map_cons, sum_cons]

/-- A script of the intended statements has the blueprint's primary keys. -/
theorem primaryKeys_statements {blueprint : Blueprint} :
    primaryKeys (SqlLexer.terminated
      (blueprint.statements.map (·.tokens floats dialect blueprint.table))) =
      blueprint.primaryKeys dialect.rules := by
  have ofStatements : ∀ statements : List Statement,
        primaryKeys (SqlLexer.terminated
            (statements.map (·.tokens floats dialect blueprint.table))) =
          (statements.map fun statement =>
            (statement.columns.map (·.primaryKeys dialect.rules)).sum +
              statement.tableKeys).sum := by
    intro statements
    rw [primaryKeys_terminated, map_map]
    exact congrArg List.sum (map_congr_left fun statement _ => primaryKeys_tokens statement)
  have ofNone : ∀ statements : List Statement, (∀ statement ∈ statements,
          (statement.columns.map (·.primaryKeys dialect.rules)).sum + statement.tableKeys = 0) →
        (statements.map fun statement =>
          (statement.columns.map (·.primaryKeys dialect.rules)).sum +
            statement.tableKeys).sum = 0 := by
    intro statements none
    rw [map_congr_left none]
    simp
  have ofIndexes :
      (blueprint.indexStatements.map fun statement =>
        (statement.columns.map (·.primaryKeys dialect.rules)).sum + statement.tableKeys).sum = 0 :=
    ofNone _ ((Blueprint.forall_indexStatements fun _ _ => rfl).mpr fun _ _ => rfl)
  rw [ofStatements, Blueprint.statements, Blueprint.primaryKeys]
  cases blueprint.mode with
  | create =>
    simp only [map_cons, sum_cons, ofIndexes, Nat.add_zero]
    refine congrArg _ ?_
    cases blueprint.primary <;> rfl
  | alter =>
    have ofDrops :
        ((blueprint.drops.map Statement.dropColumn).map fun statement =>
          (statement.columns.map (·.primaryKeys dialect.rules)).sum +
            statement.tableKeys).sum = 0 :=
      ofNone _ (forall_mem_map.mpr fun _ _ => rfl)
    have ofAdds : (blueprint.columns.map Statement.addColumn).map
            (fun statement =>
              (statement.columns.map (·.primaryKeys dialect.rules)).sum + statement.tableKeys) =
          blueprint.columns.map (·.primaryKeys dialect.rules) := by
      rw [map_map]
      rfl
    simp only [map_append, sum_append, ofIndexes, ofDrops, ofAdds, Nat.zero_add]
    rfl

end Counting

/-! ## Index names -/

def indexToken? (statement : List Token) : Option Token :=
  if [word "CREATE", word "INDEX"] <+: statement then statement[2]?
  else if [word "CREATE", word "UNIQUE", word "INDEX"] <+: statement then statement[3]?
  else none

/-- The name that a statement gives to an index, as the dialect takes it. -/
def indexName? (rules : Rules) (statement : List Token) : Option (List Char) :=
  match indexToken? statement with
  | some (.word characters) => some (foldName rules characters)
  | some (.name content) => some content
  | _ => none

def indexNames (rules : Rules) (script : String) : List (List Char) :=
  match SqlLexer.lex rules script with
  | some tokens => (SqlLexer.splitStatements tokens).filterMap (indexName? rules)
  | none => []

/-- What tells an index from the others of its table. -/
inductive IndexKey where
  | columns (unique : Bool) (joined : List Char)
  | json (column : List Char) (ordinal : Nat)
  deriving DecidableEq

/-- The name of an index behind the name of its table. -/
@[grind =] def IndexKey.suffix : IndexKey → List Char
  | .columns unique joined =>
    '_' :: (joined ++ '_' :: (if unique then "unique" else "index").toList)
  | .json column ordinal => '_' :: (column ++ '_' :: ((toString ordinal).toList ++ "_json".toList))

/-- The key without the case of its letters. -/
def IndexKey.folded : IndexKey → IndexKey
  | .columns unique joined => .columns unique (joined.map Char.toLower)
  | .json column ordinal => .json (column.map Char.toLower) ordinal

/--
Whether a dialect takes the names of two indexes for one: they differ in case
only, or behind the characters that count.
-/
def IndexKey.Clash (rules : Rules) (table : String) (first second : IndexKey) : Prop :=
  match rules.nameLength with
  | some length =>
    first.folded.suffix.take (length - table.toList.length) =
      second.folded.suffix.take (length - table.toList.length)
  | none => first.folded = second.folded

def Statement.indexKey? : Statement → Option IndexKey
  | .createIndex columns unique => some (.columns unique ("_".intercalate columns).toList)
  | .jsonIndex column _ ordinal => some (.json column.toList ordinal)
  | _ => none

def Blueprint.indexKeys (blueprint : Blueprint) : List IndexKey :=
  blueprint.indexStatements.filterMap Statement.indexKey?

theorem IndexKey.suffix_injective : Function.Injective IndexKey.suffix := by
  have noUnderscore : ∀ ordinal : Nat, '_' ∉ Nat.toDigits 10 ordinal :=
    DecimalText.notMem_toDigits (by decide)
  have kinds : ∀ unique : Bool, '_' ∉ (if unique then "unique" else "index").toList := by decide
  have noJson : '_' ∉ "json".toList := by decide
  have isJson : ∀ column ordinal, (IndexKey.json column ordinal).suffix =
      ('_' :: (column ++ '_' :: Nat.toDigits 10 ordinal)) ++ '_' :: "json".toList := by
    intro column ordinal
    simp [IndexKey.suffix]
  have isColumns : ∀ unique joined, (IndexKey.columns unique joined).suffix = ('_' :: joined) ++
      '_' :: (if unique then "unique" else "index").toList :=
    fun _ _ => rfl
  have sameKinds : ∀ unique other : Bool, (if unique then "unique" else "index").toList =
        (if other then "unique" else "index").toList →
      unique = other := by
    decide
  have otherKind :
      ∀ unique : Bool, (if unique then "unique" else "index").toList ≠ "json".toList := by
    decide
  intro first second same
  cases first with
  | columns unique joined =>
    cases second with
    | columns otherUnique otherJoined =>
      rw [isColumns, isColumns] at same
      obtain ⟨sameJoined, sameKind⟩ :=
        append_separator_inj_last (kinds unique) (kinds otherUnique) same
      rw [(List.cons.inj sameJoined).2, sameKinds _ _ sameKind]
    | json column ordinal =>
      rw [isColumns, isJson] at same
      obtain ⟨-, sameKind⟩ := append_separator_inj_last (kinds unique) noJson same
      exact absurd sameKind (otherKind unique)
  | json column ordinal =>
    cases second with
    | columns unique joined =>
      rw [isColumns, isJson] at same
      obtain ⟨-, sameKind⟩ := append_separator_inj_last noJson (kinds unique) same
      exact absurd sameKind.symm (otherKind unique)
    | json otherColumn otherOrdinal =>
      rw [isJson, isJson] at same
      obtain ⟨sameFront, -⟩ := append_separator_inj_last noJson noJson same
      obtain ⟨sameColumn, sameDigits⟩ := append_separator_inj_last (noUnderscore ordinal)
          (noUnderscore otherOrdinal) (List.cons.inj sameFront).2
      rw [sameColumn, DecimalText.toDigits_injective sameDigits]

theorem IndexKey.map_toLower_suffix (key : IndexKey) :
    key.suffix.map Char.toLower = key.folded.suffix := by
  cases key with
  | columns unique joined => cases unique <;> simp [suffix, folded]
  | json column ordinal =>
    have digits : (Nat.toDigits 10 ordinal).map Char.toLower = Nat.toDigits 10 ordinal := by
      refine (map_congr_left fun digit isIn => ?_).trans (map_id _)
      have isDigit := DecimalText.isDigit_of_mem_toDigits isIn
      simp only [Char.isDigit, Bool.and_eq_true, decide_eq_true_eq] at isDigit
      unfold Char.toLower
      rw [dif_neg]
      · rfl
      · rintro ⟨atLeast, -⟩
        exact absurd (UInt32.le_trans atLeast isDigit.2) (by decide)
    simp [suffix, folded, digits]

def IndexKey.name (rules : Rules) (table : String) (key : IndexKey) : List Char :=
  foldName rules (table.toList ++ key.suffix)

theorem IndexKey.name_eq_iff {rules : Rules} {table : String} {first second : IndexKey} :
    first.name rules table = second.name rules table ↔ Clash rules table first second := by
  simp only [name, foldName, map_append, map_toLower_suffix, Clash]
  cases rules.nameLength with
  | none => exact (append_right_inj _).trans suffix_injective.eq_iff
  | some length => simp [take_append]

section Naming

variable {floats : FloatText} {dialect : Dialect} {table : String}

theorem indexName?_tokens (statement : Statement) :
    indexName? dialect.rules (statement.tokens floats dialect table) =
      statement.indexKey?.map (IndexKey.name dialect.rules table) := by
  cases statement with
  | createTable columns primary => rfl
  | dropColumn name => rfl
  | addColumn column => rfl
  | createIndex columns unique =>
    have isName : (indexName table columns unique).toList =
        table.toList ++ (IndexKey.columns unique ("_".intercalate columns).toList).suffix := by
      simp [indexName, IndexKey.suffix]
    have isToken :
        indexToken? ((Statement.createIndex columns unique).tokens floats dialect table) =
          some (word (indexName table columns unique)) := by
      cases unique <;> rfl
    rw [indexName?, isToken, word, isName]
    rfl
  | jsonIndex column path ordinal =>
    have isName : (jsonIndexName table column ordinal).toList =
        table.toList ++ (IndexKey.json column.toList ordinal).suffix := by
      simp [jsonIndexName, IndexKey.suffix]
    have isToken :
        indexToken? ((Statement.jsonIndex column path ordinal).tokens floats dialect table) =
          some (word (jsonIndexName table column ordinal)) :=
      rfl
    rw [indexName?, isToken, word, isName]
    rfl

theorem indexKeys_statements (blueprint : Blueprint) :
    blueprint.statements.filterMap Statement.indexKey? = blueprint.indexKeys := by
  have ofDrops : (blueprint.drops.map Statement.dropColumn).filterMap Statement.indexKey? = [] :=
    filterMap_eq_nil_iff.mpr (forall_mem_map.mpr fun _ _ => rfl)
  have ofAdds : (blueprint.columns.map Statement.addColumn).filterMap Statement.indexKey? = [] :=
    filterMap_eq_nil_iff.mpr (forall_mem_map.mpr fun _ _ => rfl)
  unfold Blueprint.statements Blueprint.indexKeys
  cases blueprint.mode with
  | create => rfl
  | alter =>
    rw [filterMap_append, filterMap_append, ofDrops, ofAdds]
    rfl

theorem indexNames_eq {blueprint : Blueprint} {intended : List (List Token)} {sql : String}
    (intends : blueprint.Intends floats dialect intended)
    (reads : ReadsAs dialect.rules sql intended) :
    indexNames dialect.rules sql =
      blueprint.indexKeys.map (IndexKey.name dialect.rules blueprint.table) := by
  rw [indexNames, reads.isLexed]
  show (SqlLexer.splitStatements _).filterMap (indexName? dialect.rules) = _
  rw [SqlLexer.splitStatements_terminated reads.noSemicolon, intends.areStatements,
    filterMap_map, ← indexKeys_statements, map_filterMap]
  exact filterMap_congr fun statement _ => indexName?_tokens statement

end Naming

/-! ## Scripts of a table -/

/-- A script is what its blueprint declares, with at most one primary key. -/
structure Declares (floats : FloatText) (dialect : Dialect) (blueprint : Blueprint)
    (script : String) : Prop where
  reads :
    ∃ intended, blueprint.Intends floats dialect intended ∧ ReadsAs dialect.rules script intended
  onePrimaryKey : ∃ tokens, SqlLexer.lex dialect.rules script = some tokens ∧ primaryKeys tokens ≤ 1

/-- The scripts of a table are as declared, and their index names differ. -/
structure AreDeclared (floats : FloatText) (dialect : Dialect) (blueprints : List Blueprint)
    (scripts : List String) : Prop where
  each : List.Forall₂ (Declares floats dialect) blueprints scripts
  distinct : (scripts.flatMap (indexNames dialect.rules)).Nodup

/-- The dialects take tables for one that differ in the case of their names only. -/
def IsOfTable (table : String) (blueprint : Blueprint) : Prop :=
  blueprint.table.toList.map Char.toLower = table.toList.map Char.toLower

/-- A blueprint whose script is what it declares. -/
structure Blueprint.IsSound (dialect : Dialect) (blueprint : Blueprint) : Prop where
  readable : blueprint.IsReadable dialect
  onePrimaryKey : blueprint.primaryKeys dialect.rules ≤ 1

section Soundness

variable {floats : FloatText} {dialect : Dialect} {name : String}

theorem declares_iff {blueprint : Blueprint} {sql : String}
    (isOk : blueprint.toSql floats name = .ok sql)
    (isDialect : Dialect.resolve name = .ok dialect) :
    Declares floats dialect blueprint sql ↔ blueprint.IsSound dialect := by
  have isCount : ∀ {intended : List (List Token)}, blueprint.Intends floats dialect intended →
      primaryKeys (SqlLexer.terminated intended) = blueprint.primaryKeys dialect.rules := by
    rintro intended ⟨-, rfl⟩
    exact primaryKeys_statements
  constructor
  · rintro ⟨reads, tokens, isLexed, atMostOne⟩
    refine ⟨(Blueprint.reads_iff isOk isDialect).mp reads, ?_⟩
    obtain ⟨intended, intends, isRead⟩ := reads
    cases isLexed.symm.trans isRead.isLexed
    rw [← isCount intends]
    exact atMostOne
  · rintro ⟨readable, atMostOne⟩
    have reads := (Blueprint.reads_iff isOk isDialect).mpr readable
    refine ⟨reads, ?_⟩
    obtain ⟨intended, intends, isRead⟩ := reads
    refine ⟨_, isRead.isLexed, ?_⟩
    rw [isCount intends]
    exact atMostOne

theorem IndexKey.name_of_isOfTable {rules : Rules} {table : String} {blueprint : Blueprint}
    (isOfTable : IsOfTable table blueprint) (key : IndexKey) :
    key.name rules blueprint.table = key.name rules table := by
  simp [name, foldName, show _ = _ from isOfTable]

theorem flatMap_indexNames {table : String} {blueprints : List Blueprint} {scripts : List String}
    (areOfTable : ∀ blueprint ∈ blueprints, IsOfTable table blueprint)
    (areDeclared : List.Forall₂ (Declares floats dialect) blueprints scripts) :
    scripts.flatMap (indexNames dialect.rules) =
      (blueprints.flatMap Blueprint.indexKeys).map (IndexKey.name dialect.rules table) := by
  induction areDeclared with
  | nil => rfl
  | cons isDeclared _ ih =>
    obtain ⟨isOfTable, areOthers⟩ := forall_mem_cons.mp areOfTable
    obtain ⟨intended, intends, reads⟩ := isDeclared.reads
    have sameNames : IndexKey.name dialect.rules _ = IndexKey.name dialect.rules table :=
      funext fun key => IndexKey.name_of_isOfTable isOfTable key
    rw [flatMap_cons, flatMap_cons, map_append, indexNames_eq intends reads,
      sameNames, ih areOthers]

/--
The scripts of a table are what its blueprints declare, with one primary key
each and with distinct index names, exactly when every blueprint is sound and
the dialect takes no two of their indexes for one.
-/
theorem areDeclared_iff {table : String} {blueprints : List Blueprint} {scripts : List String}
    (areOfTable : ∀ blueprint ∈ blueprints, IsOfTable table blueprint)
    (isDialect : Dialect.resolve name = .ok dialect)
    (areRendered : blueprints.mapM (·.toSql floats name) = .ok scripts) :
    AreDeclared floats dialect blueprints scripts ↔
      (∀ blueprint ∈ blueprints, blueprint.IsSound dialect) ∧
      (blueprints.flatMap Blueprint.indexKeys).Pairwise fun first second =>
        ¬IndexKey.Clash dialect.rules table first second := by
  have areSound : List.Forall₂ (Declares floats dialect) blueprints scripts ↔
      ∀ blueprint ∈ blueprints, blueprint.IsSound dialect := by
    have each := Fallible.forall₂_of_mapM_eq_ok areRendered
    clear areRendered areOfTable
    induction each with
    | nil => exact iff_of_true .nil (forall_mem_nil _)
    | cons isOk _ ih =>
      rw [forall₂_cons, forall_mem_cons]
      exact and_congr (declares_iff isOk isDialect) ih
  have areDistinct : List.Forall₂ (Declares floats dialect) blueprints scripts →
      ((scripts.flatMap (indexNames dialect.rules)).Nodup ↔
        (blueprints.flatMap Blueprint.indexKeys).Pairwise fun first second =>
          ¬IndexKey.Clash dialect.rules table first second) := by
    intro areDeclared
    rw [flatMap_indexNames areOfTable areDeclared, List.Nodup, pairwise_map]
    simp [IndexKey.name_eq_iff]
  constructor
  · rintro ⟨each, distinct⟩
    exact ⟨areSound.mp each, (areDistinct each).mp distinct⟩
  · rintro ⟨sound, distinct⟩
    exact ⟨areSound.mpr sound, (areDistinct (areSound.mpr sound)).mpr distinct⟩

end Soundness

/-- Floats of which only zero is told apart from what is not a number. -/
def zeroText : FloatText where
  display bits := if Casts.isFinite bits then "0" else "NaN"
  display_finite := by
    intro bits finite
    rw [if_pos finite]
    rfl
  display_other := by
    intro bits infinite
    rw [infinite]
    exact mem_cons_self

/-- A text that the quoting keeps, and two indexes on it. -/
def orders : Blueprint where
  table := "orders"
  mode := .create
  columns :=
    [{ name := "state"
       kind := .text
       nullable := false
       defaultValue := some (.text "it's new")
       unique := false
       index := true }]
  drops := []
  primary := ["state"]
  uniqueIndexes := [["state"]]
  indexes := []
  jsonIndexes := []

def ordersScript : String :=
  "CREATE TABLE orders (state TEXT NOT NULL DEFAULT 'it''s new', " ++
    "PRIMARY KEY (state)) ENGINE=InnoDB;\n" ++
    "CREATE INDEX orders_state_index ON orders (state);\n" ++
    "CREATE UNIQUE INDEX orders_state_unique ON orders (state);"

theorem orders_are_declared : AreDeclared zeroText .mySql [orders] [ordersScript] := by
  have isScript : orders.toSql zeroText "mysql" = .ok ordersScript := by decide +kernel
  have isRendered : [orders].mapM (·.toSql zeroText "mysql") = .ok [ordersScript] := by
    rw [mapM_cons, isScript]
    rfl
  refine (areDeclared_iff (forall_mem_singleton.mpr rfl) rfl
    isRendered).mpr ⟨forall_mem_singleton.mpr ⟨⟨?_, forall_mem_nil _⟩, ?_⟩, ?_⟩
  · refine forall_mem_singleton.mpr fun value isValue => ?_
    cases isValue
    show SqlLexer.isKept true "it's new".toList = true
    decide
  · decide
  · refine pairwise_cons.mpr ⟨forall_mem_singleton.mpr ?_, pairwise_singleton _ _⟩
    show ¬IndexKey.columns false "state".toList = .columns true "state".toList
    decide

/-- A text that ends in a backslash, in front of another text. -/
def guests : Blueprint where
  table := "guests"
  mode := .create
  columns :=
    [{ name := "a"
       kind := .text
       nullable := true
       defaultValue := some (.text "\\")
       unique := false
       index := false },
     { name := "b"
       kind := .text
       nullable := true
       defaultValue := some (.text "); DROP TABLE users; -- ")
       unique := false
       index := false }]
  drops := []
  primary := []
  uniqueIndexes := []
  indexes := []
  jsonIndexes := []

def guestsScript : String :=
  "CREATE TABLE guests (a TEXT DEFAULT '\\', b TEXT DEFAULT " ++
    "'); DROP TABLE users; -- ') ENGINE=InnoDB;"

/-- Two indexes whose names differ in their case. -/
def sites : Blueprint where
  table := "sites"
  mode := .alter
  columns := []
  drops := []
  primary := []
  uniqueIndexes := []
  indexes := [["host"], ["Host"]]
  jsonIndexes := []

def sitesScript : String :=
  "CREATE INDEX sites_host_index ON sites (host);\nCREATE INDEX sites_Host_index ON sites (Host);"

theorem guests_drop_the_users :
    ([guests].mapM (·.toSql zeroText "mysql") = .ok [guestsScript] ∧
      ¬AreDeclared zeroText .mySql [guests] [guestsScript]) ∧
    [sites].mapM (·.toSql zeroText "sqlite") = .ok [sitesScript] ∧
      ¬AreDeclared zeroText .sqlite [sites] [sitesScript] := by
  have isGuests : guests.toSql zeroText "mysql" = .ok guestsScript := by decide +kernel
  have isSites : sites.toSql zeroText "sqlite" = .ok sitesScript := by decide +kernel
  refine ⟨⟨?_, fun areDeclared => ?_⟩, ?_, fun areDeclared => ?_⟩
  · rw [List.mapM_cons, List.mapM_nil, isGuests]
    rfl
  · have isDeclared := (List.forall₂_cons.mp areDeclared.each).1
    have sound := (declares_iff isGuests rfl).mp isDeclared
    have kept := sound.readable.defaults _ List.mem_cons_self (.text "\\") rfl
    revert kept
    show ¬SqlLexer.isKept true "\\".toList = true
    decide
  · rw [List.mapM_cons, List.mapM_nil, isSites]
    rfl
  · have distinct := areDeclared.distinct
    rw [flatMap_indexNames (List.forall_mem_singleton.mpr rfl) areDeclared.each] at distinct
    revert distinct
    decide +kernel

end Rustasea.Orm.Schema
