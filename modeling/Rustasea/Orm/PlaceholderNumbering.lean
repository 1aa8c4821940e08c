import Rustasea.Library.TransitionSystem
import Rustasea.Orm.QueryBuilder

namespace Rustasea.Orm

open TransitionSystem List

/-!
# Placeholders are numbered in textual order

Rendering prints the caller's conditions before the scopes' ones.  As long as
no bound caller condition follows a bound scope condition, and no condition
with a placeholder is stripped, the `k`-th placeholder of the rendered SELECT
is `$k` and the `k`-th binding is the value passed for it.
-/

variable {Json : Type}

/-! ## Placeholders of texts -/

def Condition.indices (condition : Condition Json) : List Nat :=
  placeholders (sqlPieces condition.sql)

@[simp] theorem placeholders_nil : placeholders [] = [] :=
  rfl

@[simp] theorem placeholders_text (written : String) (rest : List Piece) :
    placeholders (.text written :: rest) = placeholders rest :=
  rfl

@[simp] theorem placeholders_placeholder (index : Nat) (rest : List Piece) :
    placeholders (.placeholder index :: rest) = index :: placeholders rest :=
  rfl

@[simp] theorem placeholders_append (first second : List Piece) :
    placeholders (first ++ second) = placeholders first ++ placeholders second :=
  filterMap_append

@[simp] theorem sqlPieces_append (first second : Sql) :
    sqlPieces (first ++ second) = sqlPieces first ++ sqlPieces second :=
  flatMap_append

@[simp] theorem sqlPieces_cons (token : BooleanText.Token Atom) (rest : Sql) :
    sqlPieces (token :: rest) = tokenPieces token ++ sqlPieces rest :=
  rfl

@[simp] theorem sqlPieces_nil : sqlPieces [] = [] :=
  rfl

@[simp] theorem placeholders_fragment (fragment : SqlFragment) :
    placeholders (sqlPieces fragment.sql) = [] := by
  induction fragment with
  | nil => rfl
  | cons token rest ih =>
    simp only [SqlFragment.sql] at ih
    cases token <;> simp [SqlFragment.sql, tokenPieces, ih]

theorem placeholders_joinPieces (parts : List (List Piece)) :
    placeholders (joinPieces parts) = parts.flatMap placeholders := by
  induction parts with
  | nil => rfl
  | cons first rest ih =>
    cases rest with
    | nil => simp [joinPieces]
    | cons second rest => simp [joinPieces, ih]

theorem placeholders_joined (indices : List Nat) :
    placeholders
      (joinPieces ((indices.map Piece.placeholder).map fun piece => [piece])) = indices := by
  rw [placeholders_joinPieces]
  induction indices with
  | nil => rfl
  | cons index rest ih => simpa using ih

theorem placeholders_replaceParts (index : Nat) (parts : List (List Char)) :
    placeholders (replaceParts index parts) = List.replicate (parts.length - 1) index := by
  induction parts with
  | nil => rfl
  | cons first rest ih =>
    cases rest with
    | nil => rfl
    | cons second rest => simp [replaceParts, ih, replicate_succ]

theorem placeholders_keepParts (parts : List (List Char)) :
    placeholders (keepParts parts) = [] := by
  induction parts with
  | nil => rfl
  | cons first rest ih =>
    cases rest with
    | nil => rfl
    | cons second rest => simpa [keepParts] using ih

variable {parts : List (List Char)}

theorem placeholders_bindParts {values : Nat} (enough : values + 1 ≤ parts.length) (next : Nat) :
    placeholders (bindParts values next parts) = List.range' next values := by
  induction values generalizing next parts with
  | zero => simp [bindParts, placeholders_keepParts]
  | succ values ih =>
    match parts, enough with
    | first :: second :: rest, enough =>
      have fewer : values + 1 ≤ (second :: rest).length := by simpa using enough
      simp [bindParts, ih fewer, range'_succ]

/-! ## Bind tokens of the JSON relation fragments -/

theorem splitTokens_ne_nil (characters : List Char) : 0 < (splitTokens characters).length := by
  match characters with
  | [] => simp [splitTokens]
  | [only] => simp [splitTokens]
  | first :: second :: rest =>
    unfold splitTokens
    split
    · simp
    · cases splitTokens (second :: rest) <;> simp [consPart]

private theorem length_consPart (character : Char) (notEmpty : 0 < parts.length) :
    (consPart character parts).length = parts.length := by
  cases parts with
  | nil => simp at notEmpty
  | cons first rest => rfl

theorem length_splitTokens_cons (character : Char) (rest : List Char) :
    (splitTokens rest).length ≤ (splitTokens (character :: rest)).length := by
  match rest with
  | [] => simp [splitTokens]
  | second :: rest =>
    have kept := length_consPart character (splitTokens_ne_nil (second :: rest))
    rw [splitTokens]
    split
    · next isToken =>
      -- the second character closes the token, so it opens none
      match rest with
      | [] => simp [splitTokens]
      | third :: rest =>
        have opensNone : ¬ (second = '\x7b' ∧ third = '\x7d') := by
          rw [isToken.2]
          simp
        rw [splitTokens, if_neg opensNone, length_consPart second (splitTokens_ne_nil _)]
        simp
    · rw [kept]

theorem length_splitTokens_append (before after : List Char) :
    (splitTokens after).length ≤ (splitTokens (before ++ after)).length := by
  induction before with
  | nil => simp
  | cons character rest ih => exact ih.trans (length_splitTokens_cons _ _)

theorem length_splitTokens_tokens (count : Nat) (after : List Char) :
    count + 1 ≤
      (splitTokens ((joinComma (List.replicate count bindToken)).toList ++ after)).length := by
  match count with
  | 0 => exact splitTokens_ne_nil _
  | 1 =>
    have parts := splitTokens_ne_nil after
    simp only [List.replicate, joinComma]
    change 2 ≤ (splitTokens ('\x7b' :: '\x7d' :: after)).length
    rw [splitTokens, if_pos ⟨rfl, rfl⟩, length_cons]
    omega
  | count + 2 =>
    have parts := length_splitTokens_tokens (count + 1) after
    have more := length_splitTokens_append [',', ' ']
        ((joinComma (List.replicate (count + 1) bindToken)).toList ++ after)
    simp only [replicate_succ, joinComma, String.toList_append,
      append_assoc] at parts more ⊢
    change count + 2 + 1 ≤ (splitTokens ('\x7b' :: '\x7d' :: ',' :: ' ' :: _)).length
    rw [splitTokens, if_pos ⟨rfl, rfl⟩, length_cons]
    exact Nat.succ_le_succ (parts.trans more)

variable {count : Nat}

private theorem parts_of_tokens {fragment : String} (before after : String)
    (around : fragment.toList =
      before.toList ++ ((joinComma (List.replicate count bindToken)).toList ++ after.toList)) :
    count + 1 ≤ (splitTokens fragment.toList).length := by
  rw [around]
  exact (length_splitTokens_tokens count after.toList).trans
    (length_splitTokens_append before.toList _)

variable {filter : JsonRelationFilter}

theorem parts_of_toSql {column dialect fragment : String}
    (compiled : filter.toSql column dialect = .ok (fragment, count)) :
    filter.values.length + 1 ≤ (splitTokens fragment.toList).length := by
  unfold JsonRelationFilter.toSql tokenList at compiled
  split at compiled
  · simp only [Except.ok.injEq, Prod.mk.injEq] at compiled
    apply parts_of_tokens ("(" ++ column ++ " ->> '" ++ escapePath filter.path ++ "') IN (") ")"
    simp [← compiled.1]
  · simp only [Except.ok.injEq, Prod.mk.injEq] at compiled
    apply parts_of_tokens
      ("JSON_UNQUOTE(JSON_EXTRACT(" ++ column ++ ", '$." ++
        escapePath filter.path ++ "')) IN (") ")"
    simp [← compiled.1]
  · simp only [Except.ok.injEq, Prod.mk.injEq] at compiled
    apply parts_of_tokens
      ("json_valid(" ++ column ++ ") AND json_extract(" ++ column ++
        ", '$." ++ escapePath filter.path ++ "') IN (") ")"
    simp [← compiled.1]
  · simp at compiled

variable {backend : Backend Json}

theorem parts_of_toSqlArray {column fragment : String}
    (compiled : filter.toSqlArray column backend.dialect = .ok (fragment, count)) :
    (QueryBuilder.overlapBinds backend filter.values).length + 1 ≤
      (splitTokens fragment.toList).length := by
  unfold JsonRelationFilter.toSqlArray arrayLiteral tokenList at compiled
  unfold QueryBuilder.overlapBinds
  split at compiled
  · next isPostgres =>
    simp only [Except.ok.injEq, Prod.mk.injEq] at compiled
    rw [isPostgres, if_neg (by decide), length_map]
    apply parts_of_tokens
      ("((" ++ column ++ ")::jsonb -> '" ++ escapePath filter.path ++ "') ?| ARRAY[") "]"
    simp [← compiled.1]
  · next isMysql =>
    simp only [Except.ok.injEq, Prod.mk.injEq] at compiled
    rw [isMysql]
    apply parts_of_tokens
      ("JSON_OVERLAPS(JSON_EXTRACT(" ++ column ++ ", '$." ++
        escapePath filter.path ++ "'), CAST(") " AS JSON))"
    simp [← compiled.1, joinComma]
  · next isSqlite =>
    simp only [Except.ok.injEq, Prod.mk.injEq] at compiled
    rw [isSqlite, if_neg (by decide), length_map]
    apply parts_of_tokens
      ("json_valid(" ++ column ++ ") AND EXISTS (SELECT 1 FROM json_each(" ++ column ++ ", '$." ++
        escapePath filter.path ++ "') WHERE json_each.value IN (")
      "))"
    simp [← compiled.1]
  · simp at compiled

/-! ## What a clause call does -/

def Clause.isMode : Clause Json → Bool
  | .withSoftDeletes _ | .withTrashed | .onlyTrashed => true
  | _ => false

/-- The calls that set no condition. -/
def Clause.setsNone : Clause Json → Bool
  | .select _ | .orderBy _ _ | .limit _ | .offset _ | .lock _ | .lockWithDialect _ _
  | .straightJoin _ _ => true
  | _ => false

namespace QueryBuilder

/-- The call pushes one condition with its bindings. -/
structure Pushes (builder after : QueryBuilder Json) (condition : Condition Json) : Prop where
  conditions : after.conditions = builder.conditions ++ [condition]
  bindings : after.bindings = builder.bindings ++ condition.passed
  indices : condition.indices = List.range' (builder.bindings.length + 1) condition.passed.length
  scope : condition.scopeType = builder.currentScope

/-- The call removes and adds only conditions without placeholders. -/
structure Thins (builder after : QueryBuilder Json) : Prop where
  bindings : after.bindings = builder.bindings
  conditions : ∃ kept added, after.conditions = kept ++ added ∧ kept.Sublist builder.conditions ∧
        kept.flatMap Condition.indices = builder.conditions.flatMap Condition.indices ∧
        ∀ condition ∈ added, condition.indices = [] ∧ condition.passed = []

@[grind =] def binds : Clause Json → Bool
  | .whereEq _ _ | .orWhereEq _ _ | .whereBinary _ _ | .whereOp _ _ _
  | .cursor _ _ => true
  | .whereIn _ values => !values.isEmpty
  | .whereJson _ filter => filter.bindValue.isSome
  | .whereJsonIn _ _ values | .whereJsonContainsAny _ _ values => !values.isEmpty
  | .whereInRows columns rows =>
    !columns.isEmpty && rows.any fun row => row.length == columns.length
  | _ => false

/-- A JSON filter that binds a value has exactly one bind token. -/
def oneToken (backend : Backend Json) : Clause Json → Bool
  | .whereJson column filter =>
    filter.bindValue.isNone ||
      match filter.toSql column backend.dialect with
      | .ok fragment => bindTokens fragment == 1
      | .error _ => true
  | _ => true

theorem pushes_comparison (glue : Glue) (left : String) (value : Value Json)
    (builder : QueryBuilder Json) :
    ∃ condition, Pushes builder (builder.pushComparison glue left value) condition ∧
      condition.passed = [value] := by
  refine ⟨_, ⟨rfl, rfl, ?_, rfl⟩, rfl⟩
  simp [Condition.indices, tokenPieces, pushBinding, range'_succ]

theorem pushes_unbound {sql : Sql} (unbound : placeholders (sqlPieces sql) = []) (glue : Glue)
    (builder : QueryBuilder Json) :
    ∃ condition,
      Pushes builder (builder.pushCondition glue sql []) condition ∧ condition.passed = [] := by
  refine ⟨_, ⟨rfl, ?_, ?_, rfl⟩, rfl⟩
  · simp [pushCondition]
  · simpa [Condition.indices] using unbound

theorem pushes_text (text : String) (builder : QueryBuilder Json) :
    ∃ condition, Pushes builder (builder.pushText text) condition ∧ condition.passed = [] :=
  pushes_unbound rfl .and builder

theorem bindAll_eq (values : List (Value Json)) (builder : QueryBuilder Json) :
    bindAll values builder = ((List.range' (builder.bindings.length + 1) values.length).map
          Piece.placeholder,
        { builder with bindings := builder.bindings ++ values }) := by
  induction values generalizing builder with
  | nil => simp [bindAll]
  | cons value rest ih => simp [bindAll, ih, pushBinding, range'_succ]

theorem bindRows_eq (arity : Nat) (rows : List (List (Value Json)))
    (builder : QueryBuilder Json) :
    let matching := rows.filter fun row => row.length = arity
    let bound := bindRows arity rows builder
    bound.2 =
        { builder with bindings := builder.bindings ++ matching.flatten } ∧
      bound.1.flatMap placeholders =
        List.range' (builder.bindings.length + 1) matching.flatten.length ∧
      bound.1.length = matching.length := by
  induction rows generalizing builder with
  | nil => simp [bindRows]
  | cons row rest ih =>
    by_cases fits : row.length = arity
    · subst fits
      obtain ⟨after, numbered, count⟩ := ih { builder with bindings := builder.bindings ++ row }
      simp only [bindRows, if_true, bindAll_eq, decide_true,
        filter_cons_of_pos, flatten_cons]
      refine ⟨?_, ?_, by simp [count]⟩
      · rw [after, append_assoc]
      · rw [flatMap_cons, numbered, placeholders_text, placeholders_append,
          placeholders_joined, length_append, length_append, ← range'_append_1]
        simp [Nat.add_right_comm]
    · simpa [bindRows, fits] using ih builder

theorem pushes_whereIn (column : String) (values : List (Value Json))
    (builder : QueryBuilder Json) :
    ∃ condition,
      Pushes builder (builder.whereIn column values) condition ∧ condition.passed = values := by
  unfold whereIn
  rw [bindAll_eq]
  cases values with
  | nil => simpa using pushes_text "1 = 0" builder
  | cons value rest =>
    refine ⟨_, ⟨rfl, rfl, ?_, rfl⟩, rfl⟩
    simp only [Condition.indices, sqlPieces_cons, sqlPieces_nil, tokenPieces, append_nil,
      placeholders_text, placeholders_append, placeholders_joined, placeholders_nil]

theorem pushes_whereInRows (columns : List String) (rows : List (List (Value Json)))
    (builder : QueryBuilder Json) :
    ∃ condition, Pushes builder (builder.whereInRows columns rows) condition ∧
      (binds (.whereInRows columns rows : Clause Json) = false → condition.passed = []) := by
  unfold whereInRows
  by_cases noColumns : columns.isEmpty = true
  · rw [if_pos noColumns]
    obtain ⟨condition, pushes, passed⟩ := pushes_text "1 = 0" builder
    exact ⟨condition, pushes, fun _ => passed⟩
  rw [if_neg noColumns]
  obtain ⟨after, numbered, count⟩ := bindRows_eq columns.length rows builder
  by_cases noTuples : (bindRows columns.length rows builder).1.isEmpty = true
  · have noRows : (rows.filter fun row => row.length = columns.length) = [] := by
      rw [← length_eq_zero_iff, ← count]
      simpa using noTuples
    rw [noRows, flatten_nil, append_nil] at after
    simp only [noTuples, if_true, after]
    obtain ⟨condition, pushes, passed⟩ := pushes_text "1 = 0" builder
    exact ⟨condition, pushes, fun _ => passed⟩
  · simp only [noTuples, after]
    refine ⟨_, ⟨rfl, rfl, ?_, rfl⟩, ?_⟩
    · simp [Condition.indices, tokenPieces, placeholders_joinPieces, numbered]
    · intro noneBound
      simp only [binds, noColumns] at noneBound
      rw [filter_eq_nil_iff.mpr (by simpa using noneBound)]
      rfl

theorem pushes_fragment {fragment : String} {values : List (Value Json)}
    (enough : values.length + 1 ≤ (splitTokens fragment.toList).length)
    (builder : QueryBuilder Json) :
    ∃ condition, Pushes builder (builder.pushFragment fragment values) condition ∧
      condition.passed = values := by
  refine ⟨_, ⟨rfl, rfl, ?_, rfl⟩, rfl⟩
  simp [Condition.indices, tokenPieces, placeholders_bindParts enough]

variable {backend : Backend Json} {builder after : QueryBuilder Json}

theorem pushes_whereJson {column : String} {filter : JsonFilter Json}
    (single : oneToken backend (.whereJson column filter) = true)
    (made : builder.whereJson backend column filter = .ok after) :
    ∃ condition, Pushes builder after condition ∧ condition.passed = filter.bindValue.toList := by
  unfold whereJson at made
  unfold oneToken at single
  cases value : filter.bindValue with
  | none =>
    simp only [value] at made
    split at made
    · simp at made
    · next fragment _ =>
      obtain rfl := Except.ok.inj made
      exact pushes_text fragment builder
  | some bound =>
    simp only [value] at made single
    split at made
    · simp at made
    · next fragment compiled =>
      obtain rfl := Except.ok.inj made
      simp only [compiled, Option.isNone_some, Bool.false_or, beq_iff_eq, bindTokens] at single
      refine ⟨_, ⟨rfl, rfl, ?_, rfl⟩, rfl⟩
      simp [Condition.indices, tokenPieces, pushBinding, placeholders_replaceParts, single]

/-! ## Conditions that print as the guard -/

theorem dollar_mem_of_placeholder {index : Nat} {pieces : List Piece}
    (printed : index ∈ placeholders pieces) : '$' ∈ (printPieces pieces).toList := by
  induction pieces with
  | nil => simp at printed
  | cons piece rest ih =>
    have shape : printPieces (piece :: rest) = piece.print ++ printPieces rest := rfl
    rw [shape, String.toList_append, mem_append]
    cases piece with
    | text written =>
      right
      exact ih printed
    | placeholder first =>
      left
      simp [Piece.print]

variable {condition : Condition Json}

theorem indices_of_guardText (isGuard : printSql condition.sql = guardText) :
    condition.indices = [] := by
  apply eq_nil_iff_forall_not_mem.mpr
  intro index printed
  have dollar := dollar_mem_of_placeholder printed
  rw [← printSql, isGuard] at dollar
  exact absurd dollar (by decide)

variable {Element Image : Type} {images : Element → List Image} {elements : List Element}

private theorem flatMap_filter {keep : Element → Bool}
    (dropped : ∀ element ∈ elements, keep element = false → images element = []) :
    (elements.filter keep).flatMap images = elements.flatMap images := by
  induction elements with
  | nil => rfl
  | cons element rest ih =>
    have later := ih fun other member => dropped other (mem_cons_of_mem _ member)
    by_cases kept : keep element = true
    · rw [filter_cons_of_pos kept, flatMap_cons, flatMap_cons, later]
    · have empty := dropped element mem_cons_self (by simpa using kept)
      rw [filter_cons_of_neg kept, flatMap_cons, empty, later, nil_append]

theorem thins_of_eq (conditions : after.conditions = builder.conditions)
    (bindings : after.bindings = builder.bindings) : Thins builder after where
  bindings := bindings
  conditions := ⟨builder.conditions, [], by simp [conditions], .refl _, rfl, by simp⟩

theorem liftGuard_conditions (builder : QueryBuilder Json) :
    builder.liftGuard.conditions.Sublist builder.conditions ∧
      builder.liftGuard.conditions.flatMap Condition.indices =
        builder.conditions.flatMap Condition.indices := by
  unfold liftGuard
  split
  · refine ⟨filter_sublist, flatMap_filter ?_⟩
    intro condition _ dropped
    apply indices_of_guardText
    simpa using dropped
  · exact ⟨.refl _, rfl⟩

theorem thins_applySoftDeleteGuard (builder : QueryBuilder Json) :
    Thins builder builder.applySoftDeleteGuard := by
  unfold applySoftDeleteGuard
  split_ifs
  · exact thins_of_eq rfl rfl
  · exact thins_of_eq rfl rfl
  · refine ⟨rfl, builder.conditions, _, rfl, .refl _, rfl, ?_⟩
    simp [Condition.indices, written, tokenPieces]

/-- The calls of a scope body keep the scopes and the scope that applies. -/
structure KeepsScopes (builder after : QueryBuilder Json) : Prop where
  currentScope : after.currentScope = builder.currentScope
  globalScopes : after.globalScopes = builder.globalScopes

variable {clause : Clause Json}

/-- Neither the conditions nor what they depend on is touched. -/
structure Untouched (builder after : QueryBuilder Json) : Prop where
  conditions : after.conditions = builder.conditions
  bindings : after.bindings = builder.bindings
  guard : after.softDeleteGuard = builder.softDeleteGuard
  scopes : KeepsScopes builder after

theorem untouched_apply (setsNone : clause.setsNone = true)
    (made : builder.apply backend clause = .ok after) : Untouched builder after := by
  cases clause with
  | lock lock =>
    simp only [apply, withLock] at made
    split at made <;> simp at made
    subst made
    exact ⟨rfl, rfl, rfl, rfl, rfl⟩
  | lockWithDialect lock dialect =>
    simp only [apply, lockWithDialect] at made
    split at made <;> simp at made
    subst made
    exact ⟨rfl, rfl, rfl, rfl, rfl⟩
  | straightJoin joinTable on =>
    simp only [apply, straightJoin] at made
    split at made <;> simp at made
    subst made
    exact ⟨rfl, rfl, rfl, rfl, rfl⟩
  | select _ | orderBy _ _ | limit _ | offset _ =>
    obtain rfl := Except.ok.inj made
    exact ⟨rfl, rfl, rfl, rfl, rfl⟩
  | _ => cases setsNone

/-- Every other call that is no mode pushes one condition. -/
theorem pushed_apply (noMode : clause.isMode = false) (sets : clause.setsNone = false)
    (made : builder.apply backend clause = .ok after) :
    ∃ glue sql passed bindings,
      after = pushCondition glue sql passed { builder with bindings := bindings } := by
  cases clause with
  | whereOp column operator value =>
    simp only [apply, whereOp] at made
    split at made <;> simp at made
    exact ⟨_, _, _, _, made.symm⟩
  | whereIn column values =>
    obtain rfl := Except.ok.inj made
    unfold whereIn
    rw [bindAll_eq]
    dsimp only
    split <;> exact ⟨_, _, _, _, rfl⟩
  | whereInRows columns rows =>
    obtain rfl := Except.ok.inj made
    obtain ⟨after, -, -⟩ := bindRows_eq columns.length rows builder
    unfold whereInRows
    dsimp only at after ⊢
    rw [after]
    split
    · exact ⟨_, _, _, _, rfl⟩
    · split <;> exact ⟨_, _, _, _, rfl⟩
  | whereJson column filter =>
    simp only [apply, whereJson] at made
    split at made
    all_goals
      split at made
      · simp at made
      · exact ⟨_, _, _, _, (Except.ok.inj made).symm⟩
  | whereJsonIn column path values =>
    simp only [apply, whereJsonIn] at made
    split at made
    · exact ⟨_, _, _, _, (Except.ok.inj made).symm⟩
    · split at made
      · simp at made
      · exact ⟨_, _, _, _, (Except.ok.inj made).symm⟩
  | whereJsonContainsAny column path values =>
    simp only [apply, whereJsonContainsAny] at made
    split at made
    · exact ⟨_, _, _, _, (Except.ok.inj made).symm⟩
    · split at made
      · simp at made
      · exact ⟨_, _, _, _, (Except.ok.inj made).symm⟩
  | whereEq _ _ | orWhereEq _ _ | whereBinary _ _ | cursor _ _
  | whereRaw _ | whereNull _ | whereNotNull _ => exact ⟨_, _, _, _, (Except.ok.inj made).symm⟩
  | withSoftDeletes _ | withTrashed | onlyTrashed => cases noMode
  | _ => cases sets

/-- Every clause call keeps the scopes. -/
theorem keepsScopes_apply (made : builder.apply backend clause = .ok after) :
    KeepsScopes builder after := by
  cases sets : clause.setsNone with
  | true => exact (untouched_apply sets made).scopes
  | false =>
    cases isMode : clause.isMode with
    | false =>
      obtain ⟨_, _, _, _, rfl⟩ := pushed_apply isMode sets made
      exact ⟨rfl, rfl⟩
    | true =>
      cases clause with
      | withSoftDeletes uses =>
        obtain rfl := Except.ok.inj made
        unfold withSoftDeletes applySoftDeleteGuard
        split_ifs <;> exact ⟨rfl, rfl⟩
      | withTrashed | onlyTrashed =>
        obtain rfl := Except.ok.inj made
        exact ⟨rfl, rfl⟩
      | _ => cases isMode

variable {body : List (Clause Json)}

theorem keepsScopes_applyBody (made : applyBody backend body builder = .ok after) :
    KeepsScopes builder after := by
  induction body generalizing builder with
  | nil =>
    obtain rfl := Except.ok.inj made
    exact ⟨rfl, rfl⟩
  | cons clause rest ih =>
    unfold applyBody at made
    split at made
    · simp at made
    · next between taken =>
      have first := keepsScopes_apply taken
      have later := ih made
      exact ⟨later.currentScope.trans first.currentScope,
        later.globalScopes.trans first.globalScopes⟩

variable {scopes : List (GlobalScopeEntry Json)}

theorem globalScopes_applyScopes (made : applyScopes backend scopes builder = .ok after) :
    after.globalScopes = builder.globalScopes := by
  induction scopes generalizing builder with
  | nil =>
    obtain rfl := Except.ok.inj made
    rfl
  | cons entry rest ih =>
    unfold applyScopes at made
    split at made
    · exact ih made
    · split at made
      · simp at made
      · next between taken => exact (ih made).trans (keepsScopes_applyBody taken).globalScopes

theorem keepsScopes_resolved (outside : builder.currentScope = none)
    (made : builder.resolved backend = .ok after) : KeepsScopes builder after := by
  unfold resolved at made
  split at made
  · obtain rfl := Except.ok.inj made
    exact ⟨rfl, rfl⟩
  · split at made
    · simp at made
    · next between taken =>
      have scopes := globalScopes_applyScopes taken
      obtain rfl := Except.ok.inj made
      exact ⟨outside.symm, scopes⟩

/--
A clause call pushes one condition with the values it binds, or touches only
conditions without placeholders.
-/
theorem effect_apply (single : oneToken backend clause = true)
    (made : builder.apply backend clause = .ok after) :
    Thins builder after ∨
    ∃ condition,
        Pushes builder after condition ∧ (binds clause = false → condition.passed = []) := by
  have unbound : ∀ {pushed : QueryBuilder Json},
      (∃ condition, Pushes builder pushed condition ∧ condition.passed = []) → ∃ condition,
        Pushes builder pushed condition ∧ (binds clause = false → condition.passed = []) :=
    fun ⟨condition, pushes, passed⟩ => ⟨condition, pushes, fun _ => passed⟩
  have compares : ∀ glue left value, binds clause = true → ∃ condition,
      Pushes builder (builder.pushComparison glue left value)
          condition ∧
        (binds clause = false → condition.passed = []) := by
    intro glue left value isBound
    obtain ⟨condition, pushes, -⟩ := pushes_comparison glue left value builder
    exact ⟨condition, pushes, by simp [isBound]⟩
  cases clause with
  | whereEq column value | orWhereEq column value | whereBinary column value
  | cursor column value =>
    obtain rfl := Except.ok.inj made
    exact .inr (compares _ _ _ rfl)
  | whereOp column operator value =>
    simp only [apply, whereOp] at made
    split at made <;> simp at made
    subst made
    exact .inr (compares _ _ _ rfl)
  | whereRaw fragment =>
    obtain rfl := Except.ok.inj made
    exact .inr (unbound (pushes_unbound (placeholders_fragment fragment) .and builder))
  | whereNull column | whereNotNull column =>
    obtain rfl := Except.ok.inj made
    exact .inr (unbound (pushes_text _ builder))
  | whereIn column values =>
    obtain rfl := Except.ok.inj made
    obtain ⟨condition, pushes, passed⟩ := pushes_whereIn column values builder
    refine .inr ⟨condition, pushes, fun noneBound => ?_⟩
    simpa [binds, passed] using noneBound
  | whereInRows columns rows =>
    obtain rfl := Except.ok.inj made
    exact .inr (pushes_whereInRows columns rows builder)
  | whereJson column filter =>
    obtain ⟨condition, pushes, passed⟩ := pushes_whereJson single made
    refine .inr ⟨condition, pushes, fun noneBound => ?_⟩
    simp only [binds, Option.isSome_eq_false_iff, Option.isNone_iff_eq_none] at noneBound
    rw [passed, noneBound]
    rfl
  | whereJsonIn column path values =>
    simp only [apply, whereJsonIn] at made
    split at made
    · obtain rfl := Except.ok.inj made
      exact .inr (unbound (pushes_text _ builder))
    · next notEmpty =>
      split at made
      · simp at made
      · next fragment count compiled =>
        obtain rfl := Except.ok.inj made
        have enough := parts_of_toSql compiled
        obtain ⟨condition, pushes, -⟩ := pushes_fragment
            (by simpa using enough :
              (values.map Value.text : List (Value Json)).length + 1 ≤ _) builder
        exact .inr ⟨condition, pushes, by simp [binds, notEmpty]⟩
  | whereJsonContainsAny column path values =>
    simp only [apply, whereJsonContainsAny] at made
    split at made
    · obtain rfl := Except.ok.inj made
      exact .inr (unbound (pushes_text _ builder))
    · next notEmpty =>
      split at made
      · simp at made
      · next fragment count compiled =>
        obtain rfl := Except.ok.inj made
        obtain ⟨condition, pushes, -⟩ := pushes_fragment (parts_of_toSqlArray compiled) builder
        exact .inr ⟨condition, pushes, by simp [binds, notEmpty]⟩
  | withSoftDeletes uses =>
    obtain rfl := Except.ok.inj made
    unfold withSoftDeletes
    split
    · exact .inl (thins_applySoftDeleteGuard builder)
    · exact .inl (thins_of_eq rfl rfl)
  | withTrashed =>
    obtain rfl := Except.ok.inj made
    obtain ⟨sublist, sameIndices⟩ := liftGuard_conditions builder
    exact .inl ⟨rfl, _, [], by simp [withTrashed], sublist, sameIndices, by simp⟩
  | onlyTrashed =>
    obtain rfl := Except.ok.inj made
    obtain ⟨sublist, sameIndices⟩ := liftGuard_conditions builder
    refine .inl ⟨rfl, _, _, rfl, sublist, sameIndices, ?_⟩
    simp [Condition.indices, written, tokenPieces]
  | select _ | orderBy _ _ | limit _ | offset _ | lock _ | lockWithDialect _ _
  | straightJoin _ _ =>
    have untouched := untouched_apply rfl made
    exact .inl (thins_of_eq untouched.conditions untouched.bindings)

/-! ## Alignment of conditions and bindings -/

/-- The placeholders and the bindings of a builder, in insertion order. -/
structure Aligned (builder : QueryBuilder Json) : Prop where
  numbered : builder.conditions.flatMap Condition.indices = List.range' 1 builder.bindings.length
  ownValues : ∀ condition ∈ builder.conditions, condition.indices.map
          (fun index => builder.bindings[index - 1]?) =
        condition.passed.map some
  callerFirst :
    builder.conditions.Pairwise fun earlier later =>
      earlier.scopeType.isNone = false → later.scopeType.isNone = true →
      earlier.indices = [] ∨ later.indices = []

/-- A call that binds makes no caller condition after a bound scope one. -/
def KeepsOrder (builder : QueryBuilder Json) (clause : Clause Json) : Prop :=
  builder.currentScope = none → binds clause = true →
    ∀ condition ∈ builder.conditions, condition.scopeType.isNone = false → condition.indices = []

theorem Aligned.thins (aligned : Aligned builder) (thins : Thins builder after) :
    Aligned after := by
  obtain ⟨bindings, kept, added, conditions, sublist, sameIndices, unbound⟩ := thins
  have addedNone : added.flatMap Condition.indices = [] := by
    rw [flatMap_eq_nil_iff]
    exact fun condition member => (unbound condition member).1
  constructor
  · rw [conditions, bindings, flatMap_append, addedNone,
      append_nil, sameIndices, aligned.numbered]
  · rw [conditions, bindings]
    intro condition member
    rcases mem_append.mp member with old | new
    · exact aligned.ownValues condition (sublist.subset old)
    · simp [unbound condition new]
  · rw [conditions, pairwise_append]
    refine ⟨aligned.callerFirst.sublist sublist, ?_, ?_⟩
    · apply pairwise_of_forall_mem_list
      intro earlier earlierMember later _ _ _
      exact .inl (unbound earlier earlierMember).1
    · intro earlier _ later laterMember _ _
      exact .inr (unbound later laterMember).1

theorem Aligned.pushes (aligned : Aligned builder) (pushes : Pushes builder after condition)
    (keepsOrder : condition.scopeType = none → condition.passed ≠ [] →
      ∀ earlier ∈ builder.conditions, earlier.scopeType.isNone = false → earlier.indices = []) :
    Aligned after := by
  obtain ⟨conditions, bindings, indices, -⟩ := pushes
  constructor
  · rw [conditions, bindings, flatMap_append, aligned.numbered, flatMap_singleton,
      indices, length_append, Nat.add_comm builder.bindings.length 1, range'_append_1]
  · rw [conditions, bindings]
    intro member isMember
    rcases mem_append.mp isMember with old | new
    · have values := aligned.ownValues member old
      rw [← values]
      apply map_congr_left
      intro index printed
      have found : builder.bindings[index - 1]? ∈ member.passed.map some := by
        rw [← values]
        exact mem_map_of_mem printed
      obtain ⟨value, -, isSome⟩ := mem_map.mp found
      have bound := (List.getElem?_eq_some_iff.mp isSome.symm).1
      exact getElem?_append_left bound
    · rw [mem_singleton.mp new, indices]
      apply ext_getElem (by simp)
      intro place _ _
      simp [getElem?_append_right]
  · rw [conditions, pairwise_append]
    refine ⟨aligned.callerFirst, pairwise_singleton _ _, ?_⟩
    intro earlier earlierMember later laterMember isScoped isCaller
    rw [mem_singleton.mp laterMember] at isCaller ⊢
    by_cases noValue : condition.passed = []
    · right
      rw [indices, noValue]
      rfl
    · left
      exact keepsOrder (Option.isNone_iff_eq_none.mp isCaller) noValue
        earlier earlierMember isScoped

theorem Aligned.apply (aligned : Aligned builder) (single : oneToken backend clause = true)
    (keepsOrder : KeepsOrder builder clause)
    (made : builder.apply backend clause = .ok after) : Aligned after := by
  rcases effect_apply single made with thins | ⟨condition, pushes, passed⟩
  · exact aligned.thins thins
  · apply aligned.pushes pushes
    intro isCaller bound
    apply keepsOrder
    · rw [← pushes.scope, isCaller]
    · by_contra noneBound
      exact bound (passed (by simpa using noneBound))

theorem Aligned.applyBody (aligned : Aligned builder)
    (single : ∀ clause ∈ body, oneToken backend clause = true)
    (inScope : builder.currentScope ≠ none)
    (made : builder.applyBody backend body = .ok after) : Aligned after := by
  induction body generalizing builder with
  | nil =>
    obtain rfl := Except.ok.inj made
    exact aligned
  | cons clause rest ih =>
    unfold QueryBuilder.applyBody at made
    split at made
    · simp at made
    · next between taken =>
      have keeps := keepsScopes_apply taken
      have alignedBetween := aligned.apply (single clause mem_cons_self)
          (fun noScope => (inScope noScope).elim) taken
      exact ih alignedBetween (fun other member => single other (mem_cons_of_mem _ member))
        (by rw [keeps.currentScope]; exact inScope) made

theorem Aligned.applyScopes (aligned : Aligned builder)
    (single : ∀ entry ∈ scopes, ∀ clause ∈ entry.body, oneToken backend clause = true)
    (made : builder.applyScopes backend scopes = .ok after) : Aligned after := by
  induction scopes generalizing builder with
  | nil =>
    obtain rfl := Except.ok.inj made
    exact aligned
  | cons entry rest ih =>
    have singleRest : ∀ other ∈ rest, ∀ clause ∈ other.body, oneToken backend clause = true :=
      fun other member => single other (mem_cons_of_mem _ member)
    unfold QueryBuilder.applyScopes at made
    split_ifs at made with bypassed
    · exact ih aligned singleRest made
    · split at made
      · simp at made
      · next between taken =>
        have entered : Aligned { builder with currentScope := some entry.typeId } :=
          ⟨aligned.numbered, aligned.ownValues, aligned.callerFirst⟩
        have alignedBetween := entered.applyBody (single entry mem_cons_self) (by simp) taken
        exact ih alignedBetween singleRest made

theorem Aligned.resolved (aligned : Aligned builder)
    (single : ∀ entry ∈ builder.globalScopes, ∀ clause ∈ entry.body, oneToken backend clause = true)
    (made : builder.resolved backend = .ok after) : Aligned after := by
  unfold QueryBuilder.resolved at made
  split at made
  · obtain rfl := Except.ok.inj made
    exact ⟨aligned.numbered, aligned.ownValues, aligned.callerFirst⟩
  · split at made
    · simp at made
    · next between taken =>
      obtain rfl := Except.ok.inj made
      have alignedBetween := aligned.applyScopes single taken
      exact ⟨alignedBetween.numbered, alignedBetween.ownValues, alignedBetween.callerFirst⟩

theorem Aligned.strip {keep : Condition Json → Bool} (aligned : Aligned builder)
    (unbound : ∀ condition ∈ builder.conditions, keep condition = false → condition.indices = [])
    (conditions : after.conditions = builder.conditions.filter keep)
    (bindings : after.bindings = builder.bindings) : Aligned after := by
  apply aligned.thins
  refine ⟨bindings, builder.conditions.filter keep, [], ?_, ?_, ?_, ?_⟩
  · rw [conditions, append_nil]
  · exact filter_sublist
  · exact flatMap_filter unbound
  · simp

/-! ## Rendering -/

variable (conditions : List (Condition Json))

@[simp] theorem placeholders_glue (glue : Glue) : placeholders (tokenPieces glue.token) = [] := by
  cases glue <;> rfl

theorem placeholders_renderConditions :
    placeholders (sqlPieces (renderConditions conditions)) =
      conditions.flatMap Condition.indices := by
  cases conditions with
  | nil => rfl
  | cons first rest =>
    simp only [renderConditions, sqlPieces_append, placeholders_append, flatMap_cons]
    induction rest with
    | nil => rfl
    | cons condition rest ih => simpa [Condition.indices] using ih

theorem placeholders_renderRun :
    placeholders (sqlPieces (renderRun conditions)) = conditions.flatMap Condition.indices := by
  unfold renderRun
  split <;> simp [tokenPieces, placeholders_renderConditions]

private theorem flatMap_partition {first : Element → Bool}
    (separated : elements.Pairwise fun earlier later => first earlier = false → first later = true →
      images earlier = [] ∨ images later = []) :
    (elements.filter first).flatMap images ++
      (elements.filter fun element => !first element).flatMap images =
      elements.flatMap images := by
  induction separated with
  | nil => rfl
  | @cons element rest related _ ih =>
    by_cases isFirst : first element = true
    · simp [isFirst, ← ih]
    · have notFirst : first element = false := by simpa using isFirst
      by_cases unbound : images element = []
      · simp [notFirst, unbound, ih]
      · have firstNone : (rest.filter first).flatMap images = [] := by
          rw [flatMap_eq_nil_iff]
          intro other member
          rw [mem_filter] at member
          exact (related other member.1 notFirst member.2).resolve_left unbound
        rw [firstNone, nil_append] at ih
        simp [notFirst, firstNone, ih]

theorem placeholders_renderWhereClause {builder : QueryBuilder Json} (aligned : Aligned builder) :
    placeholders ((builder.renderWhereClause.map sqlPieces).getD []) =
      List.range' 1 builder.bindings.length := by
  rw [← aligned.numbered]
  unfold renderWhereClause
  split
  · next empty =>
    rw [List.isEmpty_iff.mp empty]
    rfl
  · split
    · exact placeholders_renderConditions _
    · have isScoped : (fun condition : Condition Json => condition.scopeType.isSome) =
          fun condition => !condition.scopeType.isNone := by
        funext condition
        simp
      rw [← flatMap_partition aligned.callerFirst]
      simp [placeholders_renderRun, tokenPieces, callerConditions, scopedConditions]

theorem placeholders_renderSql {builder : QueryBuilder Json} {sql : List Piece}
    (rendered : builder.renderSql backend = .ok sql) :
    placeholders sql = placeholders ((builder.renderWhereClause.map sqlPieces).getD []) := by
  have select : placeholders builder.renderSelect = [] := by
    unfold renderSelect
    induction builder.joins with
    | nil => rfl
    | cons join rest ih => exact ih
  have filter : placeholders builder.renderFilter =
      placeholders ((builder.renderWhereClause.map sqlPieces).getD []) := by
    unfold renderFilter
    cases builder.renderWhereClause <;> rfl
  have window : placeholders builder.renderWindow = [] := rfl
  have lock : ∀ pieces, builder.renderLock backend = .ok pieces → placeholders pieces = [] := by
    intro pieces made
    unfold renderLock at made
    split at made
    · obtain rfl := Except.ok.inj made
      rfl
    · split at made
      · simp at made
      · obtain rfl := Except.ok.inj made
        rfl
  unfold renderSql at rendered
  split at rendered
  · simp at rendered
  · next pieces made =>
    obtain rfl := Except.ok.inj rendered
    simp [select, filter, window, lock pieces made]

end QueryBuilder

/-! ## Whole runs -/

/-- One call on a query builder. -/
inductive Call (Json : Type) where
  | clause (clause : Clause Json)
  | withGlobalScopes (scopes : List (GlobalScopeEntry Json))
  | withoutGlobalScopes
  | withoutGlobalScope (typeId : TypeId)
  | resolved

def call? (backend : Backend Json) (builder : QueryBuilder Json)
    (call : Call Json) : Option (QueryBuilder Json) :=
  match call with
  | .clause clause => (builder.apply backend clause).toOption
  | .withGlobalScopes scopes => some (builder.withGlobalScopes scopes)
  | .withoutGlobalScopes => some builder.withoutGlobalScopes
  | .withoutGlobalScope typeId => some (builder.withoutGlobalScope typeId)
  | .resolved => (builder.resolved backend).toOption

/--
The rendered SELECT prints `$1` to `$n` in this order, and every placeholder
of a condition is bound to the value that was passed for it.
-/
structure Numbered (backend : Backend Json) (builder : QueryBuilder Json) : Prop where
  inOrder : ∀ sql bindings, builder.toSql backend = .ok sql →
      builder.resolvedBindings backend = .ok bindings →
      placeholders sql = List.range' 1 bindings.length
  ownValues : ∀ resolved, builder.resolved backend = .ok resolved →
      ∀ condition ∈ resolved.conditions, condition.indices.map
            (fun index => resolved.bindings[index - 1]?) =
          condition.passed.map some

/--
The calls that keep the numbering: no bound caller predicate after a bound
scope condition, no bypass of a bound scope condition, and one bind token in a
JSON filter that binds.
-/
def KeepsNumbering (backend : Backend Json) (builder : QueryBuilder Json) : Call Json → Prop
  | .clause clause =>
    QueryBuilder.oneToken backend clause = true ∧ (QueryBuilder.binds clause = true →
        ∀ condition ∈ builder.conditions, condition.scopeType.isNone = false →
          condition.indices = [])
  | .withGlobalScopes scopes =>
    ∀ entry ∈ scopes, ∀ clause ∈ entry.body, QueryBuilder.oneToken backend clause = true
  | .withoutGlobalScopes =>
    ∀ condition ∈ builder.conditions, condition.scopeType.isNone = false → condition.indices = []
  | .withoutGlobalScope typeId =>
    ∀ condition ∈ builder.conditions, condition.scopeType = some typeId → condition.indices = []
  | .resolved => True

instance (backend : Backend Json) (builder : QueryBuilder Json)
    (call : Call Json) : Decidable (KeepsNumbering backend builder call) :=
  match call with
  | .clause _ => inferInstanceAs (Decidable (_ ∧ (_ → ∀ condition ∈ _, _ → _)))
  | .withGlobalScopes scopes =>
    inferInstanceAs (Decidable (∀ entry ∈ scopes, ∀ clause ∈ entry.body, _))
  | .withoutGlobalScopes | .withoutGlobalScope _ =>
    inferInstanceAs (Decidable (∀ condition ∈ _, _ → _))
  | .resolved => inferInstanceAs (Decidable True)

/-- What every call keeps. -/
structure NumberingInvariant (backend : Backend Json) (builder : QueryBuilder Json) : Prop where
  aligned : builder.Aligned
  outside : builder.currentScope = none
  oneToken : ∀ entry ∈ builder.globalScopes,
      ∀ clause ∈ entry.body, QueryBuilder.oneToken backend clause = true

theorem numberingInvariant_call {builder after : QueryBuilder Json} {call : Call Json}
    (holds : NumberingInvariant backend builder) (keeps : KeepsNumbering backend builder call)
    (taken : call? backend builder call = some after) : NumberingInvariant backend after := by
  obtain ⟨aligned, outside, oneToken⟩ := holds
  cases call with
  | clause clause =>
    have made : builder.apply backend clause = .ok after := by
      unfold call? at taken
      cases made : builder.apply backend clause with
      | error failure => simp [made, Except.toOption] at taken
      | ok result => simpa [made, Except.toOption] using taken
    have scopes := QueryBuilder.keepsScopes_apply made
    constructor
    · exact aligned.apply keeps.1 (fun _ => keeps.2) made
    · rw [scopes.currentScope, outside]
    · rw [scopes.globalScopes]
      exact oneToken
  | withGlobalScopes scopes =>
    obtain rfl := Option.some.inj taken
    exact ⟨⟨aligned.numbered, aligned.ownValues, aligned.callerFirst⟩, outside, keeps⟩
  | withoutGlobalScopes =>
    obtain rfl := Option.some.inj taken
    refine ⟨aligned.strip keeps rfl rfl, outside, ?_⟩
    simp [QueryBuilder.withoutGlobalScopes]
  | withoutGlobalScope typeId =>
    obtain rfl := Option.some.inj taken
    refine ⟨aligned.strip ?_ rfl rfl, outside, ?_⟩
    · intro condition member stripped
      exact keeps condition member (by simpa using stripped)
    · intro entry member
      exact oneToken entry (mem_of_mem_filter member)
  | resolved =>
    have made : builder.resolved backend = .ok after := by
      unfold call? at taken
      cases made : builder.resolved backend with
      | error failure => simp [made, Except.toOption] at taken
      | ok result => simpa [made, Except.toOption] using taken
    have scopes := QueryBuilder.keepsScopes_resolved outside made
    constructor
    · exact aligned.resolved oneToken made
    · rw [scopes.currentScope, outside]
    · rw [scopes.globalScopes]
      exact oneToken

/--
Along every sequence of calls that keep the numbering, the rendered SELECT
prints its placeholders in order and binds the values that were passed.  They
count as printed, also in a literal, such as a JSON path that holds a token.
-/
theorem placeholders_numbered
    (backend : Backend Json) (table : String) {builder : QueryBuilder Json}
    (reached : ReachableAlong (call? backend) (KeepsNumbering backend) (.ofTable table) builder) :
    Numbered backend builder := by
  have holds : NumberingInvariant backend builder := by
    apply reached.invariant (NumberingInvariant backend)
    · exact ⟨⟨rfl, by simp [QueryBuilder.ofTable],
        by simp [QueryBuilder.ofTable]⟩, rfl,
        by simp [QueryBuilder.ofTable]⟩
    · intro before call after holds keeps taken
      exact numberingInvariant_call holds keeps taken
  have alignedOf : ∀ resolved, builder.resolved backend = .ok resolved → resolved.Aligned :=
    fun resolved made => holds.aligned.resolved holds.oneToken made
  constructor
  · intro sql bindings rendered bound
    unfold QueryBuilder.toSql at rendered
    unfold QueryBuilder.resolvedBindings at bound
    cases made : builder.resolved backend with
    | error failure => simp [made] at rendered
    | ok resolved =>
      simp only [made] at rendered bound
      rw [← Except.ok.inj bound, QueryBuilder.placeholders_renderSql rendered]
      exact QueryBuilder.placeholders_renderWhereClause (alignedOf resolved made)
  · intro resolved made
    exact (alignedOf resolved made).ownValues

def postgres : Backend Unit where
  dialect := "postgres"
  jsonArray := fun _ => ()

/-- A scope that binds the tenant of the current request. -/
def tenantScope : GlobalScopeEntry Unit where
  typeId := "TenantScope"
  id := "tenant"
  body := [.whereEq "tenant_id" (.int 7)]

theorem placeholders_numbered_tenant :
    ∃ builder,
      runAlong? (call? postgres) (KeepsNumbering postgres) (.ofTable "users")
        [.clause (.whereEq "name" (.text "Ada")), .withGlobalScopes [tenantScope, softDeletesScope],
          .clause (.whereIn "role" [.int 1, .int 2]), .resolved, .clause .onlyTrashed,
          .clause (.whereNull "email")] =
        some builder ∧
      placeholders ((builder.renderWhereClause.map sqlPieces).getD []) = [1, 2, 3, 4] ∧
      Numbered postgres builder :=
  ⟨_, rfl, by decide, placeholders_numbered postgres "users"
      (reachableAlong_of_runAlong? .start (show runAlong? (call? postgres) (KeepsNumbering postgres)
            (.ofTable "users")
            [.clause (.whereEq "name" (.text "Ada")),
              .withGlobalScopes [tenantScope, softDeletesScope],
              .clause (.whereIn "role" [.int 1, .int 2]), .resolved, .clause .onlyTrashed,
              .clause (.whereNull "email")] =
          some _ from rfl))⟩

private theorem not_numbered {builder : QueryBuilder Json} {sql : List Piece}
    {bindings : List (Value Json)} (rendered : builder.toSql backend = .ok sql)
    (bound : builder.resolvedBindings backend = .ok bindings)
    (differs : placeholders sql ≠ List.range' 1 bindings.length) : ¬ Numbered backend builder := by
  intro numbered
  exact differs (numbered.inOrder sql bindings rendered bound)

/--
A predicate after `resolved()` prints before the scope's, a scope bypassed
after it keeps its binding, and an empty JSON key prints `$1` twice.
-/
theorem placeholders_out_of_order :
    List.Forall
      (fun calls => ∃ builder, run? (call? postgres) (.ofTable "users") calls = some builder ∧
        ¬ Numbered postgres builder)
      [[.withGlobalScopes [tenantScope], .resolved, .clause (.whereEq "name" (.text "Ada"))],
        [.withGlobalScopes [tenantScope], .resolved, .withoutGlobalScope "TenantScope"],
        [.withGlobalScopes [tenantScope], .resolved, .withoutGlobalScopes],
        [.clause (.whereJson "settings" (.pathEquals "" "dark"))]] := by
  refine ⟨?_, ?_, ?_, ?_⟩
  all_goals exact ⟨_, rfl, not_numbered rfl rfl (by decide)⟩

end Rustasea.Orm
