import PgAnalytics.BaseFdw
import PgAnalytics.StatementForms
import PgAnalytics.ViewStatements

/-! The names of Postgres in the statements for DuckDB. Schema, table and columns are
put in as they are, or between single quotes, so that a name survives exactly when
it is a word that DuckDB does not reserve. -/

namespace PgAnalytics.NameStatements
open Basics Lexing ForeignTables RecordBatches BaseFdw SqlTokens StatementForms

/-- DuckDB keeps the spelling of a word. -/
def duckdb (foreign : Char → Bool) (reserved : List Char → Bool) : Dialect where
  foreign := foreign
  fold := id
  clip := id
  reserved := reserved
  unquoted := notMem_of_isWord rfl
  clip_quotes _ := Nat.le_refl _

def createSchema (schemaName : String) : String := "CREATE SCHEMA IF NOT EXISTS " ++ schemaName

def dropView (schemaName tableName : String) : String :=
  "DROP VIEW IF EXISTS " ++ schemaName ++ "." ++ tableName

def describe (schemaName tableName : String) : String :=
  "DESCRIBE " ++ schemaName ++ "." ++ tableName

def viewExists (tableName schemaName : String) : String :=
  "SELECT * from information_schema.tables WHERE table_schema = '" ++ schemaName ++
    "' AND table_name = '" ++ tableName ++ "' AND table_type = 'VIEW'"

def viewHead (schemaName tableName : String) : String :=
  "CREATE VIEW IF NOT EXISTS " ++ schemaName ++ "." ++ tableName

def scanHead (t : ForeignTable) (columns : List Column) : String :=
  "SELECT " ++ (if columns.isEmpty then "*" else ", ".intercalate (columns.map (·.name))) ++
    " FROM " ++ t.schema ++ "." ++ t.name

def targets (columns : List Column) : List Item :=
  if columns.isEmpty then [.fixed (.symbol '*')]
  else [Item.fixed (.symbol ',')].intercalate (columns.map fun column => [.name column.name.toList])

def lookup (schemaName tableName : String) : List Item :=
  (keywords ["SELECT"] ++ [.fixed (.symbol '*')] ++ keywords ["from", "information_schema"] ++
    [.fixed (.symbol '.')] ++ keywords ["tables", "WHERE", "table_schema"] ++
    [.fixed (.symbol '=')]) ++
  .fixed (.literal schemaName.toList) ::
  (keywords ["AND", "table_name"] ++ [.fixed (.symbol '=')]) ++
  .fixed (.literal tableName.toList) ::
  (keywords ["AND", "table_type"] ++ [.fixed (.symbol '=')]) ++
  [.fixed (.literal "VIEW".toList)]

structure NamesKept (d : Dialect) (t : ForeignTable) (columns : List Column) : Prop where
  createSchema : Reads d (keywords ["CREATE", "SCHEMA", "IF", "NOT", "EXISTS"] ++
    [.name t.schema.toList]) (createSchema t.schema).toList (createSchema t.schema).toList
  createView : ∀ (r : ViewStatements.ViewReader) (tableOptions : Options) (text : String),
    r.createView t.name t.schema tableOptions = .ok text →
      Reads d (keywords ["CREATE", "VIEW", "IF", "NOT", "EXISTS"] ++ qualified t.schema t.name)
        (viewHead t.schema t.name).toList text.toList
  dropView : Reads d (keywords ["DROP", "VIEW", "IF", "EXISTS"] ++ qualified t.schema t.name)
    (dropView t.schema t.name).toList (dropView t.schema t.name).toList
  describe : Reads d (keywords ["DESCRIBE"] ++ qualified t.schema t.name)
    (describe t.schema t.name).toList (describe t.schema t.name).toList
  viewExists : Reads d (lookup t.schema t.name) (viewExists t.name t.schema).toList
    (viewExists t.name t.schema).toList
  scan : ∀ request : ScanRequest, request.columns = columns →
    Reads d (keywords ["SELECT"] ++ targets columns ++ keywords ["FROM"] ++
      qualified t.schema t.name) (scanHead t columns).toList (scanSql t request).toList

theorem scanSql_eq (t : ForeignTable) (request : ScanRequest) :
    ∃ tail, (scanSql t request).toList = (scanHead t request.columns).toList ++ tail ∧
      Stops tail := by
  let filter := if request.quals.isEmpty then "" else " WHERE " ++ " AND ".intercalate request.quals
  let order := if request.sorts.isEmpty then "" else " ORDER BY " ++ ", ".intercalate request.sorts
  let limit := request.limit.elim "" fun limit => " LIMIT " ++ toString (realLimit limit).toInt
  have parts : scanSql t request = scanHead t request.columns ++ filter ++ order ++ limit := by
    unfold scanSql limit
    cases request.limit <;> rfl
  refine ⟨(filter ++ order ++ limit).toList, ?_, ?_⟩
  · rw [parts]
    simp only [String.toList_append, List.append_assoc]
  · simp only [String.toList_append]
    refine ((?_ : Stops filter.toList).append ?_).append ?_
    · unfold filter
      split
      · exact stops_nil
      · simp only [String.toList_append]
        exact stops_blank _
    · unfold order
      split
      · exact stops_nil
      · simp only [String.toList_append]
        exact stops_blank _
    · unfold limit
      cases request.limit with
      | none => exact stops_nil
      | some limit =>
        simp only [Option.elim, String.toList_append]
        exact stops_blank _

theorem createView_head {r : ViewStatements.ViewReader} {tableName schemaName text : String}
    {tableOptions : Options} (h : r.createView tableName schemaName tableOptions = .ok text) :
    ∃ tail, text.toList = (viewHead schemaName tableName).toList ++ tail ∧ Stops tail := by
  unfold ViewStatements.ViewReader.createView at h
  split at h
  · cases h
  · rename_i files present
    cases h
    refine ⟨(" AS SELECT " ++ r.select tableOptions ++ " FROM " ++ r.function ++ "(" ++
      ", ".intercalate (r.files.format files :: r.options.filterMap (r.extractOption tableOptions))
        ++ ")").toList, ?_, ?_⟩
    · unfold viewHead
      simp only [String.toList_append, List.append_assoc]
    · simp only [String.toList_append]
      exact stops_blank _

variable {foreign : Char → Bool} {reserved : List Char → Bool}

theorem stands_name {n : List Char} (plain : isWord foreign n ∧ reserved n = false) :
    Stands (duckdb foreign reserved) (.name n) n :=
  stands_word plain.1 (.inr ⟨n, rfl, rfl, plain.2⟩)

theorem stands_part {n : List Char} (letters : isWord foreign n) :
    Stands (duckdb foreign reserved) (.part n) n :=
  stands_word letters (.inr ⟨n, rfl, rfl⟩)

theorem apart_of_symbol {d : Dialect} {c : Char} (other : c ∈ [' ', '.', ',']) : Apart d c := by
  simp only [List.mem_cons, List.not_mem_nil, or_false] at other
  rcases other with rfl | rfl | rfl <;> exact ⟨rfl, by decide⟩

theorem opens_qualified {items : List Item} {before : List Char}
    (h : Spells (duckdb foreign reserved) items before) {schemaName tableName : String}
    (schema : isWord foreign schemaName.toList ∧ reserved schemaName.toList = false)
    (table : isWord foreign tableName.toList) :
    Opens (duckdb foreign reserved) (items ++ qualified schemaName tableName)
      (before ++ (schemaName.toList ++ ('.' :: tableName.toList))) := by
  have dot := (stands_name schema).spells (apart_of_symbol (by decide))
    (spells_symbol (by decide : isSymbol '.'))
  have whole := (h.append dot).opens (stands_part table).opens
  simpa [qualified] using whole

theorem spells_targets {columns : List Column}
    (plain : ∀ column ∈ columns, isWord foreign column.name.toList ∧
      reserved column.name.toList = false) {items : List Item} {text : List Char}
    (h : Spells (duckdb foreign reserved) items (' ' :: text)) :
    Spells (duckdb foreign reserved) (targets columns ++ items)
      ((if columns.isEmpty then "*" else ", ".intercalate (columns.map (·.name))).toList ++
        ' ' :: text) := by
  cases columns with
  | nil => exact (spells_symbol (by decide : isSymbol '*')).append h
  | cons column columns =>
    have each : List.Forall₂ (Opens (duckdb foreign reserved))
        ((column :: columns).map fun column => [.name column.name.toList])
        ((column :: columns).map fun column => column.name.toList) := by
      rw [List.forall₂_map_left_iff, List.forall₂_map_right_iff]
      exact List.forall₂_same.mpr fun column mem => (stands_name (plain column mem)).opens
    have whole := (opens_commas each).spells h
    simpa [targets, String.toList_intercalate, Function.comp_def] using whole

theorem opens_literal (d : Dialect) {content : List Char} (plain : '\'' ∉ content) :
    Opens d [.fixed (.literal content)] (StringLiterals.quote content) := by
  refine ⟨[.literal content], .cons (Item.matches_fixed d _) .nil, fun tail stops => ?_⟩
  have stop : tail.head? ≠ some '\'' := by
    intro first
    rcases stops _ first with same | same <;> cases same
  have read := @lex_literal d.foreign _ _ _ (takeQuoted_plain plain stop)
  simpa [StringLiterals.quote] using read

theorem spells_literal {d : Dialect} {items : List Item} {before : List Char}
    (h : Spells d items before) {content : List Char} (plain : '\'' ∉ content)
    {items' : List Item} {after : List Char} (h' : Spells d items' (' ' :: after)) :
    Spells d (items ++ .fixed (.literal content) :: items')
      (before ++ StringLiterals.quote content ++ ' ' :: after) := by
  have whole := (h.opens (opens_literal d plain)).spells h'
  rwa [List.append_assoc, List.singleton_append] at whole

theorem spells_and (d : Dialect) {column : String}
    (letters : ∀ word ∈ ["AND", column].map String.toList, isWord (fun _ => false) word) :
    Spells d (keywords ["AND", column] ++ [.fixed (.symbol '=')])
      (' ' :: ("AND ".toList ++ (column.toList ++ " = ".toList))) := by
  have whole := (((spells_space d).append (spells_keywords letters)).append
    (spells_symbol (by decide : isSymbol '='))).append (spells_space d)
  simpa using whole

theorem spells_tables (d : Dialect) :
    Spells d (keywords ["SELECT"] ++ [.fixed (.symbol '*')] ++
        keywords ["from", "information_schema"] ++ [.fixed (.symbol '.')] ++
        keywords ["tables", "WHERE", "table_schema"] ++ [.fixed (.symbol '=')])
      "SELECT * from information_schema.tables WHERE table_schema = ".toList := by
  have schema : Spells d [.fixed (.word "information_schema".toList), .fixed (.symbol '.')]
      ("information_schema".toList ++ ['.']) :=
    (stands_word (isWord_of_ascii (by decide)) (Item.matches_fixed d _)).spells
      (apart_of_symbol (by decide)) (spells_symbol (by decide : isSymbol '.'))
  have select := @spells_keywords d ["SELECT"] (by decide)
  have from' := @spells_keywords d ["from"] (by decide)
  have rest := @spells_keywords d ["tables", "WHERE", "table_schema"] (by decide)
  exact (((((select.append (spells_symbol (by decide : isSymbol '*'))).append
    (spells_space d)).append (from'.append schema)).append rest).append
    (spells_symbol (by decide : isSymbol '='))).append (spells_space d)

theorem opens_lookup (d : Dialect) {schemaName tableName : String}
    (schema : '\'' ∉ schemaName.toList) (table : '\'' ∉ tableName.toList) :
    Opens d (lookup schemaName tableName) (viewExists tableName schemaName).toList := by
  have first := spells_literal (spells_tables d) schema (@spells_and d "table_name" (by decide))
  have second := spells_literal first table (@spells_and d "table_type" (by decide))
  have whole := second.opens (@opens_literal d "VIEW".toList (by decide))
  have select : "SELECT * from information_schema.tables WHERE table_schema = '".toList =
      "SELECT * from information_schema.tables WHERE table_schema = ".toList ++ ['\''] := by decide
  have tables : "' AND table_name = '".toList =
      '\'' :: ' ' :: ("AND ".toList ++ ("table_name".toList ++ " = ".toList)) ++ ['\''] := by decide
  have views : "' AND table_type = 'VIEW'".toList =
      '\'' :: ' ' :: ("AND ".toList ++ ("table_type".toList ++ " = ".toList)) ++
        StringLiterals.quote "VIEW".toList := by decide
  unfold lookup viewExists
  simp only [String.toList_append, select, tables, views]
  simpa only [StringLiterals.quote, List.append_assoc, List.cons_append, List.nil_append]
    using whole

structure PlainNames (foreign : Char → Bool) (reserved : List Char → Bool) (t : ForeignTable)
    (columns : List Column) : Prop where
  schema : isWord foreign t.schema.toList ∧ reserved t.schema.toList = false
  table : isWord foreign t.name.toList
  columns : ∀ column ∈ columns, isWord foreign column.name.toList ∧
    reserved column.name.toList = false

theorem opens_keywords {t : ForeignTable}
    (schema : isWord foreign t.schema.toList ∧ reserved t.schema.toList = false)
    (table : isWord foreign t.name.toList) {words : List String} {before : String}
    (letters : ∀ word ∈ words.map String.toList, isWord (fun _ => false) word)
    (same : before.toList = (words.map String.toList).flatMap (· ++ [' '])) :
    Opens (duckdb foreign reserved) (keywords words ++ qualified t.schema t.name)
      (before ++ t.schema ++ "." ++ t.name).toList := by
  have h := opens_qualified (spells_keywords letters) schema table
  simpa [String.toList_append, same] using h

theorem opens_createSchema {schemaName : String}
    (schema : isWord foreign schemaName.toList ∧ reserved schemaName.toList = false) :
    Opens (duckdb foreign reserved) (keywords ["CREATE", "SCHEMA", "IF", "NOT", "EXISTS"] ++
      [.name schemaName.toList]) (createSchema schemaName).toList := by
  have keyword := @spells_keywords (duckdb foreign reserved)
    ["CREATE", "SCHEMA", "IF", "NOT", "EXISTS"] (by decide)
  have same : "CREATE SCHEMA IF NOT EXISTS ".toList = (["CREATE", "SCHEMA", "IF", "NOT",
    "EXISTS"].map String.toList).flatMap (· ++ [' ']) := by decide
  have h := keyword.opens (stands_name schema).opens
  rwa [← same, ← String.toList_append] at h

theorem opens_scanHead {t : ForeignTable} {columns : List Column}
    (h : PlainNames foreign reserved t columns) :
    Opens (duckdb foreign reserved) (keywords ["SELECT"] ++ targets columns ++ keywords ["FROM"] ++
      qualified t.schema t.name) (scanHead t columns).toList := by
  have select := @spells_keywords (duckdb foreign reserved) ["SELECT"] (by decide)
  have from' : Spells (duckdb foreign reserved) (keywords ["FROM"])
      (' ' :: (["FROM"].map String.toList).flatMap (· ++ [' '])) :=
    (spells_space _).append (@spells_keywords _ ["FROM"] (by decide))
  have whole := opens_qualified (select.append (spells_targets h.columns from')) h.schema h.table
  have first : "SELECT ".toList = (["SELECT"].map String.toList).flatMap (· ++ [' ']) := by decide
  have second : " FROM ".toList =
    ' ' :: (["FROM"].map String.toList).flatMap (· ++ [' ']) := by decide
  have dot : ".".toList = ['.'] := rfl
  unfold scanHead
  simp only [String.toList_append, first, second, dot]
  simpa only [List.append_assoc, List.cons_append, List.nil_append] using whole

theorem kept_of_plain {t : ForeignTable} {columns : List Column}
    (h : PlainNames foreign reserved t columns) :
    NamesKept (duckdb foreign reserved) t columns where
  createSchema := (opens_createSchema h.schema).reads_whole
  createView := by
    intro r tableOptions text built
    obtain ⟨tail, same, blank⟩ := createView_head built
    rw [same]
    exact (opens_keywords h.schema h.table (by decide) (by decide)).reads blank
  dropView := (opens_keywords h.schema h.table (by decide) (by decide)).reads_whole
  describe := (opens_keywords h.schema h.table (by decide) (by decide)).reads_whole
  viewExists := (opens_lookup _ (notMem_of_isWord rfl h.schema.1)
    (notMem_of_isWord rfl h.table)).reads_whole
  scan := by
    rintro request rfl
    obtain ⟨tail, same, blank⟩ := scanSql_eq t request
    rw [same]
    exact (opens_scanHead h).reads blank

theorem plain_name {n : List Char} (h : (Item.name n).Plain (duckdb foreign reserved)) :
    isWord foreign n ∧ reserved n = false := by
  obtain ⟨word, letters, rfl, free⟩ := h
  exact ⟨letters, free⟩

theorem plain_part {n : List Char} (h : (Item.part n).Plain (duckdb foreign reserved)) :
    isWord foreign n := by
  obtain ⟨word, letters, rfl⟩ := h
  exact letters

theorem count_targets (columns : List Column) :
    (if columns.isEmpty then "*" else ", ".intercalate (columns.map (·.name))).toList.count '"' =
      ((targets columns).map Item.quotes).sum := by
  cases columns with
  | nil => rfl
  | cons column columns =>
    have each := @count_intercalate Column (fun column => column.name.toList)
      (fun column => [.name column.name.toList]) (column :: columns) fun column _ => by
        simp [Item.quotes]
    simpa [targets, String.toList_intercalate, Function.comp_def] using each

theorem mem_targets {columns : List Column} {column : Column} (mem : column ∈ columns) :
    Item.name column.name.toList ∈ targets columns := by
  obtain ⟨first, rest, rfl⟩ := List.exists_cons_of_ne_nil (List.ne_nil_of_mem mem)
  have form := List.mem_map_of_mem (f := fun column : Column => [Item.name column.name.toList]) mem
  exact mem_commas form (List.mem_singleton_self _)

theorem scanSql_bare (t : ForeignTable) (columns : List Column) :
    scanSql t ⟨[], columns, [], none⟩ = scanHead t columns := by
  have parts : scanSql t ⟨[], columns, [], none⟩ = scanHead t columns ++ "" ++ "" ++ "" := rfl
  rw [parts, String.append_empty, String.append_empty, String.append_empty]

theorem plain_of_kept {t : ForeignTable} {columns : List Column}
    (h : NamesKept (duckdb foreign reserved) t columns) :
    PlainNames foreign reserved t columns := by
  have described : ∀ item ∈ keywords ["DESCRIBE"] ++ qualified t.schema t.name,
      item.Plain (duckdb foreign reserved) := by
    refine plain_of_reads h.describe ?_
    have fixed : "DESCRIBE ".toList.count '"' = 0 ∧ ".".toList.count '"' = 0 := by decide
    unfold describe
    simp only [String.toList_append, List.count_append, List.map_append, List.sum_append, fixed,
      quotes_keywords, quotes_qualified]
    omega
  have scanned : ∀ item ∈ keywords ["SELECT"] ++ targets columns ++ keywords ["FROM"] ++
      qualified t.schema t.name, item.Plain (duckdb foreign reserved) := by
    have read := h.scan ⟨[], columns, [], none⟩ rfl
    rw [scanSql_bare] at read
    refine plain_of_reads read ?_
    have fixed : "SELECT ".toList.count '"' = 0 ∧ " FROM ".toList.count '"' = 0 ∧
      ".".toList.count '"' = 0 := by decide
    unfold scanHead
    simp only [String.toList_append, List.count_append, List.map_append, List.sum_append, fixed,
      quotes_keywords, quotes_qualified, count_targets]
    omega
  refine ⟨plain_name (described _ (by simp [qualified])),
    plain_part (described _ (by simp [qualified])), fun column mem => plain_name (scanned _ ?_)⟩
  simp [mem_targets mem]

/-- The names of a table survive in every statement exactly when they are words that
are not reserved. -/
theorem names_kept_iff (foreign : Char → Bool) (reserved : List Char → Bool) (t : ForeignTable)
    (columns : List Column) :
    NamesKept (duckdb foreign reserved) t columns ↔ PlainNames foreign reserved t columns :=
  ⟨plain_of_kept, kept_of_plain⟩

def named (column : String) : ForeignTable × List Column :=
  (⟨"public", "trips", "files", .parquet, [("files", "/data/trips.parquet")]⟩,
    [⟨column, INT4OID⟩])

theorem count_column_not_kept :
    ¬ NamesKept (duckdb (fun _ => false) fun _ => false) (named "count(*)").1
      (named "count(*)").2 := by
  intro kept
  have word := ((plain_of_kept kept).columns ⟨"count(*)", INT4OID⟩ (by decide)).1
  exact absurd word (by decide)

end PgAnalytics.NameStatements
