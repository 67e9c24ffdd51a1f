import Mathlib.Data.List.Forall2
import PgAnalytics.DatafusionReader
import PgAnalytics.LakehouseHook
import PgAnalytics.StatementForms

/-! `SELECT *` over several foreign tables, taken by DataFusion as a whole. Postgres expects
the declared columns of every table in turn, DataFusion answers the columns of their files, and
the executor hook reads the answer by position; the foreign scans read each table by itself. -/

namespace PgAnalytics.JoinedColumns
open Basics (Fault)
open DatafusionReader (Conversions DataTypeError readValue readValue_null)
open DatafusionScan (Column Entry FieldArray RecordBatch readEntry readRow readRowFrom
  readRowFrom_eq)
open RecordBatches (INT4OID Oid Tuple)
open SchemaProvider (Field Relation TableProvider)
open StatementForms (exists_of_forall₂)

variable {σ Cell : Type}

structure ForeignTable where
  relation : Relation
  declared : List Column
  declares : relation.attributes = declared.map fun column => ⟨column.name, column.typeOid⟩
  provider : TableProvider
  reads : provider.Reads relation
  covered : declared.length ≤ provider.schema.length

structure EntryOf (field : Field) (entry : Entry CellReader.DataType σ) : Prop where
  name : entry.name = field.name
  dataType : entry.dataType = field.dataType
  present : entry.value.isSome

def RowOf (table : ForeignTable) (row : List (Entry CellReader.DataType σ)) : Prop :=
  List.Forall₂ EntryOf table.provider.schema row

section Reading

-- the conversion of a value to a type of Postgres
variable (convert : CellReader.DataType → Option σ → Oid → Int32 → Except Fault (Option Cell))

/-- The tuple of a joined row, as the foreign scans of the tables read their rows of it. -/
def readEach : List ForeignTable → List (List (Entry CellReader.DataType σ)) →
    Except Fault (Tuple Cell)
  | table :: tables, row :: rows => do
    let cells ← readRow convert table.declared row
    let others ← readEach tables rows
    return cells ++ others
  | _, _ => .ok []

/-- For every joined row of the tables, the executor hook reads of DataFusion's answer what the
foreign scans read. -/
def Agree (tables : List ForeignTable) : Prop :=
  ∀ rows, List.Forall₂ RowOf tables rows →
    ∀ (batch : RecordBatch CellReader.DataType σ) (index : ℕ), batch.row index = rows.flatten →
      readRowFrom convert batch index (tables.flatMap ForeignTable.declared) 0 =
        readEach convert tables rows

def Tells (field : Field) (column : Column) : Prop :=
  ∃ (v w : Option σ) (x y : Option Cell),
    convert field.dataType v column.typeOid column.typeMod = .ok x ∧
    convert field.dataType w column.typeOid column.typeMod = .ok y ∧ x ≠ y

def Telling (table : ForeignTable) : Prop :=
  ∀ (i : ℕ) field column, table.provider.schema[i]? = some field →
    table.declared[i]? = some column → Tells convert field column

end Reading

/-- Every table that others with columns come after declares all columns of its files. -/
def Aligned : List ForeignTable → Prop
  | [] => True
  | table :: tables =>
    ((∃ later ∈ tables, later.declared ≠ []) →
      table.declared.length = table.provider.schema.length) ∧ Aligned tables

variable {convert : CellReader.DataType → Option σ → Oid → Int32 → Except Fault (Option Cell)}

theorem readRow_append {columns : List Column} {row : List (Entry CellReader.DataType σ)}
    (same : columns.length = row.length) (later : List Column)
    (rest : List (Entry CellReader.DataType σ)) :
    readRow convert (columns ++ later) (row ++ rest) = (do
      let cells ← readRow convert columns row
      let others ← readRow convert later rest
      return cells ++ others) := by
  induction columns generalizing row with
  | nil =>
    cases row with
    | nil =>
      rw [List.nil_append, List.nil_append, readRow]
      cases readRow convert later rest <;> rfl
    | cons entry row => cases same
  | cons column columns ih =>
    cases row with
    | nil => cases same
    | cons entry row =>
      rw [List.cons_append, List.cons_append, readRow, readRow, ih (Nat.succ.inj same)]
      cases readEntry convert entry column with
      | error fault => rfl
      | ok cell =>
        cases readRow convert columns row with
        | error fault => rfl
        | ok cells => cases readRow convert later rest <;> rfl

theorem readRow_of_le {columns : List Column} {row : List (Entry CellReader.DataType σ)}
    (le : columns.length ≤ row.length) (rest : List (Entry CellReader.DataType σ)) :
    readRow convert columns (row ++ rest) = readRow convert columns row := by
  induction columns generalizing row with
  | nil => rfl
  | cons column columns ih =>
    cases row with
    | nil => cases le
    | cons entry row =>
      rw [List.cons_append, readRow, readRow, ih (Nat.le_of_succ_le_succ le)]

theorem readRow_cons_eq_ok {column : Column} {columns : List Column}
    {entry : Entry CellReader.DataType σ} {row : List (Entry CellReader.DataType σ)}
    {cells : Tuple Cell} :
    readRow convert (column :: columns) (entry :: row) = .ok cells ↔
      ∃ cell others, readEntry convert entry column = .ok cell ∧
        readRow convert columns row = .ok others ∧ cells = cell :: others := by
  rw [readRow]
  cases readEntry convert entry column with
  | error fault => simp [bind, Except.bind]
  | ok cell =>
    cases readRow convert columns row with
    | error fault => simp [bind, Except.bind]
    | ok others => simp [bind, Except.bind, pure, Except.pure, eq_comm]

theorem readRow_getElem? {columns : List Column} {row : List (Entry CellReader.DataType σ)}
    {cells : Tuple Cell} (read : readRow convert columns row = .ok cells) {i : ℕ} {column : Column}
    (at' : columns[i]? = some column) :
    ∃ entry cell, row[i]? = some entry ∧ readEntry convert entry column = .ok cell ∧
      cells[i]? = some cell := by
  induction columns generalizing row cells i with
  | nil => cases at'
  | cons first columns ih =>
    cases row with
    | nil => cases read
    | cons entry row =>
      obtain ⟨cell, others, here, later, rfl⟩ := readRow_cons_eq_ok.mp read
      cases i with
      | zero =>
        cases at'
        exact ⟨entry, cell, rfl, here, rfl⟩
      | succ i => exact ih later at'

theorem length_readRow {columns : List Column} {row : List (Entry CellReader.DataType σ)}
    {cells : Tuple Cell} (read : readRow convert columns row = .ok cells) :
    cells.length = columns.length := by
  induction columns generalizing row cells with
  | nil =>
    cases read
    rfl
  | cons column columns ih =>
    cases row with
    | nil => cases read
    | cons entry row =>
      obtain ⟨cell, others, -, later, rfl⟩ := readRow_cons_eq_ok.mp read
      exact congrArg Nat.succ (ih later)

def Field.entry (field : Field) (value : Option σ) : Entry CellReader.DataType σ :=
  ⟨field.name, field.dataType, some value⟩

theorem entryOf_entry (field : Field) (value : Option σ) :
    EntryOf field (Field.entry field value) :=
  ⟨rfl, rfl, rfl⟩

theorem exists_row {fields : List Field} {columns : List Column}
    (covered : columns.length ≤ fields.length)
    (tells : ∀ (i : ℕ) field column, fields[i]? = some field → columns[i]? = some column →
      Tells convert field column) :
    ∃ row cells, List.Forall₂ EntryOf fields row ∧ readRow convert columns row = .ok cells := by
  induction fields generalizing columns with
  | nil =>
    obtain rfl := List.length_eq_zero_iff.mp (Nat.le_zero.mp covered)
    exact ⟨[], [], .nil, rfl⟩
  | cons field fields ih =>
    cases columns with
    | nil =>
      obtain ⟨row, -, typed, -⟩ := @ih [] (Nat.zero_le _) nofun
      exact ⟨Field.entry field none :: row, [], .cons (entryOf_entry _ _) typed, rfl⟩
    | cons column columns =>
      obtain ⟨row, cells, typed, read⟩ := ih (Nat.le_of_succ_le_succ covered)
        (fun i => by simpa using tells (i + 1))
      obtain ⟨v, -, x, -, held, -⟩ := tells 0 field column rfl rfl
      exact ⟨Field.entry field v :: row, x :: cells, .cons (entryOf_entry _ _) typed,
        readRow_cons_eq_ok.mpr ⟨x, cells, held, read, rfl⟩⟩

theorem exists_two_rows {fields : List Field} {column : Column} {columns : List Column}
    (covered : (column :: columns).length ≤ fields.length)
    (tells : ∀ (i : ℕ) field other, fields[i]? = some field →
      (column :: columns)[i]? = some other → Tells convert field other) :
    ∃ row row' x y cells, List.Forall₂ EntryOf fields row ∧ List.Forall₂ EntryOf fields row' ∧
      readRow convert (column :: columns) row = .ok (x :: cells) ∧
      readRow convert (column :: columns) row' = .ok (y :: cells) ∧ x ≠ y := by
  cases fields with
  | nil => cases covered
  | cons field fields =>
    obtain ⟨row, cells, typed, read⟩ := exists_row (Nat.le_of_succ_le_succ covered)
      (fun i => by simpa using tells (i + 1))
    obtain ⟨v, w, x, y, first, second, differ⟩ := tells 0 field column rfl rfl
    exact ⟨Field.entry field v :: row, Field.entry field w :: row, x, y, cells,
      .cons (entryOf_entry _ _) typed, .cons (entryOf_entry _ _) typed,
      readRow_cons_eq_ok.mpr ⟨x, cells, first, read, rfl⟩,
      readRow_cons_eq_ok.mpr ⟨y, cells, second, read, rfl⟩, differ⟩

theorem exists_rows {tables : List ForeignTable}
    (telling : ∀ table ∈ tables, Telling convert table) :
    ∃ rows cells, List.Forall₂ RowOf tables rows ∧ readEach convert tables rows = .ok cells := by
  induction tables with
  | nil => exact ⟨[], [], .nil, rfl⟩
  | cons table tables ih =>
    obtain ⟨here, later⟩ := List.forall_mem_cons.mp telling
    obtain ⟨rows, cells, typed, read⟩ := ih later
    obtain ⟨row, first, typed', read'⟩ := exists_row table.covered here
    exact ⟨row :: rows, first ++ cells, .cons typed' typed, by
      rw [readEach, read', read]; rfl⟩

theorem exists_two {tables : List ForeignTable}
    (telling : ∀ table ∈ tables, Telling convert table)
    (some' : ∃ table ∈ tables, table.declared ≠ []) :
    ∃ rows rows' x y cells, List.Forall₂ RowOf tables rows ∧ List.Forall₂ RowOf tables rows' ∧
      readEach convert tables rows = .ok (x :: cells) ∧
      readEach convert tables rows' = .ok (y :: cells) ∧ x ≠ y := by
  induction tables with
  | nil =>
    obtain ⟨_, mem, -⟩ := some'
    cases mem
  | cons table tables ih =>
    obtain ⟨here, later⟩ := List.forall_mem_cons.mp telling
    cases declared : table.declared with
    | nil =>
      obtain ⟨row, none, typed, read⟩ := exists_row table.covered here
      rw [declared] at read
      cases read
      have rest : ∃ table ∈ tables, table.declared ≠ [] := by
        obtain ⟨other, mem, columns⟩ := some'
        rcases List.mem_cons.mp mem with rfl | mem
        · exact absurd declared columns
        · exact ⟨other, mem, columns⟩
      obtain ⟨rows, rows', x, y, cells, typed₁, typed₂, read₁, read₂, differ⟩ := ih later rest
      refine ⟨row :: rows, row :: rows', x, y, cells, .cons typed typed₁, .cons typed typed₂,
        ?_, ?_, differ⟩
      · rw [readEach, declared, read₁]; rfl
      · rw [readEach, declared, read₂]; rfl
    | cons column columns =>
      have covered := table.covered
      rw [declared] at covered
      obtain ⟨row, row', x, y, cells, typed₁, typed₂, read₁, read₂, differ⟩ :=
        exists_two_rows covered (by simpa [Telling, declared] using here)
      obtain ⟨rows, others, typed, read⟩ := exists_rows later
      refine ⟨row :: rows, row' :: rows, x, y, cells ++ others, .cons typed₁ typed,
        .cons typed₂ typed, ?_, ?_, differ⟩
      · rw [readEach, declared, read₁, read]; rfl
      · rw [readEach, declared, read₂, read]; rfl

theorem length_rowOf {table : ForeignTable} {row : List (Entry CellReader.DataType σ)}
    (typed : RowOf table row) : row.length = table.provider.schema.length :=
  typed.length_eq.symm

def oneRow (row : List (Entry CellReader.DataType σ)) : RecordBatch CellReader.DataType σ where
  columns := row.map fun entry => ⟨entry.name, entry.dataType, [entry.value.getD none]⟩
  numRows := 1
  lengths array mem := by
    obtain ⟨entry, -, rfl⟩ := List.mem_map.mp mem
    rfl

theorem row_oneRow {row : List (Entry CellReader.DataType σ)}
    (present : ∀ entry ∈ row, entry.value.isSome) : (oneRow row).row 0 = row := by
  rw [RecordBatch.row, oneRow, List.map_map]
  refine (List.map_congr_left fun entry mem => ?_).trans (List.map_id row)
  obtain ⟨value, held⟩ := Option.isSome_iff_exists.mp (present entry mem)
  obtain ⟨name, dataType, _⟩ := entry
  cases held
  rfl

theorem agree_iff {tables : List ForeignTable} :
    Agree convert tables ↔ ∀ rows, List.Forall₂ RowOf tables rows →
      readRow convert (tables.flatMap ForeignTable.declared) rows.flatten =
        readEach convert tables rows := by
  constructor
  · intro agree rows typed
    have present : ∀ entry ∈ rows.flatten, entry.value.isSome := by
      intro entry mem
      obtain ⟨row, listed, mem⟩ := List.mem_flatten.mp mem
      obtain ⟨table, -, ofTable⟩ := exists_of_forall₂ typed.flip listed
      obtain ⟨field, -, ofField⟩ := exists_of_forall₂ (List.Forall₂.flip ofTable) mem
      exact ofField.present
    have read := agree rows typed (oneRow rows.flatten) 0 (row_oneRow present)
    rwa [readRowFrom_eq, row_oneRow present] at read
  · intro agree rows typed batch index whole
    rw [readRowFrom_eq, whole]
    exact agree rows typed

theorem readEach_of_none {tables : List ForeignTable}
    {rows : List (List (Entry CellReader.DataType σ))}
    (none : ∀ table ∈ tables, table.declared = []) : readEach convert tables rows = .ok [] := by
  induction tables generalizing rows with
  | nil => rfl
  | cons table tables ih =>
    obtain ⟨here, later⟩ := List.forall_mem_cons.mp none
    cases rows with
    | nil => rfl
    | cons row rows =>
      rw [readEach, here, ih later]
      rfl

/-- Where a table declares less than its files have, a later column is read from it. -/
theorem length_of_agree {table : ForeignTable} {tables : List ForeignTable}
    (telling : ∀ other ∈ table :: tables, Telling convert other)
    (agree : Agree convert (table :: tables))
    (columns : ∃ later ∈ tables, later.declared ≠ []) :
    table.declared.length = table.provider.schema.length := by
  by_contra drift
  have less := Nat.lt_of_le_of_ne table.covered drift
  obtain ⟨here, later⟩ := List.forall_mem_cons.mp telling
  obtain ⟨row, cells, typed, read⟩ := exists_row table.covered here
  obtain ⟨rows, rows', x, y, others, typed₁, typed₂, read₁, read₂, differ⟩ :=
    exists_two later columns
  obtain ⟨column, first⟩ : ∃ column, (tables.flatMap ForeignTable.declared)[0]? = some column := by
    obtain ⟨other, mem, columns⟩ := columns
    refine ⟨_, List.getElem?_eq_getElem (List.length_pos_iff.mpr fun none => columns ?_)⟩
    exact List.flatMap_eq_nil_iff.mp none other mem
  have at' : ((table :: tables).flatMap ForeignTable.declared)[table.declared.length]? =
      some column := by
    rw [List.flatMap_cons, List.getElem?_append_right (Nat.le_refl _), Nat.sub_self, first]
  -- The cell after those of the table, of a row that is read, is a cell of the same table.
  have same : ∀ rows cell, List.Forall₂ RowOf tables rows →
      readEach convert tables rows = .ok (cell :: others) →
      ∃ entry, row[table.declared.length]? = some entry ∧
        readEntry convert entry column = .ok cell := by
    intro rows cell typed' read'
    have whole := agree_iff.mp agree (row :: rows) (.cons typed typed')
    rw [readEach, read, read'] at whole
    obtain ⟨entry, cell', found, converted, placed⟩ := readRow_getElem? whole at'
    rw [List.flatten_cons, List.getElem?_append_left (by rw [length_rowOf typed]; exact less)]
      at found
    have after := length_readRow read
    rw [List.getElem?_append_right (Nat.le_of_eq after), after, Nat.sub_self] at placed
    cases placed
    exact ⟨entry, found, converted⟩
  obtain ⟨entry, found, converted⟩ := same rows x typed₁ read₁
  obtain ⟨entry', found', converted'⟩ := same rows' y typed₂ read₂
  cases found.symm.trans found'
  cases converted.symm.trans converted'
  exact differ rfl

theorem agree_cons_iff {table : ForeignTable} {tables : List ForeignTable}
    (telling : Telling convert table)
    (whole : table.declared.length = table.provider.schema.length) :
    Agree convert (table :: tables) ↔ Agree convert tables := by
  rw [agree_iff, agree_iff]
  have split : ∀ row rows, RowOf table row →
      readRow convert ((table :: tables).flatMap ForeignTable.declared) (row :: rows).flatten =
        (do
          let cells ← readRow convert table.declared row
          let others ← readRow convert (tables.flatMap ForeignTable.declared) rows.flatten
          return cells ++ others) := by
    intro row rows typed
    rw [List.flatMap_cons, List.flatten_cons]
    exact readRow_append (whole.trans (length_rowOf typed).symm) _ _
  constructor
  · intro agree rows typed
    obtain ⟨row, cells, typed', read⟩ := exists_row table.covered telling
    have both := agree (row :: rows) (.cons typed' typed)
    rw [split row rows typed', readEach, read] at both
    generalize readRow convert (tables.flatMap ForeignTable.declared) rows.flatten = fast at both ⊢
    generalize readEach convert tables rows = slow at both ⊢
    cases fast <;> cases slow <;> simp_all [bind, Except.bind, pure, Except.pure]
  · intro agree rows typed
    obtain ⟨row, rest, typed', later, rfl⟩ := List.forall₂_cons_left_iff.mp typed
    rw [split row rest typed', readEach, agree rest later]

theorem agree_iff_of_telling {tables : List ForeignTable}
    (telling : ∀ table ∈ tables, Telling convert table) :
    Agree convert tables ↔ Aligned tables := by
  induction tables with
  | nil => exact iff_of_true (agree_iff.mpr fun rows typed => by cases typed; rfl) trivial
  | cons table tables ih =>
    obtain ⟨here, later⟩ := List.forall_mem_cons.mp telling
    rw [Aligned, ← ih later]
    by_cases columns : ∃ other ∈ tables, other.declared ≠ []
    · constructor
      · intro agree
        have whole := length_of_agree telling agree columns
        exact ⟨fun _ => whole, (agree_cons_iff here whole).mp agree⟩
      · rintro ⟨whole, agree⟩
        exact (agree_cons_iff here (whole columns)).mpr agree
    · have none : ∀ other ∈ tables, other.declared = [] := by
        intro other mem
        by_contra some'
        exact columns ⟨other, mem, some'⟩
      have noColumns : tables.flatMap ForeignTable.declared = [] := List.flatMap_eq_nil_iff.mpr none
      refine iff_of_true (agree_iff.mpr fun rows typed => ?_)
        ⟨fun some' => absurd some' columns, agree_iff.mpr fun rows _ => ?_⟩
      · obtain ⟨row, rest, typed', -, rfl⟩ := List.forall₂_cons_left_iff.mp typed
        have covered : table.declared.length ≤ row.length := by
          rw [length_rowOf typed']
          exact table.covered
        rw [List.flatMap_cons, noColumns, List.append_nil, List.flatten_cons,
          readRow_of_le covered, readEach, readEach_of_none none]
        cases readRow convert table.declared row with
        | error fault => rfl
        | ok cells => exact congrArg Except.ok (List.append_nil cells).symm
      · rw [noColumns, readEach_of_none none]
        rfl

section Reader

-- the texts of the errors
variable (describe : DataTypeError → String) (conversions : Conversions σ Cell)

/-- `get_cell`, of an entry of a column; it makes no use of the type modifier. -/
def readCell (t : CellReader.DataType) (value : Option σ) (oid : Oid) (_ : Int32) :
    Except Fault (Option Cell) :=
  (readValue conversions t (value.elim .null .single) oid).mapError fun
    | .error error => .error (describe error)
    | .panic array => .panic array

/-- Of every declared column some value can be read. -/
def Legible (table : ForeignTable) : Prop :=
  ∀ (i : ℕ) field column, table.provider.schema[i]? = some field →
    table.declared[i]? = some column →
      ∃ value cell, readValue conversions field.dataType (.single value) column.typeOid =
        .ok (some cell)

variable {describe conversions}

theorem Legible.telling {table : ForeignTable} (legible : Legible conversions table) :
    Telling (readCell describe conversions) table := by
  intro i field column at' declared
  obtain ⟨value, cell, read⟩ := legible i field column at' declared
  have listed : table.relation.attributes[i]? = some ⟨column.name, column.typeOid⟩ := by
    rw [table.declares, List.getElem?_map, declared]
    rfl
  have null := readValue_null (table.reads.columns i field _ at' listed) read
  refine ⟨none, some value, none, some cell, ?_, ?_, nofun⟩
  · exact congrArg (Except.mapError _) null
  · exact congrArg (Except.mapError _) read

/-- The executor hook reads of DataFusion's answer what the foreign scans of the tables read
exactly when every table declares all columns of its files, but for the last that has any. -/
theorem agree_iff_aligned {tables : List ForeignTable}
    (legible : ∀ table ∈ tables, Legible conversions table) :
    Agree (readCell describe conversions) tables ↔ Aligned tables :=
  agree_iff_of_telling fun table mem => (legible table mem).telling

end Reader

/-- A table of which one column is declared, and whose files have these. -/
def tripIds (others : List Field) : ForeignTable where
  relation := ⟨16400, .s3, [("path", "s3://trips"), ("extension", "parquet")], [], [],
    [⟨"id", INT4OID⟩]⟩
  declared := [⟨"id", INT4OID, -1⟩]
  declares := rfl
  provider := ⟨"s3://trips", .parquet, ⟨"id", .int32⟩ :: others⟩
  reads := {
    path := rfl
    extension := ⟨"parquet", rfl, rfl⟩
    columns := by
      rintro (_ | i) field pgAttribute at' listed
      · cases at'
        cases listed
        rfl
      · cases listed }
  covered := Nat.succ_le_succ (Nat.zero_le _)

theorem legible_tripIds (others : List Field) :
    Legible DatafusionReader.accepting (tripIds others) := by
  rintro (_ | i) field column at' declared
  · cases at'
    cases declared
    exact ⟨(), (), rfl⟩
  · cases declared

theorem agree_iff_aligned_tripIds :
    ¬ Agree (readCell (fun _ => "") DatafusionReader.accepting)
        [tripIds [⟨"fare", .int32⟩], tripIds [⟨"fare", .int32⟩]] ∧
      Agree (readCell (fun _ => "") DatafusionReader.accepting)
        [tripIds [], tripIds [⟨"fare", .int32⟩]] := by
  have legible : ∀ others others' : List Field, ∀ table ∈ [tripIds others, tripIds others'],
      Legible DatafusionReader.accepting table := fun others others' =>
    List.forall_mem_cons.mpr ⟨legible_tripIds others,
      List.forall_mem_singleton.mpr (legible_tripIds others')⟩
  constructor
  · intro agree
    have aligned := ((agree_iff_aligned (legible _ _)).mp agree).1
    exact absurd (aligned ⟨_, List.mem_singleton_self _, by decide⟩) (by decide)
  · exact (agree_iff_aligned (legible _ _)).mpr
      ⟨fun _ => rfl, fun later => by simp at later, trivial⟩

end PgAnalytics.JoinedColumns
