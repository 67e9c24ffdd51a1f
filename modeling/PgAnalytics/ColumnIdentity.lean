import Mathlib.Data.List.Perm.Subperm
import PgAnalytics.ScanDelivery

/-! `SELECT * FROM t` on the two paths. The executor hook sends the text as it
is, so that DuckDB answers the columns of the view in the view's order; the
foreign scan asks for the declared columns by name. Both then read the answer
by position under the declared names and types. -/

namespace PgAnalytics.ColumnIdentity
open Basics Commands NameTables DuckdbCatalog ForeignTables RecordBatches ArrowReader
open BatchCursor BaseFdw QueryHook Executor ScanDelivery

variable {κ : Type} [DecidableEq κ] {fold : String → κ}
variable {ArrayRef Cell : Type} [GetCell ArrayRef Cell]

structure TableShape (ArrayRef : Type) {Cell : Type} [GetCell ArrayRef Cell] where
  table : ForeignTable
  handlerName : String
  handled : FdwHandler.ofName handlerName ≠ .other
  view : List (String × GetCell.DataType ArrayRef)
  declared : List Column
  viewNodup : (view.map Prod.fst).Nodup
  declaredNodup : (declared.map (·.name)).Nodup
  declaredInView : ∀ name ∈ declared.map (·.name), name ∈ view.map Prod.fst

structure Content (t : TableShape ArrayRef) where
  result : QueryResult ArrayRef
  typed : ∀ batch ∈ result.batches, batch.columns.map GetCell.dataType = t.view.map Prod.snd

def columnNamed (t : TableShape ArrayRef) (batch : RecordBatch ArrayRef) (name : String) :
    Option ArrayRef :=
  ((t.view.map Prod.fst).zip batch.columns).lookup name

def selectNamed (t : TableShape ArrayRef) (names : List String) (batch : RecordBatch ArrayRef) :
    RecordBatch ArrayRef where
  columns := names.filterMap (columnNamed t batch)
  numRows := batch.numRows
  lengths := by
    intro array h
    obtain ⟨name, -, found⟩ := List.mem_filterMap.mp h
    have pair := List.lookup_eq_some_iff.mp found
    obtain ⟨before, after, zip, -⟩ := pair
    have member : (name, array) ∈ (t.view.map Prod.fst).zip batch.columns := by simp [zip]
    exact batch.lengths array (List.of_mem_zip member).2

/-- DuckDB's answer to the scan's own SQL, which lists the target columns. -/
def scanAnswer (t : TableShape ArrayRef) (content : Content t) : QueryResult ArrayRef :=
  if t.declared.isEmpty then
    content.result
  else
    { batches := content.result.batches.map (selectNamed t (t.declared.map (·.name)))
      nonempty := by
        intro batch h
        obtain ⟨whole, hw, rfl⟩ := List.mem_map.mp h
        exact content.result.nonempty whole hw }

def scanRequest (t : TableShape ArrayRef) : ScanRequest := ⟨[], t.declared, [], none⟩

def selectAllText (t : TableShape ArrayRef) : List Char :=
  "SELECT * FROM ".toList ++ t.table.name.toList

def selectAll (t : TableShape ArrayRef) : PushableQuery where
  desc :=
    { stmtLocation := 0, stmtLen := 0
      rtable := some [.relation ⟨true, t.handlerName⟩]
      operation := .select
      sourceText := .utf8 (selectAllText t)
      tupDesc := t.declared
      dest := ⟨true, true, true⟩ }
  text := selectAllText t
  current := getCurrentQuery_whole _
  pushed := by
    have duckdb :
        isDuckdbQuery (getQueryRelations (some [.relation ⟨true, t.handlerName⟩])) = true := by
      simp [isDuckdbQuery, getQueryRelations, t.handled]
    have copy : startsWith "copy" (selectAllText t) = false := rfl
    have create : startsWith "create" (selectAllText t) = false := rfl
    have prepare : startsWith "prepare" (selectAllText t) = false := rfl
    rw [leftToPostgres, duckdb, copy, create, prepare]
    rfl
  startup := rfl
  receive := rfl
  shutdown := rfl

/-- The scan that `begin_scan_impl` leaves for the table. -/
def Begins (t : TableShape ArrayRef) (duck : Duckdb fold) (scan : FdwScan ArrayRef) : Prop :=
  ∃ (engine : Engine) (userMapping : Options) (oid : String) (duck' : Duckdb fold),
    exec (beginScanImpl engine (some oid) (fun _ => .ok t.table) (scanRequest t))
      (({ userMappingOptions := userMapping } : FdwScan ArrayRef), duck) = (.ok (), scan, duck')

/-- For every content of the view the two paths deliver the same rows, or fail alike. -/
def Agree (fold : String → κ) (t : TableShape ArrayRef) : Prop :=
  ∀ (content : Content t) (pgSearchPath : List String) (args : RunArgs)
    (b : Backend fold ArrayRef) (scan : FdwScan ArrayRef) (fuel : ℕ), Begins t b.duck scan →
    (content.result.batches.map RecordBatch.numRows).sum < fuel →
      drain (.answered (scanAnswer t content)) fuel (scan, b.globals) =
        some (pushdownDelivery (selectAll t) content.result pgSearchPath args b)

def InViewOrder (t : TableShape ArrayRef) : Prop :=
  t.declared.map (·.name) <+: t.view.map Prod.fst

/-- Every column can hold either of two entries, such as null and a value, which
the cell reader tells apart under the declared type. -/
def Readable (t : TableShape ArrayRef) : Prop :=
  ∀ column ∈ t.view, ∃ a b : ArrayRef,
    (GetCell.dataType a = column.2 ∧ GetCell.len a = 1) ∧
    (GetCell.dataType b = column.2 ∧ GetCell.len b = 1) ∧
    ∀ c ∈ t.declared, c.name = column.1 → ∃ x y,
      GetCell.getCell a 0 c.typeOid c.name = .ok x ∧
      GetCell.getCell b 0 c.typeOid c.name = .ok y ∧ x ≠ y

theorem getElem?_filterMap_of_isSome {α β : Type} {g : α → Option β} {l : List α}
    (total : ∀ a ∈ l, (g a).isSome) (i : ℕ) : (l.filterMap g)[i]? = l[i]?.bind g := by
  induction l generalizing i with
  | nil => rfl
  | cons a l ih =>
    obtain ⟨b, hb⟩ := Option.isSome_iff_exists.mp (total a List.mem_cons_self)
    rw [List.filterMap_cons_some hb]
    cases i with
    | zero => simp [hb]
    | succ i => simpa using ih (fun a h => total a (List.mem_cons_of_mem _ h)) i

theorem lookup_zip {α β : Type} [DecidableEq α] {keys : List α} {values : List β}
    (nodup : keys.Nodup) (length : keys.length = values.length) {i : ℕ} {key : α}
    (at' : keys[i]? = some key) : (keys.zip values).lookup key = values[i]? := by
  induction keys generalizing values i with
  | nil => cases at'
  | cons first keys ih =>
    cases values with
    | nil => cases length
    | cons value values =>
      obtain ⟨fresh, nodup⟩ := List.nodup_cons.mp nodup
      cases i with
      | zero =>
        cases at'
        simp
      | succ i =>
        have later : keys[i]? = some key := by simpa using at'
        have differ : (key == first) = false := by
          simp only [beq_eq_false_iff_ne]
          rintro rfl
          exact fresh (List.mem_of_getElem? later)
        simpa [List.lookup_cons, differ] using ih nodup (by simpa using length) later

def Fits (t : TableShape ArrayRef) (batch : RecordBatch ArrayRef) : Prop :=
  t.view.length = batch.columns.length

theorem columnNamed_at {t : TableShape ArrayRef} {batch : RecordBatch ArrayRef}
    (fits : Fits t batch) {i : ℕ} {name : String} (at' : (t.view.map Prod.fst)[i]? = some name) :
    columnNamed t batch name = batch.columns[i]? :=
  lookup_zip t.viewNodup (by rw [List.length_map]; exact fits) at'

theorem columnNamed_isSome {t : TableShape ArrayRef} {batch : RecordBatch ArrayRef}
    (fits : Fits t batch) {name : String} (declared : name ∈ t.view.map Prod.fst) :
    (columnNamed t batch name).isSome := by
  obtain ⟨i, at'⟩ := List.mem_iff_getElem?.mp declared
  have bound := (List.getElem?_eq_some_iff.mp at').1
  rw [List.length_map] at bound
  rw [columnNamed_at fits at', List.getElem?_eq_getElem (fits ▸ bound)]
  rfl

theorem selectNamed_at {t : TableShape ArrayRef} {batch : RecordBatch ArrayRef}
    (fits : Fits t batch) (i : ℕ) :
    (selectNamed t (t.declared.map (·.name)) batch).columns[i]? =
      (t.declared.map (·.name))[i]?.bind (columnNamed t batch) :=
  getElem?_filterMap_of_isSome
    (fun name h => columnNamed_isSome fits (t.declaredInView name h)) i

theorem scanAnswer_numRows (t : TableShape ArrayRef) (content : Content t) :
    (scanAnswer t content).batches.map RecordBatch.numRows =
      content.result.batches.map RecordBatch.numRows := by
  unfold scanAnswer
  split
  · rfl
  · simp [selectNamed]

def registered (t : TableShape ArrayRef) : Duckdb fold :=
  { Duckdb.init with
    views := NameTable.empty.insertNew (t.table.schema, t.table.name) t.table.body }

theorem begins_registered (t : TableShape ArrayRef) :
    Begins t (registered t : Duckdb fold) (FdwScan.begun [] t.table (scanRequest t)) := by
  have free : (NameTable.empty : NameTable (Prod.map fold fold) ViewBody).find
      (t.table.schema, t.table.name) = none := NameTable.find_empty _
  exact ⟨accepting, [], "16384", registered t,
    beginScanImpl_registered (NameTable.spelled_insertNew_of_none _ free) _ _⟩

theorem drain_begins {t : TableShape ArrayRef} {duck : Duckdb fold} {scan : FdwScan ArrayRef}
    (begins : Begins t duck scan) (content : Content t) (g : Globals ArrayRef) {fuel : ℕ}
    (enough : (content.result.batches.map RecordBatch.numRows).sum < fuel) :
    drain (.answered (scanAnswer t content)) fuel (scan, g) =
      some (collect (BatchCursor.rows RecordBatch.numRows (readRow t.declared)
        (scanAnswer t content).batches)) := by
  obtain ⟨engine, userMapping, oid, duck', run⟩ := begins
  obtain ⟨-, table, -, opened, begun, -⟩ := beginScanImpl_ok run
  cases opened
  cases begun
  refine drain_begun g ?_
  rwa [rows_length, scanAnswer_numRows]

theorem agree_iff_collect (t : TableShape ArrayRef) :
    Agree fold t ↔ ∀ content : Content t,
      collect (BatchCursor.rows RecordBatch.numRows (readRow t.declared)
          (scanAnswer t content).batches) =
        collect (BatchCursor.rows RecordBatch.numRows (readRow t.declared)
          content.result.batches) := by
  constructor
  · intro agree content
    have begins : Begins t (registered t : Duckdb fold) _ := begins_registered t
    let b : Backend fold ArrayRef := { (Backend.init : Backend fold ArrayRef) with
      duck := registered t }
    have both := agree content [] ⟨.forward, 0, true⟩ b _ _ begins (Nat.lt_succ_self _)
    rw [drain_begins begins content _ (Nat.lt_succ_self _), pushdownDelivery_eq] at both
    exact Option.some.inj both
  · intro same content pgSearchPath args b scan fuel begins enough
    rw [drain_begins begins content _ enough, pushdownDelivery_eq, same content]
    rfl

theorem Content.fits {t : TableShape ArrayRef} (content : Content t) :
    ∀ batch ∈ content.result.batches, Fits t batch := by
  intro batch h
  have lengths := congrArg List.length (content.typed batch h)
  rw [List.length_map, List.length_map] at lengths
  exact lengths.symm

theorem readRow_selectNamed {t : TableShape ArrayRef} (order : InViewOrder t)
    {batch : RecordBatch ArrayRef} (fits : Fits t batch) (rowIndex : ℕ) :
    (readRow t.declared (selectNamed t (t.declared.map (·.name)) batch) rowIndex :
        Except Fault (Tuple Cell)) =
      readRow t.declared batch rowIndex := by
  refine readRow_congr (fun i bound => ?_) rowIndex
  have declared : i < (t.declared.map (·.name)).length := by simpa using bound
  have position : (t.view.map Prod.fst)[i]? = some ((t.declared.map (·.name))[i]) := by
    obtain ⟨later, view⟩ := order
    rw [← view, List.getElem?_append_left declared, List.getElem?_eq_getElem declared]
  rw [selectNamed_at fits, List.getElem?_eq_getElem declared]
  exact columnNamed_at fits position

theorem agree_of_inViewOrder {t : TableShape ArrayRef} (order : InViewOrder t) :
    Agree fold t := by
  rw [agree_iff_collect]
  intro content
  unfold scanAnswer
  split
  · rfl
  · exact congrArg collect (rows_map (fun _ _ => rfl) fun batch h rowIndex =>
      readRow_selectNamed order (content.fits batch h) rowIndex)

/-- One batch of one row, whose column arrays are given by the view's columns. -/
def oneRow (t : TableShape ArrayRef) (array : String × GetCell.DataType ArrayRef → ArrayRef)
    (one : ∀ column ∈ t.view, GetCell.len (array column) = 1) : RecordBatch ArrayRef where
  columns := t.view.map array
  numRows := 1
  lengths := by
    intro a h
    obtain ⟨column, hc, rfl⟩ := List.mem_map.mp h
    exact one column hc

section OneRow

variable {t : TableShape ArrayRef} {array : String × GetCell.DataType ArrayRef → ArrayRef}
variable {one : ∀ column ∈ t.view, GetCell.len (array column) = 1}

theorem oneRow_fits : Fits t (oneRow t array one) := by
  simp [Fits, oneRow]

theorem readCell_oneRow {i : ℕ} {column : String × GetCell.DataType ArrayRef}
    (at' : t.view[i]? = some column) (c : Column) :
    readCell (oneRow t array one) 0 c i =
      GetCell.getCell (array column) 0 c.typeOid c.name := by
  have here : (oneRow t array one).columns[i]? = some (array column) := by
    simp [oneRow, at']
  rw [readCell, columnAt, here]
  rfl

theorem readCell_selected {i : ℕ} {c : Column} (declared : t.declared[i]? = some c)
    {column : String × GetCell.DataType ArrayRef} (member : column ∈ t.view)
    (named : column.1 = c.name) :
    readCell (selectNamed t (t.declared.map (·.name)) (oneRow t array one)) 0 c i =
      GetCell.getCell (array column) 0 c.typeOid c.name := by
  obtain ⟨j, at'⟩ := List.mem_iff_getElem?.mp member
  have position : (t.view.map Prod.fst)[j]? = some c.name := by simp [at', named]
  have here : (selectNamed t (t.declared.map (·.name)) (oneRow t array one)).columns[i]? =
      some (array column) := by
    rw [selectNamed_at oneRow_fits, List.getElem?_map, declared]
    show columnNamed t (oneRow t array one) c.name = _
    rw [columnNamed_at oneRow_fits position]
    simp [oneRow, at']
  rw [readCell, columnAt, here]
  rfl

theorem agree_oneRow (agree : Agree fold t)
    (typed : ∀ column ∈ t.view, GetCell.dataType (array column) = column.2)
    (reads : ∀ column ∈ t.view, ∀ c ∈ t.declared, c.name = column.1 →
      ∃ cell, GetCell.getCell (array column) 0 c.typeOid c.name = .ok cell)
    {i : ℕ} {c : Column} (declared : t.declared[i]? = some c)
    {own other : String × GetCell.DataType ArrayRef} (member : own ∈ t.view)
    (named : own.1 = c.name) (at' : t.view[i]? = some other)
    (one : ∀ column ∈ t.view, GetCell.len (array column) = 1) :
    GetCell.getCell (array other) 0 c.typeOid c.name =
      GetCell.getCell (array own) 0 c.typeOid c.name := by
  let content : Content t :=
    { result := ⟨[oneRow t array one], by simp [oneRow]⟩
      typed := by simpa [oneRow] using typed }
  obtain ⟨tuple, selected⟩ : ∃ tuple : Tuple Cell, readRow t.declared
      (selectNamed t (t.declared.map (·.name)) (oneRow t array one)) 0 = .ok tuple := by
    refine readRow_of_cells fun j c' declared' => ?_
    have name := t.declaredInView c'.name (List.mem_map_of_mem (List.mem_of_getElem? declared'))
    obtain ⟨column, hc, same⟩ := List.mem_map.mp name
    obtain ⟨cell, read⟩ := reads column hc c' (List.mem_of_getElem? declared') same.symm
    exact ⟨cell, by rw [readCell_selected declared' hc same, read]⟩
  have some' : t.declared.isEmpty = false := by
    cases h : t.declared with
    | nil => simp [h] at declared
    | cons => rfl
  have scanned : (scanAnswer t content).batches =
      [selectNamed t (t.declared.map (·.name)) (oneRow t array one)] := by
    simp [scanAnswer, some', content]
  have both := (agree_iff_collect t).mp agree content
  have single (batch : RecordBatch ArrayRef) (h : batch.numRows = 1) :
      (BatchCursor.rows RecordBatch.numRows (readRow t.declared) [batch] :
        List (Except Fault (Tuple Cell))) = [readRow t.declared batch 0] := rows_one _ _ h
  have whole' : content.result.batches = [oneRow t array one] := rfl
  rw [scanned, whole', single _ rfl, single _ rfl, selected] at both
  have whole := collect_singleton_ok both.symm
  obtain ⟨cell, read, found⟩ := readRow_ok selected declared
  obtain ⟨cell', read', found'⟩ := readRow_ok whole declared
  rw [readCell_selected declared member named] at read
  rw [readCell_oneRow at'] at read'
  rw [read, read', Option.some.inj (found.symm.trans found')]

end OneRow

theorem inViewOrder_of_agree {t : TableShape ArrayRef} (readable : Readable t)
    (agree : Agree fold t) : InViewOrder t := by
  rw [InViewOrder, List.prefix_iff_getElem?]
  intro i bound
  by_contra differ
  have short : i < t.declared.length := by simpa using bound
  have fewer : t.declared.length ≤ t.view.length := by
    simpa using (List.subperm_of_subset t.declaredNodup t.declaredInView).length_le
  have at' : t.view[i]? = some t.view[i] :=
    List.getElem?_eq_getElem (Nat.lt_of_lt_of_le short fewer)
  have declared : t.declared[i]? = some t.declared[i] := List.getElem?_eq_getElem short
  have other : t.view[i].1 ≠ t.declared[i].name := by
    intro same
    exact differ (by simp [at', same])
  obtain ⟨own, member, named⟩ := List.mem_map.mp
    (t.declaredInView t.declared[i].name (List.mem_map_of_mem (List.getElem_mem short)))
  have nonempty : Nonempty ArrayRef := ⟨(readable own member).choose⟩
  choose! a b left right tells using readable
  -- the two contents differ in the declared column only, which is not at its position
  let b' : String × GetCell.DataType ArrayRef → ArrayRef := fun column =>
    if column.1 = t.declared[i].name then b column else a column
  have first := agree_oneRow agree (fun column h => (left column h).1)
    (fun column h c hc same => let ⟨x, _, read, _⟩ := tells column h c hc same; ⟨x, read⟩)
    declared member named at' (fun column h => (left column h).2)
  have fits : ∀ column ∈ t.view,
      GetCell.dataType (b' column) = column.2 ∧ GetCell.len (b' column) = 1 := by
    intro column h
    by_cases own : column.1 = t.declared[i].name
    · simpa [b', own] using right column h
    · simpa [b', own] using left column h
  have second := agree_oneRow agree (fun column h => (fits column h).1)
    (fun column h c hc same => by
      obtain ⟨x, y, readA, readB, -⟩ := tells column h c hc same
      by_cases own : column.1 = t.declared[i].name
      · exact ⟨y, by simpa [b', own] using readB⟩
      · exact ⟨x, by simpa [b', own] using readA⟩)
    declared member named at' (fun column h => (fits column h).2)
  obtain ⟨x, y, readA, readB, apart⟩ :=
    tells own member t.declared[i] (List.getElem_mem short) named.symm
  have same : b' t.view[i] = a t.view[i] := if_neg other
  have variant : b' own = b own := if_pos named
  rw [same, first, variant, readA, readB] at second
  exact apart (Except.ok.inj second)

/-- The fast path and the slow path agree on every content of a table whose
declared columns are the view's first ones in the view's order, and of no other
table whose columns can be read. -/
theorem agree_iff_inViewOrder (t : TableShape ArrayRef) :
    (InViewOrder t → Agree fold t) ∧ (Readable t → (Agree fold t ↔ InViewOrder t)) :=
  ⟨agree_of_inViewOrder, fun readable => ⟨inViewOrder_of_agree readable, agree_of_inViewOrder⟩⟩

/-- A Parquet file of orders with the integer columns `id` and `quantity`. -/
def orders (declared : List Column) (declaredNodup : (declared.map (·.name)).Nodup)
    (declaredInView : ∀ name ∈ declared.map (·.name), name ∈ ["id", "quantity"]) :
    TableShape Int32Array where
  table := ⟨"public", "orders", "parquet_server", .parquet, [("files", "orders.parquet")]⟩
  handlerName := "parquet_fdw_handler"
  handled := by decide
  view := [("id", ()), ("quantity", ())]
  declared := declared
  viewNodup := by decide
  declaredNodup := declaredNodup
  declaredInView := declaredInView

def firstColumn : TableShape Int32Array := orders [⟨"id", INT4OID⟩] (by decide) (by decide)

theorem agree_iff_inViewOrder_firstColumn :
    Agree (id : String → String) firstColumn ∧
      (Agree (id : String → String) firstColumn ↔ InViewOrder firstColumn) := by
  refine ⟨(agree_iff_inViewOrder firstColumn).1 ⟨["quantity"], rfl⟩,
    (agree_iff_inViewOrder firstColumn).2 fun _ _ => ?_⟩
  refine ⟨⟨[some 1]⟩, ⟨[none]⟩, ⟨rfl, rfl⟩, ⟨rfl, rfl⟩, fun c declared _ => ?_⟩
  have only : c = ⟨"id", INT4OID⟩ := List.mem_singleton.mp declared
  subst only
  exact ⟨some (.i32 1), none, rfl, rfl, by decide⟩

def swappedColumns : TableShape Int32Array :=
  orders [⟨"quantity", INT4OID⟩, ⟨"id", INT4OID⟩] (by decide) (by decide)

theorem swapped_columns_disagree : ¬ Agree (id : String → String) swappedColumns := by
  rw [agree_iff_collect]
  intro same
  have rows := same
    { result := ⟨[{ columns := [⟨[some 1]⟩, ⟨[some 2]⟩], numRows := 1, lengths := by decide }],
        by decide⟩
      typed := by
        intro batch h
        rw [List.mem_singleton.mp h]
        rfl }
  revert rows
  decide

end PgAnalytics.ColumnIdentity
