import PgAnalytics.BaseFdw
import PgAnalytics.Runs

/-! Foreign scans of one backend that are open at the same time. Each keeps its
current batch and its position for itself, but all of them fetch from the one
reader, which the first call of any scan replaces and the end of any scan
clears. -/

namespace PgAnalytics.ScanIsolation
open Basics Commands DuckdbCatalog ForeignTables RecordBatches ArrowReader BatchCursor BaseFdw Runs

variable {κ : Type} {fold : String → κ}
variable {ArrayRef Cell : Type} [GetCell ArrayRef Cell]

/-- A scan with what belongs to it: the statement its first call prepared,
DuckDB's answer to that statement, and how many of its rows it has returned. -/
structure OpenScan (ArrayRef : Type) {Cell : Type} [GetCell ArrayRef Cell] where
  scan : FdwScan ArrayRef
  statement : Option ℕ
  own : List (RecordBatch ArrayRef)
  delivered : ℕ
  closed : Bool

structure World (fold : String → κ) (ArrayRef : Type) {Cell : Type} [GetCell ArrayRef Cell] where
  scans : List (OpenScan ArrayRef)
  globals : Globals ArrayRef
  duck : Duckdb fold

def World.start (duck : Duckdb fold) : World fold ArrayRef := ⟨[], Globals.init, duck⟩

inductive Op (ArrayRef : Type) {Cell : Type} [GetCell ArrayRef Cell] where
  | beginScan (engine : Engine) (userMapping : Options) (tableOid : Option String)
      (relation : String → Except Fault ForeignTable) (request : ScanRequest)
  | iterScan (scan : ℕ) (answer : QueryAnswer ArrayRef)
  | endScan (scan : ℕ)

namespace OpenScan

def begun (scan : FdwScan ArrayRef) : OpenScan ArrayRef := ⟨scan, none, [], 0, false⟩

def opened (s : OpenScan ArrayRef) (g : Globals ArrayRef) (answer : QueryAnswer ArrayRef) :
    OpenScan ArrayRef :=
  match s.scan.scanStarted, answer with
  | false, .answered result => { s with statement := some g.nextId, own := result.batches }
  | _, _ => s

def rows (s : OpenScan ArrayRef) : List (Except Fault (Tuple Cell)) :=
  BatchCursor.rows RecordBatch.numRows (readRow s.scan.targetColumns) s.own

/-- What the scan would return next if no other scan were open. -/
def alone (s : OpenScan ArrayRef) (answer : QueryAnswer ArrayRef) :
    Except Fault (Option (Tuple Cell)) :=
  match s.scan.scanStarted, answer with
  | true, _ => rowAnswer s.rows[s.delivered]?
  | false, .answered result =>
    rowAnswer (BatchCursor.rows RecordBatch.numRows (readRow s.scan.targetColumns)
      result.batches)[0]?
  | false, .notPrepared message | false, .notExecuted message => .error (.error message)

end OpenScan

/-- A scan that cannot begin is not opened. -/
def beginScan [DecidableEq κ] (w : World fold ArrayRef) (engine : Engine) (userMapping : Options)
    (tableOid : Option String) (relation : String → Except Fault ForeignTable)
    (request : ScanRequest) : World fold ArrayRef :=
  match exec (beginScanImpl engine tableOid relation request)
    ({ userMappingOptions := userMapping }, w.duck) with
  | (.ok _, scan, duck) => ⟨w.scans ++ [OpenScan.begun scan], w.globals, duck⟩
  | (.error _, _, duck) => ⟨w.scans, w.globals, duck⟩

/-- A scan is over when it answers no row, and when it fails. -/
def closes : Except Fault (Option (Tuple Cell)) → Bool
  | .ok (some _) => false
  | .ok none | .error _ => true

/-- A failing call runs no `end_scan`. The other scans stay: those of an outer
cursor survive an error that a savepoint or an `EXCEPTION` block catches. -/
def iterScan (w : World fold ArrayRef) (k : ℕ) (s : OpenScan ArrayRef)
    (answer : QueryAnswer ArrayRef) : World fold ArrayRef × Except Fault (Option (Tuple Cell)) :=
  let (returned, scan, globals) := exec (iterScanImpl false answer) (s.scan, w.globals)
  (⟨w.scans.set k { s.opened w.globals answer with
      scan := scan, delivered := s.delivered + 1, closed := closes returned }, globals, w.duck⟩,
    returned)

/-- Each scan is begun, called until it answers no row, fails or is ended, and ended. -/
def session [DecidableEq κ] :
    Machine (World fold ArrayRef) (Op ArrayRef) (Option (Except Fault (Option (Tuple Cell))))
  | w, .beginScan engine userMapping tableOid relation request =>
    some (beginScan w engine userMapping tableOid relation request, none)
  | w, .iterScan k answer =>
    match w.scans[k]? with
    | none => none
    | some s =>
      if s.closed then none
      else some ((iterScan w k s answer).1, some (iterScan w k s answer).2)
  | w, .endScan k =>
    match w.scans[k]? with
    | none => none
    | some s =>
      some (⟨w.scans.set k { s with closed := true }, (exec endScanImpl w.globals).2, w.duck⟩,
        none)

/-- A scan returns what it would return alone: the next of its own rows, and no
row only after the last of them. -/
def ReturnsOwn (w : World fold ArrayRef) :
    Op ArrayRef → Option (Except Fault (Option (Tuple Cell))) → Prop
  | .iterScan k answer, returned => ∀ s ∈ w.scans[k]?, returned = some (s.alone answer)
  | _, _ => True

/-- A started scan that needs a batch finds its own statement and its own reader. -/
def FetchesOwn (w : World fold ArrayRef) : Op ArrayRef → Prop
  | .iterScan k _ => ∀ s ∈ w.scans[k]?, s.scan.scanStarted → s.scan.usedUp →
      w.globals.statement.map (·.id) = s.statement ∧
        w.globals.arrow.map (·.statement) = s.statement
  | _ => True

instance [DecidableEq Cell] (w : World fold ArrayRef) : (op : Op ArrayRef) →
    (returned : Option (Except Fault (Option (Tuple Cell)))) → Decidable (ReturnsOwn w op returned)
  | .iterScan k answer, returned =>
    inferInstanceAs (Decidable (∀ s ∈ w.scans[k]?, returned = some (s.alone answer)))
  | .beginScan _ _ _ _ _, _ | .endScan _, _ => isTrue trivial

instance (w : World fold ArrayRef) : (op : Op ArrayRef) → Decidable (FetchesOwn w op)
  | .iterScan k _ => inferInstanceAs (Decidable (∀ s ∈ w.scans[k]?, _ → _ → _ = _ ∧ _ = _))
  | .beginScan _ _ _ _ _ | .endScan _ => isTrue trivial

/-- What the scan has not returned yet is in its batch and, as long as the
reader is the scan's own, in the reader. -/
def Reading (g : Globals ArrayRef) (s : OpenScan ArrayRef) (id : ℕ) : Prop :=
  ∃ result : QueryResult ArrayRef,
    s.rows.drop s.delivered =
      s.scan.cursor.pending RecordBatch.numRows (readRow s.scan.targetColumns) result.batches ∧
    ∀ arrow ∈ g.arrow, arrow.statement = id → arrow.result = result

structure Sound (g : Globals ArrayRef) (s : OpenScan ArrayRef) : Prop where
  cached : s.scan.sql.isSome
  fresh : s.scan.scanStarted = false → s.scan.cursor = Cursor.initial ∧ s.delivered = 0
  reading : s.scan.scanStarted = true → ∃ id, s.statement = some id ∧ Reading g s id

structure Isolated (w : World fold ArrayRef) : Prop where
  sound : ∀ (i : ℕ) s, w.scans[i]? = some s → s.closed = false → Sound w.globals s
  prepared : ∀ (i : ℕ) s, w.scans[i]? = some s → ∀ id ∈ s.statement, id < w.globals.nextId
  apart : ∀ (i j : ℕ) a b id, w.scans[i]? = some a → w.scans[j]? = some b →
    a.statement = some id → b.statement = some id → i = j

/-- What a scan with statement `id` may do to the pair: read on, or open its reader. -/
def ReadsOn (id : ℕ) (g g' : Globals ArrayRef) : Prop :=
  g.nextId ≤ g'.nextId ∧ ∀ arrow ∈ g'.arrow, arrow.statement ≠ id → g.arrow = some arrow

theorem Reading.of_readsOn {g g' : Globals ArrayRef} {s : OpenScan ArrayRef} {id other : ℕ}
    (moved : ReadsOn id g g') (differ : other ≠ id) (h : Reading g s other) :
    Reading g' s other := by
  obtain ⟨result, left, reader⟩ := h
  refine ⟨result, left, fun arrow hit same => ?_⟩
  exact reader arrow (moved.2 arrow hit (same ▸ differ)) same

theorem Sound.of_readsOn {g g' : Globals ArrayRef} {s : OpenScan ArrayRef} {id : ℕ}
    (moved : ReadsOn id g g') (differ : s.statement ≠ some id) (h : Sound g s) : Sound g' s where
  cached := h.cached
  fresh := h.fresh
  reading started := by
    obtain ⟨other, statement, reading⟩ := h.reading started
    refine ⟨other, statement, reading.of_readsOn moved ?_⟩
    rintro rfl
    exact differ statement

theorem ReadsOn.trans {g g' g'' : Globals ArrayRef} {id : ℕ} (first : ReadsOn id g g')
    (second : ReadsOn id g' g'') : ReadsOn id g g'' :=
  ⟨Nat.le_trans first.1 second.1, fun arrow found differ =>
    first.2 arrow (second.2 arrow found differ) differ⟩

theorem nextRow_readsOn {scan : FdwScan ArrayRef} {g : Globals ArrayRef} {id : ℕ}
    (own : scan.usedUp = true → g.arrow.map (·.statement) = some id) :
    ReadsOn id g (exec nextRow (scan, g)).2.2 := by
  rw [nextRow_globals]
  cases usedUp : scan.usedUp with
  | false => exact ⟨Nat.le_refl _, fun arrow found _ => found⟩
  | true =>
    obtain ⟨arrow, stored, same⟩ := Option.map_eq_some_iff.mp (own usedUp)
    rw [if_pos rfl, exec_getNextBatch, stored]
    refine ⟨Nat.le_refl _, fun arrow' found differ => ?_⟩
    cases found
    exact absurd same differ

theorem nextRow_reading {s : OpenScan ArrayRef} {g : Globals ArrayRef} {id : ℕ}
    (reading : Reading g s id)
    (fetch : s.scan.usedUp = true →
      g.statement.map (·.id) = some id ∧ g.arrow.map (·.statement) = some id) :
    (exec nextRow (s.scan, g)).1 = rowAnswer s.rows[s.delivered]? ∧
      ∀ row scan' g', exec nextRow (s.scan, g) = (.ok (some row), scan', g') →
        scan'.sql = s.scan.sql ∧ scan'.scanStarted = s.scan.scanStarted ∧
          Reading g' { s with scan := scan', delivered := s.delivered + 1 } id := by
  obtain ⟨result, left, own⟩ := reading
  have reads : s.scan.usedUp = true → g.Reads ⟨id, result⟩ := by
    intro usedUp
    obtain ⟨statement, owner⟩ := fetch usedUp
    obtain ⟨arrow, hit, same⟩ := Option.map_eq_some_iff.mp owner
    exact ⟨by rw [hit, ← own arrow hit same, ← same], statement⟩
  obtain ⟨answer, after⟩ := nextRow_advance reads
  have pending := Cursor.advance_pending (c := s.scan.cursor) RecordBatch.numRows
    (readRow s.scan.targetColumns) result.nonempty
  have rest := Cursor.advance_rest RecordBatch.numRows (readRow s.scan.targetColumns) s.scan.cursor
    result.batches
  rcases step : s.scan.cursor.advance RecordBatch.numRows (readRow s.scan.targetColumns)
    result.batches with ⟨first, cursor, remaining⟩
  rw [step] at pending rest
  simp only [step] at answer after
  dsimp only at rest
  rw [pending] at left
  have next : s.rows[s.delivered]? = first := by
    rw [← List.head?_drop, left]
    cases first <;> rfl
  refine ⟨by rw [answer, next], fun row scan' g' run => ?_⟩
  rw [run] at answer after
  obtain ⟨rfl, rfl⟩ := Prod.mk.inj (after rfl)
  refine ⟨rfl, rfl, ?_⟩
  cases first with
  | none => cases answer
  | some row' =>
    have later : s.rows.drop (s.delivered + 1) =
        cursor.pending RecordBatch.numRows (readRow s.scan.targetColumns) remaining := by
      rw [← List.tail_drop, left]
      rfl
    cases usedUp : s.scan.usedUp with
    | true =>
      have up : s.scan.cursor.usedUp RecordBatch.numRows = true := usedUp
      rw [if_pos up] at rest
      refine ⟨result.tail, by rw [rest] at later; exact later, fun arrow hit _ => ?_⟩
      cases hit
      rfl
    | false =>
      have up : s.scan.cursor.usedUp RecordBatch.numRows = false := usedUp
      rw [if_neg (by simp [up])] at rest
      exact ⟨result, by rw [rest] at later; exact later, own⟩

theorem Isolated.set {w : World fold ArrayRef} (h : Isolated w) {k id : ℕ}
    {s s' : OpenScan ArrayRef} {g' : Globals ArrayRef} (hit : w.scans[k]? = some s)
    (moved : ReadsOn id w.globals g')
    (sound : s'.closed = false → Sound g' s')
    (statement : s'.statement = s.statement ∨ s'.statement = some id ∧ id < g'.nextId)
    (own : s.statement = some id ∨ w.globals.nextId ≤ id) :
    Isolated ⟨w.scans.set k s', g', w.duck⟩ := by
  have other : ∀ i a, i ≠ k → w.scans[i]? = some a → a.statement ≠ some id := by
    intro i a differ found same
    rcases own with mine | fresh
    · exact differ (h.apart i k a s id found hit same mine)
    · exact absurd (h.prepared i a found id same) (by omega)
  have mine : ∀ id', s'.statement = some id' →
      ∀ i a, i ≠ k → w.scans[i]? = some a → a.statement ≠ some id' := by
    intro id' new i a differ found same
    rcases statement with kept | ⟨fresh, -⟩
    · exact differ (h.apart i k a s id' found hit same (kept ▸ new))
    · exact other i a differ found (same.trans (new.symm.trans fresh))
  have cases' : ∀ i a, (w.scans.set k s')[i]? = some a →
      i = k ∧ a = s' ∨ i ≠ k ∧ w.scans[i]? = some a := by
    intro i a found
    rw [List.getElem?_set] at found
    split at found
    · rename_i same
      split at found
      · exact .inl ⟨same.symm, (Option.some.inj found).symm⟩
      · cases found
    · rename_i differ
      exact .inr ⟨fun same => differ same.symm, found⟩
  refine ⟨fun i a found opened => ?_, fun i a found id' hid => ?_,
    fun i j a b id' ha hb ia ib => ?_⟩
  · rcases cases' i a found with ⟨-, rfl⟩ | ⟨differ, found⟩
    · exact sound opened
    · exact (h.sound i a found opened).of_readsOn moved (other i a differ found)
  · rcases cases' i a found with ⟨-, rfl⟩ | ⟨-, found⟩
    · rcases statement with kept | ⟨fresh, bound⟩
      · exact Nat.lt_of_lt_of_le (h.prepared k s hit id' (kept ▸ hid)) moved.1
      · exact Option.some.inj (fresh.symm.trans hid) ▸ bound
    · exact Nat.lt_of_lt_of_le (h.prepared i a found id' hid) moved.1
  · rcases cases' i a ha with ⟨ik, rfl⟩ | ⟨di, fa⟩
    · rcases cases' j b hb with ⟨jk, rfl⟩ | ⟨dj, fb⟩
      · exact ik.trans jk.symm
      · exact absurd ib (mine id' ia j b dj fb)
    · rcases cases' j b hb with ⟨jk, rfl⟩ | ⟨dj, fb⟩
      · exact absurd ia (mine id' ib i a di fa)
      · exact h.apart i j a b id' fa fb ia ib

theorem iterScan_reading {w : World fold ArrayRef} (h : Isolated w) {k id : ℕ}
    {s : OpenScan ArrayRef} {answer : QueryAnswer ArrayRef} {scan : FdwScan ArrayRef}
    {g : Globals ArrayRef} (hit : w.scans[k]? = some s)
    (run : exec (iterScanImpl false answer) (s.scan, w.globals) = exec nextRow (scan, g))
    (cached : scan.sql.isSome) (started : scan.scanStarted = true)
    (statement : (s.opened w.globals answer).statement = some id) (bound : id < g.nextId)
    (own : s.statement = some id ∨ w.globals.nextId ≤ id) (moved : ReadsOn id w.globals g)
    (reading : Reading g
      { s.opened w.globals answer with scan := scan, delivered := s.delivered } id)
    (fetch : scan.usedUp = true →
      g.statement.map (·.id) = some id ∧ g.arrow.map (·.statement) = some id) :
    (iterScan w k s answer).2 =
        rowAnswer (OpenScan.rows { s.opened w.globals answer with scan := scan })[s.delivered]? ∧
      Isolated (iterScan w k s answer).1 := by
  obtain ⟨returned, after⟩ := nextRow_reading reading fetch
  have readsOn := nextRow_readsOn fun usedUp => (fetch usedUp).2
  dsimp only at returned after
  unfold iterScan
  rw [run]
  rcases step : exec nextRow (scan, g) with ⟨r, scan', g'⟩
  rw [step] at returned readsOn
  refine ⟨returned, h.set hit (moved.trans readsOn) (fun opened => ?_)
    (.inr ⟨statement, Nat.lt_of_lt_of_le bound readsOn.1⟩) own⟩
  rcases r with fault | _ | row
  · cases opened
  · cases opened
  · obtain ⟨sql, started', left⟩ := after row scan' g' step
    refine ⟨by rw [sql]; exact cached, fun fresh => ?_, fun _ => ⟨id, statement, left⟩⟩
    rw [started', started] at fresh
    cases fresh

theorem iterScan_started {w : World fold ArrayRef} (h : Isolated w) {k : ℕ} {s : OpenScan ArrayRef}
    {answer : QueryAnswer ArrayRef} (hit : w.scans[k]? = some s) (opened : s.closed = false)
    (started : s.scan.scanStarted = true)
    (fetch : s.scan.usedUp = true → w.globals.statement.map (·.id) = s.statement ∧
      w.globals.arrow.map (·.statement) = s.statement) :
    (iterScan w k s answer).2 = s.alone answer ∧ Isolated (iterScan w k s answer).1 := by
  have sound := h.sound k s hit opened
  obtain ⟨id, statement, reading⟩ := sound.reading started
  have same : s.opened w.globals answer = s := by simp [OpenScan.opened, started]
  have result := iterScan_reading h hit (exec_iterScanImpl_started started answer w.globals)
    sound.cached started (same.symm ▸ statement) (h.prepared k s hit id statement)
    (.inl statement) ⟨Nat.le_refl _, fun _ found _ => found⟩ (same.symm ▸ reading)
    (statement ▸ fetch)
  rw [same] at result
  refine ⟨result.1.trans ?_, result.2⟩
  simp only [OpenScan.alone, started]

/-- A first call that DuckDB refuses: a statement may be stored, but no reader. -/
theorem iterScan_refused {w : World fold ArrayRef} (h : Isolated w) {k : ℕ} {s : OpenScan ArrayRef}
    {answer : QueryAnswer ArrayRef} {scan : FdwScan ArrayRef} {g : Globals ArrayRef} {fault : Fault}
    (hit : w.scans[k]? = some s)
    (run : exec (iterScanImpl false answer) (s.scan, w.globals) = (.error fault, (scan, g)))
    (same : s.opened w.globals answer = s) (arrow : g.arrow = w.globals.arrow)
    (later : w.globals.nextId ≤ g.nextId) :
    (iterScan w k s answer).2 = .error fault ∧ Isolated (iterScan w k s answer).1 := by
  have kept : ReadsOn w.globals.nextId w.globals g :=
    ⟨later, fun _ found _ => arrow ▸ found⟩
  unfold iterScan
  rw [run, same]
  exact ⟨rfl, h.set hit kept (fun opened => by cases opened) (.inl rfl) (.inr (Nat.le_refl _))⟩

theorem iterScan_first {w : World fold ArrayRef} (h : Isolated w) {k : ℕ} {s : OpenScan ArrayRef}
    {answer : QueryAnswer ArrayRef} (hit : w.scans[k]? = some s) (opened : s.closed = false)
    (fresh : s.scan.scanStarted = false) :
    (iterScan w k s answer).2 = s.alone answer ∧ Isolated (iterScan w k s answer).1 := by
  have sound := h.sound k s hit opened
  obtain ⟨initial, none'⟩ := sound.fresh fresh
  obtain ⟨sql, cached⟩ := Option.isSome_iff_exists.mp sound.cached
  have run := exec_iterScanImpl_first fresh cached answer w.globals
  rw [exec_createArrow] at run
  cases answer with
  | notPrepared message =>
    have alone : s.alone (.notPrepared message) = .error (.error message) := by
      simp only [OpenScan.alone, fresh]
    rw [alone]
    exact iterScan_refused h hit run (by simp [OpenScan.opened]) rfl (Nat.le_refl _)
  | notExecuted message =>
    have alone : s.alone (.notExecuted message) = .error (.error message) := by
      simp only [OpenScan.alone, fresh]
    rw [alone]
    exact iterScan_refused h hit run (by simp [OpenScan.opened]) rfl (Nat.le_succ _)
  | answered result =>
    have same : s.opened w.globals (.answered result) =
        { s with statement := some w.globals.nextId, own := result.batches } := by
      simp [OpenScan.opened, fresh]
    have reading : Reading ⟨some ⟨w.globals.nextId, sql⟩, some ⟨w.globals.nextId, result⟩,
        w.globals.nextId + 1⟩ { s.opened w.globals (.answered result) with
          scan := { s.scan with scanStarted := true }, delivered := s.delivered }
        w.globals.nextId := by
      refine ⟨result, ?_, fun arrow found _ => by cases found; rfl⟩
      have start : (FdwScan.cursor { s.scan with scanStarted := true }) = Cursor.initial := initial
      rw [start, same, none']
      rfl
    have outcome := iterScan_reading h hit run sound.cached rfl (by rw [same])
      (Nat.lt_succ_self _) (.inr (Nat.le_refl _))
      ⟨Nat.le_succ _, fun arrow found differ => by cases found; exact absurd rfl differ⟩ reading
      fun _ => ⟨rfl, rfl⟩
    refine ⟨outcome.1.trans ?_, outcome.2⟩
    rw [same, none']
    simp only [OpenScan.alone, fresh, OpenScan.rows]

theorem Isolated.begin {w : World fold ArrayRef} (h : Isolated w) (userMapping : Options)
    (t : ForeignTable) (request : ScanRequest) (duck : Duckdb fold) :
    Isolated ⟨w.scans ++ [OpenScan.begun (FdwScan.begun userMapping t request)], w.globals,
      duck⟩ := by
  have cases' : ∀ (i : ℕ) a,
      (w.scans ++ [OpenScan.begun (FdwScan.begun userMapping t request)])[i]? = some a →
      a = OpenScan.begun (FdwScan.begun userMapping t request) ∨ w.scans[i]? = some a := by
    intro i a found
    rw [List.getElem?_append] at found
    split at found
    · exact .inr found
    · exact .inl (List.mem_singleton.mp (List.mem_of_getElem? found))
  refine ⟨fun i a found opened => ?_, fun i a found id hid => ?_, fun i j a b id ha hb ia ib => ?_⟩
  · rcases cases' i a found with rfl | old
    · exact ⟨rfl, fun _ => ⟨rfl, rfl⟩, fun started => by cases started⟩
    · exact h.sound i a old opened
  · rcases cases' i a found with rfl | old
    · cases hid
    · exact h.prepared i a old id hid
  · rcases cases' i a ha with rfl | oldA
    · cases ia
    · rcases cases' j b hb with rfl | oldB
      · cases ib
      · exact h.apart i j a b id oldA oldB ia ib

theorem Isolated.of_duck {w : World fold ArrayRef} (h : Isolated w) (duck : Duckdb fold) :
    Isolated ⟨w.scans, w.globals, duck⟩ :=
  ⟨h.sound, h.prepared, h.apart⟩

theorem beginScan_isolated [DecidableEq κ] {w : World fold ArrayRef} (h : Isolated w)
    (engine : Engine) (userMapping : Options) (tableOid : Option String)
    (relation : String → Except Fault ForeignTable) (request : ScanRequest) :
    Isolated (beginScan w engine userMapping tableOid relation request) := by
  unfold beginScan
  rcases run : exec (beginScanImpl engine tableOid relation request)
    (({ userMappingOptions := userMapping } : FdwScan ArrayRef), w.duck) with
    ⟨fault | _, scan, duck⟩
  · exact h.of_duck duck
  · obtain ⟨oid, t, -, -, begun, -⟩ := beginScanImpl_ok run
    cases begun
    exact h.begin userMapping t request duck

theorem Isolated.clear {w : World fold ArrayRef} (h : Isolated w) {k : ℕ} {s : OpenScan ArrayRef}
    (hit : w.scans[k]? = some s) :
    Isolated ⟨w.scans.set k { s with closed := true }, (exec endScanImpl w.globals).2, w.duck⟩ := by
  refine h.set hit ⟨Nat.le_refl _, fun arrow found _ => ?_⟩
    (fun opened => ?_) (.inl rfl) (.inr (Nat.le_refl _))
  · cases found
  · cases opened

theorem session_step [DecidableEq κ] {w w' : World fold ArrayRef} {op : Op ArrayRef}
    {returned : Option (Except Fault (Option (Tuple Cell)))} (h : Isolated w)
    (fetches : FetchesOwn w op) (step : session w op = some (w', returned)) :
    Isolated w' ∧ ReturnsOwn w op returned := by
  cases op with
  | beginScan engine userMapping tableOid relation request =>
    cases step
    exact ⟨beginScan_isolated h engine userMapping tableOid relation request, trivial⟩
  | iterScan k answer =>
    simp only [session] at step
    cases hit : w.scans[k]? with
    | none => simp [hit] at step
    | some s =>
      simp only [hit] at step
      split at step
      · cases step
      · rename_i opened
        have opened' : s.closed = false := by simpa using opened
        cases step
        have outcome : (iterScan w k s answer).2 = s.alone answer ∧
            Isolated (iterScan w k s answer).1 := by
          cases started : s.scan.scanStarted with
          | true => exact iterScan_started h hit opened' started (fetches s hit started)
          | false => exact iterScan_first h hit opened' started
        refine ⟨outcome.2, fun s' hit' => ?_⟩
        rw [Option.some.inj (hit.symm.trans hit')] at outcome ⊢
        rw [outcome.1]
  | endScan k =>
    simp only [session] at step
    cases hit : w.scans[k]? with
    | none => simp [hit] at step
    | some s =>
      simp only [hit] at step
      cases step
      exact ⟨h.clear hit, trivial⟩

end PgAnalytics.ScanIsolation
