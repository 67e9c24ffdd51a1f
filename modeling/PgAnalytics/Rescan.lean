import PgAnalytics.Runs
import PgAnalytics.ScanDelivery

/-! Passes over one scan, as the inner side of a join makes them. A rescan does
nothing to the scan, and the end of a pass goes back to the start of the last
batch only: a later pass sees that batch again and none of those before it. -/

namespace PgAnalytics.Rescan
open Basics Commands Runs DuckdbCatalog ForeignTables RecordBatches ArrowReader BatchCursor BaseFdw
open ScanDelivery

variable {ArrayRef Cell : Type} [GetCell ArrayRef Cell]

/-- `re_scan`, which no wrapper overrides. -/
def reScan : Command (FdwScan ArrayRef × Globals ArrayRef) Fault Unit := pure ()

structure Pass (Cell : Type) where
  rows : List (Tuple Cell)
  ended : Bool
  deriving DecidableEq, Repr

/-- Calls of `iter_scan_impl` up to the end of the scan. The pass is abandoned
when it is still not there after so many calls. -/
def runPass (answer : QueryAnswer ArrayRef) :
    ℕ → Command (FdwScan ArrayRef × Globals ArrayRef) Fault (Pass Cell)
  | 0 => return ⟨[], false⟩
  | calls + 1 => do
    match ← iterScanImpl false answer with
    | none => return ⟨[], true⟩
    | some row =>
      let pass ← runPass answer calls
      return { pass with rows := row :: pass.rows }

/-- A pass and the rescan after it. An error ends the query. -/
def passMachine (answer : QueryAnswer ArrayRef) :
    Machine (FdwScan ArrayRef × Globals ArrayRef) ℕ (Pass Cell) := fun s calls =>
  match exec (do let pass ← runPass answer calls; reScan; return pass) s with
  | (.ok pass, s') => some (s', pass)
  | (.error _, _) => none

/-- A pass that ran to the end returned all rows of the result, in order. -/
def Complete (result : QueryResult ArrayRef) (columns : List Column)
    (_ : FdwScan ArrayRef × Globals ArrayRef) (_ : ℕ) (pass : Pass Cell) : Prop :=
  pass.ended = true → collect (resultRows result columns) = .ok pass.rows

instance [DecidableEq Cell] (result : QueryResult ArrayRef) (columns : List Column)
    (s : FdwScan ArrayRef × Globals ArrayRef) (calls : ℕ) (pass : Pass Cell) :
    Decidable (Complete result columns s calls pass) :=
  inferInstanceAs (Decidable (_ → _))

def totalRows (result : QueryResult ArrayRef) : ℕ := (result.batches.map RecordBatch.numRows).sum

def lastBatchSize (result : QueryResult ArrayRef) : ℕ :=
  (result.batches.getLast?.map RecordBatch.numRows).getD 0

/-- First come passes that make no call or run through the whole result, one such
at most when there are several batches. After them no pass gets to an end. -/
def NoneReplayed (result : QueryResult ArrayRef) (passes : List ℕ) : Prop :=
  ∃ whole abandoned, passes = whole ++ abandoned ∧
    (∀ calls ∈ whole, calls = 0 ∨ totalRows result < calls) ∧
    (result.batches.length ≤ 1 ∨ whole.countP (totalRows result < ·) ≤ 1) ∧
    abandoned.sum ≤
      if whole.any (totalRows result < ·) then lastBatchSize result else totalRows result

theorem runPass_cases {result : QueryResult ArrayRef} {columns : List Column}
    {pending : List (Except Fault (Tuple Cell))} {s : FdwScan ArrayRef × Globals ArrayRef}
    (h : Reading result columns pending s) (calls : ℕ) :
    (∃ fault s', exec (runPass (.answered result) calls) s = (.error fault, s') ∧
        collect pending = .error fault) ∨
      (∃ rows later s', exec (runPass (.answered result) calls) s = (.ok ⟨rows, false⟩, s') ∧
        rows.length = calls ∧ pending = rows.map .ok ++ later ∧
        Reading result columns later s') ∨
      ∃ rows s', exec (runPass (.answered result) calls) s = (.ok ⟨rows, true⟩, s') ∧
        rows.length < calls ∧ pending = rows.map .ok ∧
        Reading result columns (lastBatchRows result columns) s' := by
  induction calls generalizing pending s with
  | zero => exact .inr (.inl ⟨[], pending, s, rfl, rfl, rfl, h⟩)
  | succ calls ih =>
    cases pending with
    | nil =>
      obtain ⟨s', run, reading⟩ := h.next_none
      refine .inr (.inr ⟨[], s', ?_, Nat.succ_pos _, rfl, reading⟩)
      rw [runPass, exec_bind_ok run]
      rfl
    | cons r later =>
      cases r with
      | error fault =>
        obtain ⟨s', run⟩ := h.next_error
        refine .inl ⟨fault, s', ?_, rfl⟩
        rw [runPass, exec_bind_error run]
      | ok row =>
        obtain ⟨s', run, reading⟩ := h.next_row
        rw [runPass, exec_bind_ok run]
        rcases ih reading with ⟨fault, s'', more, failed⟩ |
          ⟨rows, rest, s'', more, count, split, reading'⟩ |
          ⟨rows, s'', more, count, split, reading'⟩
        · refine .inl ⟨fault, s'', ?_, by rw [collect, failed]; rfl⟩
          exact exec_bind_error more
        · refine .inr (.inl ⟨row :: rows, rest, s'', ?_, by simp [count], by simp [split],
            reading'⟩)
          exact exec_bind_ok more
        · refine .inr (.inr ⟨row :: rows, s'', ?_, by simp [count], by simp [split], reading'⟩)
          exact exec_bind_ok more

theorem passMachine_eq (answer : QueryAnswer ArrayRef) (s : FdwScan ArrayRef × Globals ArrayRef)
    (calls : ℕ) :
    passMachine answer s calls =
      match exec (runPass answer calls) s with
      | (.ok pass, s') => some (s', pass)
      | (.error _, _) => none := by
  rw [passMachine, exec_bind]
  rcases exec (runPass answer calls) s with ⟨_ | _, _⟩ <;> rfl

theorem collect_append (rows : List (Tuple Cell)) (later : List (Except Fault (Tuple Cell))) :
    collect (rows.map .ok ++ later) = (collect later).map (rows ++ ·) := by
  induction rows with
  | nil =>
    rw [List.map_nil, List.nil_append]
    cases collect later <;> rfl
  | cons row rows ih =>
    rw [List.map_cons, List.cons_append, collect, ih]
    cases collect later <;> rfl

theorem eq_map_of_collect {read : List (Except Fault (Tuple Cell))} {rows : List (Tuple Cell)}
    (h : collect read = .ok rows) : read = rows.map .ok := by
  induction read generalizing rows with
  | nil =>
    cases h
    rfl
  | cons r read ih =>
    cases r with
    | error fault => cases h
    | ok row =>
      rw [collect] at h
      cases later : collect read with
      | error fault =>
        rw [later] at h
        cases h
      | ok rows' =>
        rw [later] at h
        cases h
        rw [ih later, List.map_cons]

theorem passes_of_unreadable {result : QueryResult ArrayRef} {columns : List Column}
    {rows : List (Except Fault (Tuple Cell))} {fault : Fault} (failed : collect rows = .error fault)
    {s : FdwScan ArrayRef × Globals ArrayRef} (h : Reading result columns rows s)
    (passes : List ℕ) :
    Always (passMachine (.answered result)) (Complete result columns) s passes := by
  refine always_of_inductive
    (fun s => ∃ rows, Reading result columns rows s ∧ collect rows = .error fault) ?_
    ⟨rows, h, failed⟩ passes
  rintro s calls s' pass ⟨rows, reading, failed⟩ run
  rw [passMachine_eq] at run
  rcases runPass_cases reading calls with ⟨_, _, ran, -⟩ | ⟨read, later, s'', ran, -, split, next⟩ |
    ⟨read, s'', ran, -, split, -⟩
  · rw [ran] at run
    cases run
  · rw [ran] at run
    cases run
    rw [split, collect_append] at failed
    refine ⟨⟨later, next, ?_⟩, fun ended => by cases ended⟩
    cases rest : collect later with
    | ok rows =>
      rw [rest] at failed
      cases failed
    | error fault' =>
      rw [rest] at failed
      cases failed
      rfl
  · rw [split, ← List.append_nil (List.map _ _), collect_append] at failed
    cases failed

/-- Of `total` rows `left` are to come; after an end, `last` are. -/
def Spared (total last : ℕ) : ℕ → List ℕ → Prop
  | _, [] => True
  | left, calls :: passes =>
    (left < calls → left = total) ∧
      Spared total last (if calls ≤ left then left - calls else last) passes

theorem passes_complete_spared {result : QueryResult ArrayRef} {columns : List Column}
    {rows last pending : List (Tuple Cell)}
    (read : collect (resultRows result columns) = .ok rows)
    (ends : lastBatchRows result columns = last.map .ok)
    (shorter : last <:+ rows) (suffix : pending <:+ rows)
    {s : FdwScan ArrayRef × Globals ArrayRef} (h : Reading result columns (pending.map .ok) s)
    (passes : List ℕ) :
    Always (passMachine (.answered result)) (Complete result columns) s passes ↔
      Spared rows.length last.length pending.length passes := by
  induction passes generalizing pending s with
  | nil => exact Iff.rfl
  | cons calls passes ih =>
    have machine := passMachine_eq (.answered result) s calls
    rcases runPass_cases h calls with ⟨fault, s', -, failed⟩ |
      ⟨read, later, s', ran, count, split, next⟩ | ⟨read, s', ran, count, split, next⟩
    · rw [← List.append_nil (List.map _ _), collect_append] at failed
      cases failed
    · rw [ran] at machine
      obtain ⟨first, rest, rfl, same, rfl⟩ := List.map_eq_append_iff.mp split
      obtain rfl := List.map_injective_iff.mpr (fun _ _ => Except.ok.inj) same
      have bound : calls ≤ (first ++ rest).length := by simp [← count]
      have left : (first ++ rest).length - calls = rest.length := by simp [← count]
      rw [always_cons machine, ih ((List.suffix_append first rest).trans suffix) next, Spared,
        if_pos bound, left]
      exact and_congr_left fun _ => ⟨fun _ more => absurd bound (Nat.not_le.mpr more),
        fun _ ended => by cases ended⟩
    · rw [ran] at machine
      obtain rfl := List.map_injective_iff.mpr (fun _ _ => Except.ok.inj) split
      rw [ends] at next
      rw [always_cons machine, ih shorter next, Spared, if_neg (Nat.not_le.mpr count)]
      refine and_congr_left fun _ => ⟨fun all _ => ?_, fun same _ => ?_⟩
      · rw [Except.ok.inj (read.symm.trans (all rfl))]
      · rw [read, suffix.eq_of_length (same count)]

theorem spared_of_sum_le {total last left : ℕ} {passes : List ℕ} (h : passes.sum ≤ left) :
    Spared total last left passes := by
  induction passes generalizing left with
  | nil => trivial
  | cons calls passes ih =>
    rw [List.sum_cons] at h
    have bound : calls ≤ left := by omega
    refine ⟨fun more => by omega, ?_⟩
    rw [if_pos bound]
    exact ih (by omega)

/-- Once some but not all rows are left, no pass may get to an end. -/
theorem spared_behind {total last left : ℕ} (behind : left < total) (passes : List ℕ) :
    Spared total last left passes ↔ passes.sum ≤ left := by
  refine ⟨fun h => ?_, spared_of_sum_le⟩
  induction passes generalizing left with
  | nil => exact Nat.zero_le _
  | cons calls passes ih =>
    obtain ⟨stays, later⟩ := h
    have bound : calls ≤ left := by
      by_contra more
      have := stays (by omega)
      omega
    rw [if_pos bound] at later
    have := ih (by omega) later
    rw [List.sum_cons]
    omega

theorem spared_split {total last : ℕ} (fewer : last ≤ total) {passes : List ℕ}
    (h : Spared total last total passes) :
    ∃ whole abandoned, passes = whole ++ abandoned ∧
      (∀ calls ∈ whole, calls = 0 ∨ total < calls) ∧
      (last = total ∨ whole.countP (total < ·) ≤ 1) ∧
      abandoned.sum ≤ if whole.any (total < ·) then last else total := by
  induction passes with
  | nil => exact ⟨[], [], rfl, by simp, by simp, by simp⟩
  | cons calls passes ih =>
    obtain ⟨-, later⟩ := h
    by_cases through : total < calls
    · rw [if_neg (by omega)] at later
      by_cases one : last = total
      · subst one
        obtain ⟨whole, abandoned, rfl, each, -, sum⟩ := ih later
        refine ⟨calls :: whole, abandoned, rfl, ?_, .inl rfl, by simpa using sum⟩
        simpa [through] using each
      · have sum := (spared_behind (by omega) passes).mp later
        exact ⟨[calls], passes, rfl, by simp [through], by simp [through], by simpa [through]⟩
    · rw [if_pos (by omega)] at later
      rcases Nat.eq_zero_or_pos calls with rfl | some'
      · obtain ⟨whole, abandoned, rfl, each, count, sum⟩ := ih later
        exact ⟨0 :: whole, abandoned, rfl, by simpa using each, by simpa using count,
          by simpa using sum⟩
      · have sum := (spared_behind (by omega) passes).mp later
        refine ⟨[], calls :: passes, rfl, by simp, by simp, ?_⟩
        simp only [List.any_nil, Bool.false_eq_true, if_false, List.sum_cons]
        omega

theorem spared_of_split {total last : ℕ} {whole abandoned : List ℕ}
    (each : ∀ calls ∈ whole, calls = 0 ∨ total < calls)
    (count : last = total ∨ whole.countP (total < ·) ≤ 1)
    (sum : abandoned.sum ≤ if whole.any (total < ·) then last else total) :
    Spared total last total (whole ++ abandoned) := by
  induction whole with
  | nil => exact spared_of_sum_le (by simpa using sum)
  | cons calls whole ih =>
    have others := fun c mem => each c (List.mem_cons_of_mem calls mem)
    refine ⟨fun _ => rfl, ?_⟩
    rcases each calls List.mem_cons_self with rfl | through
    · rw [if_pos (Nat.zero_le _)]
      exact ih others (by simpa using count) (by simpa using sum)
    · rw [if_neg (by omega)]
      rcases count with rfl | count
      · exact ih others (.inl rfl) (by simpa using sum)
      · -- the only pass through all rows is behind, and the others make no call
        have idle : ∀ c ∈ whole, c = 0 := by
          intro c mem
          refine (others c mem).resolve_right fun more => ?_
          have : 0 < whole.countP (total < ·) := List.countP_pos_iff.mpr ⟨c, mem, by simpa⟩
          simp only [List.countP_cons, through, decide_true, if_true] at count
          omega
        apply spared_of_sum_le
        change (whole ++ abandoned).sum ≤ last
        rw [List.sum_append, List.sum_eq_zero_iff_forall_eq_nat.mpr idle]
        simpa [through] using sum

theorem lastBatchRows_length (result : QueryResult ArrayRef) (columns : List Column) :
    (lastBatchRows result columns).length = lastBatchSize result := by
  unfold lastBatchRows lastRows lastBatchSize
  cases result.batches.getLast? <;> simp [chunkRows]

theorem lastBatchSize_le (result : QueryResult ArrayRef) :
    lastBatchSize result ≤ totalRows result := by
  unfold lastBatchSize totalRows
  rcases List.eq_nil_or_concat result.batches with none' | ⟨init, batch, last⟩
  · simp [none']
  · simp [last]

theorem lastBatchSize_eq_iff (result : QueryResult ArrayRef) :
    lastBatchSize result = totalRows result ↔ result.batches.length ≤ 1 := by
  have nonempty := result.nonempty
  unfold lastBatchSize totalRows
  rcases List.eq_nil_or_concat result.batches with none' | ⟨init, batch, last⟩
  · simp [none']
  · rw [last] at nonempty ⊢
    cases init with
    | nil => simp
    | cons first init =>
      have positive := nonempty first (by simp)
      rw [List.concat_eq_append, List.getLast?_concat]
      simp
      omega

/-- Each pass that runs to the end returns the whole result, exactly when no row
can be replayed or left out, or some row cannot be read at all. -/
theorem passes_complete_iff (userMapping : Options) (t : ForeignTable) (request : ScanRequest)
    (result : QueryResult ArrayRef) (g : Globals ArrayRef) (passes : List ℕ) :
    Always (passMachine (.answered result)) (Complete result request.columns)
        (FdwScan.begun userMapping t request, g) passes ↔
      (∃ fault, collect (resultRows result request.columns) = .error fault) ∨
        NoneReplayed result passes := by
  have start : Reading result request.columns (resultRows result request.columns)
      (FdwScan.begun userMapping t request, g) := Reading.begun userMapping t rfl g
  cases read : collect (resultRows result request.columns) with
  | error fault =>
    exact iff_of_true (passes_of_unreadable read start passes) (.inl ⟨fault, rfl⟩)
  | ok rows =>
    have readable := eq_map_of_collect read
    obtain ⟨last, suffix, ends⟩ : ∃ last, last <:+ rows ∧
        lastBatchRows result request.columns = last.map .ok := by
      rw [← List.suffix_map_iff, ← readable]
      exact lastRows_suffix _ _ _
    have total : rows.length = totalRows result := by
      rw [← List.length_map (f := (Except.ok : _ → Except Fault (Tuple Cell))), ← readable]
      exact BatchCursor.rows_length _ _ _
    have kept : last.length = lastBatchSize result := by
      rw [← lastBatchRows_length result request.columns, ends, List.length_map]
    have complete := passes_complete_spared read ends suffix List.suffix_rfl (readable ▸ start)
      passes
    rw [total, kept] at complete
    simp only [reduceCtorEq, exists_false, false_or, NoneReplayed, ← lastBatchSize_eq_iff]
    rw [complete]
    refine ⟨spared_split (lastBatchSize_le result), ?_⟩
    rintro ⟨whole, abandoned, rfl, each, count, sum⟩
    exact spared_of_split each count sum

theorem second_pass_returns_last_batch :
    ¬ Always (passMachine (.answered orderIds)) (Complete orderIds [⟨"id", INT4OID⟩])
        (FdwScan.begun [] ⟨"public", "orders", "files", .parquet, []⟩
          ⟨[], [⟨"id", INT4OID⟩], [], none⟩, Globals.init) [4, 4] := by
  decide

end PgAnalytics.Rescan
