import Mathlib.Data.List.TakeDrop
import PgAnalytics.Executor

/-! Successive calls of the executor hook on one portal, each with a row limit.
The pushdown keeps no position between calls and does not look at the limit, so
that each call sends the whole result again. -/

namespace PgAnalytics.RowCount
open Basics Commands DuckdbCatalog RecordBatches ArrowReader QueryHook Executor

variable {κ : Type} [DecidableEq κ] {fold : String → κ}
variable {ArrayRef Cell : Type} [GetCell ArrayRef Cell]

structure Call where
  args : RunArgs
  pgSearchPath : List String

/-- The rows that each call sends while DuckDB answers every one of them. -/
def sent (p : PushedQuery ArrayRef) : List Call → Backend fold ArrayRef → List (List (Tuple Cell))
  | [], _ => []
  | call :: calls, b =>
    let b' := (exec (executorRun false accepting call.pgSearchPath (.answered p.result) p.desc
      call.args) b).2
    b'.output.sent.drop b.output.sent.length :: sent p calls b'

/-- The rows one call may send, and those it leaves for later calls. -/
def limited (count : UInt64) (rows : List (Tuple Cell)) : List (Tuple Cell) :=
  if count = 0 then rows else rows.take count.toNat

def remaining (count : UInt64) (rows : List (Tuple Cell)) : List (Tuple Cell) :=
  if count = 0 then [] else rows.drop count.toNat

/-- Postgres's contract: at most `count` rows, from where the last call stopped. -/
def contracted : List (Tuple Cell) → List Call → List (List (Tuple Cell))
  | _, [] => []
  | rows, call :: calls =>
    limited call.args.count rows :: contracted (remaining call.args.count rows) calls

theorem sent_eq (p : PushedQuery ArrayRef) (calls : List Call) (b : Backend fold ArrayRef) :
    sent p calls b = calls.map fun _ => p.rows := by
  induction calls generalizing b with
  | nil => rfl
  | cons call calls ih =>
    obtain ⟨duck, globals, handed, run⟩ := executorRun_pushed p call.pgSearchPath call.args b
    rw [sent, run, ih]
    simp [Output.delivered]

theorem limited_eq_self {count : UInt64} {rows : List (Tuple Cell)} :
    limited count rows = rows ↔ count = 0 ∨ rows.length ≤ count.toNat := by
  by_cases zero : count = 0
  · simp [limited, zero]
  · simp [limited, zero, List.take_eq_self_iff]

theorem limited_length (count : UInt64) (rows : List (Tuple Cell)) :
    (limited count rows).length ≤ rows.length := by
  unfold limited
  split
  · exact Nat.le_refl _
  · rw [List.length_take]
    omega

theorem remaining_length {rows : List (Tuple Cell)} (some' : rows ≠ []) (count : UInt64) :
    (remaining count rows).length < rows.length := by
  have positive := List.length_pos_iff.mpr some'
  by_cases zero : count = 0
  · simpa [remaining, zero] using positive
  · have count_pos : count.toNat ≠ 0 := fun h => zero (UInt64.toNat_inj.mp h)
    simp only [remaining, zero, if_false, List.length_drop]
    omega

theorem contracted_nil (calls : List Call) :
    contracted ([] : List (Tuple Cell)) calls = calls.map fun _ => [] := by
  induction calls with
  | nil => rfl
  | cons call calls ih => simp [contracted, limited, remaining, ih]

/-- The row-count contract holds of a sequence of calls exactly when there is
nothing to send, no call, or one call whose limit is not below the result. -/
theorem sent_contracted_iff (p : PushedQuery ArrayRef) (calls : List Call)
    (b : Backend fold ArrayRef) :
    sent p calls b = contracted p.rows calls ↔
      p.rows = [] ∨ calls = [] ∨ ∃ call, calls = [call] ∧
        (call.args.count = 0 ∨ p.rows.length ≤ call.args.count.toNat) := by
  rw [sent_eq]
  constructor
  · intro kept
    cases calls with
    | nil => exact .inr (.inl rfl)
    | cons call calls =>
      obtain ⟨first, later⟩ := List.cons.inj kept
      cases calls with
      | nil => exact .inr (.inr ⟨call, rfl, limited_eq_self.mp first.symm⟩)
      | cons next calls =>
        -- the second call sends all the rows again, more than there are left
        left
        by_contra some'
        obtain ⟨second, -⟩ := List.cons.inj later
        have fewer := remaining_length some' call.args.count
        have most := limited_length next.args.count (remaining call.args.count p.rows)
        rw [← second] at most
        dsimp only at most
        omega
  · rintro (none | rfl | ⟨call, rfl, whole⟩)
    · rw [none, contracted_nil]
    · rfl
    · simp [contracted, limited_eq_self.mpr whole]

def selectIds : PushedQuery Int32Array where
  desc :=
    { stmtLocation := 0, stmtLen := 0
      rtable := some [.relation ⟨true, "parquet_fdw_handler"⟩]
      operation := .select
      sourceText := .utf8 "SELECT id FROM orders".toList
      tupDesc := [⟨"id", INT4OID⟩]
      dest := ⟨true, true, true⟩ }
  text := "SELECT id FROM orders".toList
  result := ⟨[int32Batch [some 1, some 2]], by simp [int32Batch]⟩
  rows := [[some (.i32 1)], [some (.i32 2)]]
  current := by decide
  pushed := by decide
  startup := rfl
  receive := rfl
  shutdown := rfl
  read := by decide

theorem fetch_one_sends_both :
    sent selectIds [⟨⟨.forward, 1, false⟩, ["public"]⟩]
        (Backend.init : Backend (id : String → String) Int32Array) ≠
      contracted selectIds.rows [⟨⟨.forward, 1, false⟩, ["public"]⟩] := by
  rw [sent_eq]
  decide

end PgAnalytics.RowCount
