import PgAnalytics.BaseFdw
import PgAnalytics.RowWindows

/-! The statement of a DuckDB scan, and the plan above it: DuckDB filters, orders and cuts,
and Postgres filters what it is given and takes its own OFFSET and LIMIT of it. -/

namespace PgAnalytics.LimitPushdown
open Basics RecordBatches ForeignTables BaseFdw RowWindows

/-- The quals and sorts of the wrappers crate over the rows of a table, each with the text
that it is deparsed to and with what DuckDB takes that text for, a qual as one operand of
AND and a sort as one key of ORDER BY. -/
structure Source (Qual SortKey Row Value : Type) where
  deparseQual : Qual → String
  deparseSort : SortKey → String
  holds : Qual → Row → Bool
  compare : SortKey → Row → Row → Ordering
  columns : List String
  value : Row → String → Value

variable {Qual SortKey Row Value : Type}

structure Select (Qual SortKey : Type) where
  targets : Option (List String)
  table : ForeignTable
  filter : Option (List Qual)
  order : Option (List SortKey)
  limit : Option Int64

/-- The sum of two `i64`, in a build that checks for overflow or in one that wraps. -/
def addI64 (checked : Bool) (a b : Int64) : Except Fault Int64 :=
  if checked ∧ (a + b).toInt ≠ a.toInt + b.toInt then
    .error (.panic "attempt to add with overflow")
  else .ok (a + b)

def constructSql (checked : Bool) (t : ForeignTable) (quals : List Qual) (columns : List Column)
    (sorts : List SortKey) (limit : Option Limit) : Except Fault (Select Qual SortKey) := do
  let targets := if columns.isEmpty then none else some (columns.map (·.name))
  let filter := if quals.isEmpty then none else some quals
  let order := if sorts.isEmpty then none else some sorts
  match limit with
  | none => return ⟨targets, t, filter, order, none⟩
  | some limit =>
    let realLimit ← addI64 checked limit.offset limit.count
    return ⟨targets, t, filter, order, some realLimit⟩

section Meaning

variable (source : Source Qual SortKey Row Value)

def Select.text (s : Select Qual SortKey) : String :=
  "SELECT " ++ s.targets.elim "*" ", ".intercalate ++ " FROM " ++ s.table.schema ++ "." ++
    s.table.name ++
  s.filter.elim "" (fun quals => " WHERE " ++ " AND ".intercalate (quals.map source.deparseQual)) ++
  s.order.elim "" (fun sorts => " ORDER BY " ++ ", ".intercalate (sorts.map source.deparseSort)) ++
  s.limit.elim "" (fun limit => " LIMIT " ++ toString limit.toInt)

def Source.satisfies (quals : List Qual) (row : Row) : Bool := quals.all (source.holds · row)

/-- The first sort that tells two rows apart decides. -/
def Source.comparison (sorts : List SortKey) (a b : Row) : Ordering :=
  sorts.foldr (fun sort later => (source.compare sort a b).then later) .eq

structure Source.Arranges (sorts : List SortKey) (rows arranged : List Row) : Prop where
  perm : arranged.Perm rows
  sorted : arranged.Pairwise fun a b => source.comparison sorts a b ≠ .gt

def Select.project (s : Select Qual SortKey) (row : Row) : List Value :=
  (s.targets.getD source.columns).map (source.value row)

/-- What DuckDB may answer over the rows of the table; a negative limit it rejects. -/
def Select.Answers (s : Select Qual SortKey) (table : List Row)
    (answer : List (List Value)) : Prop :=
  (∀ limit ∈ s.limit, 0 ≤ limit) ∧
  ∃ arranged,
    source.Arranges (s.order.getD [])
      (table.filter (s.filter.elim (fun _ => true) source.satisfies)) arranged ∧
    answer = (s.limit.elim arranged (arranged.take ·.toNatClampNeg)).map (s.project source)

end Meaning

structure PlanLimit extends Limit where
  count_nonneg : 0 ≤ count
  offset_nonneg : 0 ≤ offset

def PlanLimit.window (limit : PlanLimit) {α : Type} : List α → List α :=
  RowWindows.window limit.offset.toNatClampNeg (some limit.count.toNatClampNeg)

structure Plan (source : Source Qual SortKey Row Value) where
  columns : List Column
  quals : List Qual
  filters : List (List Value → Bool)
  covered : ∀ row, source.satisfies quals row →
    filters.all (· (columns.map (source.value row ·.name)))
  sorts : List SortKey
  limit : Option PlanLimit

namespace Plan

variable {source : Source Qual SortKey Row Value} (plan : Plan source)

def tuple (row : Row) : List Value := plan.columns.map (source.value row ·.name)

def passes (tuple : List Value) : Bool := plan.filters.all (· tuple)

def window {α : Type} (rows : List α) : List α := plan.limit.elim rows (·.window rows)

/-- What Postgres makes of an answer, of which it reads the target columns. -/
def read (answer : List (List Value)) : List (List Value) :=
  plan.window ((answer.map (·.take plan.columns.length)).filter plan.passes)

/-- The same query over the rows of the table as they are. -/
def Expects (table : List Row) (tuples : List (List Value)) : Prop :=
  ∃ arranged,
    source.Arranges plan.sorts
      (table.filter fun row => source.satisfies plan.quals row && plan.passes (plan.tuple row))
      arranged ∧
    tuples = (plan.window arranged).map plan.tuple

def constructSql (checked : Bool) (t : ForeignTable) : Except Fault (Select Qual SortKey) :=
  LimitPushdown.constructSql checked t plan.quals plan.columns plan.sorts
    (plan.limit.map (·.toLimit))

def request : ScanRequest :=
  ⟨plan.quals.map source.deparseQual, plan.columns, plan.sorts.map source.deparseSort,
    plan.limit.map (·.toLimit)⟩

/-- The limit is the sum, and over every table the plan gives what the query asks for. -/
def Sound (checked : Bool) (t : ForeignTable) : Prop :=
  ∃ s, plan.constructSql checked t = .ok s ∧ s.text source = scanSql t plan.request ∧
    s.limit.map Int64.toInt = plan.limit.map (fun l => l.offset.toInt + l.count.toInt) ∧
    ∀ table tuples,
      (∃ answer, s.Answers source table answer ∧ tuples = plan.read answer) ↔
        plan.Expects table tuples

end Plan

namespace PlanLimit

variable (limit : PlanLimit)

theorem window_map {α β : Type} (f : α → β) (rows : List α) :
    limit.window (rows.map f) = (limit.window rows).map f :=
  RowWindows.window_map f _ _ rows

end PlanLimit

namespace Plan

variable {source : Source Qual SortKey Row Value} (plan : Plan source)

def statement (t : ForeignTable) (limit : Option Int64) : Select Qual SortKey :=
  ⟨if plan.columns.isEmpty then none else some (plan.columns.map (·.name)), t,
    if plan.quals.isEmpty then none else some plan.quals,
    if plan.sorts.isEmpty then none else some plan.sorts, limit⟩

theorem window_map {α β : Type} (f : α → β) (rows : List α) :
    plan.window (rows.map f) = (plan.window rows).map f := by
  unfold window
  cases plan.limit with
  | none => rfl
  | some limit => exact limit.window_map f rows

end Plan

def numbers : Source String String Int Int :=
  ⟨id, id, fun _ _ => true, fun _ _ _ => .eq, ["n"], fun n _ => n⟩

end PgAnalytics.LimitPushdown
