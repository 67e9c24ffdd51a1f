import PgAnalytics.Commands
import PgAnalytics.RecordBatches

/-! `GLOBAL_STATEMENT` and `GLOBAL_ARROW`: the one prepared statement of a
backend and the one reader of its result. Statements are numbered as they are
prepared, so that a reader names the statement that produced it. -/

namespace PgAnalytics.ArrowReader
open Basics Commands RecordBatches

variable {ArrayRef Cell : Type} [GetCell ArrayRef Cell]

structure PreparedQuery where
  id : ℕ
  sql : String
  deriving DecidableEq, Repr

structure Arrow (ArrayRef : Type) {Cell : Type} [GetCell ArrayRef Cell] where
  statement : ℕ
  result : QueryResult ArrayRef

structure Globals (ArrayRef : Type) {Cell : Type} [GetCell ArrayRef Cell] where
  statement : Option PreparedQuery
  arrow : Option (Arrow ArrayRef)
  nextId : ℕ

def Globals.init : Globals ArrayRef := ⟨none, none, 0⟩

inductive QueryAnswer (ArrayRef : Type) {Cell : Type} [GetCell ArrayRef Cell] where
  | notPrepared (message : String)
  | notExecuted (message : String)
  | answered (result : QueryResult ArrayRef)

/-- `create_arrow`: the statement is stored before it is executed. -/
def createArrow (sql : String) (answer : QueryAnswer ArrayRef) :
    Command (Globals ArrayRef) Fault Bool := do
  match answer with
  | .notPrepared message => throw (.error message)
  | .notExecuted message =>
    modify fun g => { g with statement := some ⟨g.nextId, sql⟩, nextId := g.nextId + 1 }
    throw (.error message)
  | .answered result =>
    modify fun g => { g with statement := some ⟨g.nextId, sql⟩, nextId := g.nextId + 1 }
    modify fun g => { g with arrow := g.statement.map fun query => ⟨query.id, result⟩ }
    return true

def clearArrow : Command (Globals ArrayRef) Fault Unit :=
  modify fun g => { g with statement := none, arrow := none }

/-- What is left in a reader. It steps the statement that is stored now, which has
a result only if it is the one that answered the reader. -/
def Globals.pending (g : Globals ArrayRef) (arrow : Arrow ArrayRef) : QueryResult ArrayRef :=
  if g.statement.map (·.id) = some arrow.statement then arrow.result else .empty

/-- `get_next_batch`; a reader at its end stays there. -/
def getNextBatch : Command (Globals ArrayRef) Fault (Option (RecordBatch ArrayRef)) := do
  let g ← get
  match g.arrow with
  | none => throw (.error "No Arrow batches found in GLOBAL_ARROW")
  | some arrow =>
    let left := g.pending arrow
    modify fun g => { g with arrow := some { arrow with result := left.tail } }
    return left.batches.head?

/-- `get_batches` reads to the end. -/
def getBatches : Command (Globals ArrayRef) Fault (List (RecordBatch ArrayRef)) := do
  let g ← get
  match g.arrow with
  | none => throw (.error "No Arrow batches found in GLOBAL_ARROW")
  | some arrow =>
    modify fun g => { g with arrow := some { arrow with result := .empty } }
    return (g.pending arrow).batches

theorem exec_createArrow (sql : String) (answer : QueryAnswer ArrayRef) (g : Globals ArrayRef) :
    exec (createArrow sql answer) g =
      match answer with
      | .notPrepared message => (.error (.error message), g)
      | .notExecuted message =>
        (.error (.error message),
          { g with statement := some ⟨g.nextId, sql⟩, nextId := g.nextId + 1 })
      | .answered result =>
        (.ok true, ⟨some ⟨g.nextId, sql⟩, some ⟨g.nextId, result⟩, g.nextId + 1⟩) := by
  cases answer <;> rfl

theorem exec_getNextBatch (g : Globals ArrayRef) :
    exec getNextBatch g =
      match g.arrow with
      | none => (.error (.error "No Arrow batches found in GLOBAL_ARROW"), g)
      | some arrow =>
        (.ok (g.pending arrow).batches.head?,
          { g with arrow := some { arrow with result := (g.pending arrow).tail } }) := by
  obtain ⟨statement, arrow, nextId⟩ := g
  cases arrow <;> rfl

theorem exec_getBatches (g : Globals ArrayRef) :
    exec getBatches g =
      match g.arrow with
      | none => (.error (.error "No Arrow batches found in GLOBAL_ARROW"), g)
      | some arrow =>
        (.ok (g.pending arrow).batches,
          { g with arrow := some { arrow with result := .empty } }) := by
  obtain ⟨statement, arrow, nextId⟩ := g
  cases arrow <;> rfl

structure Globals.Reads (g : Globals ArrayRef) (arrow : Arrow ArrayRef) : Prop where
  stored : g.arrow = some arrow
  statement : g.statement.map (·.id) = some arrow.statement

@[simp] theorem Globals.pending_created (id : ℕ) (sql : String) (arrow : Option (Arrow ArrayRef))
    (nextId : ℕ) (result : QueryResult ArrayRef) :
    (⟨some ⟨id, sql⟩, arrow, nextId⟩ : Globals ArrayRef).pending ⟨id, result⟩ = result :=
  if_pos rfl

theorem Globals.Reads.exec_getNextBatch {g : Globals ArrayRef} {arrow : Arrow ArrayRef}
    (reads : g.Reads arrow) :
    exec getNextBatch g = (.ok arrow.result.batches.head?,
      { g with arrow := some { arrow with result := arrow.result.tail } }) := by
  have left : g.pending arrow = arrow.result := if_pos reads.statement
  rw [ArrowReader.exec_getNextBatch, reads.stored]
  simp only [left]

theorem Globals.Reads.later {g : Globals ArrayRef} {arrow : Arrow ArrayRef}
    (reads : g.Reads arrow) (result : QueryResult ArrayRef) :
    Globals.Reads { g with arrow := some { arrow with result := result } }
      { arrow with result := result } :=
  ⟨rfl, reads.statement⟩

end PgAnalytics.ArrowReader
