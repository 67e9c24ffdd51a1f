import PgAnalytics.BaseFdw
import PgAnalytics.QueryHook
import PgAnalytics.Runs

/-! The statement behind the stored reader, in every order of the calls that touch the two
globals. A statement is stored before it is known whether it can be executed, and the reader
of the one before it stays; the hooks then clear both, a scan does not. A reader that has lost
its statement gives nothing. -/

namespace PgAnalytics.ReaderPairing
open Basics Commands RecordBatches ArrowReader BaseFdw QueryHook Runs

variable {ArrayRef Cell : Type} [GetCell ArrayRef Cell]

inductive Call (ArrayRef : Type) {Cell : Type} [GetCell ArrayRef Cell] where
  | createArrow (sql : String) (answer : QueryAnswer ArrayRef)
  | clearArrow
  | getNextBatch
  | getBatches

structure Outcome (ArrayRef : Type) {Cell : Type} [GetCell ArrayRef Cell] where
  ok : Bool
  globals : Globals ArrayRef

def outcome {α : Type} (command : Command (Globals ArrayRef) Fault α) (g : Globals ArrayRef) :
    Outcome ArrayRef :=
  ⟨(exec command g).1.isOk, (exec command g).2⟩

def Call.perform : Call ArrayRef → Globals ArrayRef → Outcome ArrayRef
  | .createArrow sql answer => outcome (ArrowReader.createArrow sql answer)
  | .clearArrow => outcome ArrowReader.clearArrow
  | .getNextBatch => outcome ArrowReader.getNextBatch
  | .getBatches => outcome ArrowReader.getBatches

def machine : Machine (Globals ArrayRef) (Call ArrayRef) (Outcome ArrayRef) :=
  fun g call => some ((call.perform g).globals, call.perform g)

def Call.FailsToExecute (call : Call ArrayRef) : Prop :=
  ∃ sql message, call = .createArrow sql (.notExecuted message)

def owner (g : Globals ArrayRef) : Option ℕ := g.arrow.map (·.statement)

def Paired (g : Globals ArrayRef) : Prop :=
  ∀ id, owner g = some id → ∃ query, g.statement = some query ∧ query.id = id

structure Keeps (g : Globals ArrayRef) (call : Call ArrayRef) (outcome : Outcome ArrayRef) :
    Prop where
  paired : Paired outcome.globals
  failed : ∀ sql answer, call = .createArrow sql answer → outcome.ok = false →
    (outcome.globals.statement = g.statement ∧ outcome.globals.arrow = g.arrow) ∨
      outcome.globals.statement = none ∧ outcome.globals.arrow = none

structure Numbered (g : Globals ArrayRef) : Prop where
  statement : ∀ query, g.statement = some query → query.id < g.nextId
  owner : ∀ id, owner g = some id → id < g.nextId

structure SamePair (g g' : Globals ArrayRef) : Prop where
  statement : g'.statement = g.statement
  owner : owner g' = owner g
  nextId : g'.nextId = g.nextId

instance : Std.Refl (@SamePair ArrayRef Cell _) := ⟨fun _ => ⟨rfl, rfl, rfl⟩⟩

theorem SamePair.paired_iff {g g' : Globals ArrayRef} (h : SamePair g g') :
    Paired g' ↔ Paired g := by
  rw [Paired, Paired, h.statement, h.owner]

theorem getNextBatch_samePair :
    Respects SamePair (getNextBatch : Command (Globals ArrayRef) Fault _) := by
  rintro ⟨statement, arrow, nextId⟩
  rw [exec_getNextBatch]
  cases arrow <;> exact ⟨rfl, rfl, rfl⟩

theorem getBatches_samePair :
    Respects SamePair (getBatches : Command (Globals ArrayRef) Fault _) := by
  rintro ⟨statement, arrow, nextId⟩
  rw [exec_getBatches]
  cases arrow <;> exact ⟨rfl, rfl, rfl⟩

theorem reads_nothing {g : Globals ArrayRef} (lost : ¬ Paired g) :
    (exec getNextBatch g).1 = .ok none ∧ (exec getBatches g).1 = .ok [] := by
  obtain ⟨statement, arrow, nextId⟩ := g
  cases arrow with
  | none => exact absurd (fun id owns => by cases owns) lost
  | some arrow =>
    have other : ¬ statement.map (·.id) = some arrow.statement := by
      intro same
      refine lost fun id owns => ?_
      cases owns
      exact Option.map_eq_some_iff.mp same
    have left : Globals.pending ⟨statement, some arrow, nextId⟩ arrow = .empty := if_neg other
    rw [exec_getNextBatch, exec_getBatches]
    simp only [left]
    exact ⟨rfl, rfl⟩

inductive Effect (g : Globals ArrayRef) : Call ArrayRef → Outcome ArrayRef → Prop where
  | notPrepared (sql message : String) :
    Effect g (.createArrow sql (.notPrepared message)) ⟨false, g⟩
  | notExecuted (sql message : String) :
    Effect g (.createArrow sql (.notExecuted message))
      ⟨false, { g with statement := some ⟨g.nextId, sql⟩, nextId := g.nextId + 1 }⟩
  | created (sql : String) (result : QueryResult ArrayRef) :
    Effect g (.createArrow sql (.answered result))
      ⟨true, ⟨some ⟨g.nextId, sql⟩, some ⟨g.nextId, result⟩, g.nextId + 1⟩⟩
  | cleared : Effect g .clearArrow ⟨true, { g with statement := none, arrow := none }⟩
  | read {call : Call ArrayRef} {outcome : Outcome ArrayRef}
    (reads : call = .getNextBatch ∨ call = .getBatches) (same : SamePair g outcome.globals) :
    Effect g call outcome

theorem effect_perform (g : Globals ArrayRef) (call : Call ArrayRef) :
    Effect g call (call.perform g) := by
  cases call with
  | createArrow sql answer =>
    rw [Call.perform, outcome, exec_createArrow]
    cases answer with
    | notPrepared message => exact .notPrepared sql message
    | notExecuted message => exact .notExecuted sql message
    | answered result => exact .created sql result
  | clearArrow => exact .cleared
  | getNextBatch => exact .read (.inl rfl) (getNextBatch_samePair g)
  | getBatches => exact .read (.inr rfl) (getBatches_samePair g)

theorem ne_createArrow {call : Call ArrayRef} (reads : call = .getNextBatch ∨ call = .getBatches)
    (sql : String) (answer : QueryAnswer ArrayRef) : call ≠ .createArrow sql answer := by
  rcases reads with rfl | rfl <;> simp

section Step

variable {g : Globals ArrayRef} {call : Call ArrayRef} {outcome : Outcome ArrayRef}

theorem Effect.numbered (effect : Effect g call outcome) (numbered : Numbered g) :
    Numbered outcome.globals := by
  have next : ∀ id, id < g.nextId → id < g.nextId + 1 := fun _ => Nat.lt_succ_of_lt
  cases effect with
  | notPrepared => exact numbered
  | notExecuted sql =>
    refine ⟨?_, fun id owns => next id (numbered.owner id owns)⟩
    rintro query ⟨⟩
    exact Nat.lt_succ_self g.nextId
  | created sql result =>
    constructor
    · rintro query ⟨⟩
      exact Nat.lt_succ_self g.nextId
    · rintro id ⟨⟩
      exact Nat.lt_succ_self g.nextId
  | cleared => exact ⟨by simp, by simp [owner]⟩
  | read _ same =>
    constructor
    · rw [same.statement, same.nextId]
      exact numbered.statement
    · rw [same.owner, same.nextId]
      exact numbered.owner

theorem Effect.paired_iff (effect : Effect g call outcome) (numbered : Numbered g)
    (paired : Paired g) :
    Paired outcome.globals ↔ (call.FailsToExecute → g.arrow = none) := by
  cases effect with
  | notPrepared =>
    refine iff_of_true paired ?_
    rintro ⟨_, _, ⟨⟩⟩
  | notExecuted sql message =>
    constructor
    · intro kept _
      cases stored : g.arrow with
      | none => rfl
      | some arrow =>
        have owns : owner g = some arrow.statement := by rw [owner, stored, Option.map_some]
        obtain ⟨query, ⟨⟩, same⟩ := kept arrow.statement owns
        exact absurd same (Nat.ne_of_gt (numbered.owner arrow.statement owns))
    · intro nothing id owns
      rw [owner, nothing ⟨sql, message, rfl⟩] at owns
      cases owns
  | created sql result =>
    refine iff_of_true ?_ ?_
    · rintro id ⟨⟩
      exact ⟨_, rfl, rfl⟩
    · rintro ⟨_, _, ⟨⟩⟩
  | cleared =>
    refine iff_of_true ?_ ?_
    · rintro id ⟨⟩
    · rintro ⟨_, _, ⟨⟩⟩
  | read reads same =>
    refine iff_of_true (same.paired_iff.mpr paired) ?_
    rintro ⟨sql, message, fails⟩
    exact absurd fails (ne_createArrow reads sql _)

/-- A statement that is stored and not executed is a new one. -/
theorem Effect.keeps_iff (effect : Effect g call outcome) (numbered : Numbered g)
    (paired : Paired g) : Keeps g call outcome ↔ ¬ call.FailsToExecute := by
  have pairs := effect.paired_iff numbered paired
  constructor
  · rintro ⟨-, failed⟩ ⟨sql, message, rfl⟩
    cases effect with
    | notExecuted =>
      rcases failed sql (.notExecuted message) rfl rfl with ⟨same, -⟩ | ⟨cleared, -⟩
      · exact absurd (numbered.statement _ same.symm) (Nat.lt_irrefl g.nextId)
      · cases cleared
    | read reads => exact absurd rfl (ne_createArrow reads sql _)
  · intro executes
    refine ⟨pairs.mpr fun fails => absurd fails executes, ?_⟩
    rintro sql answer rfl failed
    cases effect with
    | notPrepared => exact .inl ⟨rfl, rfl⟩
    | notExecuted _ message => exact absurd ⟨sql, message, rfl⟩ executes
    | created => cases failed
    | read reads => exact absurd rfl (ne_createArrow reads sql answer)

end Step

structure Sound (g : Globals ArrayRef) : Prop where
  numbered : Numbered g
  paired : Paired g

theorem sound_init : Sound (Globals.init : Globals ArrayRef) := by
  refine ⟨⟨?_, ?_⟩, ?_⟩
  · rintro query ⟨⟩
  · rintro id ⟨⟩
  · rintro id ⟨⟩

/-- The reader belongs to the statement all along where no statement fails to execute while
there is a reader. -/
theorem always_paired_iff (calls : List (Call ArrayRef)) :
    Always machine (fun _ _ outcome => Paired outcome.globals) Globals.init calls ↔
      Along machine (fun g call => call.FailsToExecute → g.arrow = none) Globals.init calls := by
  refine always_congr Sound ?_ sound_init calls
  rintro g call _ _ sound ⟨⟩
  have effect := effect_perform g call
  exact ⟨effect.paired_iff sound.numbered sound.paired,
    fun paired => ⟨effect.numbered sound.numbered, paired⟩⟩

theorem always_keeps_iff (calls : List (Call ArrayRef)) :
    Always machine Keeps Globals.init calls ↔ ∀ call ∈ calls, ¬ call.FailsToExecute := by
  rw [← along_input (m := machine) (fun _ _ => rfl) Globals.init calls]
  refine always_congr Sound ?_ sound_init calls
  rintro g call _ _ sound ⟨⟩
  have effect := effect_perform g call
  exact ⟨effect.keeps_iff sound.numbered sound.paired,
    fun keeps => ⟨effect.numbered sound.numbered, keeps.paired⟩⟩

section Callers

variable {κ : Type} {fold : String → κ}

theorem paired_runInDuckdb (answer : QueryAnswer ArrayRef) (dest : DestReceiver)
    (tupDesc : List Column) (text : List Char) (b : Backend fold ArrayRef) :
    Paired (exec (runInDuckdb answer dest tupDesc text) b).2.globals := by
  cases answer with
  | notPrepared message | notExecuted message => rintro id ⟨⟩
  | answered result =>
    simp only [runInDuckdb, hand, exec_modify, Backend.onGlobals, Backend.onOutput, exec_bind,
      exec_attempt, exec_onPart, exec_createArrow, exec_getBatches, Globals.pending_created]
    rcases exec (writeBatchesToSlots dest tupDesc result.batches) b.output with ⟨fault | _, out⟩
    · rintro id ⟨⟩
      exact ⟨_, rfl, rfl⟩
    · rintro id ⟨⟩

theorem nextRow_samePair (scan : FdwScan ArrayRef) (g : Globals ArrayRef) :
    SamePair g (exec nextRow (scan, g)).2.2 := by
  rw [nextRow_globals]
  split
  · exact getNextBatch_samePair g
  · exact Std.Refl.refl g

/-- The first call of a scan takes the pair apart where its statement cannot be executed and
another scan has left its reader. -/
theorem paired_iterScanImpl_iff {scan : FdwScan ArrayRef} {sql : String}
    (fresh : scan.scanStarted = false) (cached : scan.sql = some sql)
    (answer : QueryAnswer ArrayRef) {g : Globals ArrayRef} (sound : Sound g) :
    Paired (exec (iterScanImpl false answer) (scan, g)).2.2 ↔
      ((∃ message, answer = .notExecuted message) → g.arrow = none) := by
  have effect := effect_perform g (.createArrow sql answer)
  have created := effect.paired_iff sound.numbered sound.paired
  have fails : (Call.createArrow sql answer).FailsToExecute ↔
      ∃ message, answer = .notExecuted message := by
    constructor
    · rintro ⟨_, message, ⟨⟩⟩
      exact ⟨message, rfl⟩
    · rintro ⟨message, rfl⟩
      exact ⟨sql, message, rfl⟩
  rw [← fails, ← created, exec_iterScanImpl_first fresh cached, Call.perform, outcome]
  rcases exec (createArrow sql answer) g with ⟨fault | _, g'⟩
  · exact Iff.rfl
  · exact (nextRow_samePair { scan with scanStarted := true } g').paired_iff

end Callers

def twoScans : List (Call Int32Array) :=
  [.createArrow "SELECT id FROM public.orders" (.answered
      ⟨[int32Batch [some 7]], List.forall_mem_singleton.mpr Nat.one_pos⟩),
    .createArrow "SELECT id FROM public.trips" (.notExecuted "Conversion Error")]

theorem failed_scan_keeps_reader :
    (twoScans.foldl (fun g call => (call.perform g).globals) Globals.init).statement =
        some ⟨1, "SELECT id FROM public.trips"⟩ ∧
      owner (twoScans.foldl (fun g call => (call.perform g).globals) Globals.init) = some 0 ∧
      ¬ Always machine Keeps Globals.init twoScans := by
  refine ⟨rfl, rfl, ?_⟩
  rintro ⟨-, ⟨paired, -⟩, -⟩
  obtain ⟨query, ⟨⟩, ⟨⟩⟩ := paired 0 rfl

end PgAnalytics.ReaderPairing
