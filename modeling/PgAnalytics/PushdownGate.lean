import Mathlib.Data.Bool.AllAny
import PgAnalytics.Executor
import PgAnalytics.SqlTokens

/-! The gate of the executor hook: a `COPY`, `CREATE` or `PREPARE` is known by the
first letters of the statement's text, which Postgres gives with the blanks and
comments before its first keyword. -/

namespace PgAnalytics.PushdownGate
open Basics Commands DuckdbCatalog RecordBatches ArrowReader QueryHook Executor SqlTokens

/-- A query that selects from this extension's tables alone. -/
def Candidate (q : QueryDesc) : Prop :=
  q.rtable.isSome ∧ q.operation = .select ∧ isDuckdbQuery (getQueryRelations q.rtable)

/-- The text begins as a statement that DuckDB must not run. -/
def gated (text : List Char) : Bool :=
  startsWith "copy" text || startsWith "create" text || startsWith "prepare" text

/-- Its blanks and comments aside, the text begins as a statement that DuckDB must not run. -/
def Restricted (text : List Char) : Prop :=
  ∃ lead core, Trivia lead ∧ text = lead ++ core ∧ gated core

theorem gated_trivia {w : List Char} (trivia : Trivia w) (nonempty : w ≠ []) (text : List Char) :
    gated (w ++ text) = false := by
  obtain ⟨c, rest, rfl⟩ := List.exists_cons_of_ne_nil nonempty
  have letters : c.toLower ≠ 'c' ∧ c.toLower ≠ 'p' := by
    rcases trivia.head c rfl with blank | rfl | rfl
    · have blanks : ∀ c ∈ [' ', '\t', '\n', '\r', '\x0b', '\x0c'],
          c.toLower ≠ 'c' ∧ c.toLower ≠ 'p' := List.all_iff_forall_prop.mp (by decide)
      exact blanks c (List.contains_iff_mem.mp blank)
    · decide
    · decide
  have other : ∀ {first : Char} {keyword : List Char}, c.toLower ≠ first →
      (first :: keyword).isPrefixOf ((c :: rest ++ text).map Char.toLower) = false := by
    intro first keyword differs
    simp [List.isPrefixOf, Ne.symm differs]
  have copy := @other 'c' ['o', 'p', 'y'] letters.1
  have create := @other 'c' ['r', 'e', 'a', 't', 'e'] letters.1
  have prepare := @other 'p' ['r', 'e', 'p', 'a', 'r', 'e'] letters.2
  rw [gated, startsWith, startsWith, startsWith]
  exact Bool.or_eq_false_iff.mpr ⟨Bool.or_eq_false_iff.mpr ⟨copy, create⟩, prepare⟩

theorem restricted_of_gated {text : List Char} (gate : gated text) : Restricted text :=
  ⟨[], text, .nil, rfl, gate⟩

theorem restricted_iff_gated {c : Char} (text : List Char) (blank : isSpace c = false)
    (minus : c ≠ '-') (slash : c ≠ '/') : Restricted (c :: text) ↔ gated (c :: text) := by
  refine ⟨?_, restricted_of_gated⟩
  rintro ⟨lead, core, trivia, same, gate⟩
  cases lead with
  | nil =>
    rw [same]
    exact gate
  | cons first lead =>
    cases same
    rcases trivia.head c rfl with blank' | rfl | rfl
    · exact absurd (blank.symm.trans blank') (by decide)
    · exact absurd rfl minus
    · exact absurd rfl slash

theorem leftToPostgres_eq_false {q : QueryDesc} {text : List Char} :
    leftToPostgres q text = false ↔ Candidate q ∧ gated text = false := by
  simp [leftToPostgres, Candidate, gated, Option.isSome_iff_ne_none, and_assoc]

def Pushes (q : QueryDesc) : Prop :=
  ∃ text, getCurrentQuery q.stmtLocation q.stmtLen q.sourceText = .ok text ∧
    leftToPostgres q text = false

theorem pushes_iff {q : QueryDesc} {text : List Char}
    (current : getCurrentQuery q.stmtLocation q.stmtLen q.sourceText = .ok text) :
    Pushes q ↔ Candidate q ∧ gated text = false := by
  rw [← leftToPostgres_eq_false]
  constructor
  · rintro ⟨text', current', pushed⟩
    cases current.symm.trans current'
    exact pushed
  · exact fun pushed => ⟨text, current, pushed⟩

section Runs

variable {κ : Type} {fold : String → κ}
variable {ArrayRef Cell : Type} [GetCell ArrayRef Cell]

theorem runInDuckdb_handed (answer : QueryAnswer ArrayRef) (dest : DestReceiver)
    (tupDesc : List Column) (text : List Char) (b : Backend fold ArrayRef) :
    (exec (runInDuckdb answer dest tupDesc text) b).2.handed = b.handed ++ [.statement text] := by
  cases answer with
  | notPrepared message | notExecuted message => rfl
  | answered result =>
    rw [runInDuckdb, hand, exec_bind, exec_modify]
    simp only [Backend.onGlobals, exec_bind, exec_attempt, exec_onPart, exec_createArrow,
      exec_getBatches, Globals.pending_created, Backend.onOutput]
    rcases exec (writeBatchesToSlots dest tupDesc result.batches) b.output with ⟨fault | _, out⟩ <;>
      rfl

variable [DecidableEq κ]

theorem executorRun_handed {q : QueryDesc} (kept : ¬ Pushes q) (disableExecutor : Bool)
    (engine : Engine) (pgSearchPath : List String) (answer : QueryAnswer ArrayRef)
    (args : RunArgs) (b : Backend fold ArrayRef) :
    (exec (executorRun disableExecutor engine pgSearchPath answer q args) b).2.handed =
      b.handed := by
  unfold executorRun
  split
  · rfl
  · rw [exec_bind, exec_ofResult]
    cases current : getCurrentQuery q.stmtLocation q.stmtLen q.sourceText with
    | error fault => rfl
    | ok text =>
      have left : leftToPostgres q text = true :=
        Bool.not_eq_false _ ▸ fun pushed => kept ⟨text, current, pushed⟩
      simp only [left, if_true]
      rfl

theorem executorRun_hands {q : QueryDesc} {text : List Char}
    (current : getCurrentQuery q.stmtLocation q.stmtLen q.sourceText = .ok text)
    (pushed : leftToPostgres q text = false) (pgSearchPath : List String)
    (answer : QueryAnswer ArrayRef) (args : RunArgs) (b : Backend fold ArrayRef) :
    (exec (executorRun false accepting pgSearchPath answer q args) b).2.handed =
      b.handed ++ [.statement text] := by
  have path : exec (Backend.onDuck (setSearchPathByPg accepting pgSearchPath)) b =
      (.ok (), { b with duck := b.duck.onPath pgSearchPath }) := by
    rw [Backend.onDuck, exec_onPart, setSearchPathByPg_accepting]
  have query : exec (ofResult (getCurrentQuery q.stmtLocation q.stmtLen q.sourceText)) b =
      (.ok text, b) := by
    rw [exec_ofResult, current]
  have handed := runInDuckdb_handed answer q.dest q.tupDesc text
    { b with duck := b.duck.onPath pgSearchPath }
  rw [executorRun, if_neg (by simp), exec_bind_ok query, pushed, if_neg (by simp),
    exec_bind_ok path, exec_bind]
  rcases ran : exec (runInDuckdb answer q.dest q.tupDesc text)
    { b with duck := b.duck.onPath pgSearchPath } with ⟨fault | _ | _, b'⟩ <;>
  · rw [ran] at handed
    exact handed

variable (fold ArrayRef) in
def NeverHanded (q : QueryDesc) : Prop :=
  ∀ (disableExecutor : Bool) (engine : Engine) (pgSearchPath : List String)
    (answer : QueryAnswer ArrayRef) (args : RunArgs) (b : Backend fold ArrayRef),
    (exec (executorRun disableExecutor engine pgSearchPath answer q args) b).2.handed = b.handed

theorem neverHanded_iff {q : QueryDesc} : NeverHanded fold ArrayRef q ↔ ¬ Pushes q := by
  constructor
  · rintro never ⟨text, current, pushed⟩
    have ran := executorRun_hands current pushed [] (.notPrepared "" : QueryAnswer ArrayRef)
      ⟨.forward, 0, true⟩ (Backend.init : Backend fold ArrayRef)
    rw [never] at ran
    exact absurd ran.symm (by simp)
  · exact executorRun_handed

/-- Blanks and comments before a statement change nothing, and a restricted one is never
run in DuckDB, exactly when the statement is not for DuckDB anyway or not restricted, or when
nothing stands before its first keyword. -/
theorem gate_ignores_trivia_iff {q q' : QueryDesc} {w text : List Char} (trivia : Trivia w)
    (relations : q'.rtable = q.rtable) (operation : q'.operation = q.operation)
    (current : getCurrentQuery q.stmtLocation q.stmtLen q.sourceText = .ok text)
    (current' : getCurrentQuery q'.stmtLocation q'.stmtLen q'.sourceText = .ok (w ++ text)) :
    ((Pushes q' ↔ Pushes q) ∧
        (Restricted text → NeverHanded fold ArrayRef q ∧ NeverHanded fold ArrayRef q')) ↔
      (Candidate q → ¬ Restricted text ∨ w = [] ∧ gated text) := by
  have same : Candidate q' ↔ Candidate q := by rw [Candidate, Candidate, relations, operation]
  rw [neverHanded_iff, neverHanded_iff, pushes_iff current, pushes_iff current', same]
  by_cases candidate : Candidate q
  · by_cases restricted : Restricted text
    · by_cases empty : w = []
      · subst empty
        simp [candidate, restricted]
      · simp [candidate, restricted, empty, gated_trivia trivia empty]
    · have open' : gated text = false := Bool.eq_false_iff.mpr fun gate =>
        restricted (restricted_of_gated gate)
      by_cases empty : w = []
      · simp [restricted, empty]
      · simp [restricted, open', gated_trivia trivia empty]
  · simp [candidate]

end Runs

def tripsQuery (text : List Char) : QueryDesc where
  stmtLocation := 0
  stmtLen := 0
  rtable := some [.relation ⟨true, "parquet_fdw_handler"⟩]
  operation := .select
  sourceText := .utf8 text
  tupDesc := []
  dest := ⟨true, true, true⟩

theorem current_tripsQuery (text : List Char) :
    getCurrentQuery (tripsQuery text).stmtLocation (tripsQuery text).stmtLen
      (tripsQuery text).sourceText = .ok text :=
  getCurrentQuery_whole text

def selectTrips : List Char := "SELECT * FROM trips".toList

def copyTrips : List Char := "CREATE TABLE t AS SELECT * FROM trips".toList

theorem trivia_newline : Trivia ['\n'] := .space (by decide) .nil

theorem gate_ignores_trivia_iff_select :
    (Pushes (tripsQuery ('\n' :: selectTrips)) ↔ Pushes (tripsQuery selectTrips)) ∧
      (Restricted selectTrips →
        NeverHanded (id : String → String) Int32Array (tripsQuery selectTrips) ∧
          NeverHanded (id : String → String) Int32Array (tripsQuery ('\n' :: selectTrips))) := by
  have open' : ¬ Restricted selectTrips := fun restricted =>
    absurd ((restricted_iff_gated _ (by decide) (by decide) (by decide)).mp restricted) (by decide)
  exact (@gate_ignores_trivia_iff _ _ _ _ _ _ (tripsQuery selectTrips)
    (tripsQuery ('\n' :: selectTrips)) _ _ trivia_newline rfl rfl (current_tripsQuery selectTrips)
    (current_tripsQuery ('\n' :: selectTrips))).mpr fun _ => .inl open'

theorem create_after_newline_pushed :
    ¬ ((Pushes (tripsQuery ('\n' :: copyTrips)) ↔ Pushes (tripsQuery copyTrips)) ∧
      (Restricted copyTrips →
        NeverHanded (id : String → String) Int32Array (tripsQuery copyTrips) ∧
          NeverHanded (id : String → String) Int32Array (tripsQuery ('\n' :: copyTrips)))) := by
  rintro ⟨same, -⟩
  have pushed : Pushes (tripsQuery ('\n' :: copyTrips)) :=
    ⟨_, current_tripsQuery _, by decide⟩
  have gate := ((pushes_iff (current_tripsQuery _)).mp (same.mp pushed)).2
  exact absurd gate (by decide)

end PgAnalytics.PushdownGate
