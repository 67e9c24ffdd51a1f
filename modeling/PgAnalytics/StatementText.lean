import PgAnalytics.ClauseLists
import PgAnalytics.Executor
import PgAnalytics.UtilityHook

/-! The statements of a query string and the SQL that a hook hands to DuckDB for
one of them. Postgres passes the whole string with the byte offset and length
of the statement. Only the executor hook cuts the statement out. -/

namespace PgAnalytics.StatementText
open Basics Commands DuckdbCatalog RecordBatches ArrowReader ByteSlices QueryHook Executor
open UtilityHook

variable {κ : Type} {fold : String → κ}
variable {ArrayRef Cell : Type} [GetCell ArrayRef Cell]

/-- How a string is cut at the semicolons that end a statement. A part may hold
no statement: `blank`. -/
structure Scanner where
  split : List Char → List (List Char)
  blank : List Char → Bool
  join_split : ∀ text, [';'].intercalate (split text) = text
  split_part : ∀ text, ∀ part ∈ split text, split part = [part]
  blank_nil : blank [] = true

def Scanner.statements (scanner : Scanner) (text : List Char) : List (List Char) :=
  (scanner.split text).filter (!scanner.blank ·)

theorem Scanner.statements_of_mem {scanner : Scanner} {text own : List Char}
    (h : own ∈ scanner.statements text) : scanner.statements own = [own] := by
  obtain ⟨part, stated⟩ := List.mem_filter.mp h
  simpa [Scanner.statements, scanner.split_part text own part] using stated

structure Located (scanner : Scanner) where
  text : List Char
  before : List (List Char)
  own : List Char
  after : List (List Char)
  split_text : scanner.split text = before ++ own :: after
  stated : scanner.blank own = false
  small : byteLength text < 2 ^ 30

namespace Located

variable {scanner : Scanner}

/-- The text up to the last semicolon before the statement. -/
def initial (s : Located scanner) : List Char := s.before.flatMap (· ++ [';'])

def stmtLocation (s : Located scanner) : Int32 := Int32.ofNat (byteLength s.initial)

/-- `stmt_len`: 0 when the statement extends to the end of the string. -/
def stmtLen (s : Located scanner) : Int32 :=
  if s.after = [] then 0 else Int32.ofNat (byteLength s.own)

end Located

theorem intercalate_append (sep : Char) (before after : List (List Char)) (own : List Char) :
    [sep].intercalate (before ++ own :: after) =
      before.flatMap (· ++ [sep]) ++ own ++ after.flatMap (sep :: ·) := by
  induction before with
  | nil =>
    induction after generalizing own with
    | nil => simp
    | cons next after ih =>
      rw [List.nil_append, List.intercalate_cons_cons, ← List.nil_append (next :: after), ih]
      simp
  | cons part before ih =>
    rw [List.cons_append, List.intercalate_cons_of_ne_nil (by simp), ih]
    simp

theorem asUsize_ofNat {n : ℕ} (h : n < 2 ^ 31) : asUsize (Int32.ofNat n) = n := by
  rw [asUsize, Int32.toInt_ofNat_of_lt h]
  omega

theorem ofNat_ne {n : ℕ} (h : n < 2 ^ 31) {i : Int32} (other : i.toInt ≠ n) :
    Int32.ofNat n ≠ i := by
  rintro rfl
  exact other (Int32.toInt_ofNat_of_lt h)

namespace Located

variable {scanner : Scanner}

theorem text_eq (s : Located scanner) :
    s.text = s.initial ++ s.own ++ s.after.flatMap (';' :: ·) := by
  rw [← scanner.join_split s.text, s.split_text, intercalate_append, initial]

theorem own_statement (s : Located scanner) : scanner.statements s.own = [s.own] :=
  have mem : s.own ∈ scanner.statements s.text := by
    simp [Scanner.statements, s.split_text, s.stated]
  Scanner.statements_of_mem mem

theorem own_length (s : Located scanner) : 0 < byteLength s.own := by
  cases own : s.own with
  | nil =>
    have stated := s.stated
    rw [own, scanner.blank_nil] at stated
    cases stated
  | cons c own =>
    have positive := c.utf8Size_pos
    rw [byteLength_cons]
    omega

theorem getCurrentQuery_own (s : Located scanner) :
    getCurrentQuery s.stmtLocation s.stmtLen (.utf8 s.text) = .ok s.own := by
  have whole := congrArg byteLength s.text_eq
  have small := s.small
  have positive := s.own_length
  simp only [byteLength_append] at whole
  have location : asUsize s.stmtLocation = byteLength s.initial := asUsize_ofNat (by omega)
  have known : s.stmtLocation ≠ -1 := ofNat_ne (by omega) (by
    have minus : (-1 : Int32).toInt = -1 := by decide
    omega)
  simp only [getCurrentQuery, CStr.toStr, bind, Except.bind]
  rw [if_pos known]
  by_cases last : s.after = []
  · have text : s.text = s.initial ++ s.own := by simpa [last] using s.text_eq
    have sliced := slice_append s.initial s.own []
    rw [List.append_nil, ← text] at sliced
    rw [if_pos (by simp [stmtLen, last]), location, stringSlice, sliced]
  · have length : s.stmtLen = Int32.ofNat (byteLength s.own) := if_neg last
    have finish : asUsize (s.stmtLocation + s.stmtLen) = byteLength (s.initial ++ s.own) := by
      rw [length, stmtLocation, ← Int32.ofNat_add, asUsize_ofNat (by omega), byteLength_append]
    have nonzero : s.stmtLen ≠ 0 := by
      rw [length]
      refine ofNat_ne (by omega) ?_
      have zero : (0 : Int32).toInt = 0 := by decide
      omega
    have sliced := slice_append s.initial s.own (s.after.flatMap (';' :: ·))
    rw [← s.text_eq] at sliced
    rw [if_neg nonzero, location, finish, stringSlice, sliced]

end Located

theorem parseQueryFromUtilityStmt_ok {env : Environment fold ArrayRef} {text query : List Char}
    (h : parseQueryFromUtilityStmt env (.utf8 text) = .ok query) :
    ∃ asts, env.parseSql text = .ok (.explain query :: asts) := by
  simp only [parseQueryFromUtilityStmt, CStr.toStr, bind, Except.bind] at h
  split at h
  · cases h
  · rename_i utility parsed
    split at h
    · cases h
    · split at h
      · cases h
      · cases h
        exact ⟨_, parsed⟩
      · cases h

/-- Every SQL that a command hands to DuckDB meets `P`. -/
def HandsOnly (P : Handed → Prop) (b b' : Backend fold ArrayRef) : Prop :=
  ∃ new, b'.handed = b.handed ++ new ∧ ∀ sql ∈ new, P sql

section HandsOnly

variable {P : Handed → Prop}

theorem HandsOnly.of_same {b b' : Backend fold ArrayRef} (h : b'.handed = b.handed) :
    HandsOnly P b b' := ⟨[], by simp [h], by simp⟩

instance : Std.Refl (@HandsOnly κ fold ArrayRef Cell _ P) := ⟨fun _ => .of_same rfl⟩

instance : IsTrans (Backend fold ArrayRef) (HandsOnly P) where
  trans a b c := by
    rintro ⟨first, ab, hfirst⟩ ⟨second, bc, hsecond⟩
    refine ⟨first ++ second, by rw [bc, ab, List.append_assoc], ?_⟩
    intro sql mem
    rcases List.mem_append.mp mem with mem | mem
    · exact hfirst sql mem
    · exact hsecond sql mem

theorem hand_handsOnly {sql : Handed} (h : P sql) :
    Respects (HandsOnly P) (hand sql : Command (Backend fold ArrayRef) Fault Unit) :=
  fun _ => ⟨[sql], rfl, by simpa using h⟩

theorem onDuck_handsOnly {α : Type} (c : Command (Duckdb fold) Fault α) :
    Respects (HandsOnly P) (Backend.onDuck c : Command (Backend fold ArrayRef) Fault α) :=
  .onPart c fun _ _ => .of_same rfl

theorem prevHook_handsOnly (call : PrevHook) :
    Respects (HandsOnly P) (prevHook call : Command (Backend fold ArrayRef) Fault Unit) :=
  fun _ => .of_same rfl

theorem fallbackWarning_handsOnly (message : String) :
    Respects (HandsOnly P) (fallbackWarning message : Command (Backend fold ArrayRef) Fault Unit) :=
  fun _ => .of_same rfl

theorem runInDuckdb_handsOnly {text : List Char} (h : P (.statement text))
    (answer : QueryAnswer ArrayRef) (dest : DestReceiver) (tupDesc : List Column) :
    Respects (@HandsOnly κ fold ArrayRef Cell _ P) (runInDuckdb answer dest tupDesc text) :=
  runInDuckdb_respects (R := HandsOnly P) (fun _ => ⟨_, rfl, by simpa using h⟩)
    (fun _ _ => .of_same rfl)
    (fun _ _ => .of_same rfl) (fun _ _ => .of_same rfl) _ _ _

variable [DecidableEq κ]

theorem executorRun_handsOnly (disableExecutor : Bool) (engine : Engine)
    (pgSearchPath : List String) (answer : QueryAnswer ArrayRef) {q : QueryDesc} {text : List Char}
    (current : getCurrentQuery q.stmtLocation q.stmtLen q.sourceText = .ok text)
    (h : P (.statement text)) (args : RunArgs) :
    Respects (@HandsOnly κ fold ArrayRef Cell _ P)
      (executorRun disableExecutor engine pgSearchPath answer q args) := by
  refine .ite (prevHook_handsOnly _) (.bind_ofResult fun query found => ?_)
  rw [current] at found
  cases found
  refine .ite (prevHook_handsOnly _) (.bind (onDuck_handsOnly _) fun _ => ?_)
  refine .bind (runInDuckdb_handsOnly h _ _ _) fun pushdown => ?_
  cases pushdown with
  | sent => exact .pure _
  | fallBack => exact prevHook_handsOnly _

theorem executeQuery_handsOnly (env : Environment fold ArrayRef)
    (planSource : Except Fault (Option PlanSource)) (dest : DestReceiver) {text : List Char}
    (h : P (.statement text)) (again : ∀ prepareStmt, P (.prepareAgain prepareStmt)) :
    Respects (HandsOnly P) (executeQuery env planSource dest (.utf8 text)) := by
  have replans : ∀ source, Respects (HandsOnly P) (replan env source) := by
    refine fun source => .ite (.pure _) (.bind_ofResult fun prepareStmt _ => ?_)
    refine .bind (hand_handsOnly (again prepareStmt)) fun _ => ?_
    refine .bind (.attempt (onDuck_handsOnly _)) fun executed => ?_
    cases executed with
    | error fault => exact .throw _
    | ok _ => exact .pure _
  refine .bind_ofResult fun source _ => ?_
  rcases source with _ | source
  · exact .pure _
  · refine .ite (.pure _) (.bind_ofResult fun plan _ => ?_)
    rcases plan with _ | plan
    · exact .pure _
    · refine .ite (.pure _) (.bind (onDuck_handsOnly _) fun _ => ?_)
      refine .bind (replans source) fun _ => .bind_ofResult fun query found => ?_
      cases found
      exact .bind .get fun b => .bind (runInDuckdb_handsOnly h _ _ _) fun _ => .pure _

theorem viewQuery_handsOnly (env : Environment fold ArrayRef)
    (plans : Except Fault (List PlannedQuery)) {text : List Char} (h : P (.statement text)) :
    Respects (HandsOnly P) (viewQuery env plans (.utf8 text)) := by
  refine .bind_ofResult fun plans _ => .ite (.pure _) (.bind (onDuck_handsOnly _) fun _ => ?_)
  refine .bind_ofResult fun query found => ?_
  cases found
  have warn : Respects (HandsOnly P) (executeOrWarn env text) := by
    refine .bind (.attempt (onDuck_handsOnly _)) fun executed => ?_
    cases executed with
    | error fault => exact fallbackWarning_handsOnly _
    | ok _ => exact .pure _
  exact .bind (hand_handsOnly h) fun _ => .bind warn fun _ => .pure _

theorem deallocateQuery_handsOnly (env : Environment fold ArrayRef) (name : Option CStr) :
    Respects (HandsOnly P) (deallocateQuery env name) := by
  rcases name with _ | name
  · exact .pure _
  · exact .bind_ofResult fun _ _ => .bind (.attempt (onDuck_handsOnly _)) fun _ => .pure _

theorem explainQuery_handsOnly (env : Environment fold ArrayRef) (query : PlannedQuery)
    (options : List DefElem) (queryString : CStr)
    (h : ∀ statement, parseQueryFromUtilityStmt env queryString = .ok statement →
      ∀ keywords, P (.explain keywords statement)) :
    Respects (HandsOnly P) (explainQuery env query options queryString) := by
  refine .ite (.pure _) (.bind_ofResult fun state _ => .bind_ofResult fun statement parsed => ?_)
  have explain : Respects (HandsOnly P) (explainOutput env state statement) := by
    unfold explainOutput
    cases state.style with
    | postgres =>
      refine .ite (.bind (onDuck_handsOnly _) fun _ => ?_) (.pure _)
      refine .bind (hand_handsOnly (h statement parsed _)) fun _ => ?_
      exact .bind (onDuck_handsOnly _) fun _ => .pure _
    | duckdb =>
      refine .bind (onDuck_handsOnly _) fun _ => ?_
      exact .bind (hand_handsOnly (h statement parsed _)) fun _ => .ofResult _
  refine .bind explain fun output => .bind_ofResult fun output _ => ?_
  exact .bind (.modify fun b => .of_same rfl) fun _ => .pure _

theorem processUtilityHook_handsOnly (env : Environment fold ArrayRef) (stmt : UtilityStmt)
    (queryString : CStr) (h : Respects (HandsOnly P) (needExecPrevHook env stmt queryString)) :
    Respects (HandsOnly P) (processUtilityHook env stmt queryString) := by
  refine .ite (prevHook_handsOnly _) (.bind h fun need => ?_)
  exact .ite (prevHook_handsOnly _) (.pure _)

end HandsOnly

inductive Handling (ArrayRef : Type) {Cell : Type} [GetCell ArrayRef Cell] where
  | select (disableExecutor : Bool) (answer : QueryAnswer ArrayRef)
      (rtable : Option (List RangeTblEntry)) (operation : CmdType) (tupDesc : List Column)
      (dest : DestReceiver) (args : RunArgs)
  | utility (stmt : UtilityStmt)

variable {scanner : Scanner} [DecidableEq κ]

/-- Postgres passes the whole string, and to the executor also the offsets. -/
def handle (env : Environment fold ArrayRef) (s : Located scanner) :
    Handling ArrayRef → Command (Backend fold ArrayRef) Fault Unit
  | .select disableExecutor answer rtable operation tupDesc dest args =>
    executorRun disableExecutor env.engine env.pgSearchPath answer
      ⟨s.stmtLocation, s.stmtLen, rtable, operation, .utf8 s.text, tupDesc, dest⟩ args
  | .utility stmt => processUtilityHook env stmt (.utf8 s.text)

def handedFor (env : Environment fold ArrayRef) (s : Located scanner)
    (handling : Handling ArrayRef) (b : Backend fold ArrayRef) : List Handed :=
  (exec (handle env s handling) b).2.handed.drop b.handed.length

/-- SQL handed over for the statement itself, not for an earlier `PREPARE`. -/
def ForStatement : Handed → Prop
  | .statement _ | .explain _ _ => True
  | .prepareAgain _ => False

/-- The text holds this statement alone; the query of an `EXPLAIN` is the one
that this statement explains. -/
def Isolated (scanner : Scanner) (parseSql : List Char → Except String (List SqlAst))
    (own : List Char) : Handed → Prop
  | .statement text => scanner.statements text = [own]
  | .explain _ query => parseSql own = .ok [.explain query]
  | .prepareAgain _ => True

def ParsesStatements (scanner : Scanner)
    (parseSql : List Char → Except String (List SqlAst)) : Prop :=
  ∀ text asts, parseSql text = .ok asts →
    (scanner.statements text).map parseSql = asts.map fun ast => .ok [ast]

/-- The exact condition: `EXECUTE` and `CREATE VIEW` need a string without other
statements, `EXPLAIN` a string whose first statement explains the same query. -/
def Alone (scanner : Scanner) (parseSql : List Char → Except String (List SqlAst))
    (s : Located scanner) : Handling ArrayRef → Prop
  | .utility (.execute _ _) | .utility (.view _) => scanner.statements s.text = [s.own]
  | .utility (.explain _ _) =>
    (scanner.statements s.text).head?.map parseSql = some (parseSql s.own)
  | _ => True

theorem handedFor_all {env : Environment fold ArrayRef} {s : Located scanner}
    {handling : Handling ArrayRef} {P : Handed → Prop}
    (h : Respects (HandsOnly P) (handle env s handling)) (b : Backend fold ArrayRef) :
    ∀ sql ∈ handedFor env s handling b, P sql := by
  obtain ⟨new, appended, all⟩ := h b
  intro sql mem
  rw [handedFor, appended, List.drop_left] at mem
  exact all sql mem

theorem ParsesStatements.explain {parseSql : List Char → Except String (List SqlAst)}
    (lawful : ParsesStatements scanner parseSql) {text query : List Char} {asts : List SqlAst}
    (parsed : parseSql text = .ok (.explain query :: asts)) :
    (scanner.statements text).head?.map parseSql = some (.ok [.explain query]) := by
  have each := congrArg List.head? (lawful text _ parsed)
  simpa using each

theorem isolated_iff_only {sqls : List Handed} {text own : List Char}
    {parseSql : List Char → Except String (List SqlAst)}
    (only : ∀ sql ∈ sqls, sql = .statement text ∨ ∃ prepareStmt, sql = .prepareAgain prepareStmt)
    (handled : ∃ sql ∈ sqls, ForStatement sql) :
    (∀ sql ∈ sqls, Isolated scanner parseSql own sql) ↔ scanner.statements text = [own] := by
  obtain ⟨sql, mem, forStatement⟩ := handled
  constructor
  · intro isolated
    rcases only sql mem with rfl | ⟨prepareStmt, rfl⟩
    · exact isolated _ mem
    · exact forStatement.elim
  · intro alone sql mem
    rcases only sql mem with rfl | ⟨prepareStmt, rfl⟩
    · exact alone
    · trivial

theorem isolated_iff_explains {sqls : List Handed} {own : List Char} {first : Option (List Char)}
    {parseSql : List Char → Except String (List SqlAst)}
    (only : ∀ sql ∈ sqls, ∃ keywords query, sql = .explain keywords query ∧
      first.map parseSql = some (.ok [.explain query]))
    (handled : ∃ sql ∈ sqls, ForStatement sql) :
    (∀ sql ∈ sqls, Isolated scanner parseSql own sql) ↔
      first.map parseSql = some (parseSql own) := by
  obtain ⟨sql, mem, -⟩ := handled
  constructor
  · intro isolated
    obtain ⟨keywords, query, rfl, parsed⟩ := only sql mem
    have explained : parseSql own = .ok [.explain query] := isolated _ mem
    rw [parsed, explained]
  · intro same sql mem
    obtain ⟨keywords, query, rfl, parsed⟩ := only sql mem
    exact Option.some.inj (same.symm.trans parsed)

/-- Statement isolation: the SQL handed to DuckDB for a statement of a string is
that of the statement alone exactly when the hook needs no other statement of
the string to be absent. -/
theorem isolated_iff_alone (env : Environment fold ArrayRef)
    (lawful : ParsesStatements scanner env.parseSql) (s : Located scanner)
    (handling : Handling ArrayRef) (b : Backend fold ArrayRef)
    (handled : ∃ sql ∈ handedFor env s handling b, ForStatement sql) :
    (∀ sql ∈ handedFor env s handling b, Isolated scanner env.parseSql s.own sql) ↔
      Alone scanner env.parseSql s handling := by
  cases handling with
  | select disableExecutor answer rtable operation tupDesc dest args =>
    refine iff_of_true (handedFor_all ?_ b) trivial
    exact executorRun_handsOnly _ _ _ _ s.getCurrentQuery_own s.own_statement _
  | utility stmt =>
    cases stmt with
    | execute planSource dest =>
      refine isolated_iff_only (handedFor_all (processUtilityHook_handsOnly _ _ _ ?_) b) handled
      exact executeQuery_handsOnly env planSource dest (.inl rfl) fun text => .inr ⟨text, rfl⟩
    | view plans =>
      refine isolated_iff_only (handedFor_all (processUtilityHook_handsOnly _ _ _ ?_) b) handled
      exact viewQuery_handsOnly env plans (.inl rfl)
    | explain query options =>
      refine isolated_iff_explains (handedFor_all (processUtilityHook_handsOnly _ _ _ ?_) b) handled
      refine explainQuery_handsOnly env query options _ fun statement parsed keywords => ?_
      obtain ⟨asts, parsed⟩ := parseQueryFromUtilityStmt_ok parsed
      exact ⟨keywords, statement, rfl, lawful.explain parsed⟩
    | deallocate name =>
      refine iff_of_true (handedFor_all (processUtilityHook_handsOnly _ _ _ ?_) b) trivial
      exact deallocateQuery_handsOnly env name
    | prepare =>
      exact iff_of_true (handedFor_all (processUtilityHook_handsOnly _ _ _ (.pure _)) b) trivial
    | other =>
      exact iff_of_true (handedFor_all (processUtilityHook_handsOnly _ _ _ (.throw _)) b) trivial

def bySemicolon : Scanner where
  split := List.splitOn ';'
  blank := fun text => text.all Char.isWhitespace
  join_split := fun _ => List.intercalate_splitOn ';'
  split_part := fun _ _ h => List.splitOn_eq_singleton (ClauseLists.not_mem_of_mem_splitOn h)
  blank_nil := rfl

instance : DecidablePred ForStatement
  | .statement _ | .explain _ _ => isTrue trivial
  | .prepareAgain _ => isFalse id

instance (scanner : Scanner) (parseSql : List Char → Except String (List SqlAst))
    (own : List Char) : DecidablePred (Isolated scanner parseSql own)
  | .statement text => inferInstanceAs (Decidable (scanner.statements text = [own]))
  | .explain _ query => inferInstanceAs (Decidable (parseSql own = .ok [.explain query]))
  | .prepareAgain _ => isTrue trivial

def unprepared : Environment (id : String → String) Int32Array where
  engine := accepting
  reads := fun _ _ => .ok []
  answer := fun _ => .notPrepared "Prepared statement q does not exist"
  explanation := .ok []
  pgSearchPath := ["main"]
  parseSql := fun text => .ok ((bySemicolon.statements text).map fun _ => .other)
  elapsed := []
  debugAssertions := false
  isPostmasterEnvironment := true

theorem unprepared_parsesStatements : ParsesStatements bySemicolon unprepared.parseSql := by
  intro text asts parsed
  cases parsed
  rw [List.map_map]
  refine List.map_congr_left fun own mem => ?_
  simp [unprepared, Scanner.statements_of_mem mem]

def executing : Handling Int32Array :=
  .utility (.execute (.ok (some
    { fixedResult := true, searchPathMatches := true, queryString := .utf8 [], resultDesc := []
      cachedPlan := .ok (some ⟨.select, some [.relation ⟨true, "parquet_fdw_handler"⟩]⟩) }))
    ⟨true, true, true⟩)

def executeAlone : Located bySemicolon where
  text := "EXECUTE q; ".toList
  before := []
  own := "EXECUTE q".toList
  after := [" ".toList]
  split_text := by decide
  stated := by decide
  small := by decide

theorem isolated_iff_alone_execute :
    (∀ sql ∈ handedFor unprepared executeAlone executing Backend.init,
      Isolated bySemicolon unprepared.parseSql executeAlone.own sql) ↔
    Alone bySemicolon unprepared.parseSql executeAlone executing :=
  isolated_iff_alone unprepared unprepared_parsesStatements executeAlone executing Backend.init
    (by decide)

def executeSecond : Located bySemicolon where
  text := "SELECT 1; EXECUTE q".toList
  before := ["SELECT 1".toList]
  own := " EXECUTE q".toList
  after := []
  split_text := by decide
  stated := by decide
  small := by decide

theorem execute_hands_whole_string :
    ¬ ∀ sql ∈ handedFor unprepared executeSecond executing Backend.init,
      Isolated bySemicolon unprepared.parseSql executeSecond.own sql := by
  decide

end PgAnalytics.StatementText
