import PgAnalytics.ForeignTables
import PgAnalytics.Runs

/-! Two live foreign tables in one backend. Registration judges the identity of
a table three times: by spelling in `view_exists`, and by DuckDB's key in
`CREATE VIEW IF NOT EXISTS` and `DROP VIEW IF EXISTS`. A scan then reads
whatever view DuckDB finds under the key, so that the tables stay apart exactly
when their keys do. -/

namespace PgAnalytics.TableIdentity
open Basics Commands DuckdbCatalog ForeignTables Runs

variable {κ : Type} [DecidableEq κ] {fold : String → κ}

structure LiveTable extends ForeignTable where
  handled : handler ≠ .other
  files : (options.lookup "files").isSome

inductive Registration where
  | trigger (second : Bool) (engine : Engine) (userMapping : Options) (natts : ℕ)
      (alterTable : Option Fault)
  | scan (second : Bool) (engine : Engine) (userMapping : Options)

structure Read where
  table : ForeignTable
  body : Option ViewBody

/-- A scan selects from the table's name after `register_duckdb_view`. -/
def scanTable (engine : Engine) (t : ForeignTable) (userMapping : Options) (d : Duckdb fold) :
    Duckdb fold × Option Read :=
  match exec (registerDuckdbView engine t userMapping) d with
  | (.ok _, d') => (d', some ⟨t, d'.view t.schema t.name⟩)
  | (.error _, d') => (d', none)

def registrations (a b : LiveTable) : Machine (Duckdb fold) Registration (Option Read)
  | d, .trigger second engine userMapping natts alterTable =>
    let t := if second then b else a
    some ((exec (autoCreateSchemaImpl engine t.toForeignTable userMapping natts alterTable) d).2,
      none)
  | d, .scan second engine userMapping =>
    let t := if second then b else a
    some (scanTable engine t.toForeignTable userMapping d)

def OwnView (_ : Duckdb fold) (_ : Registration) (read : Option Read) : Prop :=
  ∀ r ∈ read, r.body = some r.table.body

instance (d : Duckdb fold) (op : Registration) (read : Option Read) :
    Decidable (OwnView d op read) :=
  inferInstanceAs (Decidable (∀ r ∈ read, _))

/-- In every sequence of registrations, every scan reads its own table's view. -/
def NeverAlias (fold : String → κ) (a b : LiveTable) : Prop :=
  ∀ ops, Always (registrations a b) OwnView (Duckdb.init : Duckdb fold) ops

def Separate (a b : LiveTable) (d : Duckdb fold) : Prop :=
  (∀ body, d.view a.schema a.name = some body → body = a.body) ∧
    ∀ body, d.view b.schema b.name = some body → body = b.body

theorem scanTable_read {engine : Engine} {t : ForeignTable} {userMapping : Options}
    {d : Duckdb fold} {r : Read} (h : (scanTable engine t userMapping d).2 = some r) :
    r = ⟨t, some ((d.view t.schema t.name).getD t.body)⟩ := by
  unfold scanTable at h
  rcases run : exec (registerDuckdbView engine t userMapping) d with ⟨fault | _, d'⟩
  · simp [run] at h
  · simp only [run, Option.some.injEq] at h
    rw [← h, registerDuckdbView_ok run]

theorem scanTable_grows (engine : Engine) (t : ForeignTable) (userMapping : Options)
    (d : Duckdb fold) : Grows t d (scanTable engine t userMapping d).1 := by
  have grows := registerDuckdbView_grows engine t userMapping d
  unfold scanTable
  rcases run : exec (registerDuckdbView engine t userMapping) d with ⟨fault | _, d'⟩ <;>
    simpa [run] using grows

theorem separate_of_renews {a b t : LiveTable} {d d' : Duckdb fold}
    (apart : ¬ ForeignTable.SameName fold a.toForeignTable b.toForeignTable ∨ a.body = b.body)
    (one : t = a ∨ t = b) (renews : Renews t.toForeignTable d d') (h : Separate a b d) :
    Separate a b d' := by
  have keep : ∀ x : LiveTable, (x = a ∨ x = b) →
      (∀ body, d.view x.schema x.name = some body → body = x.body) →
      ∀ body, d'.view x.schema x.name = some body → body = x.body := by
    intro x hx old body hit
    rcases renews x.schema x.name with same | ⟨hs, hn, none | new⟩
    · exact old body (same ▸ hit)
    · simp [none] at hit
    · have found : body = t.body := by simpa [new] using hit.symm
      rw [found]
      rcases one with rfl | rfl <;> rcases hx with rfl | rfl
      · rfl
      · rcases apart with differ | equal
        · exact absurd ⟨hs.symm, hn.symm⟩ differ
        · exact equal
      · rcases apart with differ | equal
        · exact absurd ⟨hs, hn⟩ differ
        · exact equal.symm
      · rfl
  exact ⟨keep a (.inl rfl) h.1, keep b (.inr rfl) h.2⟩

theorem Separate.own {a b t : LiveTable} {d : Duckdb fold} (h : Separate a b d)
    (one : t = a ∨ t = b) {body : ViewBody} (hit : d.view t.schema t.name = some body) :
    body = t.body := by
  rcases one with rfl | rfl
  · exact h.1 body hit
  · exact h.2 body hit

theorem registrations_step {a b : LiveTable}
    (apart : ¬ ForeignTable.SameName fold a.toForeignTable b.toForeignTable ∨ a.body = b.body)
    {d d' : Duckdb fold} {op : Registration} {read : Option Read} (h : Separate a b d)
    (step : registrations a b d op = some (d', read)) :
    Separate a b d' ∧ OwnView d op read := by
  have one (second : Bool) : (if second then b else a) = a ∨ (if second then b else a) = b := by
    cases second <;> simp
  cases op with
  | trigger second engine userMapping natts alterTable =>
    simp only [registrations, Option.some.injEq, Prod.mk.injEq] at step
    obtain ⟨rfl, rfl⟩ := step
    refine ⟨separate_of_renews apart (one second) ?_ h, fun r hr => by cases hr⟩
    exact autoCreateSchemaImpl_renews engine _ userMapping natts alterTable d
  | scan second engine userMapping =>
    simp only [registrations, Option.some.injEq] at step
    have grows := scanTable_grows engine (if second then b else a).toForeignTable userMapping d
    rw [step] at grows
    refine ⟨separate_of_renews apart (one second) (renews_of_grows grows) h, fun r hr => ?_⟩
    have read' : (scanTable engine (if second then b else a).toForeignTable userMapping d).2 =
        some r := by
      rw [step]
      exact hr
    rw [scanTable_read read']
    cases present : d.view (if second then b else a).schema (if second then b else a).name with
    | none => rfl
    | some body => simp [h.own (one second) present]

theorem scanTable_accepting (t : LiveTable) (d : Duckdb fold) :
    ∃ d', scanTable accepting t.toForeignTable [] d =
        (d', some ⟨t.toForeignTable, d'.view t.schema t.name⟩) ∧
      d'.view t.schema t.name = some ((d.view t.schema t.name).getD t.body) := by
  obtain ⟨d', run⟩ := registerDuckdbView_accepting t.handled t.files d
  refine ⟨d', ?_, registerDuckdbView_ok run⟩
  rw [scanTable, run]

/-- Distinct tables never alias exactly when DuckDB reads their names as two
names, or would build the same view for both. -/
theorem neverAlias_iff (a b : LiveTable) :
    NeverAlias fold a b ↔
      ¬ ForeignTable.SameName fold a.toForeignTable b.toForeignTable ∨ a.body = b.body := by
  constructor
  · intro never
    by_contra both
    obtain ⟨same, differ⟩ := not_or.mp both
    rw [not_not] at same
    -- a scan of `a` registers its view, and the scan of `b` that follows reads it
    obtain ⟨d₁, first, built⟩ := scanTable_accepting a (Duckdb.init : Duckdb fold)
    obtain ⟨d₂, second, read⟩ := scanTable_accepting b d₁
    have fresh : (Duckdb.init : Duckdb fold).view a.schema a.name = none := rfl
    rw [fresh, d₁.view_congr same.1 same.2] at built
    rw [built] at read
    have run := never [.scan false accepting [], .scan true accepting []]
    rw [always_cons (congrArg some first), always_cons (congrArg some second)] at run
    have own := run.2.1 _ rfl
    rw [read] at own
    exact differ (Option.some.inj own)
  · intro apart ops
    refine always_of_inductive (Separate a b) ?_ ?_ ops
    · intro d op d' read h step
      exact registrations_step apart h step
    · constructor <;> intro body hit <;> cases hit

def lowerCase (name : String) : List Char := name.toList.map Char.toLower

def quotedTable : LiveTable where
  schema := "MY_SCHEMA"
  name := "MyTable"
  server := "parquet_server"
  handler := .parquet
  options := [("files", "quoted.parquet")]
  handled := by decide
  files := by decide

def unquotedTable : LiveTable where
  schema := "my_schema"
  name := "mytable"
  server := "parquet_server"
  handler := .parquet
  options := [("files", "unquoted.parquet")]
  handled := by decide
  files := by decide

theorem quoted_reads_unquoted :
    (quotedTable.schema, quotedTable.name) ≠ (unquotedTable.schema, unquotedTable.name) ∧
      ¬ NeverAlias lowerCase quotedTable unquotedTable := by
  refine ⟨by decide, fun never => ?_⟩
  have run := never [.trigger false accepting [] 1 none, .trigger true accepting [] 1 none,
    .scan false accepting []]
  revert run
  decide

end PgAnalytics.TableIdentity
