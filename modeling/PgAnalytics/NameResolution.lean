import PgAnalytics.ForeignTables

/-! The schema in which an unqualified name is found, by Postgres over all the
foreign tables of its catalog and by DuckDB over the views registered so far.
Before a pushed-down query DuckDB receives Postgres's search path without the
schemas it does not know, so both look through the same schemas in the same
order but do not find the same tables in them. -/

namespace PgAnalytics.NameResolution
open Basics Commands NameTables DuckdbCatalog ForeignTables

variable {κ : Type} [DecidableEq κ] {fold : String → κ}

def pgHolds (tables : List ForeignTable) (table schema : String) : Bool :=
  tables.any fun t => t.schema = schema ∧ t.name = table

/-- The first schema of the search path that holds a table of the name. -/
def pgResolve (tables : List ForeignTable) (pgSearchPath : List String) (table : String) :
    Option String :=
  pgSearchPath.find? (pgHolds tables table)

/-- DuckDB knows the schema by this spelling and finds a view of the name in it. -/
def duckdbHolds (d : Duckdb fold) (table schema : String) : Bool :=
  (d.schemas.entries.map Prod.fst).contains schema && (d.view schema table).isSome

/-- DuckDB finds the name in a schema where Postgres has no table of it: the
view of a table whose name DuckDB takes for the same one, or of a dropped one. -/
def Foreign (tables : List ForeignTable) (d : Duckdb fold) (table schema : String) : Prop :=
  duckdbHolds d table schema ∧ ¬ pgHolds tables table schema

/-- Postgres's own table is registered, and DuckDB finds none before it on the path. -/
def Registered (tables : List ForeignTable) (pgSearchPath : List String) (d : Duckdb fold)
    (table : String) : Prop :=
  ∃ own ∈ pgResolve tables pgSearchPath table, duckdbHolds d table own ∧
    ∀ schema ∈ pgSearchPath.takeWhile (· ≠ own), ¬ Foreign tables d table schema

/-- If DuckDB resolves the name, it does so to Postgres's schema. -/
def Agrees (tables : List ForeignTable) (pgSearchPath : List String) (d : Duckdb fold)
    (table : String) : Prop :=
  ∀ schema ∈ d.resolve table, pgResolve tables pgSearchPath table = some schema

instance (tables : List ForeignTable) (pgSearchPath : List String) (d : Duckdb fold)
    (table : String) : Decidable (Agrees tables pgSearchPath d table) :=
  inferInstanceAs (Decidable (∀ schema ∈ d.resolve table, _))

theorem resolve_onPath (d : Duckdb fold) (pgSearchPath : List String) (table : String) :
    (d.onPath pgSearchPath).resolve table = pgSearchPath.find? (duckdbHolds d table) := by
  simp only [Duckdb.resolve, Duckdb.onPath, Duckdb.knownPath, Duckdb.view, List.find?_filter]
  congr 1
  funext schema
  simp [duckdbHolds, Duckdb.view]

def registerAll (scans : List (ForeignTable × Engine × Options)) : Duckdb fold :=
  registerScans scans Duckdb.init

theorem find?_agrees_iff {α : Type} [DecidableEq α] (p q : α → Bool) (l : List α) :
    (∀ x, l.find? p = some x → l.find? q = some x) ↔
      (∀ x ∈ l, ¬ p x) ∨
        ∃ own ∈ l.find? q, p own ∧ ∀ x ∈ l.takeWhile (· ≠ own), ¬ (p x ∧ ¬ q x) := by
  induction l with
  | nil => simp
  | cons a l ih =>
    have other {own : α} (found : l.find? q = some own) (hq : ¬ q a) : a ≠ own := by
      rintro rfl
      exact hq (List.find?_some found)
    by_cases hp : p a <;> by_cases hq : q a
    · simp [hp, hq]
    · refine iff_of_false (fun h => ?_) ?_
      · have found : l.find? q = some a := by simpa [hp, hq] using h a
        exact other found hq rfl
      · rintro (none | ⟨own, found, -, before⟩)
        · exact none a List.mem_cons_self hp
        · have found' : l.find? q = some own := by simpa [hq] using found
          exact before a (by simp [other found' hq]) ⟨hp, hq⟩
    · constructor
      · intro h
        left
        have none : l.find? p = none := by
          cases found : l.find? p with
          | none => rfl
          | some x =>
            have same : a = x := by simpa [hp, hq, found] using h
            exact absurd (same ▸ List.find?_some found) hp
        simpa [hp] using none
      · rintro (none | ⟨own, found, holds, -⟩) x hx
        · exact absurd (List.find?_some hx) (none x (List.mem_of_find?_eq_some hx))
        · have same : a = own := by simpa [hq] using found
          exact absurd (same ▸ holds) hp
    · rw [List.find?_cons_of_neg hp, List.find?_cons_of_neg hq, ih]
      refine or_congr (by simp [hp]) (exists_congr fun own => and_congr_right fun found =>
        and_congr_right fun _ => ?_)
      simp [other found hq, hp]

/-- Name resolution agreement: DuckDB resolves a name to Postgres's schema, or
not at all, exactly when it holds the name in no schema of the path, or
Postgres's own table is registered with no other found before it. -/
theorem agrees_iff_registered {engine : Engine} {pgSearchPath : List String} {d d' : Duckdb fold}
    (set : exec (setSearchPathByPg engine pgSearchPath) d = (.ok (), d'))
    (tables : List ForeignTable) (table : String) :
    Agrees tables pgSearchPath d' table ↔
      (∀ schema ∈ pgSearchPath, ¬ duckdbHolds d table schema) ∨
        Registered tables pgSearchPath d table := by
  unfold Agrees
  rw [setSearchPathByPg_ok set, resolve_onPath]
  exact find?_agrees_iff (duckdbHolds d table) (pgHolds tables table) pgSearchPath

def primitiveTable (schema : String) : ForeignTable :=
  ⟨schema, "t1", "parquet_server", .parquet, [("files", schema)]⟩

def laterRegistered : Duckdb (id : String → String) :=
  registerAll [(primitiveTable "tpch2", accepting, [])]

theorem agrees_iff_registered_later :
    Agrees [primitiveTable "tpch2"] ["tpch1", "tpch2"]
        (exec (setSearchPathByPg accepting ["tpch1", "tpch2"]) laterRegistered).2 "t1" ↔
      (∀ schema ∈ ["tpch1", "tpch2"], ¬ duckdbHolds laterRegistered "t1" schema) ∨
        Registered [primitiveTable "tpch2"] ["tpch1", "tpch2"] laterRegistered "t1" :=
  agrees_iff_registered (setSearchPathByPg_accepting _ laterRegistered) _ _

theorem unregistered_table_is_shadowed :
    ¬ Agrees [primitiveTable "tpch1", primitiveTable "tpch2"] ["tpch1", "tpch2"]
      (exec (setSearchPathByPg accepting ["tpch1", "tpch2"]) laterRegistered).2 "t1" := by
  decide

end PgAnalytics.NameResolution
