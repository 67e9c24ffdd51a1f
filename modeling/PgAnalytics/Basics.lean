import Mathlib.Algebra.GroupWithZero.Nat
import Mathlib.Algebra.Group.Int.Defs
import Mathlib.Tactic.Common

/-! Values shared by the whole extension: option maps, failures, the kinds of
foreign-data wrapper, and the relations a query reads. -/

namespace PgAnalytics.Basics

/-- `HashMap<String, String>`; a key is looked up at its first occurrence. -/
abbrev Options := List (String × String)

/-- An `Err` of the source and a Rust panic both end the Postgres statement. -/
inductive Fault where
  | error (message : String)
  | panic (message : String)
  deriving DecidableEq, Repr

inductive FdwHandler where
  | csv
  | json
  | parquet
  | delta
  | iceberg
  | spatial
  | other
  deriving DecidableEq, Repr

/-- `impl From<&str> for FdwHandler`. -/
def FdwHandler.ofName (handlerName : String) : FdwHandler :=
  match handlerName with
  | "csv_fdw_handler" => .csv
  | "json_fdw_handler" => .json
  | "parquet_fdw_handler" => .parquet
  | "delta_fdw_handler" => .delta
  | "iceberg_fdw_handler" => .iceberg
  | "spatial_fdw_handler" => .spatial
  | _ => .other

structure Relation where
  isForeignTable : Bool
  handlerName : String
  deriving DecidableEq, Repr

inductive CmdType where
  | select
  | other
  deriving DecidableEq, Repr

inductive RangeTblEntry where
  | relation (rel : Relation)
  | other
  deriving DecidableEq, Repr

/-- `get_query_relations`; a null range table has no relations. -/
def getQueryRelations (rtable : Option (List RangeTblEntry)) : List Relation :=
  match rtable with
  | none => []
  | some entries => entries.filterMap fun
    | .relation rel => some rel
    | .other => none

def isDuckdbQuery (relations : List Relation) : Bool :=
  !relations.isEmpty && relations.all fun rel =>
    rel.isForeignTable && FdwHandler.ofName rel.handlerName != .other

end PgAnalytics.Basics
