import PgAnalytics.Basics
import PgAnalytics.Replacement

/-! The Postgres type of a column that a foreign table takes over from DuckDB. Both are
texts: the one is made of the other by replacing names of types. -/

namespace PgAnalytics.DuckdbTypes
open Basics Replacement

/-- The kinds of types that are turned down, by what their texts begin with. -/
def unsupported : List String := ["MAP", "ENUM", "UNION", "BIT"]

/-- The chain of `replace` calls, the spatial types last. -/
def replacements : List (String × String) :=
  [("TINYINT", "SMALLINT"), ("UTINYINT", "SMALLINT"), ("USMALLINT", "INTEGER"),
    ("UINTEGER", "BIGINT"), ("UBIGINT", "NUMERIC"), ("HUGEINT", "NUMERIC"),
    ("UHUGEINT", "NUMERIC"), ("BLOB", "TEXT"), ("DOUBLE", "DOUBLE PRECISION"),
    ("TIMESTAMP_S", "TIMESTAMP"), ("TIMESTAMP_MS", "TIMESTAMP"), ("TIMESTAMP_NS", "TIMESTAMP"),
    ("TIME WITH TIME ZONE", "TIME"), ("GEOMETRY", "TEXT"), ("WKB_BLOB", "TEXT"),
    ("POINT_2D", "POINT"), ("POINT_3D", "POINT"), ("POINT_4D", "POINT"), ("BOX_2D", "BOX"),
    ("POLYGON_2D", "POLYGON"), ("LINESTRING_2D", "LINE")]

def replaceAll (replacements : List (String × String)) (text : List Char) : List Char :=
  replacements.foldl (fun text r => replace r.1.toList r.2.toList text) text

def startsWith (text pattern : String) : Bool := pattern.toList.isPrefixOf text.toList

def duckdbTypeToPg (columnName duckdbType : String) : Except Fault String :=
  if duckdbType = "INVALID" then
    .error (.error ("Column '" ++ columnName ++ "' has an invalid DuckDB type"))
  else
    match unsupported.find? (startsWith duckdbType) with
    | some kind =>
      .error (.error ("Column '" ++ columnName ++ "' has type " ++ kind ++
        ", which is not supported"))
    | none =>
      let postgresType := String.ofList (replaceAll replacements duckdbType.toList)
      .ok (if startsWith postgresType "STRUCT" then "JSONB" else postgresType)

def converted (duckdbType : List Char) : List Char :=
  if "STRUCT".toList.isPrefixOf (replaceAll replacements duckdbType) then "JSONB".toList
  else replaceAll replacements duckdbType

theorem duckdbTypeToPg_ok {columnName duckdbType postgresType : String}
    (h : duckdbTypeToPg columnName duckdbType = .ok postgresType) :
    postgresType.toList = converted duckdbType.toList := by
  unfold duckdbTypeToPg at h
  split at h
  · cases h
  · split at h
    · cases h
    · rw [← Except.ok.inj h]
      unfold converted startsWith
      rw [apply_ite String.toList, @String.toList_ofList (replaceAll replacements _)]

theorem exists_duckdbTypeToPg (columnName : String) {duckdbType : String}
    (valid : duckdbType ≠ "INVALID")
    (supported : unsupported.find? (startsWith duckdbType) = none) :
    ∃ postgresType, duckdbTypeToPg columnName duckdbType = .ok postgresType := by
  unfold duckdbTypeToPg
  rw [if_neg valid, supported]
  exact ⟨_, rfl⟩

theorem exists_duckdbTypeToPg_ofList (columnName : String) {text : List Char}
    (other : ∀ kind ∈ "INV" :: unsupported, kind.toList.isPrefixOf text = false) :
    ∃ postgresType, duckdbTypeToPg columnName (String.ofList text) = .ok postgresType := by
  obtain ⟨valid, supported⟩ := List.forall_mem_cons.mp other
  refine exists_duckdbTypeToPg columnName (fun same => ?_) ?_
  · have text' : text = "INVALID".toList := by rw [← same, String.toList_ofList]
    rw [text'] at valid
    exact absurd valid (by decide)
  · refine List.find?_eq_none.mpr fun kind mem => ?_
    rw [startsWith, String.toList_ofList, supported kind mem]
    exact Bool.false_ne_true

def isNameChar (c : Char) : Bool := c.isAlphanum || c == '_' || c == ' '

structure Renames (r : String × String) : Prop where
  first : r.1.toList.head?.any Char.isUpper
  named : ∀ c ∈ r.1.toList, isNameChar c
  first' : r.2.toList.head?.any Char.isUpper
  named' : ∀ c ∈ r.2.toList, isNameChar c

instance (r : String × String) : Decidable (Renames r) :=
  decidable_of_iff
    ((r.1.toList.head?.any Char.isUpper ∧ r.1.toList.all isNameChar) ∧
      r.2.toList.head?.any Char.isUpper ∧ r.2.toList.all isNameChar)
    ⟨fun h => ⟨h.1.1, List.all_eq_true.mp h.1.2, h.2.1, List.all_eq_true.mp h.2.2⟩,
      fun h => ⟨⟨h.first, List.all_eq_true.mpr h.named⟩, h.first', List.all_eq_true.mpr h.named'⟩⟩

theorem renames_replacements : ∀ r ∈ replacements, Renames r := by decide

theorem Renames.nonempty {r : String × String} (h : Renames r) : r.1.toList ≠ [] := by
  intro none
  have first := h.first
  rw [none] at first
  cases first

theorem Renames.absent {r : String × String} (h : Renames r) {c : Char}
    (outside : isNameChar c = false) : c ∉ r.1.toList := by
  intro mem
  rw [h.named c mem] at outside
  cases outside

theorem Renames.notOccurs {r : String × String} (h : Renames r) {text : List Char}
    (lower : ∀ c ∈ text, c.isUpper = false) : ¬ r.1.toList <:+: text := by
  intro inside
  obtain ⟨c, head, upper⟩ := (Option.any_eq_true _ _).mp h.first
  rw [lower c (inside.subset (List.mem_of_head? head))] at upper
  cases upper

section Chain

variable {rs : List (String × String)} (renames : ∀ r ∈ rs, Renames r)
include renames

theorem replaceAll_induction {motive : List Char → Prop}
    (step : ∀ r, Renames r → ∀ text, motive text →
      motive (replace r.1.toList r.2.toList text)) {text : List Char} (h : motive text) :
    motive (replaceAll rs text) := by
  induction rs generalizing text with
  | nil => exact h
  | cons r rs ih =>
    obtain ⟨first, later⟩ := List.forall_mem_cons.mp renames
    exact ih later (step r first text h)

theorem replaceAll_append {c : Char} (outside : isNameChar c = false) (before after : List Char) :
    replaceAll rs (before ++ c :: after) = replaceAll rs before ++ c :: replaceAll rs after := by
  induction rs generalizing before after with
  | nil => rfl
  | cons r rs ih =>
    obtain ⟨first, later⟩ := List.forall_mem_cons.mp renames
    simp only [replaceAll, List.foldl_cons] at ih ⊢
    rw [replace_append _ first.nonempty (first.absent outside), ih later]

theorem replaceAll_of_noUpper {text : List Char} (lower : ∀ c ∈ text, c.isUpper = false) :
    replaceAll rs text = text := by
  induction rs with
  | nil => rfl
  | cons r rs ih =>
    obtain ⟨first, later⟩ := List.forall_mem_cons.mp renames
    simp only [replaceAll, List.foldl_cons] at ih ⊢
    rw [replace_of_absent _ (first.notOccurs lower), ih later]

end Chain

theorem replaceAll_suffix {name suffix : List Char} (lower : ∀ c ∈ suffix, c.isUpper = false)
    (outside : suffix.head?.all (!isNameChar ·)) :
    replaceAll replacements (name ++ suffix) = replaceAll replacements name ++ suffix := by
  cases suffix with
  | nil => simp
  | cons c suffix =>
    rw [replaceAll_append renames_replacements (by simpa using outside),
      replaceAll_of_noUpper renames_replacements (List.forall_mem_cons.mp lower).2]

theorem converted_struct (fields : List Char) :
    converted ("STRUCT".toList ++ '(' :: fields) = "JSONB".toList := by
  have same : replaceAll replacements "STRUCT".toList = "STRUCT".toList := by decide
  unfold converted
  rw [replaceAll_append renames_replacements rfl, same, if_pos (by simp)]

end PgAnalytics.DuckdbTypes
