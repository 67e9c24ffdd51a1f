import Mathlib.Data.List.Infix
import PgAnalytics.TypeInference

/-! What the chain of replacements makes of the names of types, beside what each of its
entries says of a whole name. -/

namespace PgAnalytics.TypeReplacements
open Basics Replacement DuckdbTypes TypeInference

def further : List String := ["JSON", "\"NULL\""]

inductive NamedType where
  | listed (r : {r : String × String // r ∈ replacements})
  | scalar (s : Scalar)
  | further (name : {name : String // name ∈ further})

def NamedType.name : NamedType → List Char
  | .listed r => r.1.1.toList
  | .scalar s => s.text
  | .further name => name.1.toList

def suffixes (sizes : List (Option ℕ)) : List Char := sizes.flatMap bound

/-- What the chain lists for a whole name, the name itself where it lists nothing. -/
def substitute (name : List Char) : List Char :=
  ((replacements.find? (·.1.toList = name)).map (·.2.toList)).getD name

/-- The names that the replacements find, each with the text that it is found in. -/
def rewrites : List (String × String) → List Char → List (List Char × List Char)
  | [], _ => []
  | r :: rs, text =>
    let later := rewrites rs (replace r.1.toList r.2.toList text)
    if r.1.toList <:+: text then (r.1.toList, text) :: later else later

structure Substitutes (columnName : String) (name : List Char) (sizes : List (Option ℕ)) :
    Prop where
  result : duckdbTypeToPg columnName (String.ofList (name ++ suffixes sizes)) =
    .ok (String.ofList (substitute name ++ suffixes sizes))
  whole : rewrites replacements (name ++ suffixes sizes) =
    (replacements.filter (·.1.toList = name)).map fun r => (r.1.toList, name ++ suffixes sizes)

/-- The names of which an earlier replacement finds a part. -/
def hidden : List (List Char) := ["UTINYINT".toList, "UHUGEINT".toList, "WKB_BLOB".toList]

structure Suffix (suffix : List Char) : Prop where
  lower : ∀ c ∈ suffix, c.isUpper = false
  outside : suffix.head?.all (!isNameChar ·)

theorem suffix_suffixes (sizes : List (Option ℕ)) : Suffix (suffixes sizes) := by
  refine ⟨fun c mem => ?_, ?_⟩
  · obtain ⟨size, _, mem⟩ := List.mem_flatMap.mp mem
    exact noUpper_bound size c mem
  · cases sizes <;> rfl

theorem Suffix.append {first second : List Char} (h : Suffix first) (h' : Suffix second) :
    Suffix (first ++ second) := by
  refine ⟨List.forall_mem_append.mpr ⟨h.lower, h'.lower⟩, ?_⟩
  cases first with
  | nil => exact h'.outside
  | cons c first => exact h.outside

section Chain

variable {suffix : List Char} (plain : Suffix suffix)
include plain

theorem prefix_suffix {pattern name : List Char} (named : ∀ c ∈ pattern, isNameChar c) :
    pattern <+: name ++ suffix ↔ pattern <+: name := by
  cases suffix with
  | nil => rw [List.append_nil]
  | cons c suffix =>
    have outside := plain.outside
    refine prefix_append_cons fun mem => ?_
    simp [named c mem] at outside

theorem infix_suffix {r : String × String} (renames : Renames r) {name : List Char} :
    r.1.toList <:+: name ++ suffix ↔ r.1.toList <:+: name := by
  cases suffix with
  | nil => rw [List.append_nil]
  | cons c suffix =>
    have outside : isNameChar c = false := by simpa using plain.outside
    rw [infix_append_cons renames.nonempty (renames.absent outside), or_iff_left]
    exact renames.notOccurs (List.forall_mem_cons.mp plain.lower).2

theorem replace_suffix {r : String × String} (renames : Renames r) (name : List Char) :
    replace r.1.toList r.2.toList (name ++ suffix) =
      replace r.1.toList r.2.toList name ++ suffix := by
  cases suffix with
  | nil => rw [List.append_nil, List.append_nil]
  | cons c suffix =>
    have outside : isNameChar c = false := by simpa using plain.outside
    have absent := renames.notOccurs (List.forall_mem_cons.mp plain.lower).2
    rw [replace_append _ renames.nonempty (renames.absent outside),
      replace_of_absent _ absent]

theorem rewrites_suffix {rs : List (String × String)} (renames : ∀ r ∈ rs, Renames r)
    (name : List Char) :
    rewrites rs (name ++ suffix) = (rewrites rs name).map (Prod.map id (· ++ suffix)) := by
  induction rs generalizing name with
  | nil => rfl
  | cons r rs ih =>
    obtain ⟨first, later⟩ := List.forall_mem_cons.mp renames
    simp only [rewrites, infix_suffix plain first, replace_suffix plain first, ih later]
    split
    · rfl
    · rfl

end Chain

/-- No text that is put in has a name in it that comes later in the chain. -/
def Settled (rs : List (String × String)) : Prop :=
  rs.Pairwise fun r r' => r'.1 ≠ r.1 ∧ ¬ r'.1.toList <:+: r.2.toList

theorem chain_absent {rs : List (String × String)} {text : List Char}
    (absent : ∀ r ∈ rs, ¬ r.1.toList <:+: text) :
    replaceAll rs text = text ∧ rewrites rs text = [] := by
  induction rs with
  | nil => exact ⟨rfl, rfl⟩
  | cons r rs ih =>
    obtain ⟨here, later⟩ := List.forall_mem_cons.mp absent
    have kept := replace_of_absent r.2.toList here
    simp only [replaceAll, rewrites, List.foldl_cons, kept, if_neg here] at ih ⊢
    exact ih later

theorem chain_whole {rs : List (String × String)} (settled : Settled rs)
    (renames : ∀ r ∈ rs, Renames r) {name : List Char}
    (whole : ∀ r ∈ rs, r.1.toList <:+: name → r.1.toList = name) :
    replaceAll rs name = ((rs.find? (·.1.toList = name)).map (·.2.toList)).getD name ∧
      rewrites rs name = (rs.filter (·.1.toList = name)).map fun r => (r.1.toList, name) := by
  induction rs with
  | nil => exact ⟨rfl, rfl⟩
  | cons r rs ih =>
    obtain ⟨apart, settled⟩ := List.pairwise_cons.mp settled
    obtain ⟨first, renames⟩ := List.forall_mem_cons.mp renames
    obtain ⟨here, later⟩ := List.forall_mem_cons.mp whole
    by_cases same : r.1.toList = name
    · subst same
      have put := replace_self r.2.toList first.nonempty
      obtain ⟨replaced, nothing⟩ := chain_absent fun r' mem => (apart r' mem).2
      have others : rs.filter (·.1.toList = r.1.toList) = [] :=
        List.filter_eq_nil_iff.mpr fun r' mem => by
          simpa [String.toList_inj] using (apart r' mem).1
      simp only [replaceAll] at replaced
      simp [replaceAll, rewrites, put, replaced, nothing, others]
    · have absent : ¬ r.1.toList <:+: name := mt here same
      have kept := replace_of_absent r.2.toList absent
      have rest := ih settled renames later
      simp only [replaceAll] at rest
      simpa [replaceAll, rewrites, kept, absent, same] using rest

def otherNames : List String :=
  ["UHUGEINT", "TIME WITH TIME ZONE", "GEOMETRY", "WKB_BLOB", "POINT_2D", "POINT_3D", "POINT_4D",
    "BOX_2D", "POLYGON_2D", "LINESTRING_2D", "DECIMAL"] ++ further

def names : List (List Char) := plainScalars.map Scalar.text ++ otherNames.map String.toList

theorem listed_mem_names : ∀ r ∈ replacements, r.1.toList ∈ names := by decide +kernel

theorem scalar_cases (s : Scalar) : s ∈ plainScalars ∨ ∃ d, s = .decimal d := by
  cases s with
  | decimal d => exact .inr ⟨d, rfl⟩
  | _ => exact .inl (by decide)

theorem text_mem_names {s : Scalar} (mem : s ∈ plainScalars) : s.text ∈ names :=
  List.mem_append_left _ (List.mem_map_of_mem mem)

theorem other_mem_names {name : String} (mem : name ∈ otherNames) : name.toList ∈ names :=
  List.mem_append_right _ (List.mem_map_of_mem mem)

theorem names_accepted : ∀ name ∈ names, ∀ kind ∈ "INV" :: unsupported,
    ¬ kind.toList <+: name := by decide +kernel

theorem settled_replacements : Settled replacements := by
  unfold Settled
  decide +kernel

theorem names_whole : ∀ name ∈ names, name ∉ hidden →
    ∀ r ∈ replacements, r.1.toList <:+: name → r.1.toList = name := by decide +kernel

theorem names_chain {name : List Char} (mem : name ∈ names) (seen : name ∉ hidden) :
    replaceAll replacements name = substitute name ∧
      rewrites replacements name =
        (replacements.filter (·.1.toList = name)).map fun r => (r.1.toList, name) :=
  chain_whole settled_replacements renames_replacements (names_whole name mem seen)

theorem hidden_replaced : ∀ name ∈ hidden, replaceAll replacements name ≠ substitute name ∧
    ¬ "STRUCT".toList <+: replaceAll replacements name := by decide +kernel

theorem names_other {name : List Char} (mem : name ∈ names) :
    ¬ "STRUCT".toList <+: replaceAll replacements name := by
  have substituted : ∀ name ∈ names, ¬ "STRUCT".toList <+: substitute name := by decide +kernel
  by_cases among : name ∈ hidden
  · exact (hidden_replaced name among).2
  · rw [(names_chain mem among).1]
    exact substituted name mem

theorem duckdbTypeToPg_names (columnName : String) {name suffix : List Char}
    (mem : name ∈ names) (plain : Suffix suffix) :
    duckdbTypeToPg columnName (String.ofList (name ++ suffix)) =
      .ok (String.ofList (replaceAll replacements name ++ suffix)) := by
  have all : ∀ kind ∈ "STRUCT" :: "INV" :: unsupported, kind.toList.all isNameChar := by decide
  have named : ∀ kind ∈ "STRUCT" :: "INV" :: unsupported, ∀ c ∈ kind.toList, isNameChar c :=
    fun kind mem => List.all_eq_true.mp (all kind mem)
  have accepted : ∀ kind ∈ "INV" :: unsupported,
      kind.toList.isPrefixOf (name ++ suffix) = false := by
    intro kind among
    rw [← Bool.not_eq_true, List.isPrefixOf_iff_prefix,
      prefix_suffix plain (named kind (List.mem_cons_of_mem _ among))]
    exact names_accepted name mem kind among
  obtain ⟨postgresType, ok⟩ := exists_duckdbTypeToPg_ofList columnName accepted
  have chain : replaceAll replacements (name ++ suffix) = replaceAll replacements name ++ suffix :=
    replaceAll_suffix plain.lower plain.outside
  have other : ¬ "STRUCT".toList <+: replaceAll replacements name ++ suffix :=
    mt (prefix_suffix plain (named "STRUCT" List.mem_cons_self)).mp (names_other mem)
  have same : postgresType.toList = replaceAll replacements name ++ suffix := by
    rw [duckdbTypeToPg_ok ok, String.toList_ofList, converted, chain,
      if_neg (mt List.isPrefixOf_iff_prefix.mp other)]
  rw [ok, ← same, String.ofList_toList]

theorem rewrites_names {name suffix : List Char} (mem : name ∈ names) (plain : Suffix suffix)
    (seen : name ∉ hidden) :
    rewrites replacements (name ++ suffix) =
      (replacements.filter (·.1.toList = name)).map fun r => (r.1.toList, name ++ suffix) := by
  rw [rewrites_suffix plain renames_replacements, (names_chain mem seen).2, List.map_map]
  rfl

def decimalArguments (precision scale : ℕ) : List Char :=
  '(' :: (digits precision ++ ',' :: (digits scale ++ [')']))

theorem suffix_decimalArguments (precision scale : ℕ) :
    Suffix (decimalArguments precision scale) :=
  ⟨noUpper_arguments precision scale, rfl⟩

theorem decimal_unlisted (precision scale : ℕ) :
    ∀ r ∈ replacements, r.1.toList ≠ decimalText precision scale := by
  intro r mem same
  have bracket : '(' ∈ decimalText precision scale :=
    List.mem_append_right _ List.mem_cons_self
  exact (renames_replacements r mem).absent (c := '(') rfl (same ▸ bracket)

theorem substitute_unlisted {name : List Char} (unlisted : ∀ r ∈ replacements, r.1.toList ≠ name) :
    substitute name = name := by
  rw [substitute, List.find?_eq_none.mpr fun r mem => by simpa using unlisted r mem]
  rfl

theorem filter_unlisted {name : List Char} (unlisted : ∀ r ∈ replacements, r.1.toList ≠ name) :
    replacements.filter (·.1.toList = name) = [] :=
  List.filter_eq_nil_iff.mpr fun r mem => by simpa using unlisted r mem

theorem decimal_substitutes (columnName : String) (precision scale : ℕ)
    (sizes : List (Option ℕ)) :
    Substitutes columnName (decimalText precision scale) sizes := by
  have plain := (suffix_decimalArguments precision scale).append (suffix_suffixes sizes)
  have mem : "DECIMAL".toList ∈ names := by decide
  have unlisted := decimal_unlisted precision scale
  have text : decimalText precision scale ++ suffixes sizes =
      "DECIMAL".toList ++ (decimalArguments precision scale ++ suffixes sizes) :=
    List.append_assoc _ _ _
  refine ⟨?_, ?_⟩
  · have same : replaceAll replacements "DECIMAL".toList = "DECIMAL".toList := by decide
    rw [substitute_unlisted unlisted, text, duckdbTypeToPg_names columnName mem plain, same]
  · rw [filter_unlisted unlisted, text, rewrites_names mem plain (by decide)]
    rfl

/-- Only names that hide another of the chain are not replaced as wholes. -/
theorem names_substitutes_iff (columnName : String) {name : List Char} (mem : name ∈ names)
    (sizes : List (Option ℕ)) : Substitutes columnName name sizes ↔ name ∉ hidden := by
  have plain := suffix_suffixes sizes
  have found := duckdbTypeToPg_names columnName mem plain
  refine ⟨fun h among => ?_, fun seen => ⟨?_, rewrites_names mem plain seen⟩⟩
  · have same := Except.ok.inj (found.symm.trans h.result)
    rw [String.ofList_inj, List.append_left_inj] at same
    exact (hidden_replaced name among).1 same
  · rw [found, (names_chain mem seen).1]

theorem substitutes_iff (columnName : String) (type : NamedType) (sizes : List (Option ℕ)) :
    Substitutes columnName type.name sizes ↔ type.name ∉ hidden := by
  cases type with
  | listed r => exact names_substitutes_iff columnName (listed_mem_names r.1 r.2) sizes
  | scalar s =>
    rcases scalar_cases s with plain | ⟨d, rfl⟩
    · exact names_substitutes_iff columnName (text_mem_names plain) sizes
    · have bracket : '(' ∈ decimalText d.precision d.scale :=
        List.mem_append_right _ List.mem_cons_self
      have seen : ∀ name ∈ hidden, '(' ∉ name := by decide
      exact iff_of_true (decimal_substitutes columnName d.precision d.scale sizes)
        fun among => seen _ among bracket
  | further name =>
    exact names_substitutes_iff columnName
      (other_mem_names (List.mem_append_right _ name.2)) sizes

theorem utinyint_integer :
    duckdbTypeToPg "flags" "UTINYINT" = .ok "INTEGER" ∧
      substitute "UTINYINT".toList = "SMALLINT".toList ∧
      ¬ Substitutes "flags" (NamedType.scalar .utinyint).name [] := by
  have found : duckdbTypeToPg "flags" "UTINYINT" = .ok "INTEGER" := by decide +kernel
  refine ⟨found, by decide, fun h => ?_⟩
  have same := found.symm.trans h.result
  exact absurd same (by decide +kernel)

end PgAnalytics.TypeReplacements
