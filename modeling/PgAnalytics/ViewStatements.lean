import PgAnalytics.ForeignTables
import PgAnalytics.StringLiterals
import Mathlib.Data.List.DropRight

/-! The `CREATE VIEW` statements: six builders that differ in the function they
call and in the table of their options. An option is put in as it is, between
single quotes, or as a list of its parts between quotes; nothing is escaped. -/

namespace PgAnalytics.ViewStatements
open Basics ForeignTables StringLiterals

def isWhitespace (c : Char) : Bool :=
  (0x09 ≤ c.toNat && c.toNat ≤ 0x0D) || (0x2000 ≤ c.toNat && c.toNat ≤ 0x200A) ||
    [0x20, 0x85, 0xA0, 0x1680, 0x2028, 0x2029, 0x202F, 0x205F, 0x3000].contains c.toNat

def trim (chunk : List Char) : List Char :=
  (chunk.dropWhile isWhitespace).rdropWhile isWhitespace

def formatCsv (csvStr : String) : String :=
  let csvSplit := csvStr.toList.splitOn ','
  if csvSplit.length = 1 then
    "'" ++ csvStr ++ "'"
  else
    "[" ++ ", ".intercalate (csvSplit.map fun chunk => "'" ++ String.ofList (trim chunk) ++ "'") ++
      "]"

inductive OptionStyle where
  | plain
  | quoted
  | csv
  deriving DecidableEq, Repr

def OptionStyle.format : OptionStyle → String → String
  | .plain, option => option
  | .quoted, option => "'" ++ option ++ "'"
  | .csv, option => formatCsv option

structure ViewOption where
  name : String
  keyword : String
  style : OptionStyle
  deriving DecidableEq, Repr

namespace ViewOption

def plain (name : String) : ViewOption := ⟨name, name, .plain⟩

def quoted (name : String) : ViewOption := ⟨name, name, .quoted⟩

def csv (name : String) : ViewOption := ⟨name, name, .csv⟩

end ViewOption

def isWordChar (c : Char) : Bool := c.isLower || c == '_'

structure ViewReader where
  function : String
  missing : String
  files : OptionStyle
  selectable : Bool
  spaced : Bool
  options : List ViewOption
  written : files ≠ .plain
  words : ∀ word ∈ function :: options.map ViewOption.keyword, word.toList.all isWordChar
  distinct : (options.map ViewOption.keyword).Nodup

namespace ViewReader

def assign (r : ViewReader) : String := if r.spaced then " = " else "="

/-- The target list of the view, `*` by default. -/
def select (r : ViewReader) (tableOptions : Options) : String :=
  if r.selectable then (tableOptions.lookup "select").getD "*" else "*"

def extractOption (r : ViewReader) (tableOptions : Options) (p : ViewOption) : Option String :=
  (tableOptions.lookup p.name).map fun option => p.keyword ++ r.assign ++ p.style.format option

def createView (r : ViewReader) (tableName schemaName : String) (tableOptions : Options) :
    Except Fault String :=
  match tableOptions.lookup "files" with
  | none => .error (.error r.missing)
  | some files =>
    let parameters := r.files.format files :: r.options.filterMap (r.extractOption tableOptions)
    .ok ("CREATE VIEW IF NOT EXISTS " ++ schemaName ++ "." ++ tableName ++ " AS SELECT " ++
      r.select tableOptions ++ " FROM " ++ r.function ++ "(" ++ ", ".intercalate parameters ++ ")")

def csv : ViewReader where
  function := "read_csv"
  missing := "files option is required"
  files := .csv
  selectable := true
  spaced := true
  options :=
    [.plain "all_varchar", .plain "allow_quoted_nulls", .plain "auto_detect",
      .csv "auto_type_candidates", .plain "columns", .quoted "compression", .quoted "dateformat",
      .quoted "decimal_separator", .quoted "delim", .quoted "escape", .plain "filename",
      .csv "force_not_null", .plain "header", .plain "hive_partitioning", .plain "hive_types",
      .plain "hive_types_autocast", .plain "ignore_errors", .plain "max_line_size", .csv "names",
      .quoted "new_line", .plain "normalize_names", .plain "null_padding", .csv "nullstr",
      .plain "parallel", .quoted "quote", .plain "sample_size", .quoted "sep", .plain "skip",
      .quoted "timestampformat", .csv "types", .plain "union_by_name"]
  written := by decide
  words := by decide
  distinct := by decide

def json : ViewReader where
  function := "read_json"
  missing := "files option is required"
  files := .csv
  selectable := true
  spaced := true
  options :=
    [.plain "auto_detect", .plain "columns", .quoted "compression",
      .plain "convert_strings_to_integers", .quoted "dateformat", .plain "filename",
      .quoted "format", .plain "hive_partitioning", .plain "ignore_errors", .plain "maximum_depth",
      .plain "maximum_object_size", .plain "records", .plain "sample_size",
      .quoted "timestampformat", .plain "union_by_name"]
  written := by decide
  words := by decide
  distinct := by decide

def parquet : ViewReader where
  function := "read_parquet"
  missing := "files option is required"
  files := .csv
  selectable := true
  spaced := true
  options :=
    [.plain "binary_as_string", ⟨"file_name", "filename", .plain⟩, .plain "file_row_number",
      .plain "hive_partitioning", .plain "hive_types", .plain "hive_types_autocast",
      .plain "union_by_name"]
  written := by decide
  words := by decide
  distinct := by decide

def iceberg : ViewReader where
  function := "iceberg_scan"
  missing := "files option is required"
  files := .quoted
  selectable := true
  spaced := true
  options :=
    [.plain "allow_moved_paths", .quoted "metadata_compression_codec",
      .plain "skip_schema_inference"]
  written := by decide
  words := by decide
  distinct := by decide

def delta : ViewReader where
  function := "delta_scan"
  missing := "files option is required"
  files := .quoted
  selectable := true
  spaced := true
  options := []
  written := by decide
  words := by decide
  distinct := by decide

def spatial : ViewReader where
  function := "st_read"
  missing := "Files option is required"
  files := .quoted
  selectable := false
  spaced := false
  options :=
    [.plain "sequential_layer_scan", .plain "spatial_filter", .plain "open_options",
      .plain "layer", .plain "allowed_drivers", .plain "sibling_files", .plain "spatial_filter_box",
      .plain "keep_wkb"]
  written := by decide
  words := by decide
  distinct := by decide

def ofHandler : FdwHandler → Option ViewReader
  | .csv => some csv
  | .json => some json
  | .parquet => some parquet
  | .delta => some delta
  | .iceberg => some iceberg
  | .spatial => some spatial
  | .other => none

theorem createView_body {r : ViewReader} {t : ForeignTable} (h : ofHandler t.handler = some r) :
    (r.createView t.name t.schema t.options).map (fun _ => t.body) =
      ForeignTables.createView t := by
  unfold ForeignTables.createView createView
  cases t.options.lookup "files" with
  | some files => rfl
  | none => cases handler : t.handler <;> rw [handler] at h <;> cases h <;> rfl

end ViewReader

def OptionStyle.value : OptionStyle → String → Value
  | .plain, option => .given option.toList
  | .quoted, option => .quoted option.toList
  | .csv, option =>
    let csvSplit := option.toList.splitOn ','
    if csvSplit.length = 1 then .quoted option.toList else .listed (csvSplit.map trim)

def OptionStyle.Fits : OptionStyle → String → Prop
  | .plain, option => (literals.lex option.toList).isSome
  | .quoted, option | .csv, option => '\'' ∉ option.toList

instance (style : OptionStyle) (option : String) : Decidable (style.Fits option) :=
  match style with
  | .plain => inferInstanceAs (Decidable (_ = _))
  | .quoted | .csv => inferInstanceAs (Decidable (_ ∉ _))

theorem count_trim {c : Char} (visible : isWhitespace c = false) (chunk : List Char) :
    (trim chunk).count c = chunk.count c := by
  have count_dropWhile : ∀ text : List Char,
      (text.dropWhile isWhitespace).count c = text.count c := by
    intro text
    have none' : (text.takeWhile isWhitespace).count c = 0 := by
      refine List.count_eq_zero.mpr fun mem => ?_
      rw [List.mem_takeWhile_imp mem] at visible
      cases visible
    conv_rhs => rw [← List.takeWhile_append_dropWhile (p := isWhitespace) (l := text),
      List.count_append, none', Nat.zero_add]
  rw [trim, List.rdropWhile, List.count_reverse, count_dropWhile, List.count_reverse,
    count_dropWhile]

theorem mem_trim {c : Char} (visible : isWhitespace c = false) {chunk : List Char} :
    c ∈ trim chunk ↔ c ∈ chunk := by
  rw [← List.count_pos_iff, count_trim visible, List.count_pos_iff]

theorem mem_splitOn {c separator : Char} (other : c ≠ separator) (text : List Char) :
    (∃ chunk ∈ text.splitOn separator, c ∈ chunk) ↔ c ∈ text := by
  conv_rhs => rw [← @List.intercalate_splitOn _ text _ _ separator]
  induction text.splitOn separator with
  | nil => simp
  | cons chunk chunks ih =>
    cases chunks with
    | nil => simp
    | cons next chunks =>
      rw [List.intercalate_cons_cons, List.mem_append, ← ih]
      simp [other]

namespace OptionStyle

theorem render_value (style : OptionStyle) (option : String) :
    (style.value option).render = (style.format option).toList := by
  cases style with
  | plain => rfl
  | quoted => exact (quote_toList option).symm
  | csv =>
    simp only [value, format, formatCsv]
    split
    · exact (quote_toList option).symm
    · simp only [Value.render, String.toList_append, String.toList_intercalate, List.map_map]
      congr 2
      refine congrArg _ (List.map_congr_left fun chunk _ => ?_)
      rw [Function.comp_apply, Function.comp_apply, quote_toList, String.toList_ofList]

theorem contained_value {style : OptionStyle} {option : String} :
    (style.value option).Contained ↔ style.Fits option := by
  cases style with
  | plain => rfl
  | quoted => rfl
  | csv =>
    simp only [value, Fits]
    split
    · rfl
    · rw [Value.Contained, ← @mem_splitOn _ ',' (by decide) option.toList]
      simp only [List.forall_mem_map, mem_trim (c := '\'') (by decide)]
      push Not
      rfl

theorem value_ne_given {style : OptionStyle} (written : style ≠ .plain) (option : String)
    (text : List Char) : style.value option ≠ .given text := by
  cases style with
  | plain => exact absurd rfl written
  | quoted => exact nofun
  | csv =>
    simp only [value]
    split <;> exact nofun

end OptionStyle

namespace ViewReader

def slot (r : ViewReader) (tableOptions : Options) (p : ViewOption) :
    Option (List Char × Value) :=
  (tableOptions.lookup p.name).map fun option =>
    ((", " ++ p.keyword ++ r.assign).toList, p.style.value option)

def template (r : ViewReader) (tableName schemaName : String) (tableOptions : Options)
    (files : String) : Template where
  slots :=
    ("CREATE VIEW IF NOT EXISTS ".toList, .given schemaName.toList) ::
    (".".toList, .given tableName.toList) ::
    (" AS SELECT ".toList, .given (r.select tableOptions).toList) ::
    ((" FROM " ++ r.function ++ "(").toList, r.files.value files) ::
    r.options.filterMap (r.slot tableOptions)
  last := ")".toList

/-- The text of the statement reads as its fixed pieces and one literal, or list
of literals, for each value between quotes. -/
def ReadAsMeant (r : ViewReader) (tableName schemaName : String) (tableOptions : Options) : Prop :=
  ∃ files text tokens, tableOptions.lookup "files" = some files ∧
    r.createView tableName schemaName tableOptions = .ok text ∧
    (r.template tableName schemaName tableOptions files).meant = some tokens ∧
    literals.lex text.toList = some tokens

structure Contained (r : ViewReader) (tableName schemaName : String) (tableOptions : Options) :
    Prop where
  schemaName : (literals.lex schemaName.toList).isSome
  tableName : (literals.lex tableName.toList).isSome
  select : (literals.lex (r.select tableOptions).toList).isSome
  files : ∀ option, tableOptions.lookup "files" = some option → r.files.Fits option
  options : ∀ p ∈ r.options, ∀ option, tableOptions.lookup p.name = some option →
    p.style.Fits option

theorem render_slots (r : ViewReader) (tableOptions : Options) :
    Template.renderFrom ")".toList (r.options.filterMap (r.slot tableOptions)) =
      ((r.options.filterMap (r.extractOption tableOptions)).map String.toList).flatMap
        (", ".toList ++ ·) ++ ")".toList := by
  rw [List.map_filterMap]
  refine Template.renderFrom_filterMap (fun p => ?_) r.options
  cases present : tableOptions.lookup p.name with
  | none => simp [slot, extractOption, present]
  | some option =>
    simp only [slot, extractOption, present, Option.map_some, OptionStyle.render_value,
      String.toList_append, List.append_assoc]

theorem createView_eq {r : ViewReader} {tableName schemaName files : String}
    {tableOptions : Options} (present : tableOptions.lookup "files" = some files) :
    ∃ text, r.createView tableName schemaName tableOptions = .ok text ∧
      text.toList = (r.template tableName schemaName tableOptions files).render := by
  refine ⟨_, by rw [createView, present], ?_⟩
  rw [Template.render, template]
  simp only [Template.renderFrom, Value.render_given, render_slots, OptionStyle.render_value,
    String.toList_append, String.toList_intercalate, List.map_cons, intercalate_cons,
    List.append_assoc]

theorem separated (r : ViewReader) (tableName schemaName : String) (tableOptions : Options)
    (files : String) : (r.template tableName schemaName tableOptions files).Separated := by
  have plain : ∀ word ∈ r.function :: r.options.map ViewOption.keyword, '\'' ∉ word.toList := by
    intro word mem quoted
    have letter := List.all_eq_true.mp (r.words word mem) _ quoted
    cases letter
  refine ⟨?_, show Template.Fixed ")".toList by decide⟩
  simp only [template, List.forall_mem_cons]
  refine ⟨by decide, by decide, by decide, ⟨?_, ?_⟩, ?_⟩
  · simp [String.toList_append]
  · simp only [String.toList_append, List.mem_append, not_or]
    exact ⟨⟨by decide, plain _ List.mem_cons_self⟩, by decide⟩
  · intro slot mem
    obtain ⟨p, listed, present⟩ := List.mem_filterMap.mp mem
    obtain ⟨option, -, rfl⟩ := Option.map_eq_some_iff.mp present
    refine ⟨by simp [String.toList_append], ?_⟩
    simp only [String.toList_append, List.mem_append, not_or]
    refine ⟨⟨by decide, plain _ (List.mem_cons_of_mem _ (List.mem_map_of_mem listed))⟩, ?_⟩
    unfold assign
    split <;> decide

theorem contained_iff {r : ViewReader} {tableName schemaName files : String}
    {tableOptions : Options} (present : tableOptions.lookup "files" = some files) :
    r.Contained tableName schemaName tableOptions ↔
      ∀ slot ∈ (r.template tableName schemaName tableOptions files).slots, slot.2.Contained := by
  simp only [template, List.forall_mem_cons, List.mem_filterMap, slot, Option.map_eq_some_iff,
    OptionStyle.contained_value]
  constructor
  · intro ⟨schema, table, select, file, options⟩
    refine ⟨schema, table, select, file files present, ?_⟩
    rintro _ ⟨p, listed, option, given, rfl⟩
    exact OptionStyle.contained_value.mpr (options p listed option given)
  · intro ⟨schema, table, select, file, options⟩
    refine ⟨schema, table, select, ?_, ?_⟩
    · intro option given
      rw [present] at given
      cases given
      exact file
    · intro p listed option given
      exact OptionStyle.contained_value.mp (options _ ⟨p, listed, option, given, rfl⟩)

theorem readAsMeant_iff {r : ViewReader} {tableName schemaName : String} {tableOptions : Options}
    (present : (tableOptions.lookup "files").isSome) :
    r.ReadAsMeant tableName schemaName tableOptions ↔
      r.Contained tableName schemaName tableOptions := by
  obtain ⟨files, present⟩ := Option.isSome_iff_exists.mp present
  obtain ⟨text, built, rendered⟩ := @createView_eq r tableName schemaName _ _ present
  rw [contained_iff present, ← Template.readAsMeant_iff (r.separated _ _ _ _)]
  constructor
  · rintro ⟨files', text', tokens, present', built', meant, read⟩
    rw [present] at present'
    rw [built] at built'
    cases present'
    cases built'
    exact ⟨tokens, meant, rendered ▸ read⟩
  · rintro ⟨tokens, meant, read⟩
    exact ⟨files, text, tokens, present, built, meant, rendered ▸ read⟩

theorem word_inj {word word' : List Char} (letters : word.all isWordChar)
    (letters' : word'.all isWordChar) {sign : Char} (stop : isWordChar sign = false)
    {rest rest' : List Token}
    (same : chars word ++ .char sign :: rest = chars word' ++ .char sign :: rest') :
    word = word' := by
  induction word generalizing word' with
  | nil =>
    cases word' with
    | nil => rfl
    | cons c' word' =>
      obtain rfl : sign = c' := by simpa [chars] using (List.cons.inj same).1
      simp [stop] at letters'
  | cons c word ih =>
    cases word' with
    | nil =>
      obtain rfl : c = sign := by simpa [chars] using (List.cons.inj same).1
      simp [stop] at letters
    | cons c' word' =>
      obtain ⟨first, later⟩ := List.cons.inj same
      cases first
      rw [List.all_cons, Bool.and_eq_true] at letters letters'
      rw [ih letters.2 letters'.2 later]

theorem opening_inj {r : ViewReader} {keyword keyword' : String}
    (letters : keyword.toList.all isWordChar) (letters' : keyword'.toList.all isWordChar)
    {rest rest' : List Token}
    (same : chars (", " ++ keyword ++ r.assign).toList ++ rest =
      chars (", " ++ keyword' ++ r.assign).toList ++ rest') : keyword = keyword' := by
  unfold assign at same
  cases spaced : r.spaced <;>
    simp only [spaced, chars, String.toList_append, List.map_append, List.append_assoc,
      List.append_cancel_left_eq] at same
  · have stop : isWordChar '=' = false := by decide
    exact String.toList_inj.mp (word_inj letters letters' stop same)
  · have stop : isWordChar ' ' = false := by decide
    exact String.toList_inj.mp (word_inj letters letters' stop same)

def meantOptions (r : ViewReader) (tableOptions : Options) (options : List ViewOption) :
    Option (List Token) :=
  Template.meantFrom ")".toList (options.filterMap (r.slot tableOptions))

theorem meantOptions_unset {r : ViewReader} {tableOptions : Options} {p : ViewOption}
    (unset : tableOptions.lookup p.name = none) (options : List ViewOption) :
    r.meantOptions tableOptions (p :: options) = r.meantOptions tableOptions options := by
  simp [meantOptions, slot, unset]

theorem meantOptions_set {r : ViewReader} {tableOptions : Options} {p : ViewOption}
    {option : String} (set : tableOptions.lookup p.name = some option) {options : List ViewOption}
    {tokens : List Token} (h : r.meantOptions tableOptions (p :: options) = some tokens) :
    ∃ value later, (p.style.value option).meant = some value ∧
      r.meantOptions tableOptions options = some later ∧
      tokens = chars (", " ++ p.keyword ++ r.assign).toList ++ (value ++ later) := by
  simp only [meantOptions, slot, set, List.filterMap_cons, Option.map_some] at h
  obtain ⟨value, meant, rest⟩ := Option.bind_eq_some_iff.mp h
  obtain ⟨later, others, rfl⟩ := Option.map_eq_some_iff.mp rest
  exact ⟨value, later, meant, others, rfl⟩

theorem keyword_mem {r : ViewReader} {tableOptions : Options} {options : List ViewOption}
    (words : ∀ p ∈ options, p.keyword.toList.all isWordChar) {keyword : String}
    (letters : keyword.toList.all isWordChar) {rest : List Token}
    (h : r.meantOptions tableOptions options =
      some (chars (", " ++ keyword ++ r.assign).toList ++ rest)) :
    keyword ∈ options.map ViewOption.keyword := by
  induction options with
  | nil =>
    have closed := Option.some.inj h
    simp [chars, String.toList_append] at closed
  | cons p options ih =>
    cases present : tableOptions.lookup p.name with
    | none =>
      rw [meantOptions_unset present] at h
      exact List.mem_cons_of_mem _ (ih (fun q mem => words q (List.mem_cons_of_mem p mem)) h)
    | some option =>
      obtain ⟨value, later, -, -, same⟩ := meantOptions_set present h
      rw [opening_inj letters (words p List.mem_cons_self) same]
      exact List.mem_cons_self

theorem value_inj {style : OptionStyle} {option option' : String}
    (plain : style = .plain → option = option') {value value' later later' : List Token}
    (meant : (style.value option).meant = some value)
    (meant' : (style.value option').meant = some value')
    (same : value ++ later = value' ++ later') :
    style.value option = style.value option' ∧ later = later' := by
  by_cases written : style = .plain
  · obtain rfl := plain written
    obtain rfl := Option.some.inj (meant.symm.trans meant')
    exact ⟨rfl, List.append_cancel_left same⟩
  · exact Value.meant_inj (OptionStyle.value_ne_given written option)
      (OptionStyle.value_ne_given written option') meant meant' same

theorem values_inj {r : ViewReader} {tableOptions tableOptions' : Options}
    {options : List ViewOption} (words : ∀ p ∈ options, p.keyword.toList.all isWordChar)
    (distinct : (options.map ViewOption.keyword).Nodup)
    (plain : ∀ p ∈ options, p.style = .plain →
      tableOptions.lookup p.name = tableOptions'.lookup p.name)
    {tokens : List Token} (h : r.meantOptions tableOptions options = some tokens)
    (h' : r.meantOptions tableOptions' options = some tokens) :
    ∀ p ∈ options, (tableOptions.lookup p.name).map p.style.value =
      (tableOptions'.lookup p.name).map p.style.value := by
  induction options generalizing tokens with
  | nil => simp
  | cons p options ih =>
    obtain ⟨fresh, distinct⟩ := List.nodup_cons.mp distinct
    obtain ⟨word, words⟩ := List.forall_mem_cons.mp words
    obtain ⟨own, plain⟩ := List.forall_mem_cons.mp plain
    refine List.forall_mem_cons.mpr ?_
    cases present : tableOptions.lookup p.name with
    | none =>
      rw [meantOptions_unset present] at h
      cases present' : tableOptions'.lookup p.name with
      | none =>
        rw [meantOptions_unset present'] at h'
        exact ⟨rfl, ih words distinct plain h h'⟩
      | some option' =>
        obtain ⟨value', later', -, -, rfl⟩ := meantOptions_set present' h'
        exact absurd (keyword_mem words word h) fresh
    | some option =>
      obtain ⟨value, later, meant, others, rfl⟩ := meantOptions_set present h
      cases present' : tableOptions'.lookup p.name with
      | none =>
        rw [meantOptions_unset present'] at h'
        exact absurd (keyword_mem words word h') fresh
      | some option' =>
        obtain ⟨value', later', meant', others', same⟩ := meantOptions_set present' h'
        have agreed : p.style = .plain → option = option' := fun style => by
          simpa [present, present'] using own style
        obtain ⟨values, rfl⟩ := value_inj agreed meant meant' (List.append_cancel_left same)
        exact ⟨congrArg some values, ih words distinct plain others others'⟩

def values (r : ViewReader) (tableOptions : Options) : Option Value × List (Option Value) :=
  ((tableOptions.lookup "files").map r.files.value,
    r.options.map fun p => (tableOptions.lookup p.name).map p.style.value)

def SamePlain (r : ViewReader) (tableOptions tableOptions' : Options) : Prop :=
  r.select tableOptions = r.select tableOptions' ∧
    ∀ p ∈ r.options, p.style = .plain → tableOptions.lookup p.name = tableOptions'.lookup p.name

/-- Tables that differ in a value between quotes have statements that read differently. -/
def ToldApart (r : ViewReader) (tableName schemaName : String)
    (tableOptions tableOptions' : Options) : Prop :=
  r.SamePlain tableOptions tableOptions' → r.values tableOptions ≠ r.values tableOptions' →
    ∀ text text', r.createView tableName schemaName tableOptions = .ok text →
      r.createView tableName schemaName tableOptions' = .ok text' →
      literals.lex text.toList ≠ literals.lex text'.toList

theorem toldApart_of_readAsMeant {r : ViewReader} {tableName schemaName : String}
    {tableOptions tableOptions' : Options} (h : r.ReadAsMeant tableName schemaName tableOptions)
    (h' : r.ReadAsMeant tableName schemaName tableOptions') :
    r.ToldApart tableName schemaName tableOptions tableOptions' := by
  rintro ⟨select, plain⟩ differ text text' built built' same
  obtain ⟨files, _, tokens, present, built₀, meant, read⟩ := h
  obtain ⟨files', _, tokens', present', built₀', meant', read'⟩ := h'
  cases built₀.symm.trans built
  cases built₀'.symm.trans built'
  obtain rfl : tokens = tokens' := Option.some.inj (read.symm.trans (same.trans read'))
  rw [template, select] at meant
  rw [template] at meant'
  simp only [Template.meant, Template.meantFrom, Value.meant, Option.bind_eq_some_iff,
    Option.map_eq_some_iff] at meant meant'
  obtain ⟨schema, hs, _, ⟨table, ht, _, ⟨target, hg, _, ⟨file, value, later, others, rfl⟩, rfl⟩,
    rfl⟩, rfl⟩ := meant
  obtain ⟨schema', hs', _, ⟨table', ht', _, ⟨target', hg', _,
    ⟨file', value', later', others', rfl⟩, rfl⟩, rfl⟩, equal⟩ := meant'
  cases hs.symm.trans hs'
  cases ht.symm.trans ht'
  cases hg.symm.trans hg'
  simp only [List.append_cancel_left_eq] at equal
  obtain ⟨sameFiles, rfl⟩ := Value.meant_inj (OptionStyle.value_ne_given r.written files')
    (OptionStyle.value_ne_given r.written files) value' value equal
  have words : ∀ p ∈ r.options, p.keyword.toList.all isWordChar := fun p mem =>
    r.words _ (List.mem_cons_of_mem _ (List.mem_map_of_mem mem))
  refine differ (Prod.ext ?_ ?_)
  · simp [values, present, present', sameFiles]
  · exact List.map_congr_left (values_inj words r.distinct plain others others')

/-- Values stay in their places exactly when no value between quotes has a quote. -/
theorem slots_kept_iff (r : ViewReader) (tableName schemaName : String)
    {tableOptions tableOptions' : Options} (files : (tableOptions.lookup "files").isSome)
    (files' : (tableOptions'.lookup "files").isSome) :
    (r.ReadAsMeant tableName schemaName tableOptions ∧
      r.ReadAsMeant tableName schemaName tableOptions' ∧
      r.ToldApart tableName schemaName tableOptions tableOptions') ↔
    (r.Contained tableName schemaName tableOptions ∧
      r.Contained tableName schemaName tableOptions') := by
  rw [← readAsMeant_iff files, ← readAsMeant_iff files']
  constructor
  · rintro ⟨kept, kept', -⟩
    exact ⟨kept, kept'⟩
  · rintro ⟨kept, kept'⟩
    exact ⟨kept, kept', toldApart_of_readAsMeant kept kept'⟩

/-- A csv file whose fields are put between `mark`. -/
def marked (mark : String) : Options := [("files", "/data/trips.csv"), ("quote", mark)]

theorem contained_marked {mark : String} (plain : '\'' ∉ mark.toList) :
    csv.Contained "trips" "main" (marked mark) where
  schemaName := by decide
  tableName := by decide
  select := show (literals.lex "*".toList).isSome by decide
  files option present := by
    cases present
    decide
  options p listed option present := by
    have style : ∀ p ∈ csv.options, p.name ≠ "files" ∧ (p.name = "quote" → p.style = .quoted) := by
      decide
    obtain ⟨other, quoted⟩ := style p listed
    simp only [marked, List.lookup_cons, beq_eq_false_iff_ne.mpr other] at present
    by_cases named : p.name = "quote"
    · obtain rfl : mark = option := by simpa [named] using present
      rw [quoted named]
      exact plain
    · simp [beq_eq_false_iff_ne.mpr named] at present

theorem slots_kept_iff_marked :
    csv.ReadAsMeant "trips" "main" (marked "|") ∧ csv.ReadAsMeant "trips" "main" (marked "~") ∧
      csv.ToldApart "trips" "main" (marked "|") (marked "~") :=
  (slots_kept_iff csv "trips" "main" (by decide) (by decide)).mpr
    ⟨contained_marked (by decide), contained_marked (by decide)⟩

theorem single_quote_leaves_slot : ¬ csv.ReadAsMeant "trips" "main" (marked "'") := by
  rw [readAsMeant_iff (by decide)]
  intro contained
  exact contained.options (.quoted "quote") (by decide) "'" (by decide) (by decide)

end ViewReader

end PgAnalytics.ViewStatements
