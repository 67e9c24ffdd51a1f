import PgAnalytics.ByteSlices
import PgAnalytics.Traversals
import PgAnalytics.TypeTexts

/-! The statement that gives a foreign table the columns of a remote file. It is one
`ALTER TABLE` with a clause for each column exactly when every column's name is put
between quotes, or is a word that Postgres does not reserve. -/

namespace PgAnalytics.AlterTable
open Basics Lexing ByteSlices SqlTokens StatementForms ClauseLists DuckdbTypes Traversals TypeTexts

/-- `expect`, which shows the error after its message. -/
def expect {α : Type} (message : String) : Except Fault α → Except Fault α
  | .ok a => .ok a
  | .error (.error text) | .error (.panic text) => .error (.panic (message ++ ": " ++ text))

variable (quoteIdentifier : String → String)

def columnDefinition (preserveCasing : Bool) (column : String × String) : Except Fault String := do
  let pgType ← expect "failed to convert DuckDB type" (duckdbTypeToPg column.1 column.2)
  let columnName := if preserveCasing then quoteIdentifier column.1 else column.1
  return "ADD COLUMN " ++ columnName ++ " " ++ pgType

def constructAlterTableStatement (schemaName tableName : String)
    (columns : List (String × String)) (preserveCasing : Bool) : Except Fault String := do
  let columnDefinitions ← columns.mapM (columnDefinition quoteIdentifier preserveCasing)
  return "ALTER TABLE " ++ quoteIdentifier schemaName ++ "." ++ quoteIdentifier tableName ++ " " ++
    ", ".intercalate columnDefinitions

def clipTo : ℕ → List Char → List Char
  | _, [] => []
  | bytes, c :: name =>
    if c.utf8Size ≤ bytes then c :: clipTo (bytes - c.utf8Size) name else []

def clip (name : List Char) : List Char := clipTo 63 name

def lower (name : List Char) : List Char := name.map Char.toLower

theorem clipTo_starts (bytes : ℕ) (name : List Char) : clipTo bytes name <+: name := by
  induction name generalizing bytes with
  | nil => exact List.nil_prefix
  | cons c name ih =>
    rw [clipTo]
    split
    · exact List.cons_prefix_cons.mpr ⟨rfl, ih _⟩
    · exact List.nil_prefix

theorem byteLength_clipTo (bytes : ℕ) (name : List Char) :
    byteLength (clipTo bytes name) ≤ bytes := by
  induction name generalizing bytes with
  | nil => simp [clipTo]
  | cons c name ih =>
    rw [clipTo]
    split
    · have rest := ih (bytes - c.utf8Size)
      rw [byteLength_cons]
      omega
    · simp

theorem clipTo_eq_self {bytes : ℕ} {name : List Char} (short : byteLength name ≤ bytes) :
    clipTo bytes name = name := by
  induction name generalizing bytes with
  | nil => rfl
  | cons c name ih =>
    rw [byteLength_cons] at short
    rw [clipTo, if_pos (by omega), ih (by omega)]

theorem toLower_cases (c : Char) : c.toLower = c ∨ (c.isUpper ∧ c.toLower.isLower) := by
  unfold Char.toLower
  split
  · rename_i upper
    refine .inr ⟨decide_eq_true upper, isLower_iff_toNat.mpr ?_⟩
    obtain ⟨least, most⟩ := upper
    simp [UInt32.le_iff_toNat_le] at least most ⊢
    omega
  · exact .inl rfl

theorem startsWord_toLower (foreign : Char → Bool) (c : Char) :
    startsWord foreign c.toLower = startsWord foreign c := by
  rcases toLower_cases c with same | ⟨upper, lower⟩
  · rw [same]
  · simp [startsWord, isAlpha_iff.mpr (.inl upper), isAlpha_iff.mpr (.inr lower)]

theorem continuesWord_toLower (foreign : Char → Bool) (c : Char) :
    continuesWord foreign c.toLower = continuesWord foreign c := by
  rcases toLower_cases c with same | ⟨upper, lower⟩
  · rw [same]
  · simp [continuesWord, startsWord, isAlpha_iff.mpr (.inl upper), isAlpha_iff.mpr (.inr lower)]

theorem isWord_lower (foreign : Char → Bool) (name : List Char) :
    isWord foreign (lower name) = isWord foreign name := by
  cases name with
  | nil => rfl
  | cons c name =>
    simp [lower, isWord, startsWord_toLower, continuesWord_toLower, Function.comp_def]

theorem isWord_start {foreign : Char → Bool} {word start : List Char} (h : isWord foreign word)
    (first : start <+: word) (nonempty : start ≠ []) : isWord foreign start := by
  obtain ⟨rest, rfl⟩ := first
  obtain ⟨c, start, rfl⟩ := List.exists_cons_of_ne_nil nonempty
  simp only [isWord, List.cons_append, List.all_append, Bool.and_eq_true] at h ⊢
  exact ⟨h.1, h.2.1⟩

theorem utf8Size_of_isAlpha {c : Char} (letter : c.isAlpha) : c.utf8Size = 1 := by
  rw [isAlpha_iff, isUpper_iff_toNat, isLower_iff_toNat] at letter
  unfold Char.utf8Size
  simp [UInt32.le_iff_toNat_le]
  omega

theorem byteLength_lower (name : List Char) : byteLength (lower name) = byteLength name := by
  induction name with
  | nil => rfl
  | cons c name ih =>
    have size : c.toLower.utf8Size = c.utf8Size := by
      rcases toLower_cases c with same | ⟨upper, lower⟩
      · rw [same]
      · rw [utf8Size_of_isAlpha (isAlpha_iff.mpr (.inr lower)),
          utf8Size_of_isAlpha (isAlpha_iff.mpr (.inl upper))]
    rw [lower, List.map_cons, byteLength_cons, byteLength_cons, size, ← ih, lower]

theorem count_lower (name : List Char) : (lower name).count '"' = name.count '"' := by
  induction name with
  | nil => rfl
  | cons c name ih =>
    have same : (c.toLower == '"') = (c == '"') := by
      rcases toLower_cases c with same | ⟨upper, lower⟩
      · rw [same]
      · have other : c ≠ '"' ∧ c.toLower ≠ '"' := by
          refine ⟨?_, fun quote => ?_⟩
          · rintro rfl
            cases upper
          · rw [quote] at lower
            cases lower
        simp [other]
    rw [lower, List.map_cons, List.count_cons, List.count_cons, same, ← ih, lower]

def postgres (reserved : List Char → Bool) : Dialect where
  foreign _ := true
  fold word := clip (lower word)
  clip := clip
  reserved := reserved
  unquoted {word} letters mem := by
    have word' : isWord (fun _ => true) (lower word) := by rwa [isWord_lower]
    exact notMem_of_isWord rfl word' ((clipTo_starts _ _).subset mem)
  clip_quotes name := (clipTo_starts _ _).sublist.count_le _

def Fits (name : List Char) : Prop := name ≠ [] ∧ byteLength name ≤ 63

instance (name : List Char) : Decidable (Fits name) := inferInstanceAs (Decidable (_ ∧ _))

theorem fits_clip {name : List Char} (nonempty : name ≠ []) : Fits (clip name) := by
  refine ⟨?_, byteLength_clipTo _ _⟩
  obtain ⟨c, name, rfl⟩ := List.exists_cons_of_ne_nil nonempty
  have size := c.utf8Size_le_four
  rw [clip, clipTo, if_pos (by omega)]
  exact List.cons_ne_nil _ _

theorem fits_lower {name : List Char} : Fits (lower name) ↔ Fits name := by
  unfold Fits
  rw [byteLength_lower]
  simp [lower]

theorem Fits.clip_eq {name : List Char} (h : Fits name) : clip name = name := clipTo_eq_self h.2

/-- What is written for a name: a word that stands for it, or the name between quotes. -/
def QuotesNames (reserved : List Char → Bool) : Prop := ∀ name : String,
  (isWord (fun _ => true) name.toList ∧ lower name.toList = name.toList ∧
    reserved name.toList = false ∧ quoteIdentifier name = name) ∨
  (quoteIdentifier name).toList = '"' :: doubled '"' name.toList ++ ['"']

def givenName (preserveCasing : Bool) (name : String) : List Char :=
  if preserveCasing then name.toList else lower name.toList

def clauseItems (preserveCasing : Bool) (name : String) (type : List Token) : List Item :=
  keywords ["ADD", "COLUMN"] ++ .name (givenName preserveCasing name) :: type.map .fixed

def typeTokens (column : String × DescribedType) : Option (List Token) :=
  match duckdbTypeToPg column.1 column.2.text with
  | .ok postgresType => (sql fun _ => true).lex postgresType.toList
  | .error _ => none

def AddsColumn (d : Dialect) (preserveCasing : Bool) (column : String × DescribedType)
    (clause : List Token) : Prop :=
  ∃ type, typeTokens column = some type ∧ type ≠ [] ∧
    Matches d (clauseItems preserveCasing column.1 type) clause

/-- The text is one statement on the table, with one clause for each column. -/
def AltersTable (d : Dialect) (schemaName tableName : String) (preserveCasing : Bool)
    (columns : List (String × DescribedType)) (text : String) : Prop :=
  ∃ head body clauses, (sql d.foreign).lex text.toList = some (head ++ body) ∧
    Matches d (keywords ["ALTER", "TABLE"] ++ qualified schemaName tableName) head ∧
    tokenMarks.clauses body = some clauses ∧
    List.Forall₂ (AddsColumn d preserveCasing) columns clauses

structure PlainNames (reserved : List Char → Bool) (schemaName tableName : String)
    (preserveCasing : Bool) (columns : List (String × DescribedType)) : Prop where
  schema : Fits schemaName.toList
  table : Fits tableName.toList
  nonempty : columns ≠ []
  fits : ∀ column ∈ columns, Fits column.1.toList
  word : preserveCasing = false → ∀ column ∈ columns,
    isWord (fun _ => true) column.1.toList ∧ reserved (lower column.1.toList) = false

def definitionText (preserveCasing : Bool) (column : String × DescribedType) : List Char :=
  "ADD COLUMN ".toList ++ ((if preserveCasing then quoteIdentifier column.1 else column.1).toList ++
    ' ' :: converted column.2.text.toList)

def headText (schemaName tableName : String) : List Char :=
  "ALTER TABLE ".toList ++ ((quoteIdentifier schemaName).toList ++
    '.' :: ((quoteIdentifier tableName).toList ++ [' ']))

def bodyText (preserveCasing : Bool) (columns : List (String × DescribedType)) : List Char :=
  [',', ' '].intercalate (columns.map (definitionText quoteIdentifier preserveCasing))

/-- What `DESCRIBE` answers for the columns. -/
def schemaRows (columns : List (String × DescribedType)) : List (String × String) :=
  columns.map fun column => (column.1, column.2.text)

def Accepted (columns : List (String × DescribedType)) : Prop :=
  ∀ column ∈ columns, ∃ postgresType, duckdbTypeToPg column.1 column.2.text = .ok postgresType

theorem columnDefinition_text {column : String × DescribedType} {postgresType : String}
    (h : duckdbTypeToPg column.1 column.2.text = .ok postgresType) (preserveCasing : Bool) :
    ∃ definition,
      columnDefinition quoteIdentifier preserveCasing (column.1, column.2.text) = .ok definition ∧
      definition.toList = definitionText quoteIdentifier preserveCasing column := by
  refine ⟨"ADD COLUMN " ++ (if preserveCasing then quoteIdentifier column.1 else column.1) ++ " " ++
    postgresType, ?_, ?_⟩
  · unfold columnDefinition
    rw [h]
    rfl
  · have blank : " ".toList = [' '] := rfl
    unfold definitionText
    simp only [String.toList_append, duckdbTypeToPg_ok h, blank, List.append_assoc,
      List.singleton_append]

theorem statement_text {columns : List (String × DescribedType)} (accepted : Accepted columns)
    (schemaName tableName : String) (preserveCasing : Bool) :
    ∃ text, constructAlterTableStatement quoteIdentifier schemaName tableName (schemaRows columns)
        preserveCasing = .ok text ∧
      text.toList = headText quoteIdentifier schemaName tableName ++
        bodyText quoteIdentifier preserveCasing columns := by
  obtain ⟨definitions, each, stand⟩ := exists_forall₂ fun column mem =>
    (accepted column mem).elim fun _ here =>
      columnDefinition_text quoteIdentifier here preserveCasing
  have built : (schemaRows columns).mapM (columnDefinition quoteIdentifier preserveCasing) =
      .ok definitions := by
    rw [schemaRows, List.mapM_map]
    exact each
  have texts : definitions.map String.toList =
      columns.map (definitionText quoteIdentifier preserveCasing) := by
    rw [← List.forall₂_eq_eq_eq, List.forall₂_map_left_iff, List.forall₂_map_right_iff]
    exact stand.flip
  refine ⟨_, by rw [constructAlterTableStatement, built]; rfl, ?_⟩
  have blank : " ".toList = [' '] := rfl
  have dot : ".".toList = ['.'] := rfl
  have comma : ", ".toList = [',', ' '] := rfl
  unfold headText bodyText
  simp only [String.toList_append, String.toList_intercalate, texts, blank, dot, comma,
    List.append_assoc, List.cons_append, List.nil_append]

def typeOf (column : String × DescribedType) : List Token := (typeTokens column).getD []

def clauseForm (preserveCasing : Bool) (column : String × DescribedType) : List Item :=
  clauseItems preserveCasing column.1 (typeOf column)

theorem typeOf_spec {column : String × DescribedType}
    (accepted : ∃ postgresType, duckdbTypeToPg column.1 column.2.text = .ok postgresType) :
    typeTokens column = some (typeOf column) ∧
      TypeTokens (fun _ => true) (converted column.2.text.toList) (typeOf column) := by
  obtain ⟨postgresType, ok⟩ := accepted
  obtain ⟨type, tokens⟩ := exists_typeTokens (fun _ => true) column.2.described
  have found : typeTokens column = some type := by
    have read := tokens.reads [] stops_nil
    unfold typeTokens
    rw [ok]
    simpa [duckdbTypeToPg_ok ok] using read
  have same : typeOf column = type := by rw [typeOf, found, Option.getD_some]
  exact ⟨by rw [found, same], same ▸ tokens⟩

theorem addsColumn_iff {d : Dialect} {preserveCasing : Bool} {column : String × DescribedType}
    (accepted : ∃ postgresType, duckdbTypeToPg column.1 column.2.text = .ok postgresType)
    {clause : List Token} :
    AddsColumn d preserveCasing column clause ↔
      Matches d (clauseForm preserveCasing column) clause := by
  obtain ⟨found, tokens⟩ := typeOf_spec accepted
  constructor
  · rintro ⟨type, same, -, h⟩
    obtain rfl := Option.some.inj (found.symm.trans same)
    exact h
  · exact fun h => ⟨typeOf column, found, tokens.nonempty, h⟩

theorem forall₂_addsColumn_iff {d : Dialect} {preserveCasing : Bool}
    {columns : List (String × DescribedType)} (accepted : Accepted columns)
    {clauses : List (List Token)} :
    List.Forall₂ (AddsColumn d preserveCasing) columns clauses ↔
      List.Forall₂ (Matches d) (columns.map (clauseForm preserveCasing)) clauses := by
  rw [List.forall₂_map_left_iff]
  constructor
  · intro h
    refine ((List.forall₂_and_left _ _).mpr ⟨accepted, h⟩).imp ?_
    exact fun _ _ both => (addsColumn_iff both.1).mp both.2
  · intro h
    refine ((List.forall₂_and_left _ _).mpr ⟨accepted, h⟩).imp ?_
    exact fun _ _ both => (addsColumn_iff both.1).mpr both.2

theorem clause_whole {d : Dialect} {preserveCasing : Bool} {name : String} {type : List Token}
    {clause : List Token} (h : Matches d (clauseItems preserveCasing name type) clause)
    (whole : tokenMarks.whole type) : tokenMarks.whole clause := by
  obtain ⟨_, _, rfl, later, rfl⟩ := List.forall₂_cons_left_iff.mp h
  obtain ⟨_, _, rfl, last, rfl⟩ := List.forall₂_cons_left_iff.mp later
  obtain ⟨named, tokens, stands, rest, rfl⟩ := List.forall₂_cons_left_iff.mp last
  obtain rfl := matches_fixed_iff.mp rest
  have plain : tokenMarks.mark named = .plain := by
    rcases stands with ⟨name, rfl, -⟩ | ⟨word, rfl, -⟩ <;> rfl
  have marks : ∀ t ∈ [Token.word "ADD".toList, .word "COLUMN".toList, named],
      tokenMarks.mark t = .plain := by
    simp only [List.forall_mem_cons]
    exact ⟨rfl, rfl, plain, nofun⟩
  exact (Marks.wholeFrom_plain marks 0 tokens).trans whole

variable {quoteIdentifier} {reserved : List Char → Bool}

theorem stands_quoted (quotes : QuotesNames quoteIdentifier reserved) {name : String}
    (fits : Fits name.toList) :
    Stands (postgres reserved) (.name name.toList) (quoteIdentifier name).toList := by
  rcases quotes name with ⟨letters, low, free, same⟩ | quoted
  · have folded : clip (lower name.toList) = name.toList := by rw [low, fits.clip_eq]
    rw [same]
    exact stands_word letters (.inr ⟨_, rfl, folded, free⟩)
  · rw [quoted]
    exact stands_identifier fits.1 (.inl ⟨_, rfl, fits.clip_eq⟩)

theorem opens_definition (quotes : QuotesNames quoteIdentifier reserved) {preserveCasing : Bool}
    {column : String × DescribedType} (fits : Fits column.1.toList)
    (word : preserveCasing = false →
      isWord (fun _ => true) column.1.toList ∧ reserved (lower column.1.toList) = false)
    (accepted : ∃ postgresType, duckdbTypeToPg column.1 column.2.text = .ok postgresType) :
    Opens (postgres reserved) (clauseForm preserveCasing column)
      (definitionText quoteIdentifier preserveCasing column) := by
  have add := @spells_keywords (postgres reserved) ["ADD", "COLUMN"] (by decide)
  have named : Stands (postgres reserved) (.name (givenName preserveCasing column.1))
      (if preserveCasing then quoteIdentifier column.1 else column.1).toList := by
    cases preserveCasing with
    | true => exact stands_quoted quotes fits
    | false =>
      obtain ⟨letters, free⟩ := word rfl
      have folded := (fits_lower.mpr fits).clip_eq
      exact stands_word letters (.inr ⟨_, rfl, folded, free⟩)
  have type : Opens (postgres reserved) ((typeOf column).map .fixed)
      (converted column.2.text.toList) :=
    ⟨typeOf column, matches_fixed_iff.mpr rfl, (typeOf_spec accepted).2.reads⟩
  have blank := (spells_space (postgres reserved)).opens type
  rw [List.singleton_append, List.nil_append] at blank
  have whole := add.opens (named.opens.append (stops_blank _) blank (List.cons_ne_nil _ _))
  have words : "ADD COLUMN ".toList =
    (["ADD", "COLUMN"].map String.toList).flatMap (· ++ [' ']) := by decide
  unfold clauseForm clauseItems definitionText
  rw [words]
  simpa only [List.singleton_append] using whole

theorem spells_head (quotes : QuotesNames quoteIdentifier reserved) {schemaName tableName : String}
    (schema : Fits schemaName.toList) (table : Fits tableName.toList) :
    Spells (postgres reserved) (keywords ["ALTER", "TABLE"] ++ qualified schemaName tableName)
      (headText quoteIdentifier schemaName tableName) := by
  have alter := @spells_keywords (postgres reserved) ["ALTER", "TABLE"] (by decide)
  have part : Stands (postgres reserved) (.part tableName.toList)
      (quoteIdentifier tableName).toList := by
    obtain ⟨t, stands, read⟩ := stands_quoted quotes table
    refine ⟨t, stands.imp_right ?_, read⟩
    rintro ⟨word, same, folded, -⟩
    exact ⟨word, same, folded⟩
  have named := part.spells ⟨rfl, by decide⟩ (spells_space (postgres reserved))
  have dot := (spells_symbol (d := postgres reserved) (by decide : isSymbol '.')).append named
  have whole := alter.append ((stands_quoted quotes schema).spells ⟨rfl, by decide⟩ dot)
  have words : "ALTER TABLE ".toList =
    (["ALTER", "TABLE"].map String.toList).flatMap (· ++ [' ']) := by decide
  unfold qualified headText
  rw [words]
  exact whole

theorem alters_of_plain (quotes : QuotesNames quoteIdentifier reserved)
    {schemaName tableName : String} {preserveCasing : Bool}
    {columns : List (String × DescribedType)} (accepted : Accepted columns)
    (plain : PlainNames reserved schemaName tableName preserveCasing columns) {text : String}
    (same : text.toList = headText quoteIdentifier schemaName tableName ++
      bodyText quoteIdentifier preserveCasing columns) :
    AltersTable (postgres reserved) schemaName tableName preserveCasing columns text := by
  obtain ⟨head, found, closed⟩ := spells_head quotes plain.schema plain.table
  have opens : List.Forall₂ (Opens (postgres reserved))
      (columns.map (clauseForm preserveCasing))
      (columns.map (definitionText quoteIdentifier preserveCasing)) := by
    rw [List.forall₂_map_left_iff, List.forall₂_map_right_iff, List.forall₂_same]
    exact fun column mem => opens_definition quotes (plain.fits column mem)
      (fun pasted => plain.word pasted column mem) (accepted column mem)
  obtain ⟨clauses, matched, read⟩ := lex_clauses opens
  have adds := (forall₂_addsColumn_iff accepted).mpr matched
  refine ⟨head, [Token.symbol ','].intercalate clauses, clauses, ?_, found, ?_, adds⟩
  · have whole := read [] stops_nil
    rw [List.append_nil] at whole
    rw [same, closed, bodyText, whole]
    simp
  · refine Marks.clauses_eq_some_iff.mpr ⟨?_, rfl, fun clause mem => ?_⟩
    · rintro rfl
      cases adds
      exact plain.nonempty rfl
    · obtain ⟨column, here, h⟩ := exists_of_forall₂ adds.flip mem
      have ok := accepted column here
      exact clause_whole ((addsColumn_iff ok).mp h) (typeOf_spec ok).2.whole

theorem fits_of_stands {item : Item} {name : List Char} (named : item ∈ [.name name, .part name])
    {t : Token} (h : item.Matches (postgres reserved) t) (formed : t.Formed fun _ => true) :
    Fits name := by
  have kept : (∃ name', t = .identifier name' ∧ clip name' = name) ∨
      ∃ word, t = .word word ∧ clip (lower word) = name := by
    rcases List.mem_pair.mp named with rfl | rfl
    · exact h.imp_right fun ⟨word, same, folded, _⟩ => ⟨word, same, folded⟩
    · exact h
  rcases kept with ⟨name', rfl, rfl⟩ | ⟨word, rfl, rfl⟩
  · exact fits_clip formed
  · refine fits_clip fun none => ?_
    obtain rfl := List.map_eq_nil_iff.mp none
    cases formed

theorem count_body {columns : List (String × DescribedType)} (accepted : Accepted columns) :
    (bodyText quoteIdentifier false columns).count '"' =
      ((commas (columns.map (clauseForm false))).map Item.quotes).sum := by
  refine count_intercalate fun column mem => ?_
  have type := (typeOf_spec (accepted column mem)).2.quotes
  have fixed : "ADD COLUMN ".toList.count '"' = 0 ∧ ' ' ≠ '"' := by decide
  have kept : ((typeOf column).map (Item.quotes ∘ Item.fixed)).sum =
      ((typeOf column).map Token.quotes).sum := rfl
  unfold definitionText clauseForm clauseItems
  simp only [Bool.false_eq_true, if_false, List.count_append, fixed, List.count_cons_of_ne,
    List.map_append, List.map_cons, List.map_map, List.sum_append, List.sum_cons, quotes_keywords,
    ne_eq, not_false_eq_true]
  rw [kept, type]
  simp [Item.quotes, givenName, count_lower]

theorem isWord_of_plain {name : List Char} (fits : Fits name)
    (plain : (Item.name (lower name)).Plain (postgres reserved)) :
    isWord (fun _ => true) name ∧ reserved (lower name) = false := by
  obtain ⟨word, letters, folded, free⟩ := plain
  refine ⟨?_, free⟩
  rw [← isWord_lower]
  have whole : isWord (fun _ => true) (lower word) := by rwa [isWord_lower]
  have start : lower name <+: lower word := by
    rw [← show clip (lower word) = lower name from folded]
    exact clipTo_starts _ _
  exact isWord_start whole start (fits_lower.mpr fits).1

theorem fits_of_givenName {preserveCasing : Bool} {name : String}
    (h : Fits (givenName preserveCasing name)) : Fits name.toList := by
  unfold givenName at h
  split at h
  · exact h
  · exact fits_lower.mp h

theorem plain_of_alters (quotes : QuotesNames quoteIdentifier reserved)
    {schemaName tableName : String} {preserveCasing : Bool}
    {columns : List (String × DescribedType)} (accepted : Accepted columns) {text : String}
    (same : text.toList = headText quoteIdentifier schemaName tableName ++
      bodyText quoteIdentifier preserveCasing columns)
    (h : AltersTable (postgres reserved) schemaName tableName preserveCasing columns text) :
    PlainNames reserved schemaName tableName preserveCasing columns := by
  obtain ⟨head, body, clauses, lexed, found, split, adds⟩ := h
  obtain ⟨headFormed, bodyFormed⟩ := List.forall_mem_append.mp (formed_of_lex lexed)
  obtain ⟨nonempty, rfl, -⟩ := Marks.clauses_eq_some_iff.mp split
  have matched := matches_intercalate ((forall₂_addsColumn_iff accepted).mp adds)
  have named : ∀ column ∈ columns, Item.name (givenName preserveCasing column.1) ∈
      commas (columns.map (clauseForm preserveCasing)) := fun column mem =>
    mem_commas (List.mem_map_of_mem mem) (by simp [clauseForm, clauseItems])
  have head' : ∀ {item name}, item ∈ keywords ["ALTER", "TABLE"] ++ qualified schemaName tableName →
      item ∈ [Item.name name, .part name] → Fits name := by
    intro item name mem kind
    obtain ⟨t, inside, stands⟩ := exists_of_forall₂ found mem
    exact fits_of_stands kind stands (headFormed t inside)
  have fits : ∀ column ∈ columns, Fits column.1.toList := by
    intro column mem
    obtain ⟨t, inside, stands⟩ := exists_of_forall₂ matched (named column mem)
    exact fits_of_givenName (fits_of_stands List.mem_cons_self stands (bodyFormed t inside))
  have schema : Fits schemaName.toList := head' (by simp [qualified]) List.mem_cons_self
  have table : Fits tableName.toList :=
    @head' (.part tableName.toList) _ (by simp [qualified]) (by simp)
  refine ⟨schema, table, ?_, fits, ?_⟩
  · rintro rfl
    cases adds
    exact nonempty rfl
  · rintro rfl column mem
    obtain ⟨headTokens, alike, closed⟩ := spells_head quotes schema table
    rw [same, closed] at lexed
    obtain ⟨bodyTokens, read, both⟩ := Option.map_eq_some_iff.mp lexed
    have length := (List.Forall₂.length_eq alike).symm.trans (List.Forall₂.length_eq found)
    obtain ⟨-, rfl⟩ := List.append_inj both length
    have most := Nat.le_trans (count_quotes read) (Nat.le_of_eq (count_body accepted))
    exact isWord_of_plain (fits column mem)
      ((plain_of_matches matched bodyFormed).2 most _ (named column mem))

/-- The statement is the one that is meant exactly when the names fit and those that are
put in as they are are words that are not reserved. -/
theorem alters_table_iff (quotes : QuotesNames quoteIdentifier reserved)
    (schemaName tableName : String) (preserveCasing : Bool)
    (columns : List (String × DescribedType)) (accepted : Accepted columns) :
    (∃ text, constructAlterTableStatement quoteIdentifier schemaName tableName
        (schemaRows columns) preserveCasing = .ok text ∧
      AltersTable (postgres reserved) schemaName tableName preserveCasing columns text) ↔
    PlainNames reserved schemaName tableName preserveCasing columns := by
  obtain ⟨text, built, same⟩ :=
    statement_text quoteIdentifier accepted schemaName tableName preserveCasing
  constructor
  · rintro ⟨text', built', h⟩
    obtain rfl := Except.ok.inj (built.symm.trans built')
    exact plain_of_alters quotes accepted same h
  · exact fun plain => ⟨text, built, alters_of_plain quotes accepted plain same⟩

/-- As Postgres quotes: what is a word in lower case and not reserved stays as it is. -/
def quoteUnlessSafe (reserved : List Char → Bool) (name : String) : String :=
  if isWord (fun _ => false) name.toList ∧ lower name.toList = name.toList ∧
      reserved name.toList = false then name
  else String.ofList ('"' :: doubled '"' name.toList ++ ['"'])

theorem quotesNames_quoteUnlessSafe (reserved : List Char → Bool) :
    QuotesNames (quoteUnlessSafe reserved) reserved := by
  intro name
  unfold quoteUnlessSafe
  split
  · rename_i safe
    exact .inl ⟨isWord_of_ascii safe.1, safe.2.1, safe.2.2, rfl⟩
  · exact .inr String.toList_ofList

def isOrder (word : List Char) : Bool := word == "order".toList

def integers (name : String) : List (String × DescribedType) :=
  [(name, ⟨"INTEGER", .plain (by decide)⟩)]

theorem accepted_integers (name : String) : Accepted (integers name) := by
  simp only [Accepted, integers, List.forall_mem_singleton]
  exact exists_duckdbTypeToPg name (by decide) (by decide)

theorem alters_table_iff_order :
    ∃ text, constructAlterTableStatement (quoteUnlessSafe isOrder) "public" "trips"
        (schemaRows (integers "order")) true = .ok text ∧
      AltersTable (postgres isOrder) "public" "trips" true (integers "order") text :=
  (alters_table_iff (quotesNames_quoteUnlessSafe isOrder) "public" "trips" true
    (integers "order") (accepted_integers _)).mpr
    ⟨by decide, by decide, by decide, by decide, nofun⟩

theorem column_name_adds_column :
    ¬ ∃ text, constructAlterTableStatement (quoteUnlessSafe isOrder) "public" "trips"
        (schemaRows (integers "id INTEGER, ADD COLUMN extra")) false = .ok text ∧
      AltersTable (postgres isOrder) "public" "trips" false
        (integers "id INTEGER, ADD COLUMN extra") text := by
  rintro ⟨text, built, alters⟩
  obtain ⟨text', built', same⟩ := statement_text (quoteUnlessSafe isOrder)
    (accepted_integers "id INTEGER, ADD COLUMN extra") "public" "trips" false
  obtain rfl := Except.ok.inj (built.symm.trans built')
  have plain := plain_of_alters (quotesNames_quoteUnlessSafe isOrder) (accepted_integers _) same
    alters
  have word := (plain.word rfl _ (List.mem_singleton_self _)).1
  exact absurd word (by decide)

end PgAnalytics.AlterTable
