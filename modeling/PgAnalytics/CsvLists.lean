import PgAnalytics.SqlTokens
import PgAnalytics.ViewStatements

/-! What `format_csv` writes, read back as SQL reads it: a string literal, or string
literals in brackets with commas between them. A text stands for its parts between
the commas, without the whitespace around each. -/

namespace PgAnalytics.CsvLists
open Lexing SqlTokens ViewStatements
open StringLiterals (Value quote intercalate_cons)
open StringLiterals.Value (literalQuotes count_listed)

section Literals

variable {foreign : Char → Bool}

def readItems : List Token → Option (List (List Char))
  | [.symbol ']'] => some []
  | .symbol ',' :: .literal content :: tokens => (readItems tokens).map (content :: ·)
  | _ => none

def readTokens : List Token → Option (List (List Char))
  | [.literal content] => some [content]
  | [.symbol '[', .symbol ']'] => some []
  | .symbol '[' :: .literal content :: tokens => (readItems tokens).map (content :: ·)
  | _ => none

def readLiteral (foreign : Char → Bool) (text : List Char) : Option (List (List Char)) :=
  ((sql foreign).lex text).bind readTokens

theorem literalQuotes_cons (content : List Char) (contents : List (List Char)) :
    literalQuotes (content :: contents) =
      Token.written '\'' (.literal content) + literalQuotes contents := rfl

theorem written_readItems {tokens : List Token} {contents : List (List Char)}
    (h : readItems tokens = some contents) :
    (tokens.map (Token.written '\'')).sum = literalQuotes contents := by
  fun_induction readItems tokens generalizing contents with
  | case1 =>
    cases h
    rfl
  | case2 content tokens ih =>
    obtain ⟨later, read, rfl⟩ := Option.map_eq_some_iff.mp h
    rw [literalQuotes_cons, ← ih read]
    simp [Token.written, Token.quoted]
  | case3 => cases h

theorem written_readTokens {tokens : List Token} {contents : List (List Char)}
    (h : readTokens tokens = some contents) :
    (tokens.map (Token.written '\'')).sum = literalQuotes contents := by
  unfold readTokens at h
  split at h
  · cases h
    rfl
  · cases h
    rfl
  · obtain ⟨later, read, rfl⟩ := Option.map_eq_some_iff.mp h
    rw [literalQuotes_cons, ← written_readItems read]
    simp [Token.written, Token.quoted]
  · cases h

theorem literalQuotes_le {text : List Char} {contents : List (List Char)}
    (h : readLiteral foreign text = some contents) : literalQuotes contents ≤ text.count '\'' := by
  obtain ⟨tokens, lexed, read⟩ := Option.bind_eq_some_iff.mp h
  rw [← written_readTokens read]
  exact count_written '\'' lexed

theorem lex_quote {content : List Char} (plain : '\'' ∉ content) {rest : List Char}
    (stop : rest.head? ≠ some '\'') :
    (sql foreign).lex (quote content ++ rest) =
      ((sql foreign).lex rest).map (.literal content :: ·) := by
  have read := @lex_literal foreign _ _ _ (takeQuoted_plain plain stop)
  simpa [quote] using read

theorem head_items (contents : List (List Char)) :
    ((contents.map quote).flatMap ([',', ' '] ++ ·) ++ [']']).head? ≠ some '\'' := by
  cases contents <;> simp

theorem read_items {contents : List (List Char)} (plain : ∀ content ∈ contents, '\'' ∉ content) :
    ((sql foreign).lex ((contents.map quote).flatMap ([',', ' '] ++ ·) ++ [']'])).bind readItems =
      some contents := by
  induction contents with
  | nil =>
    rw [List.map_nil, List.flatMap_nil, List.nil_append, lex_symbol (by decide)]
    rfl
  | cons content contents ih =>
    obtain ⟨here, there⟩ := List.forall_mem_cons.mp plain
    rw [List.map_cons, List.flatMap_cons, List.append_assoc, List.append_assoc, List.cons_append,
      List.singleton_append, lex_symbol (by decide), lex_space (by decide), lex_quote here
      (head_items contents), Option.map_map, Option.bind_map]
    exact (Option.map_bind ..).symm.trans (congrArg _ (ih there))

/-- The contents of a value's literals, of one that is put in as it is none. -/
def literalsOf : Value → List (List Char)
  | .given _ => []
  | .quoted content => [content]
  | .listed contents => contents

theorem read_render {value : Value} (written : ∀ text, value ≠ .given text)
    (contained : value.Contained) : readLiteral foreign value.render = some (literalsOf value) := by
  cases value with
  | given text => exact absurd rfl (written text)
  | quoted content =>
    rw [Value.render, ← List.append_nil (quote content), readLiteral, lex_quote contained (by simp)]
    rfl
  | listed contents =>
    rw [Value.render, readLiteral, List.cons_append, lex_symbol (by decide), Option.bind_map]
    cases contents with
    | nil =>
      rw [List.map_nil, List.intercalate_nil, List.nil_append, lex_symbol (by decide)]
      rfl
    | cons content contents =>
      obtain ⟨here, there⟩ := List.forall_mem_cons.mp contained
      rw [List.map_cons, intercalate_cons, List.append_assoc, lex_quote here (head_items contents),
        Option.bind_map]
      exact (Option.map_bind ..).symm.trans (congrArg _ (read_items there))

theorem count_render {value : Value} (written : ∀ text, value ≠ .given text) :
    value.render.count '\'' + value.inner = literalQuotes (literalsOf value) := by
  cases value with
  | given text => exact absurd rfl (written text)
  | quoted content =>
    simp [Value.render, Value.inner, literalsOf, literalQuotes, quote]
    omega
  | listed contents =>
    simpa [Value.render, Value.inner, literalsOf] using count_listed contents

theorem contained_of_read {value : Value} (written : ∀ text, value ≠ .given text)
    {found : List (List Char)} (read : readLiteral foreign value.render = some found)
    (same : literalQuotes found = literalQuotes (literalsOf value)) : value.Contained := by
  have most := literalQuotes_le read
  have least := count_render written
  exact Value.contained_of_inner written (by omega)

end Literals

def parts (csvStr : String) : List (List Char) := (csvStr.toList.splitOn ',').map trim

def Denotes (foreign : Char → Bool) (csvStr : String) : Prop :=
  readLiteral foreign (formatCsv csvStr).toList = some (parts csvStr)

instance (foreign : Char → Bool) (csvStr : String) : Decidable (Denotes foreign csvStr) :=
  inferInstanceAs (Decidable (_ = _))

theorem splitOn_comma (text : List Char) :
    (',' ∉ text ∧ text.splitOn ',' = [text]) ∨ (',' ∈ text ∧ (text.splitOn ',').length ≠ 1) := by
  by_cases several : ',' ∈ text
  · obtain ⟨before, after, rfl⟩ := List.append_of_mem several
    refine .inr ⟨several, ?_⟩
    have first := List.length_pos_iff.mpr (List.splitOn_ne_nil ',' before)
    have later := List.length_pos_iff.mpr (List.splitOn_ne_nil ',' after)
    rw [List.splitOn_append_cons_self, List.length_append]
    omega
  · exact .inl ⟨several, List.splitOn_eq_singleton several⟩

theorem literalsOf_value (csvStr : String) :
    literalsOf (OptionStyle.csv.value csvStr) =
      if ',' ∈ csvStr.toList then parts csvStr else [csvStr.toList] := by
  rw [OptionStyle.value, parts]
  obtain ⟨one, split⟩ | ⟨several, split⟩ := splitOn_comma csvStr.toList
  · rw [if_neg one, split]
    rfl
  · rw [if_pos several, if_neg split]
    rfl

theorem parts_single {csvStr : String} (one : ',' ∉ csvStr.toList) :
    parts csvStr = [trim csvStr.toList] := by
  rw [parts, List.splitOn_eq_singleton one]
  rfl

theorem literalQuotes_parts (csvStr : String) :
    literalQuotes (parts csvStr) = literalQuotes (literalsOf (OptionStyle.csv.value csvStr)) := by
  rw [literalsOf_value]
  split
  · rfl
  · rename_i one
    rw [parts_single one, literalQuotes_cons, literalQuotes_cons]
    simp only [Token.written, Token.quoted, Option.elim_some, count_trim (c := '\'') (by decide)]

theorem toList_formatCsv (csvStr : String) :
    (formatCsv csvStr).toList = (OptionStyle.csv.value csvStr).render :=
  (OptionStyle.render_value .csv csvStr).symm

theorem read_formatCsv {foreign : Char → Bool} {csvStr : String}
    (quoteless : '\'' ∉ csvStr.toList) :
    readLiteral foreign (formatCsv csvStr).toList =
      some (if ',' ∈ csvStr.toList then parts csvStr else [csvStr.toList]) := by
  rw [toList_formatCsv, ← literalsOf_value]
  exact read_render (OptionStyle.value_ne_given (by decide) csvStr)
    (OptionStyle.contained_value.mpr quoteless)

theorem quoteless_of_denotes {foreign : Char → Bool} {csvStr : String}
    (h : Denotes foreign csvStr) : '\'' ∉ csvStr.toList := by
  rw [Denotes, toList_formatCsv] at h
  have written := @OptionStyle.value_ne_given .csv (by decide) csvStr
  exact OptionStyle.contained_value.mp (contained_of_read written h (literalQuotes_parts csvStr))

theorem denotes_text_iff {foreign : Char → Bool} {csvStr : String} :
    Denotes foreign csvStr ↔ '\'' ∉ csvStr.toList ∧
      (',' ∈ csvStr.toList ∨ trim csvStr.toList = csvStr.toList) := by
  rw [← and_iff_right_of_imp (@quoteless_of_denotes foreign csvStr)]
  refine and_congr_right fun quoteless => ?_
  rw [Denotes, read_formatCsv quoteless, Option.some_inj]
  by_cases several : ',' ∈ csvStr.toList
  · simp [several]
  · simp [several, parts_single several, eq_comm]

structure Names where
  names : List String
  nonempty : names ≠ []
  plain : ∀ name ∈ names, ',' ∉ name.toList ∧ trim name.toList = name.toList

namespace Names

def joined (n : Names) : String := ",".intercalate n.names

def ReadBack (foreign : Char → Bool) (n : Names) : Prop :=
  readLiteral foreign (formatCsv n.joined).toList = some (n.names.map String.toList)

instance (foreign : Char → Bool) (n : Names) : Decidable (n.ReadBack foreign) :=
  inferInstanceAs (Decidable (_ = _))

theorem splitOn_joined (n : Names) : n.joined.toList.splitOn ',' = n.names.map String.toList := by
  rw [joined, String.toList_intercalate]
  refine List.splitOn_intercalate ',' ?_ (by simpa using n.nonempty)
  rintro _ mem
  obtain ⟨name, listed, rfl⟩ := List.mem_map.mp mem
  exact (n.plain name listed).1

theorem parts_joined (n : Names) : parts n.joined = n.names.map String.toList := by
  rw [parts, splitOn_joined, List.map_map]
  exact List.map_congr_left fun name listed => (n.plain name listed).2

theorem trim_joined {n : Names} (one : ',' ∉ n.joined.toList) :
    trim n.joined.toList = n.joined.toList := by
  have single : n.names.map String.toList = [n.joined.toList] := by
    rw [← splitOn_joined, List.splitOn_eq_singleton one]
  have same := n.parts_joined
  rw [parts_single one, single] at same
  exact List.head_eq_of_cons_eq same

theorem readBack_iff {foreign : Char → Bool} {n : Names} :
    n.ReadBack foreign ↔ ∀ name ∈ n.names, '\'' ∉ name.toList := by
  rw [ReadBack, ← parts_joined, ← Denotes, denotes_text_iff, and_iff_left, ← not_iff_not]
  · rw [not_not, ← @mem_splitOn _ ',' (by decide), splitOn_joined]
    simp
  · exact (em _).imp_right trim_joined

end Names

/-- What is written reads as the parts exactly where no quote stands in the text and a
text without a comma has no whitespace around it; names come back where none has a quote. -/
theorem denotes_iff (foreign : Char → Bool) :
    (∀ csvStr, Denotes foreign csvStr ↔ '\'' ∉ csvStr.toList ∧
      (',' ∈ csvStr.toList ∨ trim csvStr.toList = csvStr.toList)) ∧
    ∀ n : Names, n.ReadBack foreign ↔ ∀ name ∈ n.names, '\'' ∉ name.toList :=
  ⟨fun _ => denotes_text_iff, fun _ => Names.readBack_iff⟩

def quotedName : Names where
  names := ["/data/o'clock.csv"]
  nonempty := by decide
  plain := by decide

theorem blank_and_quote_not_denoted :
    readLiteral (fun _ => false) (formatCsv " /data/file.csv").toList =
        some [" /data/file.csv".toList] ∧
      ¬ Denotes (fun _ => false) " /data/file.csv" ∧
      Denotes (fun _ => false) " /data/file1.csv, /data/file2.csv" ∧
      ¬ quotedName.ReadBack (fun _ => false) := by
  refine ⟨read_formatCsv (by decide), ?_, ?_, ?_⟩
  · rw [denotes_text_iff]
    decide
  · rw [denotes_text_iff]
    decide
  · rw [Names.readBack_iff]
    decide

end PgAnalytics.CsvLists
