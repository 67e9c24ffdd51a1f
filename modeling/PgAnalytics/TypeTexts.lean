import PgAnalytics.ClauseLists
import PgAnalytics.DuckdbTypes
import PgAnalytics.StatementForms

/-! The texts of column types inside a statement: what the tokens of a type are, and
that the type ends where the next clause begins. -/

namespace PgAnalytics.TypeTexts
open Lexing SqlTokens StatementForms ClauseLists Replacement DuckdbTypes

def charMarks : Marks Char := ⟨charMark, ',', charMark_eq_comma⟩

def tokenMarks : Marks Token where
  mark
    | .symbol c => charMark c
    | _ => .plain
  comma := .symbol ','
  mark_eq_comma {t} := by
    cases t with
    | symbol c => exact charMark_eq_comma.trans (by rw [Token.symbol.injEq])
    | word text | number text | identifier name | literal content => simp

def isTypeChar (c : Char) : Bool := isNameChar c || ['(', ')', '[', ']', ','].contains c

theorem mark_of_isNameChar {c : Char} (h : isNameChar c) : charMark c = .plain := by
  have other : c ∉ [',', '(', '[', '{', ')', ']', '}', ';'] := by
    simp only [List.mem_cons, List.not_mem_nil, or_false, not_or]
    refine ⟨?_, ?_, ?_, ?_, ?_, ?_, ?_, ?_⟩ <;> rintro rfl <;> cases h
  simp only [List.mem_cons, List.not_mem_nil, or_false, not_or] at other
  simp [charMark, other]

structure TokensOf (foreign : Char → Bool) (text : List Char) (tokens : List Token) : Prop where
  reads : ∀ tail, (∀ c, tail.head? = some c → continuesWord foreign c = false) →
    (sql foreign).lex (text ++ tail) = ((sql foreign).lex tail).map (tokens ++ ·)
  marks : ∀ depth, tokenMarks.wholeFrom depth tokens = charMarks.wholeFrom depth text
  unquoted : ∀ t ∈ tokens, t.quotes = 0
  starts : text.head?.any Char.isAlpha → tokens ≠ []

variable {foreign : Char → Bool}

theorem tokensOf_nil : TokensOf foreign [] [] :=
  ⟨fun _ _ => by simp, fun _ => rfl, by simp, nofun⟩

namespace TokensOf

variable {text : List Char} {tokens : List Token}

theorem space (h : TokensOf foreign text tokens) : TokensOf foreign (' ' :: text) tokens := by
  refine ⟨fun tail stop => ?_, fun depth => ?_, h.unquoted, nofun⟩
  · rw [List.cons_append, lex_space (by decide), h.reads tail stop]
  · rw [h.marks, Marks.wholeFrom_cons (Marks.step_plain rfl depth)]

theorem symbol {c : Char} (symbol : isSymbol c) (h : TokensOf foreign text tokens) :
    TokensOf foreign (c :: text) (.symbol c :: tokens) := by
  refine ⟨fun tail stop => ?_, fun depth => ?_, by simpa [Token.quotes] using h.unquoted,
    fun _ => List.cons_ne_nil _ _⟩
  · rw [List.cons_append, lex_symbol symbol, h.reads tail stop, Option.map_map]
    rfl
  · have same : tokenMarks.step depth (.symbol c) = charMarks.step depth c := rfl
    simp only [Marks.wholeFrom, same, h.marks]

theorem run {run : List Char} {t : Token}
    (reads : ∀ rest, (∀ c, rest.head? = some c → continuesWord foreign c = false) →
      (sql foreign).lex (run ++ rest) = ((sql foreign).lex rest).map (t :: ·))
    (plain : tokenMarks.mark t = .plain) (unquoted : t.quotes = 0)
    (named : ∀ c ∈ run, isNameChar c)
    (ends : ∀ c, text.head? = some c → continuesWord foreign c = false)
    (h : TokensOf foreign text tokens) : TokensOf foreign (run ++ text) (t :: tokens) := by
  refine ⟨fun tail stop => ?_, fun depth => ?_,
    List.forall_mem_cons.mpr ⟨unquoted, h.unquoted⟩, fun _ => List.cons_ne_nil _ _⟩
  · have stops : ∀ c, (text ++ tail).head? = some c → continuesWord foreign c = false := by
      cases text with
      | nil => exact stop
      | cons c text => exact ends
    rw [List.append_assoc, reads _ stops, h.reads tail stop, Option.map_map]
    rfl
  · have same := Marks.wholeFrom_plain (m := charMarks)
      (fun c mem => mark_of_isNameChar (named c mem)) depth text
    rw [same, Marks.wholeFrom_cons (Marks.step_plain plain depth), h.marks]

end TokensOf

theorem isNameChar_of_continues {c : Char} (h : isTypeChar c)
    (continues : continuesWord foreign c) : isNameChar c := by
  rcases Bool.or_eq_true_iff.mp h with named | bracket
  · exact named
  · simp only [List.contains_iff_mem, List.mem_cons, List.not_mem_nil, or_false] at bracket
    rcases bracket with rfl | rfl | rfl | rfl | rfl <;> cases continues

theorem TokensOf.first_run {foreign : Char → Bool} {c : Char} {text : List Char}
    {tokens : List Token} (named : isNameChar c) (blank : c ≠ ' ')
    (chars : ∀ d ∈ text, isTypeChar d)
    (rest : TokensOf foreign (text.dropWhile (continuesWord foreign)) tokens) :
    ∃ tokens, TokensOf foreign (c :: text) tokens := by
  have continues : ∀ d ∈ text.takeWhile (continuesWord foreign), continuesWord foreign d :=
    fun d mem => List.all_eq_true.mp List.all_takeWhile d mem
  have names : ∀ d ∈ c :: text.takeWhile (continuesWord foreign), isNameChar d :=
    List.forall_mem_cons.mpr ⟨named, fun d mem =>
      isNameChar_of_continues (chars d ((List.takeWhile_prefix _).subset mem)) (continues d mem)⟩
  have ends : ∀ d, (text.dropWhile (continuesWord foreign)).head? = some d →
      continuesWord foreign d = false := by
    intro d first
    have stop := List.head?_dropWhile_not (continuesWord foreign) text
    rwa [first] at stop
  have whole : c :: text = (c :: text.takeWhile (continuesWord foreign)) ++
      text.dropWhile (continuesWord foreign) := by
    rw [List.cons_append, List.takeWhile_append_dropWhile]
  rw [whole]
  by_cases starts : startsWord foreign c
  · have letters : isWord foreign (c :: text.takeWhile (continuesWord foreign)) :=
      Bool.and_eq_true_iff.mpr ⟨starts, List.all_takeWhile⟩
    exact ⟨_, rest.run (fun _ stop => lex_word letters stop) rfl rfl names ends⟩
  · have digit : c.isDigit := by
      simp only [isNameChar, Char.isAlphanum, startsWord, Bool.or_eq_true, not_or,
        beq_iff_eq] at named starts
      rcases named with ((alpha | digit) | score) | space
      · exact absurd alpha starts.1.1
      · exact digit
      · exact absurd score starts.1.2
      · exact absurd space blank
    exact ⟨_, rest.run (fun _ stop => lex_number digit continues stop) rfl rfl names ends⟩

theorem exists_tokensOf (foreign : Char → Bool) {text : List Char}
    (chars : ∀ c ∈ text, isTypeChar c) : ∃ tokens, TokensOf foreign text tokens := by
  induction size : text.length using Nat.strongRecOn generalizing text with
  | _ n ih =>
    subst size
    cases text with
    | nil => exact ⟨[], tokensOf_nil⟩
    | cons c text =>
      obtain ⟨first, later⟩ := List.forall_mem_cons.mp chars
      by_cases blank : c = ' '
      · obtain ⟨tokens, rest⟩ := ih _ (by simp) later rfl
        exact ⟨tokens, blank ▸ rest.space⟩
      by_cases bracket : c ∈ ['(', ')', '[', ']', ',']
      · obtain ⟨tokens, rest⟩ := ih _ (by simp) later rfl
        refine ⟨.symbol c :: tokens, rest.symbol ?_⟩
        simp only [List.mem_cons, List.not_mem_nil, or_false] at bracket
        rcases bracket with rfl | rfl | rfl | rfl | rfl <;> rfl
      · have named := (Bool.or_eq_true_iff.mp first).resolve_right (by simpa using bracket)
        have shorter := (List.dropWhile_suffix (l := text) (continuesWord foreign)).length_le
        obtain ⟨tokens, rest⟩ := ih (text.dropWhile (continuesWord foreign)).length
          (by simp; omega) (fun d mem => later d ((List.dropWhile_suffix _).subset mem)) rfl
        exact rest.first_run named blank later

structure PlainType (text : List Char) : Prop where
  starts : text.head?.any Char.isAlpha
  chars : ∀ c ∈ text, isTypeChar c
  whole : charMarks.whole text

instance (text : List Char) : Decidable (PlainType text) :=
  decidable_of_iff
    (text.head?.any Char.isAlpha ∧ text.all isTypeChar ∧ charMarks.whole text)
    ⟨fun h => ⟨h.1, List.all_eq_true.mp h.2.1, h.2.2⟩,
      fun h => ⟨h.starts, List.all_eq_true.mpr h.chars, h.whole⟩⟩

theorem PlainType.replace {r : String × String} (renames : Renames r) {text : List Char}
    (h : PlainType text) : PlainType (replace r.1.toList r.2.toList text) := by
  have plain : ∀ {name : List Char}, (∀ c ∈ name, isNameChar c) →
      ∀ c ∈ name, charMarks.mark c = .plain :=
    fun named c mem => mark_of_isNameChar (named c mem)
  refine ⟨?_, fun c mem => ?_, ?_⟩
  · have letter : ∀ c : Char, c.isUpper → c.isAlpha :=
      fun c upper => Bool.or_eq_true_iff.mpr (.inl upper)
    by_cases occurs : r.1.toList <+: text
    · obtain ⟨rest, rfl⟩ := occurs
      obtain ⟨c, first, upper⟩ := (Option.any_eq_true _ _).mp renames.first'
      rw [replace_occurrence _ renames.nonempty, List.head?_append, first]
      exact letter c upper
    · cases text with
      | nil => exact h.starts
      | cons c text =>
        rw [replace_cons _ occurs]
        exact h.starts
  · rcases mem_replace _ renames.nonempty mem with before | new
    · exact h.chars c before
    · exact Bool.or_eq_true_iff.mpr (.inl (renames.named' c new))
  · have same : ∀ depth,
        charMarks.wholeFrom depth (Replacement.replace r.1.toList r.2.toList text) =
          charMarks.wholeFrom depth text := by
      refine replace_induction r.2.toList (motive := fun text found => ∀ depth,
        charMarks.wholeFrom depth found = charMarks.wholeFrom depth text) renames.nonempty
        (fun _ => rfl) ?_ ?_ text
      · intro text ih depth
        rw [Marks.wholeFrom_plain (plain renames.named'),
          Marks.wholeFrom_plain (plain renames.named), ih]
      · intro c text ih depth
        simp only [Marks.wholeFrom, ih]
    exact (same 0).trans h.whole

inductive Described : List Char → Prop where
  | plain {text : List Char} : PlainType text → Described text
  | null : Described "\"NULL\"".toList
  | struct (fields : List Char) : Described ("STRUCT".toList ++ '(' :: fields)

structure DescribedType where
  text : String
  described : Described text.toList

theorem converted_cases {text : List Char} (h : Described text) :
    PlainType (converted text) ∨ converted text = "\"NULL\"".toList := by
  have json : PlainType "JSONB".toList := by decide
  cases h with
  | plain plain =>
    unfold converted
    split
    · exact .inl json
    · exact .inl (replaceAll_induction renames_replacements
        (fun r renames text plain => plain.replace renames) plain)
  | null => exact .inr (by decide)
  | struct fields => exact .inl (converted_struct fields ▸ json)

structure TypeTokens (foreign : Char → Bool) (text : List Char) (tokens : List Token) : Prop where
  reads : ∀ tail, Stops tail →
    (sql foreign).lex (text ++ tail) = ((sql foreign).lex tail).map (tokens ++ ·)
  whole : tokenMarks.whole tokens
  nonempty : tokens ≠ []
  quotes : (tokens.map Token.quotes).sum = text.count '"'

theorem exists_typeTokens (foreign : Char → Bool) {text : List Char} (h : Described text) :
    ∃ tokens, TypeTokens foreign (converted text) tokens := by
  rcases converted_cases h with plain | null
  · obtain ⟨tokens, found⟩ := exists_tokensOf foreign plain.chars
    refine ⟨tokens, fun tail stops => found.reads tail fun c first => ?_,
      (found.marks 0).trans plain.whole, found.starts plain.starts, ?_⟩
    · rcases stops c first with rfl | rfl <;> rfl
    · have none : '"' ∉ converted text := fun mem => absurd (plain.chars _ mem) (by decide)
      rw [List.count_eq_zero.mpr none, List.sum_eq_zero_iff_forall_eq_nat]
      simpa using found.unquoted
  · rw [null]
    refine ⟨[.identifier "NULL".toList], fun tail stops => ?_, by decide, by decide, by decide⟩
    have stop : tail.head? ≠ some '"' := by
      intro first
      rcases stops _ first with same | same <;> cases same
    have taken : takeQuoted '"' ("NULL".toList ++ '"' :: tail) = some ("NULL".toList, tail) :=
      takeQuoted_plain (by decide) stop
    exact lex_identifier (by decide) taken

end PgAnalytics.TypeTexts
