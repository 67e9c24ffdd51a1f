import PgAnalytics.Lexing

/-! The tokens of SQL: words, numbers, names in double quotes, string literals and
symbols, with blanks and comments between them. A quoted name is never empty. Which
characters outside ASCII are letters is left open. -/

namespace PgAnalytics.SqlTokens
open Lexing

inductive Token where
  | word (text : List Char)
  | number (text : List Char)
  | identifier (name : List Char)
  | literal (content : List Char)
  | symbol (c : Char)
  deriving DecidableEq, Repr

def isSpace (c : Char) : Bool := [' ', '\t', '\n', '\r', '\x0b', '\x0c'].contains c

def endsLine (c : Char) : Bool := c == '\n' || c == '\r'

/-- The text after a block comment, inside so many others; comments nest. -/
def skipBlock : ℕ → List Char → Option (List Char)
  | 0, '*' :: '/' :: text => some text
  | depth + 1, '*' :: '/' :: text => skipBlock depth text
  | depth, '/' :: '*' :: text => skipBlock (depth + 1) text
  | depth, _ :: text => skipBlock depth text
  | _, [] => none

theorem skipBlock_suffix {depth : ℕ} {text left : List Char}
    (h : skipBlock depth text = some left) : left <:+ text := by
  fun_induction skipBlock depth text with
  | case1 text =>
    cases h
    exact ⟨['*', '/'], rfl⟩
  | case2 depth text ih => exact (ih h).trans ⟨['*', '/'], rfl⟩
  | case3 depth text ih => exact (ih h).trans ⟨['/', '*'], rfl⟩
  | case4 depth c text _ _ _ ih => exact (ih h).trans (List.suffix_cons c text)
  | case5 => cases h

inductive Trivia : List Char → Prop where
  | nil : Trivia []
  | space {c : Char} {rest : List Char} : isSpace c → Trivia rest → Trivia (c :: rest)
  | line {comment rest : List Char} {c : Char} : (∀ c ∈ comment, endsLine c = false) →
      endsLine c → Trivia rest → Trivia ('-' :: '-' :: (comment ++ c :: rest))
  | block {comment rest : List Char} : skipBlock 0 comment = some [] → Trivia rest →
      Trivia ('/' :: '*' :: (comment ++ rest))

theorem Trivia.head {w : List Char} (h : Trivia w) :
    ∀ c, w.head? = some c → isSpace c ∨ c = '-' ∨ c = '/' := by
  cases h with
  | nil => exact nofun
  | space blank _ =>
    rintro _ ⟨⟩
    exact .inl blank
  | line _ _ _ =>
    rintro _ ⟨⟩
    exact .inr (.inl rfl)
  | block _ _ =>
    rintro _ ⟨⟩
    exact .inr (.inr rfl)

section Dialect

variable (foreign : Char → Bool)

/-- Outside ASCII the letters are those of `foreign`. -/
def startsWord (c : Char) : Bool :=
  c.isAlpha || c == '_' || (128 ≤ c.toNat && foreign c)

def continuesWord (c : Char) : Bool := startsWord foreign c || c.isDigit || c == '$'

def isWord : List Char → Bool
  | [] => false
  | c :: text => startsWord foreign c && text.all (continuesWord foreign)

def sql : Reader Token where
  read c text :=
    if isSpace c then some (none, text)
    else if c = '-' ∧ text.head? = some '-' then
      some (none, text.dropWhile fun c => !endsLine c)
    else if c = '/' ∧ text.head? = some '*' then
      (skipBlock 0 text.tail).map fun left => (none, left)
    else if c = '\'' then
      (takeQuoted '\'' text).map fun found => (some (.literal found.1), found.2)
    else if c = '"' then
      (takeQuoted '"' text).bind fun found =>
        if found.1 = [] then none else some (some (.identifier found.1), found.2)
    else if startsWord foreign c then
      some (some (.word (c :: text.takeWhile (continuesWord foreign))),
        text.dropWhile (continuesWord foreign))
    else if c.isDigit then
      some (some (.number (c :: text.takeWhile (continuesWord foreign))),
        text.dropWhile (continuesWord foreign))
    else some (some (.symbol c), text)
  shorter {c text found} h := by
    have quoted : ∀ {quote : Char} {found : List Char × List Char},
        takeQuoted quote text = some found → found.2.length ≤ text.length := by
      intro quote found read
      obtain ⟨rfl, -⟩ := takeQuoted_eq_some_iff.mp read
      simp
      omega
    split_ifs at h
    · cases h
      exact Nat.le_refl _
    · cases h
      exact (List.dropWhile_suffix _).length_le
    · obtain ⟨left, read, rfl⟩ := Option.map_eq_some_iff.mp h
      exact ((skipBlock_suffix read).trans (List.tail_suffix text)).length_le
    · obtain ⟨taken, read, rfl⟩ := Option.map_eq_some_iff.mp h
      exact quoted read
    · obtain ⟨taken, read, rest⟩ := Option.bind_eq_some_iff.mp h
      split at rest <;> cases rest
      exact quoted read
    · cases h
      exact (List.dropWhile_suffix _).length_le
    · cases h
      exact (List.dropWhile_suffix _).length_le
    · cases h
      exact Nat.le_refl _

variable {foreign}

theorem lex_space {c : Char} (blank : isSpace c) (text : List Char) :
    (sql foreign).lex (c :: text) = (sql foreign).lex text := by
  rw [@Reader.lex_found _ (sql foreign) c text (none, text) (if_pos blank)]
  simp

def isSymbol (c : Char) : Bool :=
  !isSpace c && ['-', '/', '\'', '"', '_'].all (· ≠ c) && !c.isAlpha && !c.isDigit && c.toNat < 128

theorem lex_symbol {c : Char} (symbol : isSymbol c) (text : List Char) :
    (sql foreign).lex (c :: text) = ((sql foreign).lex text).map (.symbol c :: ·) := by
  simp only [isSymbol, List.all_cons, List.all_nil, Bool.and_eq_true, Bool.not_eq_true',
    decide_eq_true_eq, Bool.and_true] at symbol
  obtain ⟨⟨⟨⟨blank, minus, slash, single, double, underscore⟩, letter⟩, digit⟩, ascii⟩ := symbol
  have starts : startsWord foreign c = false := by
    have small : ¬ 128 ≤ c.toNat := by omega
    simp [startsWord, letter, Ne.symm underscore, small]
  exact @Reader.lex_found _ (sql foreign) c text (some (.symbol c), text)
    (by simp [sql, blank, Ne.symm minus, Ne.symm slash, Ne.symm single, Ne.symm double, starts,
      digit])

theorem lex_literal {text content left : List Char}
    (h : takeQuoted '\'' text = some (content, left)) :
    (sql foreign).lex ('\'' :: text) =
      ((sql foreign).lex left).map (.literal content :: ·) :=
  @Reader.lex_found _ (sql foreign) '\'' text (some (.literal content), left)
    (by simp [sql, isSpace, h])

theorem lex_identifier {text name left : List Char} (nonempty : name ≠ [])
    (h : takeQuoted '"' text = some (name, left)) :
    (sql foreign).lex ('"' :: text) =
      ((sql foreign).lex left).map (.identifier name :: ·) :=
  @Reader.lex_found _ (sql foreign) '"' text (some (.identifier name), left)
    (by simp [sql, isSpace, h, nonempty])

theorem startsWord_eq_false {c : Char} (other : isSpace c ∨ c ∈ ['-', '/', '\'', '"', '.', ',']) :
    startsWord foreign c = false := by
  simp only [isSpace, List.contains_iff_mem, List.mem_cons, List.not_mem_nil, or_false] at other
  rcases other with (rfl | rfl | rfl | rfl | rfl | rfl) | rfl | rfl | rfl | rfl | rfl | rfl <;> rfl

theorem takeWhile_run {text rest : List Char} (continues : ∀ c ∈ text, continuesWord foreign c)
    (stop : ∀ c, rest.head? = some c → continuesWord foreign c = false) :
    (text ++ rest).takeWhile (continuesWord foreign) = text ∧
      (text ++ rest).dropWhile (continuesWord foreign) = rest := by
  rw [List.takeWhile_append_of_pos continues, List.dropWhile_append_of_pos continues]
  cases rest with
  | nil => simp
  | cons d rest => simp [stop d rfl]

theorem lex_word {word rest : List Char} (letters : isWord foreign word)
    (stop : ∀ c, rest.head? = some c → continuesWord foreign c = false) :
    (sql foreign).lex (word ++ rest) = ((sql foreign).lex rest).map (.word word :: ·) := by
  obtain _ | ⟨c, text⟩ := word
  · cases letters
  obtain ⟨starts, continues⟩ := Bool.and_eq_true_iff.mp letters
  have other : isSpace c = false ∧ c ≠ '-' ∧ c ≠ '/' ∧ c ≠ '\'' ∧ c ≠ '"' := by
    refine ⟨by_contra fun blank => ?_, ?_, ?_, ?_, ?_⟩
    · rw [startsWord_eq_false (.inl (Bool.not_eq_false _ ▸ blank))] at starts
      cases starts
    all_goals
      rintro rfl
      rw [startsWord_eq_false (.inr (by decide))] at starts
      cases starts
  have taken := takeWhile_run (List.all_eq_true.mp continues) stop
  refine @Reader.lex_found _ (sql foreign) c (text ++ rest) (some (.word (c :: text)), rest) ?_
  obtain ⟨blank, minus, slash, single, double⟩ := other
  simp [sql, blank, minus, slash, single, double, starts, taken]

theorem isUpper_iff_toNat {c : Char} : c.isUpper ↔ 65 ≤ c.toNat ∧ c.toNat ≤ 90 := by
  rw [show c.isUpper = decide (c.val ≥ 65 ∧ c.val ≤ 90) from rfl, decide_eq_true_iff]
  rfl

theorem isLower_iff_toNat {c : Char} : c.isLower ↔ 97 ≤ c.toNat ∧ c.toNat ≤ 122 := by
  rw [show c.isLower = (decide (c.val ≥ 97) && decide (c.val ≤ 122)) from rfl, Bool.and_eq_true,
    decide_eq_true_iff, decide_eq_true_iff]
  rfl

theorem isAlpha_iff {c : Char} : c.isAlpha ↔ c.isUpper ∨ c.isLower := Bool.or_eq_true_iff

theorem startsWord_digit {c : Char} (digit : c.isDigit) : startsWord foreign c = false := by
  have small : 48 ≤ c.toNat ∧ c.toNat ≤ 57 := Char.isDigit_iff_toNat.mp digit
  have letter : ¬ c.isAlpha := by
    rw [isAlpha_iff, isUpper_iff_toNat, isLower_iff_toNat]
    omega
  have ascii : ¬ 128 ≤ c.toNat := by omega
  have score : c ≠ '_' := by
    rintro rfl
    cases digit
  simp [startsWord, letter, ascii, score]

theorem lex_number {c : Char} {text rest : List Char} (digit : c.isDigit)
    (continues : ∀ c ∈ text, continuesWord foreign c)
    (stop : ∀ c, rest.head? = some c → continuesWord foreign c = false) :
    (sql foreign).lex (c :: text ++ rest) =
      ((sql foreign).lex rest).map (.number (c :: text) :: ·) := by
  have other : isSpace c = false ∧ c ≠ '-' ∧ c ≠ '/' ∧ c ≠ '\'' ∧ c ≠ '"' := by
    refine ⟨by_contra fun blank => ?_, ?_, ?_, ?_, ?_⟩
    · simp only [isSpace, Bool.not_eq_false, List.contains_iff_mem, List.mem_cons,
        List.not_mem_nil, or_false] at blank
      rcases blank with rfl | rfl | rfl | rfl | rfl | rfl <;> cases digit
    all_goals
      rintro rfl
      cases digit
  have taken := takeWhile_run continues stop
  refine @Reader.lex_found _ (sql foreign) c (text ++ rest) (some (.number (c :: text)), rest) ?_
  obtain ⟨blank, minus, slash, single, double⟩ := other
  simp [sql, blank, minus, slash, single, double, startsWord_digit digit, digit, taken]

theorem isWord_of_ascii {word : List Char} (letters : isWord (fun _ => false) word) :
    isWord foreign word := by
  have starts : ∀ {c : Char}, startsWord (fun _ => false) c → startsWord foreign c := by
    intro c h
    simp only [startsWord, Bool.and_false, Bool.or_false] at h
    rw [startsWord, h, Bool.true_or]
  have continues : ∀ {c : Char}, continuesWord (fun _ => false) c → continuesWord foreign c := by
    intro c h
    simp only [continuesWord, Bool.or_eq_true] at h ⊢
    exact h.imp_left (Or.imp_left starts)
  obtain _ | ⟨c, text⟩ := word
  · cases letters
  obtain ⟨first, rest⟩ := Bool.and_eq_true_iff.mp letters
  refine Bool.and_eq_true_iff.mpr ⟨starts first, List.all_eq_true.mpr fun d mem => ?_⟩
  exact continues (List.all_eq_true.mp rest d mem)

theorem notMem_of_isWord {c : Char} (other : continuesWord foreign c = false) {word : List Char}
    (letters : isWord foreign word) : c ∉ word := by
  intro mem
  obtain _ | ⟨first, text⟩ := word
  · cases mem
  obtain ⟨starts, continues⟩ := Bool.and_eq_true_iff.mp letters
  rcases List.mem_cons.mp mem with rfl | inside
  · rw [continuesWord, starts] at other
    cases other
  · rw [List.all_eq_true.mp continues c inside] at other
    cases other

/-- The tokens of a text that no text after it changes. -/
def Closed (foreign : Char → Bool) (text : List Char) (tokens : List Token) : Prop :=
  ∀ rest, (sql foreign).lex (text ++ rest) = ((sql foreign).lex rest).map (tokens ++ ·)

namespace Closed

theorem append {text text' : List Char} {tokens tokens' : List Token}
    (h : Closed foreign text tokens) (h' : Closed foreign text' tokens') :
    Closed foreign (text ++ text') (tokens ++ tokens') := by
  intro rest
  rw [List.append_assoc, h, h', Option.map_map]
  simp [Function.comp_def]

theorem space {c : Char} (blank : isSpace c) : Closed foreign [c] [] := by
  intro rest
  rw [List.singleton_append, lex_space blank]
  simp

theorem symbol {c : Char} (symbol : isSymbol c) : Closed foreign [c] [.symbol c] :=
  fun rest => lex_symbol symbol rest

theorem word {word text : List Char} {tokens : List Token} (letters : isWord foreign word)
    {c : Char} (stop : continuesWord foreign c = false) (h : Closed foreign (c :: text) tokens) :
    Closed foreign (word ++ c :: text) (.word word :: tokens) := by
  intro rest
  have stops : ∀ d, (c :: text ++ rest).head? = some d → continuesWord foreign d = false := by
    rintro _ ⟨⟩
    exact stop
  rw [List.append_assoc, lex_word letters stops, h, Option.map_map]
  simp [Function.comp_def]

theorem words {words : List (List Char)} (letters : ∀ word ∈ words, isWord foreign word) :
    Closed foreign (words.flatMap (· ++ [' '])) (words.map .word) := by
  induction words with
  | nil =>
    intro rest
    simp
  | cons first words ih =>
    obtain ⟨here, there⟩ := List.forall_mem_cons.mp letters
    exact (word here rfl (space (by decide))).append (ih there)

end Closed

def Token.quotes : Token → ℕ
  | .identifier name => 2 + 2 * name.count '"'
  | _ => 0

def Token.quoted : Token → Option (Char × List Char)
  | .identifier name => some ('"', name)
  | .literal content => some ('\'', content)
  | _ => none

def Token.written (quote : Char) (t : Token) : ℕ :=
  t.quoted.elim 0 fun found => if found.1 = quote then 2 + 2 * found.2.count quote else 0

theorem written_double : Token.written '"' = Token.quotes := by
  funext t
  cases t <;> simp [Token.written, Token.quoted, Token.quotes]

def Token.Formed (foreign : Char → Bool) : Token → Prop
  | .word text => isWord foreign text
  | .identifier name => name ≠ []
  | _ => True

theorem read_found {c : Char} {text : List Char} {found : Found Token}
    (h : (sql foreign).read c text = some found) :
    found.2 <:+ text ∧ ∀ t, found.1 = some t → t.Formed foreign ∧
      ∀ inside, t.quoted = some inside →
        c :: text = inside.1 :: doubled inside.1 inside.2 ++ inside.1 :: found.2 := by
  simp only [sql] at h
  split_ifs at h with blank line block single double starts digit
  · cases h
    exact ⟨List.suffix_rfl, nofun⟩
  · cases h
    exact ⟨List.dropWhile_suffix _, nofun⟩
  · obtain ⟨left, read, rfl⟩ := Option.map_eq_some_iff.mp h
    exact ⟨(skipBlock_suffix read).trans (List.tail_suffix text), nofun⟩
  · obtain ⟨⟨content, left⟩, read, rfl⟩ := Option.map_eq_some_iff.mp h
    obtain ⟨rfl, -⟩ := takeQuoted_eq_some_iff.mp read
    refine ⟨⟨doubled '\'' content ++ ['\''], by simp⟩, ?_⟩
    rintro _ ⟨⟩
    refine ⟨trivial, ?_⟩
    rintro _ ⟨⟩
    rw [single]
    rfl
  · obtain ⟨⟨name, left⟩, read, rest⟩ := Option.bind_eq_some_iff.mp h
    obtain ⟨rfl, -⟩ := takeQuoted_eq_some_iff.mp read
    split at rest <;> cases rest
    rename_i nonempty
    refine ⟨⟨doubled '"' name ++ ['"'], by simp⟩, ?_⟩
    rintro _ ⟨⟩
    refine ⟨nonempty, ?_⟩
    rintro _ ⟨⟩
    rw [double]
    rfl
  · cases h
    refine ⟨List.dropWhile_suffix _, ?_⟩
    rintro _ ⟨⟩
    exact ⟨Bool.and_eq_true_iff.mpr ⟨starts, List.all_takeWhile⟩, nofun⟩
  · cases h
    refine ⟨List.dropWhile_suffix _, ?_⟩
    rintro _ ⟨⟩
    exact ⟨trivial, nofun⟩
  · cases h
    refine ⟨List.suffix_rfl, ?_⟩
    rintro _ ⟨⟩
    exact ⟨trivial, nofun⟩

theorem count_written (quote : Char) {text : List Char} {tokens : List Token}
    (h : (sql foreign).lex text = some tokens) :
    (tokens.map (Token.written quote)).sum ≤ text.count quote := by
  refine Reader.lex_induction (r := sql foreign)
    (motive := fun text tokens => (tokens.map (Token.written quote)).sum ≤ text.count quote)
    (Nat.le_refl _) ?_ h
  intro c text found tokens read _ ih
  obtain ⟨suffix, token⟩ := read_found read
  have later : found.2.count quote ≤ (c :: text).count quote :=
    (suffix.sublist.trans (List.sublist_cons_self c text)).count_le quote
  cases kind : found.1 with
  | none => exact Nat.le_trans ih later
  | some t =>
    rw [Option.toList_some, List.singleton_append, List.map_cons, List.sum_cons]
    cases inside : t.quoted with
    | none => simpa [Token.written, inside] using Nat.le_trans ih later
    | some pair =>
      by_cases same : pair.1 = quote
      · rw [(token t kind).2 pair inside, same]
        simp only [Token.written, inside, same, Option.elim_some, if_true, List.cons_append,
          List.count_cons_self, List.count_append, count_doubled]
        omega
      · simpa [Token.written, inside, same] using Nat.le_trans ih later

theorem count_quotes {text : List Char} {tokens : List Token}
    (h : (sql foreign).lex text = some tokens) :
    (tokens.map Token.quotes).sum ≤ text.count '"' :=
  written_double ▸ count_written '"' h

theorem formed_of_lex {text : List Char} {tokens : List Token}
    (h : (sql foreign).lex text = some tokens) : ∀ t ∈ tokens, t.Formed foreign := by
  refine Reader.lex_induction (r := sql foreign)
    (motive := fun _ tokens => ∀ t ∈ tokens, t.Formed foreign) (by simp) ?_ h
  intro c text found tokens read _ ih
  refine List.forall_mem_append.mpr ⟨fun t mem => ?_, ih⟩
  exact ((read_found read).2 t (Option.mem_toList.mp mem)).1

end Dialect

end PgAnalytics.SqlTokens
