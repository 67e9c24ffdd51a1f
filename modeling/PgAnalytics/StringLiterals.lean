import PgAnalytics.Lexing

/-! Statements put together from fixed pieces and values, read with the string
literals of SQL: quoted by single quotes, with two quotes for one inside. A value
that is written between quotes stays in its place exactly when it has no quote. -/

namespace PgAnalytics.StringLiterals
open Lexing

inductive Token where
  | char (c : Char)
  | literal (content : List Char)
  deriving DecidableEq, Repr

def literals : Reader Token where
  read c text :=
    if c = '\'' then
      (takeQuoted '\'' text).map fun found => (some (.literal found.1), found.2)
    else
      some (some (.char c), text)
  shorter {c text found} h := by
    split at h
    · obtain ⟨taken, read, rfl⟩ := Option.map_eq_some_iff.mp h
      obtain ⟨rfl, -⟩ := takeQuoted_eq_some_iff.mp read
      simp
      omega
    · cases h
      exact Nat.le_refl _

def chars (text : List Char) : List Token := text.map .char

theorem lex_char {c : Char} (plain : c ≠ '\'') (text : List Char) :
    literals.lex (c :: text) = (literals.lex text).map (.char c :: ·) :=
  @Reader.lex_found _ literals _ _ (some (.char c), text) (if_neg plain)

theorem lex_literal {text content left : List Char}
    (h : takeQuoted '\'' text = some (content, left)) :
    literals.lex ('\'' :: text) = (literals.lex left).map (.literal content :: ·) :=
  @Reader.lex_found _ literals _ _ (some (.literal content), left)
    (by simp [literals, h])

theorem lex_chars {text : List Char} (plain : '\'' ∉ text) (rest : List Char) :
    literals.lex (text ++ rest) = (literals.lex rest).map (chars text ++ ·) := by
  induction text with
  | nil => simp [chars]
  | cons c text ih =>
    rw [List.mem_cons, not_or] at plain
    rw [List.cons_append, lex_char (Ne.symm plain.1), ih plain.2, Option.map_map]
    rfl

def quote (content : List Char) : List Char := '\'' :: content ++ ['\'']

theorem quote_toList (option : String) : ("'" ++ option ++ "'").toList = quote option.toList := by
  rw [String.toList_append, String.toList_append]
  rfl

theorem lex_quote {content : List Char} (plain : '\'' ∉ content) {rest : List Char}
    (stop : rest.head? ≠ some '\'') :
    literals.lex (quote content ++ rest) = (literals.lex rest).map (.literal content :: ·) := by
  simpa [quote] using lex_literal (takeQuoted_plain plain stop)

theorem lex_append {text : List Char} {tokens : List Token} (h : literals.lex text = some tokens)
    {rest : List Char} (stop : rest.head? ≠ some '\'') :
    literals.lex (text ++ rest) = (literals.lex rest).map (tokens ++ ·) := by
  refine Reader.lex_induction (r := literals)
    (motive := fun text tokens => literals.lex (text ++ rest) =
      (literals.lex rest).map (tokens ++ ·)) (by simp) ?_ h
  intro c text found tokens read _ ih
  simp only [literals] at read
  split at read
  · rename_i quoted
    subst quoted
    obtain ⟨⟨content, left⟩, taken, rfl⟩ := Option.map_eq_some_iff.mp read
    obtain ⟨rfl, closed⟩ := takeQuoted_eq_some_iff.mp taken
    have longer : takeQuoted '\'' (doubled '\'' content ++ '\'' :: (left ++ rest)) =
        some (content, left ++ rest) := by
      refine takeQuoted_eq_some_iff.mpr ⟨rfl, ?_⟩
      cases left with
      | nil => exact stop
      | cons d left => exact closed
    have first := lex_literal longer
    dsimp only at ih
    rw [ih, Option.map_map] at first
    simpa [Function.comp_def] using first
  · rename_i plain
    cases read
    dsimp only at ih
    rw [List.cons_append, lex_char plain, ih, Option.map_map]
    rfl

def Token.quotes : Token → ℕ
  | .char _ => 0
  | .literal content => 2 + 2 * content.count '\''

theorem count_quotes {text : List Char} {tokens : List Token}
    (h : literals.lex text = some tokens) :
    text.count '\'' = (tokens.map Token.quotes).sum := by
  refine Reader.lex_induction (r := literals)
    (motive := fun text tokens => text.count '\'' = (tokens.map Token.quotes).sum) rfl ?_ h
  intro c text found tokens read _ ih
  simp only [literals] at read
  split at read
  · rename_i quoted
    subst quoted
    obtain ⟨⟨content, left⟩, taken, rfl⟩ := Option.map_eq_some_iff.mp read
    obtain ⟨rfl, -⟩ := takeQuoted_eq_some_iff.mp taken
    simp [count_doubled, Token.quotes, ← ih]
    omega
  · rename_i plain
    cases read
    simp [Token.quotes, ← ih, plain]

theorem intercalate_cons {α : Type} (separator first : List α) (rest : List (List α)) :
    separator.intercalate (first :: rest) = first ++ rest.flatMap (separator ++ ·) := by
  induction rest generalizing first with
  | nil => simp
  | cons next rest ih => simp [List.intercalate_cons_cons, ih]

inductive Value where
  | given (text : List Char)
  | quoted (content : List Char)
  | listed (contents : List (List Char))
  deriving DecidableEq, Repr

namespace Value

def render : Value → List Char
  | .given text => text
  | .quoted content => quote content
  | .listed contents => '[' :: [',', ' '].intercalate (contents.map quote) ++ [']']

@[simp] theorem render_given (text : List Char) : (given text).render = text := rfl

/-- One literal for each content, and what a value that is put in as it is reads
as by itself. -/
def meant : Value → Option (List Token)
  | .given text => literals.lex text
  | .quoted content => some [.literal content]
  | .listed contents =>
    some (.char '[' ::
      (chars [',', ' ']).intercalate (contents.map fun content => [.literal content]) ++
      [.char ']'])

def Contained : Value → Prop
  | .given text => (literals.lex text).isSome
  | .quoted content => '\'' ∉ content
  | .listed contents => ∀ content ∈ contents, '\'' ∉ content

def inner : Value → ℕ
  | .given _ => 0
  | .quoted content => content.count '\''
  | .listed contents => (contents.map (List.count '\'')).sum

theorem contained_of_inner {value : Value} (written : ∀ text, value ≠ .given text)
    (none' : value.inner = 0) : value.Contained := by
  cases value with
  | given text => exact absurd rfl (written text)
  | quoted content => exact List.count_eq_zero.mp none'
  | listed contents =>
    intro content mem
    exact List.count_eq_zero.mp
      (List.sum_eq_zero_iff_forall_eq_nat.mp none' _ (List.mem_map_of_mem mem))

theorem lex_listed {contents : List (List Char)} (plain : ∀ content ∈ contents, '\'' ∉ content)
    (rest : List Char) :
    literals.lex ([',', ' '].intercalate (contents.map quote) ++ ']' :: rest) =
      (literals.lex rest).map
        ((chars [',', ' ']).intercalate (contents.map fun content => [.literal content]) ++
          .char ']' :: ·) := by
  have close : literals.lex (']' :: rest) = (literals.lex rest).map (.char ']' :: ·) :=
    lex_char (by decide) rest
  induction contents with
  | nil => simpa using close
  | cons content contents ih =>
    have here := plain content List.mem_cons_self
    have later := ih fun other mem => plain other (List.mem_cons_of_mem content mem)
    cases contents with
    | nil =>
      have first := @lex_quote content here (']' :: rest) (by simp)
      rw [close, Option.map_map] at first
      simpa [Function.comp_def] using first
    | cons next contents =>
      simp only [List.map_cons, List.intercalate_cons_cons, List.append_assoc] at later ⊢
      rw [lex_quote here (by simp), lex_chars (by decide), later, Option.map_map, Option.map_map]
      simp [Function.comp_def]

theorem lex_render {value : Value} (h : value.Contained) {rest : List Char}
    (stop : rest.head? ≠ some '\'') :
    literals.lex (value.render ++ rest) =
      value.meant.bind fun tokens => (literals.lex rest).map (tokens ++ ·) := by
  cases value with
  | given text =>
    obtain ⟨tokens, lexed⟩ := Option.isSome_iff_exists.mp h
    rw [render, lex_append lexed stop, meant, lexed, Option.bind_some]
  | quoted content => exact lex_quote h stop
  | listed contents =>
    simp only [render, List.cons_append, List.append_assoc, List.nil_append]
    rw [lex_char (by decide), lex_listed h, Option.map_map, meant, Option.bind_some]
    simp [Function.comp_def]

/-- The quotes that literals with these contents are written with. -/
def literalQuotes (contents : List (List Char)) : ℕ :=
  (contents.map fun content => 2 + 2 * content.count '\'').sum

theorem quotes_listed (contents : List (List Char)) :
    (((chars [',', ' ']).intercalate (contents.map fun content => [.literal content])).map
      Token.quotes).sum = literalQuotes contents := by
  unfold literalQuotes
  induction contents with
  | nil => rfl
  | cons content contents ih =>
    cases contents with
    | nil => simp [Token.quotes]
    | cons next contents =>
      simp [List.intercalate_cons_cons, Token.quotes, chars] at ih ⊢
      omega

theorem count_listed (contents : List (List Char)) :
    ([',', ' '].intercalate (contents.map quote)).count '\'' +
      (contents.map (List.count '\'')).sum = literalQuotes contents := by
  unfold literalQuotes
  induction contents with
  | nil => rfl
  | cons content contents ih =>
    cases contents with
    | nil =>
      simp [quote]
      omega
    | cons next contents =>
      simp [List.intercalate_cons_cons, quote] at ih ⊢
      omega

theorem quotes_meant {value : Value} {tokens : List Token} (h : value.meant = some tokens) :
    (tokens.map Token.quotes).sum = value.render.count '\'' + value.inner := by
  cases value with
  | given text => simpa [render, inner] using (count_quotes h).symm
  | quoted content =>
    cases h
    simp [render, quote, inner, Token.quotes]
    omega
  | listed contents =>
    cases h
    have tokens := quotes_listed contents
    have text := count_listed contents
    simp [render, inner, Token.quotes] at tokens text ⊢
    omega

theorem listed_inj {contents contents' : List (List Char)} {rest rest' : List Token}
    (h : (chars [',', ' ']).intercalate (contents.map fun content => [.literal content]) ++
        .char ']' :: rest =
      (chars [',', ' ']).intercalate (contents'.map fun content => [.literal content]) ++
        .char ']' :: rest') : contents = contents' ∧ rest = rest' := by
  induction contents generalizing contents' with
  | nil =>
    rcases contents' with - | ⟨content', - | ⟨next', contents'⟩⟩ <;>
      simp [List.intercalate_cons_cons] at h
    exact ⟨rfl, h⟩
  | cons content contents ih =>
    cases contents with
    | nil =>
      rcases contents' with - | ⟨content', - | ⟨next', contents'⟩⟩ <;>
        simp [List.intercalate_cons_cons, chars] at h
      exact ⟨by rw [h.1], h.2⟩
    | cons next contents =>
      rcases contents' with - | ⟨content', - | ⟨next', contents'⟩⟩
      · simp [List.intercalate_cons_cons] at h
      · simp [List.intercalate_cons_cons, chars] at h
      · simp only [List.map_cons, List.intercalate_cons_cons, List.append_assoc,
          List.cons_append, List.cons.injEq, Token.literal.injEq,
          List.append_cancel_left_eq] at h
        obtain ⟨same, others⟩ := @ih (next' :: contents') (by simpa using h.2)
        exact ⟨by rw [h.1, same], others⟩

theorem meant_inj {value value' : Value} (written : ∀ text, value ≠ .given text)
    (written' : ∀ text, value' ≠ .given text) {tokens tokens' rest rest' : List Token}
    (h : value.meant = some tokens) (h' : value'.meant = some tokens')
    (same : tokens ++ rest = tokens' ++ rest') : value = value' ∧ rest = rest' := by
  cases value with
  | given text => exact absurd rfl (written text)
  | quoted content =>
    cases value' with
    | given text => exact absurd rfl (written' text)
    | quoted content' =>
      cases h
      cases h'
      simpa using same
    | listed contents' =>
      cases h
      cases h'
      simp at same
  | listed contents =>
    cases value' with
    | given text => exact absurd rfl (written' text)
    | quoted content' =>
      cases h
      cases h'
      simp at same
    | listed contents' =>
      cases h
      cases h'
      simp only [List.cons_append, List.append_assoc, List.nil_append, List.cons.injEq,
        true_and] at same
      obtain ⟨rfl, others⟩ := listed_inj same
      exact ⟨rfl, others⟩

end Value

structure Template where
  slots : List (List Char × Value)
  last : List Char

namespace Template

def renderFrom (last : List Char) : List (List Char × Value) → List Char
  | [] => last
  | slot :: slots => slot.1 ++ (slot.2.render ++ renderFrom last slots)

def render (t : Template) : List Char := renderFrom t.last t.slots

theorem renderFrom_filterMap {α : Type} {slot : α → Option (List Char × Value)}
    {part : α → Option (List Char)} {separator last : List Char}
    (same : ∀ p, (slot p).map (fun found => found.1 ++ found.2.render) =
      (part p).map (separator ++ ·)) (options : List α) :
    renderFrom last (options.filterMap slot) =
      (options.filterMap part).flatMap (separator ++ ·) ++ last := by
  induction options with
  | nil => rfl
  | cons p options ih =>
    have first := same p
    cases here : slot p with
    | none =>
      have absent : part p = none := by simpa [here] using first.symm
      simpa [here, absent] using ih
    | some found =>
      obtain ⟨text, there, rendered⟩ := Option.map_eq_some_iff.mp (here ▸ first).symm
      simp only [here, there, List.filterMap_cons, renderFrom, ih, List.flatMap_cons]
      rw [← List.append_assoc,
        show found.1 ++ found.2.render = separator ++ text from rendered.symm]
      simp only [List.append_assoc]

def meantFrom (last : List Char) : List (List Char × Value) → Option (List Token)
  | [] => some (chars last)
  | slot :: slots => slot.2.meant.bind fun tokens =>
    (meantFrom last slots).map fun later => chars slot.1 ++ (tokens ++ later)

def meant (t : Template) : Option (List Token) := meantFrom t.last t.slots

/-- Fixed texts keep values apart, and have no quotes of their own. -/
def Fixed (text : List Char) : Prop := text ≠ [] ∧ '\'' ∉ text

instance (text : List Char) : Decidable (Fixed text) := inferInstanceAs (Decidable (_ ∧ _))

structure Separated (t : Template) : Prop where
  slots : ∀ slot ∈ t.slots, Fixed slot.1
  last : Fixed t.last

def ReadAsMeant (t : Template) : Prop :=
  ∃ tokens, t.meant = some tokens ∧ literals.lex t.render = some tokens

theorem Fixed.head_append {text : List Char} (h : Fixed text) (rest : List Char) :
    (text ++ rest).head? ≠ some '\'' := by
  obtain ⟨nonempty, plain⟩ := h
  cases text with
  | nil => exact absurd rfl nonempty
  | cons c text =>
    rw [List.mem_cons, not_or] at plain
    simpa using Ne.symm plain.1

theorem head_renderFrom {last : List Char} (fixed : Fixed last)
    {slots : List (List Char × Value)} (separated : ∀ slot ∈ slots, Fixed slot.1) :
    (renderFrom last slots).head? ≠ some '\'' := by
  cases slots with
  | nil => simpa [renderFrom] using fixed.head_append []
  | cons slot slots => exact (separated slot List.mem_cons_self).head_append _

theorem lex_renderFrom {last : List Char} (fixed : Fixed last) {slots : List (List Char × Value)}
    (separated : ∀ slot ∈ slots, Fixed slot.1) (contained : ∀ slot ∈ slots, slot.2.Contained) :
    literals.lex (renderFrom last slots) = meantFrom last slots := by
  induction slots with
  | nil => simpa [renderFrom, meantFrom] using lex_chars fixed.2 []
  | cons slot slots ih =>
    have others := fun other mem => separated other (List.mem_cons_of_mem slot mem)
    rw [renderFrom, lex_chars (separated slot List.mem_cons_self).2,
      Value.lex_render (contained slot List.mem_cons_self) (head_renderFrom fixed others),
      ih others fun other mem => contained other (List.mem_cons_of_mem slot mem), meantFrom]
    cases slot.2.meant <;> cases meantFrom last slots <;> simp

theorem meantFrom_of_contained {last : List Char} {slots : List (List Char × Value)}
    (contained : ∀ slot ∈ slots, slot.2.Contained) : (meantFrom last slots).isSome := by
  induction slots with
  | nil => rfl
  | cons slot slots ih =>
    obtain ⟨later, rest⟩ := Option.isSome_iff_exists.mp
      (ih fun other mem => contained other (List.mem_cons_of_mem slot mem))
    obtain ⟨tokens, first⟩ : ∃ tokens, slot.2.meant = some tokens := by
      have here := contained slot List.mem_cons_self
      cases value : slot.2 with
      | given text =>
        rw [value] at here
        exact Option.isSome_iff_exists.mp here
      | quoted content | listed contents => exact ⟨_, rfl⟩
    simp [meantFrom, first, rest]

theorem count_chars {text : List Char} : ((chars text).map Token.quotes).sum = 0 := by
  induction text with
  | nil => rfl
  | cons c text ih => simpa [chars, Token.quotes] using ih

theorem contained_of_meantFrom {last : List Char} (fixed : Fixed last)
    {slots : List (List Char × Value)} (separated : ∀ slot ∈ slots, Fixed slot.1)
    {tokens : List Token} (h : meantFrom last slots = some tokens) :
    (renderFrom last slots).count '\'' ≤ (tokens.map Token.quotes).sum ∧
      ((tokens.map Token.quotes).sum ≤ (renderFrom last slots).count '\'' →
        ∀ slot ∈ slots, slot.2.Contained) := by
  induction slots generalizing tokens with
  | nil =>
    cases h
    have none' : last.count '\'' = 0 := List.count_eq_zero.mpr fixed.2
    exact ⟨by rw [renderFrom, none']; exact Nat.zero_le _, by simp⟩
  | cons slot slots ih =>
    obtain ⟨first, value, rest⟩ := Option.bind_eq_some_iff.mp h
    obtain ⟨later, meant, rfl⟩ := Option.map_eq_some_iff.mp rest
    obtain ⟨least, all⟩ :=
      ih (fun other mem => separated other (List.mem_cons_of_mem slot mem)) meant
    have before : slot.1.count '\'' = 0 :=
      List.count_eq_zero.mpr (separated slot List.mem_cons_self).2
    have quotes := Value.quotes_meant value
    simp only [renderFrom, List.count_append, before, List.map_append, List.sum_append,
      count_chars, quotes]
    refine ⟨by omega, fun most => ?_⟩
    have none' : slot.2.inner = 0 := by omega
    refine List.forall_mem_cons.mpr ⟨?_, all (by omega)⟩
    cases kind : slot.2 with
    | given text =>
      rw [kind] at value
      exact Option.isSome_iff_exists.mpr ⟨first, value⟩
    | quoted content | listed contents =>
      rw [kind] at none'
      exact Value.contained_of_inner (by simp) none'

/-- A text is read as it is meant exactly when no value reaches beyond its place. -/
theorem readAsMeant_iff {t : Template} (h : t.Separated) :
    t.ReadAsMeant ↔ ∀ slot ∈ t.slots, slot.2.Contained := by
  constructor
  · rintro ⟨tokens, meant, read⟩
    refine (contained_of_meantFrom h.last h.slots meant).2 (Nat.le_of_eq ?_)
    exact (count_quotes read).symm
  · intro contained
    obtain ⟨tokens, meant⟩ := Option.isSome_iff_exists.mp (meantFrom_of_contained contained)
    exact ⟨tokens, meant, (lex_renderFrom h.last h.slots contained).trans meant⟩

end Template

end PgAnalytics.StringLiterals
