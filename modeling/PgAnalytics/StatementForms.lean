import Mathlib.Data.List.Forall2
import PgAnalytics.SqlTokens

/-! Forms of statements: fixed tokens with names between them. A token stands for a
name when it is the name in quotes, or a word that the dialect folds to the name. A
name put in as it is has a form only when it is a word. -/

namespace PgAnalytics.StatementForms
open Lexing SqlTokens

/-- How a dialect reads a word that stands for a name, and what it keeps of a name in
quotes. The names that need quotes are known by what their words are folded to. -/
structure Dialect where
  foreign : Char → Bool
  fold : List Char → List Char
  clip : List Char → List Char
  reserved : List Char → Bool
  unquoted : ∀ {word}, isWord foreign word → '"' ∉ fold word
  clip_quotes : ∀ name, (clip name).count '"' ≤ name.count '"'

inductive Item where
  | fixed (t : Token)
  | name (n : List Char)
  | part (n : List Char)

namespace Item

def Matches (d : Dialect) : Item → Token → Prop
  | .fixed t, t' => t' = t
  | .name n, t => (∃ name, t = .identifier name ∧ d.clip name = n) ∨
      ∃ word, t = .word word ∧ d.fold word = n ∧ d.reserved n = false
  | .part n, t => (∃ name, t = .identifier name ∧ d.clip name = n) ∨
      ∃ word, t = .word word ∧ d.fold word = n

theorem matches_fixed (d : Dialect) (t : Token) : (fixed t).Matches d t := rfl

def quotes : Item → ℕ
  | .fixed t => t.quotes
  | .name n | .part n => n.count '"'

def Plain (d : Dialect) : Item → Prop
  | .fixed _ => True
  | .name n => ∃ word, isWord d.foreign word ∧ d.fold word = n ∧ d.reserved n = false
  | .part n => ∃ word, isWord d.foreign word ∧ d.fold word = n

theorem quotes_le {d : Dialect} {item : Item} {t : Token} (h : item.Matches d t)
    (formed : t.Formed d.foreign) :
    item.quotes ≤ t.quotes ∧ (t.quotes ≤ item.quotes → item.Plain d) := by
  have word : ∀ {w : List Char}, isWord d.foreign w → (d.fold w).count '"' = 0 :=
    fun letters => List.count_eq_zero.mpr (d.unquoted letters)
  cases item with
  | fixed t' =>
    obtain rfl : t = t' := h
    exact ⟨Nat.le_refl _, fun _ => trivial⟩
  | name n =>
    rcases h with ⟨name, rfl, rfl⟩ | ⟨w, rfl, rfl, free⟩
    · have fewer := d.clip_quotes name
      simp only [quotes, Token.quotes]
      exact ⟨by omega, fun most => absurd most (by omega)⟩
    · simp only [quotes, Token.quotes, word formed]
      exact ⟨Nat.le_refl _, fun _ => ⟨w, formed, rfl, free⟩⟩
  | part n =>
    rcases h with ⟨name, rfl, rfl⟩ | ⟨w, rfl, rfl⟩
    · have fewer := d.clip_quotes name
      simp only [quotes, Token.quotes]
      exact ⟨by omega, fun most => absurd most (by omega)⟩
    · simp only [quotes, Token.quotes, word formed]
      exact ⟨Nat.le_refl _, fun _ => ⟨w, formed, rfl⟩⟩

end Item

def keywords (words : List String) : List Item := words.map fun word => .fixed (.word word.toList)

def qualified (schemaName tableName : String) : List Item :=
  [.name schemaName.toList, .fixed (.symbol '.'), .part tableName.toList]

theorem quotes_keywords (words : List String) : ((keywords words).map Item.quotes).sum = 0 := by
  simp [keywords, Item.quotes, Token.quotes, Function.comp_def]

theorem quotes_qualified (schemaName tableName : String) :
    ((qualified schemaName tableName).map Item.quotes).sum =
      schemaName.toList.count '"' + tableName.toList.count '"' := by
  simp [qualified, Item.quotes, Token.quotes]

def Matches (d : Dialect) : List Item → List Token → Prop := List.Forall₂ (Item.Matches d)

theorem exists_of_forall₂ {α β : Type} {R : α → β → Prop} {as : List α} {bs : List β}
    (h : List.Forall₂ R as bs) {a : α} (mem : a ∈ as) : ∃ b ∈ bs, R a b := by
  induction h with
  | nil => cases mem
  | @cons first b as bs here _ ih =>
    rcases List.mem_cons.mp mem with rfl | later
    · exact ⟨b, List.mem_cons_self, here⟩
    · obtain ⟨b', found, there⟩ := ih later
      exact ⟨b', List.mem_cons_of_mem _ found, there⟩

theorem matches_fixed_iff {d : Dialect} {tokens tokens' : List Token} :
    Matches d (tokens.map .fixed) tokens' ↔ tokens' = tokens := by
  rw [Matches, List.forall₂_map_left_iff]
  constructor
  · intro h
    rw [← List.forall₂_eq_eq_eq]
    exact h.flip
  · rintro rfl
    exact List.forall₂_same.mpr fun _ _ => rfl

abbrev commas : List (List Item) → List Item := [Item.fixed (.symbol ',')].intercalate

theorem mem_commas {item : Item} {form : List Item} {forms : List (List Item)} (mem : form ∈ forms)
    (inside : item ∈ form) : item ∈ commas forms := by
  induction forms with
  | nil => cases mem
  | cons first forms ih =>
    cases forms with
    | nil =>
      obtain rfl := List.mem_singleton.mp mem
      simpa [commas] using inside
    | cons next forms =>
      rw [commas, List.intercalate_cons_cons]
      rcases List.mem_cons.mp mem with rfl | later
      · exact List.mem_append_left _ (List.mem_append_left _ inside)
      · exact List.mem_append_right _ (ih later)

theorem matches_intercalate {d : Dialect} {forms : List (List Item)} {clauses : List (List Token)}
    (h : List.Forall₂ (Matches d) forms clauses) :
    Matches d (commas forms) ([Token.symbol ','].intercalate clauses) := by
  induction h with
  | nil => exact .nil
  | @cons form clause forms clauses here later ih =>
    cases later with
    | nil => simpa [commas] using here
    | cons =>
      simp only [commas, List.intercalate_cons_cons] at ih ⊢
      have comma : Matches d [.fixed (.symbol ',')] [.symbol ','] :=
        .cons (Item.matches_fixed d _) .nil
      exact List.rel_append (List.rel_append here comma) ih

theorem plain_of_matches {d : Dialect} {items : List Item} {tokens : List Token}
    (h : Matches d items tokens) (formed : ∀ t ∈ tokens, t.Formed d.foreign) :
    (items.map Item.quotes).sum ≤ (tokens.map Token.quotes).sum ∧
      ((tokens.map Token.quotes).sum ≤ (items.map Item.quotes).sum →
        ∀ item ∈ items, item.Plain d) := by
  induction h with
  | nil => simp
  | @cons item t items tokens first _ ih =>
    obtain ⟨here, there⟩ := List.forall_mem_cons.mp formed
    obtain ⟨least, plain⟩ := Item.quotes_le first here
    obtain ⟨others, rest⟩ := ih there
    simp only [List.map_cons, List.sum_cons]
    exact ⟨by omega, fun most => List.forall_mem_cons.mpr ⟨plain (by omega), rest (by omega)⟩⟩

/-- The text begins with `head`, and `head` has the form whatever follows it. -/
def Reads (d : Dialect) (items : List Item) (head text : List Char) : Prop :=
  ∃ tokens tail, Matches d items tokens ∧ text = head ++ tail ∧
    (sql d.foreign).lex text = ((sql d.foreign).lex tail).map (tokens ++ ·)

theorem plain_of_reads {d : Dialect} {items : List Item} {text : List Char}
    (h : Reads d items text text) (most : text.count '"' ≤ (items.map Item.quotes).sum) :
    ∀ item ∈ items, item.Plain d := by
  obtain ⟨tokens, tail, found, same, read⟩ := h
  obtain rfl : tail = [] := by simpa using same
  have lexed : (sql d.foreign).lex text = some tokens := by simpa using read
  exact (plain_of_matches found (formed_of_lex lexed)).2 (Nat.le_trans (count_quotes lexed) most)

/-- The text has the form, and nothing after it changes that. -/
def Spells (d : Dialect) (items : List Item) (text : List Char) : Prop :=
  ∃ tokens, Matches d items tokens ∧ Closed d.foreign text tokens

/-- The text ends, or begins with a blank or a comma. -/
def Stops (tail : List Char) : Prop := ∀ c, tail.head? = some c → c = ' ' ∨ c = ','

theorem stops_nil : Stops [] := nofun

theorem stops_blank (text : List Char) : Stops (' ' :: text) := by
  rintro _ ⟨⟩
  exact .inl rfl

theorem Stops.append {text tail : List Char} (h : Stops text) (h' : Stops tail) :
    Stops (text ++ tail) := by
  cases text with
  | nil => exact h'
  | cons c text => exact h

/-- The text has the form when it ends, or a blank or a comma follows. -/
def Opens (d : Dialect) (items : List Item) (head : List Char) : Prop :=
  ∃ tokens, Matches d items tokens ∧ ∀ tail, Stops tail →
    (sql d.foreign).lex (head ++ tail) = ((sql d.foreign).lex tail).map (tokens ++ ·)

/-- The character belongs neither to a word before it nor to a name in quotes. -/
def Apart (d : Dialect) (c : Char) : Prop := continuesWord d.foreign c = false ∧ c ≠ '"'

def Stands (d : Dialect) (item : Item) (text : List Char) : Prop :=
  ∃ t, item.Matches d t ∧ ∀ tail, (∀ c, tail.head? = some c → Apart d c) →
    (sql d.foreign).lex (text ++ tail) = ((sql d.foreign).lex tail).map (t :: ·)

variable {d : Dialect}

theorem Stops.apart {tail : List Char} (h : Stops tail) :
    ∀ c, tail.head? = some c → Apart d c := by
  intro c first
  rcases h c first with rfl | rfl <;> exact ⟨rfl, by decide⟩

theorem stands_word {item : Item} {word : List Char} (letters : isWord d.foreign word)
    (stands : item.Matches d (.word word)) : Stands d item word :=
  ⟨.word word, stands, fun _ apart => lex_word letters fun c first => (apart c first).1⟩

theorem stands_identifier {item : Item} {name : List Char} (nonempty : name ≠ [])
    (stands : item.Matches d (.identifier name)) :
    Stands d item ('"' :: doubled '"' name ++ ['"']) := by
  refine ⟨.identifier name, stands, fun tail apart => ?_⟩
  have taken : takeQuoted '"' (doubled '"' name ++ '"' :: tail) = some (name, tail) :=
    takeQuoted_eq_some_iff.mpr ⟨rfl, fun first => (apart _ first).2 rfl⟩
  have read := @lex_identifier d.foreign _ _ _ nonempty taken
  simpa using read

namespace Spells

theorem append {items items' : List Item} {text text' : List Char} (h : Spells d items text)
    (h' : Spells d items' text') : Spells d (items ++ items') (text ++ text') := by
  obtain ⟨tokens, found, closed⟩ := h
  obtain ⟨tokens', found', closed'⟩ := h'
  exact ⟨tokens ++ tokens', List.rel_append found found', closed.append closed'⟩

theorem fixed {text : List Char} {tokens : List Token} (h : Closed d.foreign text tokens) :
    Spells d (tokens.map .fixed) text := by
  exact ⟨tokens, matches_fixed_iff.mpr rfl, h⟩

theorem opens {items items' : List Item} {before head : List Char} (h : Spells d items before)
    (h' : Opens d items' head) : Opens d (items ++ items') (before ++ head) := by
  obtain ⟨tokens, found, closed⟩ := h
  obtain ⟨tokens', found', read⟩ := h'
  refine ⟨tokens ++ tokens', List.rel_append found found', fun tail stops => ?_⟩
  rw [List.append_assoc, closed, read tail stops, Option.map_map]
  simp [Function.comp_def]

end Spells

theorem spells_keywords {words : List String}
    (letters : ∀ word ∈ words.map String.toList, isWord (fun _ => false) word) :
    Spells d (keywords words) ((words.map String.toList).flatMap (· ++ [' '])) := by
  have h := Spells.fixed (Closed.words fun word mem =>
    @isWord_of_ascii d.foreign word (letters word mem))
  simpa [keywords, Function.comp_def] using h

theorem spells_space (d : Dialect) : Spells d [] [' '] :=
  @Spells.fixed d [' '] [] (.space (by decide))

theorem spells_symbol {c : Char} (symbol : isSymbol c) : Spells d [.fixed (.symbol c)] [c] :=
  @Spells.fixed d [c] [.symbol c] (.symbol symbol)

namespace Stands

theorem spells {item : Item} {items : List Item} {text rest : List Char} {c : Char}
    (h : Stands d item text) (apart : Apart d c) (h' : Spells d items (c :: rest)) :
    Spells d (item :: items) (text ++ c :: rest) := by
  obtain ⟨t, stands, read⟩ := h
  obtain ⟨tokens, found, closed⟩ := h'
  refine ⟨t :: tokens, .cons stands found, fun tail => ?_⟩
  have stop : ∀ c', (c :: rest ++ tail).head? = some c' → Apart d c' := by
    rintro _ ⟨⟩
    exact apart
  rw [List.append_assoc, read _ stop, closed, Option.map_map]
  simp [Function.comp_def]

theorem opens {item : Item} {text : List Char} (h : Stands d item text) :
    Opens d [item] text := by
  obtain ⟨t, stands, read⟩ := h
  exact ⟨[t], .cons stands .nil, fun tail stops => read tail stops.apart⟩

end Stands

namespace Opens

theorem reads {items : List Item} {head tail : List Char} (h : Opens d items head)
    (stops : Stops tail) : Reads d items head (head ++ tail) := by
  obtain ⟨tokens, found, read⟩ := h
  exact ⟨tokens, tail, found, rfl, read tail stops⟩

theorem reads_whole {items : List Item} {text : List Char} (h : Opens d items text) :
    Reads d items text text := by
  have read := h.reads stops_nil
  rwa [List.append_nil] at read

theorem spells {items items' : List Item} {head rest : List Char} (h : Opens d items head)
    (h' : Spells d items' (' ' :: rest)) : Spells d (items ++ items') (head ++ ' ' :: rest) := by
  obtain ⟨tokens, found, read⟩ := h
  obtain ⟨tokens', found', closed⟩ := h'
  refine ⟨tokens ++ tokens', List.rel_append found found', fun tail => ?_⟩
  rw [List.append_assoc, List.cons_append, read _ (stops_blank _), ← List.cons_append, closed,
    Option.map_map]
  simp [Function.comp_def]

theorem append {items items' : List Item} {head head' : List Char} (h : Opens d items head)
    (stops : Stops head') (h' : Opens d items' head') (nonempty : head' ≠ []) :
    Opens d (items ++ items') (head ++ head') := by
  obtain ⟨tokens, found, read⟩ := h
  obtain ⟨tokens', found', read'⟩ := h'
  refine ⟨tokens ++ tokens', List.rel_append found found', fun tail ends => ?_⟩
  have stop : Stops (head' ++ tail) := by
    obtain ⟨c, text, rfl⟩ := List.exists_cons_of_ne_nil nonempty
    exact stops
  rw [List.append_assoc, read _ stop, read' tail ends, Option.map_map]
  simp [Function.comp_def]

end Opens

theorem lex_clauses {forms : List (List Item)} {texts : List (List Char)}
    (h : List.Forall₂ (Opens d) forms texts) :
    ∃ clauses, List.Forall₂ (Matches d) forms clauses ∧ ∀ tail, Stops tail →
      (sql d.foreign).lex ([',', ' '].intercalate texts ++ tail) =
        ((sql d.foreign).lex tail).map ([Token.symbol ','].intercalate clauses ++ ·) := by
  induction h with
  | nil => exact ⟨[], .nil, fun tail _ => by simp⟩
  | @cons form text forms texts here later ih =>
    obtain ⟨clause, found, read⟩ := here
    obtain ⟨clauses, others, rest⟩ := ih
    refine ⟨clause :: clauses, .cons found others, fun tail stops => ?_⟩
    cases later with
    | nil =>
      cases others
      simpa using read tail stops
    | cons =>
      cases others
      have comma : ∀ rest, (sql d.foreign).lex (',' :: ' ' :: rest) =
          ((sql d.foreign).lex rest).map (.symbol ',' :: ·) := fun rest => by
        rw [lex_symbol (by decide), lex_space (by decide)]
      have stop : ∀ rest, Stops (',' :: ' ' :: rest) := by
        rintro rest _ ⟨⟩
        exact .inr rfl
      have both := rest tail stops
      rw [List.intercalate_cons_cons, List.append_assoc, List.append_assoc, List.cons_append,
        List.cons_append, List.nil_append, read _ (stop _), comma, both, Option.map_map,
        Option.map_map, List.intercalate_cons_cons]
      simp [Function.comp_def]

theorem opens_commas {forms : List (List Item)} {texts : List (List Char)}
    (h : List.Forall₂ (Opens d) forms texts) :
    Opens d (commas forms) ([',', ' '].intercalate texts) := by
  obtain ⟨clauses, found, read⟩ := lex_clauses h
  exact ⟨_, matches_intercalate found, read⟩

theorem count_intercalate {α : Type} {text : α → List Char} {form : α → List Item}
    {entries : List α}
    (same : ∀ a ∈ entries, (text a).count '"' = ((form a).map Item.quotes).sum) :
    ([',', ' '].intercalate (entries.map text)).count '"' =
      ((commas (entries.map form)).map Item.quotes).sum := by
  induction entries with
  | nil => rfl
  | cons a entries ih =>
    obtain ⟨here, later⟩ := List.forall_mem_cons.mp same
    have rest := ih later
    cases entries with
    | nil => simpa [commas] using here
    | cons b entries =>
      simp only [commas, List.map_cons, List.intercalate_cons_cons, List.count_append,
        List.map_append, List.sum_append] at rest ⊢
      rw [here, rest]
      simp [Item.quotes, Token.quotes]

end PgAnalytics.StatementForms
