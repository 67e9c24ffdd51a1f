import Mathlib.Algebra.GroupWithZero.Nat
import Mathlib.Data.List.Basic
import Mathlib.Tactic.Common

/-! Tokens of a text, read one after the other. A reader takes the first token of
a non-empty text, or skips some of it, and fails on a token that is not closed.
Quoted tokens double their quote character inside, so that the quotes of a text
can be counted on its tokens. -/

namespace PgAnalytics.Lexing

variable {τ : Type}

/-- The token found, none where the text is skipped, and the text left. -/
abbrev Found (τ : Type) := Option τ × List Char

structure Reader (τ : Type) where
  read : Char → List Char → Option (Found τ)
  shorter : ∀ {c text found}, read c text = some found → found.2.length ≤ text.length

namespace Reader

/-- The fuel bounds the number of tokens. -/
def lexUpTo (r : Reader τ) : ℕ → List Char → Option (List τ)
  | _, [] => some []
  | 0, _ :: _ => none
  | fuel + 1, c :: text =>
    (r.read c text).bind fun found => (r.lexUpTo fuel found.2).map (found.1.toList ++ ·)

def lex (r : Reader τ) (text : List Char) : Option (List τ) := r.lexUpTo text.length text

theorem lexUpTo_eq (r : Reader τ) {fuel : ℕ} {text : List Char} (enough : text.length ≤ fuel) :
    r.lexUpTo fuel text = r.lex text := by
  have more : ∀ {fuel fuel' : ℕ} {text : List Char}, text.length ≤ fuel → text.length ≤ fuel' →
      r.lexUpTo fuel text = r.lexUpTo fuel' text := by
    intro fuel
    induction fuel with
    | zero =>
      intro fuel' text enough _
      obtain rfl := List.length_eq_zero_iff.mp (Nat.le_zero.mp enough)
      cases fuel' <;> rfl
    | succ fuel ih =>
      intro fuel' text enough enough'
      cases text with
      | nil => cases fuel' <;> rfl
      | cons c text =>
        cases fuel' with
        | zero => cases enough'
        | succ fuel' =>
          rw [lexUpTo, lexUpTo]
          refine Option.bind_congr fun found read => ?_
          have short := r.shorter read
          simp only [List.length_cons] at enough enough'
          rw [@ih fuel' found.2 (by omega) (by omega)]
  exact more enough (Nat.le_refl _)

@[simp] theorem lex_nil (r : Reader τ) : r.lex [] = some [] := rfl

theorem lex_cons (r : Reader τ) (c : Char) (text : List Char) :
    r.lex (c :: text) =
      (r.read c text).bind fun found => (r.lex found.2).map (found.1.toList ++ ·) := by
  rw [lex, List.length_cons, lexUpTo]
  refine Option.bind_congr fun found read => ?_
  rw [r.lexUpTo_eq (r.shorter read)]

theorem lex_found {r : Reader τ} {c : Char} {text : List Char} {found : Found τ}
    (read : r.read c text = some found) :
    r.lex (c :: text) = (r.lex found.2).map (found.1.toList ++ ·) := by
  rw [lex_cons, read, Option.bind_some]

/-- A rule that holds of the empty text and of a text by its first token. -/
theorem lex_induction {r : Reader τ} {motive : List Char → List τ → Prop}
    (nil : motive [] [])
    (cons : ∀ {c text found tokens}, r.read c text = some found → r.lex found.2 = some tokens →
      motive found.2 tokens → motive (c :: text) (found.1.toList ++ tokens))
    {text : List Char} {tokens : List τ} (h : r.lex text = some tokens) : motive text tokens := by
  induction size : text.length using Nat.strongRecOn generalizing text tokens with
  | _ n ih =>
    cases text with
    | nil =>
      cases h
      exact nil
    | cons c text =>
      rw [lex_cons] at h
      obtain ⟨found, read, rest⟩ := Option.bind_eq_some_iff.mp h
      obtain ⟨later, lexed, rfl⟩ := Option.map_eq_some_iff.mp rest
      have short := r.shorter read
      simp only [List.length_cons] at size
      exact cons read lexed (ih _ (by omega) lexed rfl)

end Reader

/-- What stands before the closing quote, and the text after it. -/
def takeQuoted (quote : Char) : List Char → Option (List Char × List Char)
  | [] => none
  | c :: text =>
    if c = quote then
      match text with
      | [] => some ([], [])
      | d :: left =>
        if d = quote then
          (takeQuoted quote left).map fun found => (quote :: found.1, found.2)
        else
          some ([], d :: left)
    else
      (takeQuoted quote text).map fun found => (c :: found.1, found.2)

def doubled (quote : Char) (content : List Char) : List Char :=
  content.flatMap fun c => if c = quote then [quote, quote] else [c]

theorem doubled_of_notMem {quote : Char} {content : List Char} (h : quote ∉ content) :
    doubled quote content = content := by
  induction content with
  | nil => rfl
  | cons c content ih =>
    rw [List.mem_cons, not_or] at h
    rw [doubled, List.flatMap_cons, if_neg (Ne.symm h.1), ← doubled, ih h.2]
    rfl

theorem takeQuoted_cons_of_ne {quote c : Char} (other : c ≠ quote) (text : List Char) :
    takeQuoted quote (c :: text) =
      (takeQuoted quote text).map fun found => (c :: found.1, found.2) := by
  cases text <;> simp [takeQuoted, other]

theorem takeQuoted_eq_some_iff {quote : Char} {text content left : List Char} :
    takeQuoted quote text = some (content, left) ↔
      text = doubled quote content ++ quote :: left ∧ left.head? ≠ some quote := by
  constructor
  · intro h
    fun_induction takeQuoted quote text generalizing content with
    | case1 => cases h
    | case2 => 
      cases h
      exact ⟨rfl, by simp⟩
    | case3 left' ih =>
      obtain ⟨found, read, rest⟩ := Option.map_eq_some_iff.mp h
      cases rest
      obtain ⟨same, stop⟩ := ih read
      exact ⟨by simp [doubled, same], stop⟩
    | case4 d left' other =>
      cases h
      exact ⟨rfl, by simpa using other⟩
    | case5 c text' other ih =>
      obtain ⟨found, read, rest⟩ := Option.map_eq_some_iff.mp h
      cases rest
      obtain ⟨same, stop⟩ := ih read
      exact ⟨by simp [doubled, same, other], stop⟩
  · rintro ⟨rfl, stop⟩
    induction content with
    | nil =>
      cases left with
      | nil => simp [doubled, takeQuoted]
      | cons d left =>
        have other : d ≠ quote := by simpa using stop
        simp [doubled, takeQuoted, other]
    | cons c content ih =>
      by_cases same : c = quote
      · subst same
        simp only [doubled, List.flatMap_cons, if_true] at ih ⊢
        simp [takeQuoted, ih]
      · simp only [doubled, List.flatMap_cons, if_neg same] at ih ⊢
        rw [List.append_assoc, List.singleton_append, takeQuoted_cons_of_ne same, ih]
        rfl

theorem takeQuoted_plain {quote : Char} {content left : List Char} (plain : quote ∉ content)
    (stop : left.head? ≠ some quote) :
    takeQuoted quote (content ++ quote :: left) = some (content, left) := by
  rw [takeQuoted_eq_some_iff, doubled_of_notMem plain]
  exact ⟨rfl, stop⟩

theorem count_doubled (quote : Char) (content : List Char) :
    (doubled quote content).count quote = 2 * content.count quote := by
  induction content with
  | nil => rfl
  | cons c content ih =>
    rw [doubled, List.flatMap_cons, ← doubled, List.count_append, ih]
    by_cases same : c = quote
    · simp [same]
      omega
    · simp [same]

end PgAnalytics.Lexing
