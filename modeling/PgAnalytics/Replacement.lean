import Mathlib.Data.List.Basic
import Mathlib.Tactic.Common

/-! Replacement of a pattern in a text. Occurrences are taken from left to right and do
not overlap, and what is put in is not searched again. -/

namespace PgAnalytics.Replacement

variable {α : Type} {pattern : List α}

theorem prefix_append_cons {a : α} (absent : a ∉ pattern) {before after : List α} :
    pattern <+: before ++ a :: after ↔ pattern <+: before := by
  refine ⟨fun occurs => ?_, fun occurs => occurs.trans (List.prefix_append _ _)⟩
  have within : before <+: before ++ a :: after := List.prefix_append _ _
  have further : before ++ [a] <+: before ++ a :: after := by simp
  rcases Nat.lt_or_ge before.length pattern.length with longer | shorter
  · have reached := List.prefix_of_prefix_length_le further occurs
      (by simpa using Nat.succ_le_of_lt longer)
    exact absurd (reached.subset (by simp)) absent
  · exact List.prefix_of_prefix_length_le occurs within shorter

theorem infix_append_cons (nonempty : pattern ≠ []) {a : α} (absent : a ∉ pattern)
    {before after : List α} :
    pattern <:+: before ++ a :: after ↔ pattern <:+: before ∨ pattern <:+: after := by
  induction before with
  | nil =>
    rw [List.nil_append, List.infix_cons_iff, List.infix_nil, or_iff_right nonempty,
      or_iff_right]
    rintro ⟨rest, same⟩
    obtain ⟨b, tail, rfl⟩ := List.exists_cons_of_ne_nil nonempty
    exact absent (List.mem_cons.mpr (.inl (List.cons.inj same).1.symm))
  | cons b before ih =>
    rw [List.cons_append, List.infix_cons_iff, List.infix_cons_iff, ih, or_assoc,
      ← List.cons_append, prefix_append_cons absent]

variable [DecidableEq α]

/-- The rest of an occurrence is skipped. -/
def replaceFrom (pattern replacement : List α) : ℕ → List α → List α
  | _, [] => []
  | skipped + 1, _ :: text => replaceFrom pattern replacement skipped text
  | 0, a :: text =>
    if pattern.isPrefixOf (a :: text) then
      replacement ++ replaceFrom pattern replacement (pattern.length - 1) text
    else a :: replaceFrom pattern replacement 0 text

def replace (pattern replacement text : List α) : List α := replaceFrom pattern replacement 0 text

theorem replaceFrom_eq_drop (pattern replacement : List α) (skipped : ℕ) (text : List α) :
    replaceFrom pattern replacement skipped text =
      replace pattern replacement (text.drop skipped) := by
  induction text generalizing skipped with
  | nil => simp [replace, replaceFrom]
  | cons a text ih =>
    cases skipped with
    | zero => rfl
    | succ skipped => rw [replaceFrom, ih, List.drop_succ_cons]

variable (replacement : List α)

@[simp] theorem replace_nil : replace pattern replacement [] = [] := rfl

theorem replace_cons {a : α} {text : List α} (h : ¬ pattern <+: a :: text) :
    replace pattern replacement (a :: text) = a :: replace pattern replacement text := by
  rw [replace, replaceFrom, if_neg (by simpa using h), replace]

theorem replace_occurrence (nonempty : pattern ≠ []) (text : List α) :
    replace pattern replacement (pattern ++ text) =
      replacement ++ replace pattern replacement text := by
  obtain ⟨a, rest, rfl⟩ := List.exists_cons_of_ne_nil nonempty
  have occurs : (a :: rest).isPrefixOf (a :: (rest ++ text)) := by simp
  rw [List.cons_append, replace, replaceFrom, if_pos occurs, replaceFrom_eq_drop]
  simp

theorem replace_induction {motive : List α → List α → Prop} (nonempty : pattern ≠ [])
    (nil : motive [] [])
    (occurrence : ∀ text, motive text (replace pattern replacement text) →
      motive (pattern ++ text) (replacement ++ replace pattern replacement text))
    (other : ∀ a text, motive text (replace pattern replacement text) →
      motive (a :: text) (a :: replace pattern replacement text)) (text : List α) :
    motive text (replace pattern replacement text) := by
  induction size : text.length using Nat.strongRecOn generalizing text with
  | _ n ih =>
    subst size
    by_cases occurs : pattern <+: text
    · obtain ⟨rest, rfl⟩ := occurs
      have shorter := List.length_pos_of_ne_nil nonempty
      rw [replace_occurrence replacement nonempty]
      exact occurrence rest (ih _ (by simp; omega) rest rfl)
    · cases text with
      | nil => exact nil
      | cons a text =>
        rw [replace_cons replacement occurs]
        exact other a text (ih _ (by simp) text rfl)

theorem replace_append (nonempty : pattern ≠ []) {a : α} (absent : a ∉ pattern)
    (before after : List α) :
    replace pattern replacement (before ++ a :: after) =
      replace pattern replacement before ++ a :: replace pattern replacement after := by
  induction size : before.length using Nat.strongRecOn generalizing before with
  | _ n ih =>
    subst size
    by_cases occurs : pattern <+: before
    · obtain ⟨rest, rfl⟩ := occurs
      have shorter := List.length_pos_of_ne_nil nonempty
      rw [List.append_assoc, replace_occurrence replacement nonempty,
        replace_occurrence replacement nonempty, ih _ (by simp; omega) rest rfl, List.append_assoc]
    · have outside : ¬ pattern <+: before ++ a :: after :=
        mt (prefix_append_cons absent).mp occurs
      cases before with
      | nil => exact replace_cons replacement outside
      | cons b before =>
        rw [List.cons_append] at outside ⊢
        rw [replace_cons replacement outside, replace_cons replacement occurs,
          ih _ (by simp) before rfl, List.cons_append]

theorem replace_of_absent {text : List α} (absent : ¬ pattern <:+: text) :
    replace pattern replacement text = text := by
  induction text with
  | nil => rfl
  | cons a text ih =>
    rw [List.infix_cons_iff, not_or] at absent
    rw [replace_cons replacement absent.1, ih absent.2]

theorem replace_self (nonempty : pattern ≠ []) :
    replace pattern replacement pattern = replacement := by
  have whole := replace_occurrence replacement nonempty []
  rwa [List.append_nil, replace_nil, List.append_nil] at whole

theorem mem_replace (nonempty : pattern ≠ []) {text : List α} {a : α}
    (h : a ∈ replace pattern replacement text) : a ∈ text ∨ a ∈ replacement := by
  refine replace_induction replacement (motive := fun text found => a ∈ found →
    a ∈ text ∨ a ∈ replacement) nonempty (fun mem => .inl mem) ?_ ?_ text h
  · intro text ih mem
    rcases List.mem_append.mp mem with inside | later
    · exact .inr inside
    · exact (ih later).imp_left (List.mem_append_right _)
  · intro b text ih mem
    rcases List.mem_cons.mp mem with rfl | later
    · exact .inl List.mem_cons_self
    · exact (ih later).imp_left (List.mem_cons_of_mem _)

end PgAnalytics.Replacement
