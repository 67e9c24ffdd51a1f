import Mathlib.Data.List.Basic
import Mathlib.Tactic.Common

/-! Windows on a list of rows, as OFFSET and LIMIT cut them out, and a filter taken
before or after the window. A window that is taken twice, with a filter in between,
loses rows except in three cases. -/

namespace PgAnalytics.RowWindows

variable {α : Type}

/-- The rows from `offset` on, and no more than `count` of them. -/
def window (offset : ℕ) (count : Option ℕ) (rows : List α) : List α :=
  match count with
  | none => rows.drop offset
  | some count => (rows.drop offset).take count

theorem window_nil (offset : ℕ) (count : Option ℕ) : window offset count ([] : List α) = [] := by
  cases count <;> simp [window]

theorem window_map {β : Type} (f : α → β) (offset : ℕ) (count : Option ℕ) (rows : List α) :
    window offset count (rows.map f) = (window offset count rows).map f := by
  cases count with
  | none => simp [window]
  | some count => simp [window]

theorem length_window (offset count : ℕ) (rows : List α) :
    (window offset (some count) rows).length = min count (rows.length - offset) := by
  rw [window, List.length_take, List.length_drop]

theorem window_eq_nil_iff {offset count : ℕ} {rows : List α} :
    window offset (some count) rows = [] ↔ count = 0 ∨ rows.length ≤ offset := by
  rw [window, List.take_eq_nil_iff, List.drop_eq_nil_iff]

/-- Nothing is lost of the rows that pass if they are too few for the window, if they
are all inside it, or if they fill it from the first row on. -/
def Harmless (passes : α → Bool) (offset count : ℕ) (rows : List α) : Prop :=
  (rows.filter passes).length ≤ offset ∨
  ((rows.take offset).filter passes = [] ∧ (rows.drop (offset + count)).filter passes = []) ∨
  (offset = 0 ∧ ((rows.take count).filter passes).length = count)

instance (passes : α → Bool) (offset count : ℕ) (rows : List α) :
    Decidable (Harmless passes offset count rows) := inferInstanceAs (Decidable (_ ∨ _))

theorem filter_split (passes : α → Bool) (offset count : ℕ) (rows : List α) :
    rows.filter passes = (rows.take offset).filter passes ++
      ((window offset (some count) rows).filter passes ++
        (rows.drop (offset + count)).filter passes) := by
  rw [window, ← List.filter_append, ← List.filter_append, ← List.drop_drop,
    List.take_append_drop, List.take_append_drop]

/-- The window is taken of the rows, and again of those of them that pass. -/
theorem window_filter_window_iff {passes : α → Bool} {offset count : ℕ} {rows : List α}
    (some' : window offset (some count) rows ≠ []) :
    window offset (some count) ((window offset (some count) rows).filter passes) =
        window offset (some count) (rows.filter passes) ↔
      Harmless passes offset count rows := by
  have split := filter_split passes offset count rows
  have before : ((rows.take offset).filter passes).length ≤ offset :=
    Nat.le_trans (List.length_filter_le _ _) (List.length_take_le _ _)
  have within : ((window offset (some count) rows).filter passes).length ≤ count :=
    Nat.le_trans (List.length_filter_le _ _) (List.length_take_le _ _)
  have all := congrArg List.length split
  simp only [List.length_append] at all
  have positive : count ≠ 0 := fun none => some' (window_eq_nil_iff.mpr (.inl none))
  constructor
  · intro same
    have lengths := congrArg List.length same
    rw [length_window, length_window] at lengths
    by_cases few : (rows.filter passes).length ≤ offset
    · exact .inl few
    · by_cases fits : (rows.filter passes).length - offset ≤ count
      · refine .inr (.inl ⟨?_, ?_⟩) <;> refine List.eq_nil_of_length_eq_zero ?_ <;> omega
      · have first : offset = 0 := by omega
        subst first
        refine .inr (.inr ⟨rfl, ?_⟩)
        have whole : window 0 (some count) rows = rows.take count := rfl
        rw [← whole]
        omega
  · rintro (few | ⟨early, late⟩ | ⟨rfl, full⟩)
    · rw [window_eq_nil_iff.mpr (.inr few), window_eq_nil_iff.mpr (.inr (by omega))]
    · rw [early, late, List.nil_append, List.append_nil] at split
      rw [split]
    · have whole : window 0 (some count) rows = rows.take count := rfl
      rw [split, List.take_zero, List.filter_nil, List.nil_append, whole, window, window,
        List.drop_zero, List.drop_zero, List.take_left' full,
        List.take_of_length_le (Nat.le_of_eq full)]

end PgAnalytics.RowWindows
