import Mathlib.Order.Defs.Unbundled
import Mathlib.Tactic.Common

/-! Runs of a machine that may refuse an input. `Always` says that every step
a run takes meets a condition on the state before the step, the input and the
answer; a refused input ends the run. The invariant rule turns what one step
preserves into what a whole run preserves. What is written at most once stays. -/

namespace PgAnalytics.Runs

variable {σ α β : Type}

abbrev Machine (σ α β : Type) := σ → α → Option (σ × β)

def Always (m : Machine σ α β) (P : σ → α → β → Prop) : σ → List α → Prop
  | _, [] => True
  | s, a :: rest =>
    match m s a with
    | none => True
    | some (s', b) => P s a b ∧ Always m P s' rest

/-- The condition reads the state and the input only, not the answer. -/
abbrev Along (m : Machine σ α β) (C : σ → α → Prop) : σ → List α → Prop :=
  Always m (fun s a _ => C s a)

variable {m : Machine σ α β} {P Q : σ → α → β → Prop}

instance decidableAlways [∀ s a b, Decidable (P s a b)] :
    (s : σ) → (as : List α) → Decidable (Always m P s as)
  | _, [] => isTrue trivial
  | s, a :: rest =>
    match h : m s a with
    | none => isTrue (by simp [Always, h])
    | some (s', b) =>
      have := decidableAlways s' rest
      decidable_of_iff (P s a b ∧ Always m P s' rest) (by simp [Always, h])

theorem always_cons {s s' : σ} {a : α} {b : β} {rest : List α} (h : m s a = some (s', b)) :
    Always m P s (a :: rest) ↔ P s a b ∧ Always m P s' rest := by
  simp [Always, h]

theorem always_refused {s : σ} {a : α} {rest : List α} (h : m s a = none) :
    Always m P s (a :: rest) := by
  simp [Always, h]

/-- The invariant rule: from a state with the invariant, a run whose steps all
meet `Q` meets `P` at every step, when each such step keeps the invariant. -/
theorem always_of_invariant (I : σ → Prop)
    (step : ∀ s a s' b, I s → Q s a b → m s a = some (s', b) → I s' ∧ P s a b)
    {s : σ} (start : I s) (as : List α) (along : Always m Q s as) : Always m P s as := by
  induction as generalizing s with
  | nil => trivial
  | cons a rest ih =>
    cases h : m s a with
    | none => exact always_refused h
    | some next =>
      obtain ⟨s', b⟩ := next
      obtain ⟨now, later⟩ := (always_cons h).mp along
      obtain ⟨kept, here⟩ := step s a s' b start now h
      exact (always_cons h).mpr ⟨here, ih kept later⟩

theorem always_true (s : σ) (as : List α) : Always m (fun _ _ _ => True) s as := by
  induction as generalizing s with
  | nil => trivial
  | cons a rest ih =>
    cases h : m s a with
    | none => exact always_refused h
    | some next => exact (always_cons h).mpr ⟨trivial, ih next.1⟩

theorem always_of_inductive (I : σ → Prop)
    (step : ∀ s a s' b, I s → m s a = some (s', b) → I s' ∧ P s a b)
    {s : σ} (start : I s) (as : List α) : Always m P s as :=
  always_of_invariant I (fun s a s' b h _ => step s a s' b h) start as (always_true s as)

/-- Conditions that are the same at every step from a state with the invariant are the same
along a run, where the first of them keeps the invariant. -/
theorem always_congr (I : σ → Prop)
    (step : ∀ s a s' b, I s → m s a = some (s', b) → (P s a b ↔ Q s a b) ∧ (P s a b → I s'))
    {s : σ} (start : I s) (as : List α) : Always m P s as ↔ Always m Q s as := by
  induction as generalizing s with
  | nil => exact Iff.rfl
  | cons a rest ih =>
    cases h : m s a with
    | none => exact iff_of_true (always_refused h) (always_refused h)
    | some next =>
      obtain ⟨s', b⟩ := next
      obtain ⟨same, kept⟩ := step s a s' b start h
      rw [always_cons h, always_cons h, ← same]
      exact and_congr_right fun here => ih (kept here)

theorem along_of_forall {C : α → Prop} {as : List α} (all : ∀ a ∈ as, C a) {s : σ} :
    Along m (fun _ a => C a) s as := by
  induction as generalizing s with
  | nil => trivial
  | cons a rest ih =>
    obtain ⟨here, later⟩ := List.forall_mem_cons.mp all
    cases h : m s a with
    | none => exact always_refused h
    | some next => exact (always_cons h).mpr ⟨here, ih later⟩

theorem along_input (total : ∀ s a, (m s a).isSome) {C : α → Prop} (s : σ) (as : List α) :
    Along m (fun _ a => C a) s as ↔ ∀ a ∈ as, C a := by
  induction as generalizing s with
  | nil => simp [Always]
  | cons a rest ih =>
    obtain ⟨⟨s', b⟩, h⟩ := Option.isSome_iff_exists.mp (total s a)
    rw [Along, always_cons h, List.forall_mem_cons, ← ih s']

/-- What a part of the state holds under some index stays there. -/
def Keeps {ι γ : Type} (part : σ → ι → Option γ) (s s' : σ) : Prop :=
  ∀ i c, part s i = some c → part s' i = some c

section Keeps

variable {ι γ : Type} {part : σ → ι → Option γ}

instance : Std.Refl (Keeps part) := ⟨fun _ _ _ held => held⟩

instance : IsTrans σ (Keeps part) :=
  ⟨fun _ _ _ first second i c held => second i c (first i c held)⟩

theorem keeps_of_eq {s s' : σ} (same : part s' = part s) : Keeps part s s' := by
  intro i c held
  rwa [same]

/-- The rule for a part that is written at most once under an index: every step answers with
the value in place. -/
theorem always_of_keeps {i : ι} {c : γ}
    (keeps : ∀ s a s' b, m s a = some (s', b) → Keeps part s s')
    (answers : ∀ s a s' b, part s i = some c → m s a = some (s', b) → P s a b)
    {s : σ} (held : part s i = some c) (inputs : List α) : Always m P s inputs :=
  always_of_inductive (fun s => part s i = some c)
    (fun s a s' b here step => ⟨keeps s a s' b step i c here, answers s a s' b here step⟩)
    held inputs

end Keeps

end PgAnalytics.Runs
