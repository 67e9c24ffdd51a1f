import Mathlib.Order.Defs.Unbundled
import Mathlib.Tactic.Common

/-! Commands over a mutable state whose effects survive a failure. A failing
command answers an error and leaves behind whatever it had already changed, as
a sequence of calls to an external engine does: there is no rollback. The
rules below carry a relation between the state before and the state after
through a whole command, whichever way it ends. Two commands in step answer alike,
however often they are called. -/

namespace PgAnalytics.Commands

abbrev Command (σ ε α : Type) := ExceptT ε (StateM σ) α

variable {σ ε α β : Type}

def exec (c : Command σ ε α) (s : σ) : Except ε α × σ := StateT.run (ExceptT.run c) s

@[simp] theorem exec_pure (a : α) (s : σ) :
    exec (pure a : Command σ ε α) s = (.ok a, s) := rfl

@[simp] theorem exec_throw (e : ε) (s : σ) :
    exec (throw e : Command σ ε α) s = (.error e, s) := rfl

@[simp] theorem exec_get (s : σ) : exec (get : Command σ ε σ) s = (.ok s, s) := rfl

@[simp] theorem exec_modify (f : σ → σ) (s : σ) :
    exec (modify f : Command σ ε Unit) s = (.ok (), f s) := rfl

theorem exec_bind (c : Command σ ε α) (k : α → Command σ ε β) (s : σ) :
    exec (c >>= k) s =
      match exec c s with
      | (.ok a, s') => exec (k a) s'
      | (.error e, s') => (.error e, s') := by
  simp only [exec, ExceptT.run_bind, StateT.run_bind]
  rcases StateT.run (ExceptT.run c) s with ⟨_ | _, _⟩ <;> rfl

theorem exec_bind_ok {c : Command σ ε α} {k : α → Command σ ε β} {s s' : σ} {a : α}
    (h : exec c s = (.ok a, s')) : exec (c >>= k) s = exec (k a) s' := by
  rw [exec_bind, h]

theorem exec_bind_error {c : Command σ ε α} {k : α → Command σ ε β} {s s' : σ} {e : ε}
    (h : exec c s = (.error e, s')) : exec (c >>= k) s = (.error e, s') := by
  rw [exec_bind, h]

theorem exec_bind_eq_ok {c : Command σ ε α} {k : α → Command σ ε β} {s s' : σ} {b : β}
    (h : exec (c >>= k) s = (.ok b, s')) :
    ∃ a m, exec c s = (.ok a, m) ∧ exec (k a) m = (.ok b, s') := by
  rw [exec_bind] at h
  rcases hc : exec c s with ⟨e | a, m⟩
  · rw [hc] at h
    cases h
  · exact ⟨a, m, rfl, by rwa [hc] at h⟩

def onPart {τ : Type} (part : σ → τ) (put : σ → τ → σ) (c : Command τ ε α) : Command σ ε α :=
  ExceptT.mk fun s => ((exec c (part s)).1, put s (exec c (part s)).2)

@[simp] theorem exec_onPart {τ : Type} (part : σ → τ) (put : σ → τ → σ) (c : Command τ ε α)
    (s : σ) :
    exec (onPart part put c) s = ((exec c (part s)).1, put s (exec c (part s)).2) := rfl

def ofResult (r : Except ε α) : Command σ ε α := ExceptT.mk fun s => (r, s)

@[simp] theorem exec_ofResult (r : Except ε α) (s : σ) :
    exec (ofResult r : Command σ ε α) s = (r, s) := rfl

/-- A command whose failure is a value; its effects stay. -/
def attempt (c : Command σ ε α) : Command σ ε (Except ε α) :=
  ExceptT.mk fun s => (.ok (exec c s).1, (exec c s).2)

@[simp] theorem exec_attempt (c : Command σ ε α) (s : σ) :
    exec (attempt c) s = (.ok (exec c s).1, (exec c s).2) := rfl

/-- `R` holds between the states before and after the command, also when it fails. -/
def Respects (R : σ → σ → Prop) (c : Command σ ε α) : Prop := ∀ s, R s (exec c s).2

variable {R : σ → σ → Prop}

theorem Respects.pure [Std.Refl R] (a : α) : Respects R (pure a : Command σ ε α) :=
  fun s => Std.Refl.refl s

theorem Respects.throw [Std.Refl R] (e : ε) : Respects R (throw e : Command σ ε α) :=
  fun s => Std.Refl.refl s

theorem Respects.get [Std.Refl R] : Respects R (get : Command σ ε σ) :=
  fun s => Std.Refl.refl s

theorem Respects.modify {f : σ → σ} (h : ∀ s, R s (f s)) :
    Respects R (modify f : Command σ ε Unit) := h

theorem Respects.bind [IsTrans σ R] {c : Command σ ε α} {k : α → Command σ ε β}
    (hc : Respects R c) (hk : ∀ a, Respects R (k a)) : Respects R (c >>= k) := by
  intro s
  have first := hc s
  rw [exec_bind]
  rcases h : exec c s with ⟨e | a, m⟩
  · simpa [h] using first
  · simp only [h] at first
    exact IsTrans.trans _ _ _ first (hk a m)

theorem Respects.ite {p : Prop} [Decidable p] {c d : Command σ ε α}
    (hc : Respects R c) (hd : Respects R d) : Respects R (if p then c else d) := by
  split
  · exact hc
  · exact hd

theorem Respects.ofResult [Std.Refl R] (r : Except ε α) :
    Respects R (ofResult r : Command σ ε α) :=
  fun s => Std.Refl.refl s

theorem Respects.bind_ofResult [Std.Refl R] {r : Except ε α} {k : α → Command σ ε β}
    (h : ∀ a, r = .ok a → Respects R (k a)) : Respects R (Commands.ofResult r >>= k) := by
  cases r with
  | error e => exact fun s => Std.Refl.refl s
  | ok a => exact h a rfl

theorem Respects.attempt {c : Command σ ε α} (h : Respects R c) : Respects R (attempt c) := h

theorem Respects.onPart {τ : Type} {part : σ → τ} {put : σ → τ → σ} (c : Command τ ε α)
    (h : ∀ s t, R s (put s t)) : Respects R (onPart part put c) := fun s => h s _

theorem Respects.mono {S : σ → σ → Prop} {c : Command σ ε α} (hc : Respects R c)
    (h : ∀ s s', R s s' → S s s') : Respects S c := fun s => h _ _ (hc s)

/-- The answers of a command that is called a number of times, failures among them. -/
def answers (c : Command σ ε α) : ℕ → σ → List (Except ε α)
  | 0, _ => []
  | n + 1, s => (exec c s).1 :: answers c n (exec c s).2

/-- From related states the two commands answer alike and leave related states. -/
def InStep {τ : Type} (R : σ → τ → Prop) (c : Command σ ε α) (d : Command τ ε α) : Prop :=
  ∀ s t, R s t → (exec c s).1 = (exec d t).1 ∧ R (exec c s).2 (exec d t).2

theorem answers_congr {c : Command σ ε α} {s s' : σ} (same : exec c s = exec c s') (n : ℕ) :
    answers c n s = answers c n s' := by
  cases n with
  | zero => rfl
  | succ n => rw [answers, answers, same]

theorem InStep.answers {τ : Type} {R : σ → τ → Prop} {c : Command σ ε α} {d : Command τ ε α}
    (inStep : InStep R c d) {s : σ} {t : τ} (related : R s t) (n : ℕ) :
    answers c n s = answers d n t := by
  induction n generalizing s t with
  | zero => rfl
  | succ n ih =>
    obtain ⟨same, later⟩ := inStep s t related
    rw [Commands.answers, Commands.answers, same, ih later]

end PgAnalytics.Commands
