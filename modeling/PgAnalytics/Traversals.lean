import Mathlib.Data.List.FinRange
import Mathlib.Data.List.Forall2
import Mathlib.Data.List.OfFn

/-! Functions that may fail, mapped over a list: the results stand against the entries, and a
failure of the whole is one of an entry. -/

namespace PgAnalytics.Traversals

universe u v w

section Monads

variable {m : Type u → Type v} [Monad m] [LawfulMonad m] {α : Type w} {β : Type u}

theorem mapM_of_forall₂ {f : α → m β} {l : List α} {bs : List β}
    (results : List.Forall₂ (fun a b => f a = pure b) l bs) : l.mapM f = pure bs := by
  induction results with
  | nil => rfl
  | cons here _ ih => rw [List.mapM_cons, here, ih, pure_bind, pure_bind]

theorem mapM_eq_pure {f : α → m β} {g : α → β} {l : List α}
    (each : ∀ a ∈ l, f a = pure (g a)) : l.mapM f = pure (l.map g) := by
  apply mapM_of_forall₂
  rw [List.forall₂_map_right_iff]
  exact List.forall₂_same.mpr each

theorem mapM_finRange {k : ℕ} (f : Fin k → α) (g : α → m β) :
    (List.finRange k).mapM (fun i => g (f i)) = (List.ofFn f).mapM g := by
  rw [List.ofFn_eq_map, List.mapM_map]
  rfl

theorem mapM_get (l : List α) (g : α → m β) :
    (List.finRange l.length).mapM (fun i => g (l.get i)) = l.mapM g := by
  rw [mapM_finRange, List.ofFn_get]

end Monads

section Failures

variable {ε : Type u} {α : Type w} {β : Type v}

theorem exists_map_eq_ok {γ : Type v} {x : Except ε β} {f : β → γ} :
    (∃ c, x.map f = .ok c) ↔ ∃ b, x = .ok b := by
  cases x with
  | error fault => simp [Except.map]
  | ok b => simp [Except.map]

theorem mapM_error {fault : ε} {l : List α} (some' : l ≠ []) :
    l.mapM (fun _ => (.error fault : Except ε β)) = .error fault := by
  cases l with
  | nil => exact absurd rfl some'
  | cons => rw [List.mapM_cons]; rfl

theorem exists_eq_error {f : α → Except ε β} {l : List α} {fault : ε}
    (failed : l.mapM f = .error fault) : ∃ a ∈ l, f a = .error fault := by
  induction l with
  | nil => cases failed
  | cons a l ih =>
    rw [List.mapM_cons] at failed
    cases here : f a with
    | error first =>
      rw [here] at failed
      cases failed
      exact ⟨a, List.mem_cons_self, here⟩
    | ok b =>
      cases later : l.mapM f with
      | error _ =>
        rw [here, later] at failed
        cases failed
        obtain ⟨a', mem, fails⟩ := ih later
        exact ⟨a', List.mem_cons_of_mem a mem, fails⟩
      | ok bs =>
        rw [here, later] at failed
        cases failed

theorem exists_forall₂ {R : α → β → Prop} {f : α → Except ε β} {l : List α}
    (each : ∀ a ∈ l, ∃ b, f a = .ok b ∧ R a b) :
    ∃ bs, l.mapM f = .ok bs ∧ List.Forall₂ R l bs := by
  induction l with
  | nil => exact ⟨[], rfl, .nil⟩
  | cons a l ih =>
    obtain ⟨b, here, related⟩ := each a List.mem_cons_self
    obtain ⟨bs, later, results⟩ := ih fun a' mem => each a' (List.mem_cons_of_mem a mem)
    refine ⟨b :: bs, ?_, .cons related results⟩
    rw [List.mapM_cons, here, later]
    rfl

theorem exists_mapM_eq_ok {f : α → Except ε β} {l : List α} :
    (∃ bs, l.mapM f = .ok bs) ↔ ∀ a ∈ l, ∃ b, f a = .ok b := by
  constructor
  · induction l with
    | nil => exact fun _ => nofun
    | cons a l ih =>
      rintro ⟨bs, read⟩
      rw [List.mapM_cons] at read
      rw [List.forall_mem_cons]
      cases here : f a with
      | error fault =>
        rw [here] at read
        cases read
      | ok b =>
        cases later : l.mapM f with
        | error fault =>
          rw [here, later] at read
          cases read
        | ok bs => exact ⟨⟨b, rfl⟩, ih ⟨bs, later⟩⟩
  · intro each
    obtain ⟨bs, made, -⟩ := exists_forall₂ (R := fun _ _ => True)
      fun a mem => (each a mem).imp fun b here => ⟨here, trivial⟩
    exact ⟨bs, made⟩

end Failures

end PgAnalytics.Traversals
