import Mathlib.Data.List.Basic
import Mathlib.Tactic.Common

/-! Lists of clauses between commas, over any tokens with brackets. A comma inside
brackets separates nothing, and a token that ends the statement is in no clause. -/

namespace PgAnalytics.ClauseLists

variable {τ : Type}

theorem not_mem_of_mem_splitOn [DecidableEq τ] {sep : τ} {text part : List τ}
    (h : part ∈ text.splitOn sep) : sep ∉ part := by
  induction text generalizing part with
  | nil =>
    have empty : part = [] := by simpa using h
    simp [empty]
  | cons c text ih =>
    rw [List.splitOn_cons_eq_if_modifyHead] at h
    split at h
    · rcases List.mem_cons.mp h with rfl | later
      · exact List.not_mem_nil
      · exact ih later
    · rename_i other
      cases parts : text.splitOn sep with
      | nil => simp [parts] at h
      | cons first rest =>
        rw [parts, List.modifyHead_cons] at h
        rcases List.mem_cons.mp h with rfl | later
        · have free : sep ∉ first := ih (by simp [parts])
          have ne : sep ≠ c := fun same => other (by simp [same])
          simp [free, ne]
        · exact ih (by simp [parts, later])

inductive Mark where
  | plain
  | comma
  | opening
  | closing
  | stop
  deriving DecidableEq, Repr

structure Marks (τ : Type) where
  mark : τ → Mark
  comma : τ
  mark_eq_comma : ∀ {t}, mark t = .comma ↔ t = comma

def charMark (c : Char) : Mark :=
  if c = ',' then .comma
  else if c ∈ ['(', '[', '{'] then .opening
  else if c ∈ [')', ']', '}'] then .closing
  else if c = ';' then .stop
  else .plain

theorem charMark_eq_comma {c : Char} : charMark c = .comma ↔ c = ',' := by
  unfold charMark
  split_ifs with comma <;> simp [comma]

namespace Marks

/-- The depth of brackets after a token, none where the clause ends before it. -/
def step (m : Marks τ) (depth : ℕ) (t : τ) : Option ℕ :=
  match m.mark t with
  | .plain => some depth
  | .comma => if depth = 0 then none else some depth
  | .opening => some (depth + 1)
  | .closing => if depth = 0 then none else some (depth - 1)
  | .stop => none

def wholeFrom (m : Marks τ) : ℕ → List τ → Bool
  | depth, [] => depth == 0
  | depth, t :: tokens => (m.step depth t).any fun deeper => m.wholeFrom deeper tokens

def whole (m : Marks τ) (tokens : List τ) : Bool := m.wholeFrom 0 tokens

def clausesFrom (m : Marks τ) : ℕ → List τ → Option (List (List τ))
  | depth, [] => if depth = 0 then some [[]] else none
  | depth, t :: tokens =>
    match m.step depth t with
    | some deeper => (m.clausesFrom deeper tokens).map (List.modifyHead (t :: ·))
    | none => if m.mark t = .comma then (m.clausesFrom 0 tokens).map ([] :: ·) else none

def clauses (m : Marks τ) (tokens : List τ) : Option (List (List τ)) := m.clausesFrom 0 tokens

theorem step_comma (m : Marks τ) : m.step 0 m.comma = none := by
  simp [step, m.mark_eq_comma.mpr rfl]

theorem step_plain {m : Marks τ} {t : τ} (plain : m.mark t = .plain) (depth : ℕ) :
    m.step depth t = some depth := by
  simp [step, plain]

theorem wholeFrom_cons {m : Marks τ} {depth deeper : ℕ} {t : τ}
    (h : m.step depth t = some deeper) (tokens : List τ) :
    m.wholeFrom depth (t :: tokens) = m.wholeFrom deeper tokens := by
  simp [wholeFrom, h]

theorem wholeFrom_plain {m : Marks τ} {before : List τ} (plain : ∀ t ∈ before, m.mark t = .plain)
    (depth : ℕ) (tokens : List τ) :
    m.wholeFrom depth (before ++ tokens) = m.wholeFrom depth tokens := by
  induction before with
  | nil => rfl
  | cons t before ih =>
    obtain ⟨first, later⟩ := List.forall_mem_cons.mp plain
    rw [List.cons_append, wholeFrom_cons (step_plain first depth), ih later]

theorem clausesFrom_append {m : Marks τ} {depth : ℕ} {clause : List τ}
    (h : m.wholeFrom depth clause) (tokens : List τ) :
    m.clausesFrom depth (clause ++ tokens) =
      (m.clauses tokens).map (List.modifyHead (clause ++ ·)) := by
  induction clause generalizing depth with
  | nil =>
    obtain rfl : depth = 0 := by simpa [wholeFrom] using h
    have same : (List.modifyHead fun clause : List τ => clause) = id := List.modifyHead_id
    simp [clauses, same]
  | cons t clause ih =>
    obtain ⟨deeper, step, rest⟩ := (Option.any_eq_true _ _).mp h
    rw [List.cons_append, clausesFrom, step]
    simp [ih rest, Function.comp_def]

theorem clauses_comma (m : Marks τ) (tokens : List τ) :
    m.clauses (m.comma :: tokens) = (m.clauses tokens).map ([] :: ·) := by
  rw [clauses, clausesFrom, step_comma]
  exact if_pos (m.mark_eq_comma.mpr rfl)

theorem clauses_intercalate {m : Marks τ} {clause : List τ} {clauses : List (List τ)}
    (first : m.whole clause) (later : ∀ clause ∈ clauses, m.whole clause) :
    m.clauses ([m.comma].intercalate (clause :: clauses)) = some (clause :: clauses) := by
  induction clauses generalizing clause with
  | nil => simpa [Marks.clauses, clausesFrom] using clausesFrom_append first []
  | cons next clauses ih =>
    obtain ⟨here, there⟩ := List.forall_mem_cons.mp later
    rw [List.intercalate_cons_cons, List.append_assoc, List.singleton_append, Marks.clauses,
      clausesFrom_append first, clauses_comma, ih here there]
    simp

theorem clausesFrom_eq_some {m : Marks τ} {depth : ℕ} {tokens : List τ}
    {clauses : List (List τ)} (h : m.clausesFrom depth tokens = some clauses) :
    ∃ clause later, clauses = clause :: later ∧
      tokens = [m.comma].intercalate (clause :: later) ∧ m.wholeFrom depth clause ∧
      ∀ clause ∈ later, m.whole clause := by
  induction tokens generalizing depth clauses with
  | nil =>
    rw [clausesFrom] at h
    split at h <;> cases h
    rename_i zero
    exact ⟨[], [], rfl, rfl, by simp [wholeFrom, zero], by simp⟩
  | cons t tokens ih =>
    rw [clausesFrom] at h
    split at h
    · rename_i deeper step
      obtain ⟨found, read, rfl⟩ := Option.map_eq_some_iff.mp h
      obtain ⟨clause, later, rfl, rfl, first, others⟩ := ih read
      refine ⟨t :: clause, later, rfl, ?_, ?_, others⟩
      · cases later <;> simp [List.intercalate_cons_cons]
      · rw [wholeFrom_cons step, first]
    · rename_i ends
      split at h
      · rename_i comma
        obtain ⟨found, read, rfl⟩ := Option.map_eq_some_iff.mp h
        obtain ⟨clause, later, rfl, rfl, first, others⟩ := ih read
        obtain rfl := m.mark_eq_comma.mp comma
        have zero : depth = 0 := by simpa [step, comma] using ends
        refine ⟨[], clause :: later, rfl, ?_, by simp [wholeFrom, zero], ?_⟩
        · rw [List.intercalate_cons_cons, List.nil_append, List.singleton_append]
        · exact List.forall_mem_cons.mpr ⟨first, others⟩
      · cases h

theorem clauses_eq_some_iff {m : Marks τ} {tokens : List τ} {clauses : List (List τ)} :
    m.clauses tokens = some clauses ↔
      clauses ≠ [] ∧ tokens = [m.comma].intercalate clauses ∧
        ∀ clause ∈ clauses, m.whole clause := by
  constructor
  · intro h
    obtain ⟨clause, later, rfl, rfl, first, others⟩ := clausesFrom_eq_some h
    exact ⟨List.cons_ne_nil _ _, rfl, List.forall_mem_cons.mpr ⟨first, others⟩⟩
  · rintro ⟨nonempty, rfl, all⟩
    cases clauses with
    | nil => exact absurd rfl nonempty
    | cons clause later =>
      obtain ⟨first, others⟩ := List.forall_mem_cons.mp all
      exact clauses_intercalate first others

end Marks

end PgAnalytics.ClauseLists
