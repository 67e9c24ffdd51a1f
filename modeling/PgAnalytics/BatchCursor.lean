import Mathlib.Algebra.GroupWithZero.Nat
import Mathlib.Data.List.Basic
import Mathlib.Tactic.Common

/-! A resumable cursor over a sequence of chunks. It keeps the chunk it is in
and a position there, and takes the next chunk when the current one is used up.
One step accounts for one row: the rows still to come are the row answered
followed by those still to come after the step. At the end of the sequence the
position is reset but the last chunk is kept. -/

namespace PgAnalytics.BatchCursor

structure Cursor (χ : Type) where
  current : Option χ
  index : ℕ
  deriving DecidableEq, Repr

variable {χ ρ : Type} (size : χ → ℕ) (row : χ → ℕ → ρ)

def chunkRows (chunk : χ) : List ρ := (List.range (size chunk)).map (row chunk)

/-- The rows that a nested loop over the chunks visits. -/
def rows (chunks : List χ) : List ρ := chunks.flatMap (chunkRows size row)

def lastRows (chunks : List χ) : List ρ :=
  (chunks.getLast?.map (chunkRows size row)).getD []

namespace Cursor

def initial : Cursor χ := ⟨none, 0⟩

def usedUp (c : Cursor χ) : Bool := c.current.all fun chunk => size chunk ≤ c.index

def unread (c : Cursor χ) : List ρ :=
  match c.current with
  | none => []
  | some chunk => (chunkRows size row chunk).drop c.index

def pending (c : Cursor χ) (rest : List χ) : List ρ := c.unread size row ++ rows size row rest

def advance (c : Cursor χ) (rest : List χ) : Option ρ × Cursor χ × List χ :=
  if c.usedUp size then
    match rest with
    | [] => (none, ⟨c.current, 0⟩, [])
    | chunk :: rest => (some (row chunk 0), ⟨some chunk, 1⟩, rest)
  else
    match c.current with
    | none => (none, c, rest)
    | some chunk => (some (row chunk c.index), ⟨some chunk, c.index + 1⟩, rest)

end Cursor

theorem rows_length (chunks : List χ) : (rows size row chunks).length = (chunks.map size).sum := by
  simp [rows, chunkRows, List.length_flatMap]

theorem rows_one {chunk : χ} (h : size chunk = 1) : rows size row [chunk] = [row chunk 0] := by
  simp [rows, chunkRows, h]

theorem rows_append (first second : List χ) :
    rows size row (first ++ second) = rows size row first ++ rows size row second :=
  List.flatMap_append

theorem lastRows_concat (init : List χ) (chunk : χ) :
    lastRows size row (init ++ [chunk]) = chunkRows size row chunk := by
  simp [lastRows]

theorem lastRows_suffix (chunks : List χ) : lastRows size row chunks <:+ rows size row chunks := by
  rcases List.eq_nil_or_concat chunks with rfl | ⟨init, chunk, rfl⟩
  · exact List.suffix_rfl
  · rw [List.concat_eq_append, lastRows_concat, rows_append]
    simp [rows]

theorem rows_map {size row} {f : χ → χ} {row' : χ → ℕ → ρ} {chunks : List χ}
    (sizes : ∀ chunk ∈ chunks, size (f chunk) = size chunk)
    (same : ∀ chunk ∈ chunks, ∀ i, row (f chunk) i = row' chunk i) :
    rows size row (chunks.map f) = rows size row' chunks := by
  rw [rows, rows, List.flatMap_map]
  refine List.flatMap_congr fun chunk h => ?_
  rw [chunkRows, chunkRows, sizes chunk h]
  exact List.map_congr_left fun i _ => same chunk h i

theorem chunkRows_drop {chunk : χ} {i : ℕ} (h : i < size chunk) :
    (chunkRows size row chunk).drop i = row chunk i :: (chunkRows size row chunk).drop (i + 1) := by
  have bound : i < (chunkRows size row chunk).length := by simpa [chunkRows] using h
  rw [List.drop_eq_getElem_cons bound]
  simp [chunkRows]

/-- Every empty chunk comes after a row that ends the walk, one of those `ahead` or of the
chunks before it. -/
def Guarded (ends : ρ → Prop) (ahead : List ρ) (chunks : List χ) : Prop :=
  ∀ before chunk after, chunks = before ++ chunk :: after → size chunk = 0 →
    ∃ r ∈ ahead ++ rows size row before, ends r

section Guarded

variable {size row} {ends : ρ → Prop} {ahead : List ρ} {chunks : List χ}

theorem guarded_nil : Guarded size row ends ahead [] := by
  intro before chunk after split
  cases before <;> cases split

theorem not_guarded_of_empty {chunk : χ} (empty : size chunk = 0) :
    ¬ Guarded size row ends [] (chunk :: chunks) := by
  intro guarded
  obtain ⟨r, mem, -⟩ := guarded [] chunk chunks rfl empty
  cases mem

theorem guarded_of_ends {r : ρ} (h : ends r) : Guarded size row ends (r :: ahead) chunks :=
  fun _ _ _ _ _ => ⟨r, List.mem_cons_self, h⟩

theorem guarded_cons {r : ρ} (h : ¬ ends r) :
    Guarded size row ends (r :: ahead) chunks ↔ Guarded size row ends ahead chunks := by
  simp [Guarded, h]

theorem guarded_chunk {chunk : χ} (nonempty : size chunk ≠ 0) :
    Guarded size row ends ahead (chunk :: chunks) ↔
      Guarded size row ends (ahead ++ chunkRows size row chunk) chunks := by
  have further : ∀ before, ahead ++ rows size row (chunk :: before) =
      ahead ++ chunkRows size row chunk ++ rows size row before := by
    intro before
    rw [rows, List.flatMap_cons, List.append_assoc, rows]
  constructor
  · intro guarded before other after split empty
    have found := guarded (chunk :: before) other after (by rw [split, List.cons_append]) empty
    rwa [further] at found
  · intro guarded before other after split empty
    cases before with
    | nil =>
      cases split
      exact absurd empty nonempty
    | cons first before =>
      obtain ⟨rfl, later⟩ := List.cons.inj split
      rw [further]
      exact guarded before other after later empty

end Guarded

namespace Cursor

theorem advance_nil {c : Cursor χ} (h : c.usedUp size = true) :
    c.advance size row [] = (none, ⟨c.current, 0⟩, []) := by
  simp [advance, h]

theorem advance_cons {c : Cursor χ} (h : c.usedUp size = true) (chunk : χ) (rest : List χ) :
    c.advance size row (chunk :: rest) = (some (row chunk 0), ⟨some chunk, 1⟩, rest) := by
  simp [advance, h]

theorem advance_current {c : Cursor χ} {chunk : χ} (h : c.usedUp size = false)
    (current : c.current = some chunk) (rest : List χ) :
    c.advance size row rest = (some (row chunk c.index), ⟨some chunk, c.index + 1⟩, rest) := by
  simp [advance, h, current]

theorem advance_rest (c : Cursor χ) (rest : List χ) :
    (c.advance size row rest).2.2 = if c.usedUp size then rest.tail else rest := by
  unfold advance
  split
  · cases rest <;> rfl
  · split <;> rfl

theorem unread_of_usedUp {c : Cursor χ} (h : c.usedUp size = true) : c.unread size row = [] := by
  cases current : c.current with
  | none => simp [unread, current]
  | some chunk =>
    have bound : size chunk ≤ c.index := by simpa [usedUp, current] using h
    simp [unread, current, chunkRows, bound]

theorem pending_of_unused {c : Cursor χ} {chunk : χ} (current : c.current = some chunk)
    (h : c.usedUp size = false) (rest : List χ) :
    c.pending size row rest =
      row chunk c.index :: pending size row ⟨some chunk, c.index + 1⟩ rest := by
  have bound : c.index < size chunk := by simpa [usedUp, current] using h
  simp [pending, unread, current, chunkRows_drop size row bound]

theorem pending_of_chunk {c : Cursor χ} (h : c.usedUp size = true) {chunk : χ}
    (nonempty : 0 < size chunk) (rest : List χ) :
    c.pending size row (chunk :: rest) = row chunk 0 :: pending size row ⟨some chunk, 1⟩ rest := by
  rw [pending, unread_of_usedUp size row h, List.nil_append, rows, List.flatMap_cons]
  have whole := chunkRows_drop size row nonempty
  rw [List.drop_zero] at whole
  rw [whole]
  rfl

theorem advance_pending {c : Cursor χ} {rest : List χ} (nonempty : ∀ chunk ∈ rest, 0 < size chunk) :
    c.pending size row rest =
      ((c.advance size row rest).1.map fun r =>
        r :: (c.advance size row rest).2.1.pending size row
          (c.advance size row rest).2.2).getD [] := by
  cases h : c.usedUp size with
  | true =>
    cases rest with
    | nil => simp [advance_nil size row h, pending, unread_of_usedUp size row h, rows]
    | cons chunk rest =>
      rw [advance_cons size row h]
      exact pending_of_chunk size row h (nonempty chunk List.mem_cons_self) rest
  | false =>
    cases current : c.current with
    | none => simp [usedUp, current] at h
    | some chunk =>
      rw [advance_current size row h current]
      exact pending_of_unused size row current h rest

theorem advance_head {c : Cursor χ} {rest : List χ} (nonempty : ∀ chunk ∈ rest, 0 < size chunk) :
    (c.advance size row rest).1 = (c.pending size row rest).head? := by
  rw [advance_pending size row nonempty]
  cases (c.advance size row rest).1 <;> rfl

theorem advance_getLast (c : Cursor χ) (rest : List χ) :
    ((c.advance size row rest).2.1.current.toList ++ (c.advance size row rest).2.2).getLast? =
      (c.current.toList ++ rest).getLast? := by
  cases h : c.usedUp size with
  | true =>
    cases rest with
    | nil => rw [advance_nil size row h]
    | cons chunk rest =>
      rw [advance_cons size row h]
      simp [List.getLast?_append, List.getLast?_cons]
  | false =>
    cases current : c.current with
    | none => simp [usedUp, current] at h
    | some chunk => rw [advance_current size row h current, Option.toList_some]

/-- At the end of the sequence the cursor goes back to the start of the last chunk. -/
theorem advance_later {c : Cursor χ} {rest : List χ} (nonempty : ∀ chunk ∈ rest, 0 < size chunk) :
    (c.advance size row rest).2.1.pending size row (c.advance size row rest).2.2 =
      if c.pending size row rest = [] then lastRows size row (c.current.toList ++ rest)
      else (c.pending size row rest).tail := by
  have pending := advance_pending (c := c) size row nonempty
  cases first : (c.advance size row rest).1 with
  | some r =>
    rw [first] at pending
    simp [pending]
  | none =>
    rw [first] at pending
    have nothing : c.pending size row rest = [] := pending
    rw [if_pos nothing]
    cases h : c.usedUp size with
    | false =>
      cases current : c.current with
      | none => simp [usedUp, current] at h
      | some chunk => simp [advance_current size row h current] at first
    | true =>
      cases rest with
      | cons chunk rest => simp [advance_cons size row h] at first
      | nil =>
        rw [advance_nil size row h]
        cases c.current <;> simp [Cursor.pending, unread, rows, lastRows]

end Cursor

end PgAnalytics.BatchCursor
