import Mathlib.Algebra.GroupWithZero.Nat
import Mathlib.Data.List.Basic
import Mathlib.Tactic.Common

/-! Slices of a text by byte offsets in its UTF-8 encoding. An offset that is
past the end or inside a character names no position, and a slice between
offsets that name the ends of a part is that part. -/

namespace PgAnalytics.ByteSlices

def byteLength (text : List Char) : ℕ := (text.map Char.utf8Size).sum

def splitAtByte : List Char → ℕ → Option (List Char × List Char)
  | text, 0 => some ([], text)
  | [], _ + 1 => none
  | c :: text, n + 1 =>
    if c.utf8Size ≤ n + 1 then
      (splitAtByte text (n + 1 - c.utf8Size)).map fun (before, after) => (c :: before, after)
    else none

/-- The text from byte `first` up to byte `last`. -/
def slice (text : List Char) (first last : ℕ) : Option (List Char) := do
  let (initial, _) ← splitAtByte text last
  let (_, middle) ← splitAtByte initial first
  return middle

@[simp] theorem byteLength_nil : byteLength [] = 0 := rfl

@[simp] theorem byteLength_cons (c : Char) (text : List Char) :
    byteLength (c :: text) = c.utf8Size + byteLength text := rfl

@[simp] theorem byteLength_append (a b : List Char) :
    byteLength (a ++ b) = byteLength a + byteLength b := by
  simp [byteLength]

@[simp] theorem splitAtByte_zero (text : List Char) : splitAtByte text 0 = some ([], text) := by
  cases text <;> rfl

theorem splitAtByte_append (before after : List Char) :
    splitAtByte (before ++ after) (byteLength before) = some (before, after) := by
  induction before with
  | nil => simp
  | cons c before ih =>
    have positive := c.utf8Size_pos
    obtain ⟨n, size⟩ : ∃ n, c.utf8Size + byteLength before = n + 1 :=
      ⟨c.utf8Size + byteLength before - 1, by omega⟩
    have rest : n + 1 - c.utf8Size = byteLength before := by omega
    rw [byteLength_cons, List.cons_append, size, splitAtByte, if_pos (by omega), rest, ih]
    rfl

theorem slice_append (before part after : List Char) :
    slice (before ++ part ++ after) (byteLength before) (byteLength (before ++ part)) =
      some part := by
  rw [slice, splitAtByte_append]
  show (splitAtByte (before ++ part) (byteLength before)).bind _ = _
  rw [splitAtByte_append]
  rfl

theorem slice_whole (text : List Char) : slice text 0 (byteLength text) = some text := by
  simpa using slice_append [] text []

end PgAnalytics.ByteSlices
