import PgAnalytics.CellReader

/-! Arrays of Arrow with their buffers: values, offsets into the array of all elements, bits
of validity. The length is in the type and the offsets stay within the elements, so that no
read goes past an end. A slice shares the elements and holds the entries of its range. -/

namespace PgAnalytics.ArrowArrays
open CellReader

def shift {n k start : ℕ} (fits : start + k ≤ n) (index : Fin k) : Fin n :=
  ⟨start + index, by omega⟩

def nested : List ArrayType := [.null, .list, .fixedSizeList, .struct]

/-- An array of `n` entries. A bit of validity is false where the entry is null; an array
without the bits has no null, save the array of nulls alone. -/
inductive ArrowArray (σ : Type) : ℕ → Type where
  | null (n : ℕ) : ArrowArray σ n
  | flat {n : ℕ} (dataType : DataType) (scalar : dataType.arrayType ∉ nested) (values : Fin n → σ)
    (validity : Option (Fin n → Bool)) : ArrowArray σ n
  | list {n m : ℕ} (offsets : Fin (n + 1) → ℕ)
    (ordered : ∀ i : Fin n, offsets i.castSucc ≤ offsets i.succ) (within : ∀ i, offsets i ≤ m)
    (values : ArrowArray σ m) (validity : Option (Fin n → Bool)) : ArrowArray σ n
  | fixedSizeList {n m : ℕ} (size : ℕ) (within : n * size ≤ m) (values : ArrowArray σ m)
    (validity : Option (Fin n → Bool)) : ArrowArray σ n
  | struct {n : ℕ} (names : List String) (columns : Fin names.length → ArrowArray σ n)
    (validity : Option (Fin n → Bool)) : ArrowArray σ n

theorem bounds_fit {n k start : ℕ} (fits : start + k ≤ n) : start + (k + 1) ≤ n + 1 := by omega

theorem ordered_shift {n k start : ℕ} {offsets : Fin (n + 1) → ℕ}
    (ordered : ∀ i : Fin n, offsets i.castSucc ≤ offsets i.succ) (fits : start + k ≤ n)
    (i : Fin k) :
    offsets (shift (bounds_fit fits) i.castSucc) ≤ offsets (shift (bounds_fit fits) i.succ) :=
  ordered (shift fits i)

theorem range_fits {n m : ℕ} {offsets : Fin (n + 1) → ℕ}
    (ordered : ∀ i : Fin n, offsets i.castSucc ≤ offsets i.succ) (within : ∀ i, offsets i ≤ m)
    (i : Fin n) : offsets i.castSucc + (offsets i.succ - offsets i.castSucc) ≤ m := by
  have first := ordered i
  have last := within i.succ
  omega

theorem fixed_fits {n m size start k : ℕ} (within : n * size ≤ m) (fits : start + k ≤ n) :
    start * size + k * size ≤ m := by
  rw [← Nat.add_mul]
  exact Nat.le_trans (Nat.mul_le_mul_right size fits) within

theorem fixed_fits_one {n m size : ℕ} (within : n * size ≤ m) (i : Fin n) :
    i * size + size ≤ m := by
  simpa using fixed_fits within (show i.val + 1 ≤ n from i.isLt)

namespace ArrowArray

variable {σ : Type} {n k start : ℕ}

def dataType : {n : ℕ} → ArrowArray σ n → DataType
  | _, .null _ => .null
  | _, .flat t _ _ _ => t
  | _, .list _ _ _ values _ => .list values.dataType
  | _, .fixedSizeList size _ values _ => .fixedSizeList values.dataType size
  | _, .struct names columns _ => .struct (List.ofFn fun j => (names.get j, (columns j).dataType))

def nulls : {n : ℕ} → ArrowArray σ n → Option (Fin n → Bool)
  | _, .null _ => none
  | _, .flat _ _ _ validity => validity
  | _, .list _ _ _ _ validity => validity
  | _, .fixedSizeList _ _ _ validity => validity
  | _, .struct _ _ validity => validity

/-- `nulls().is_some() && is_null(index)`. -/
def isNull (array : ArrowArray σ n) (index : Fin n) : Bool :=
  array.nulls.any fun valid => !valid index

def slice : {n : ℕ} → ArrowArray σ n → (start k : ℕ) → start + k ≤ n → ArrowArray σ k
  | _, .null _, _, k, _ => .null k
  | _, .flat t scalar values validity, _, _, fits =>
    .flat t scalar (values ∘ shift fits) (validity.map (· ∘ shift fits))
  | _, .list offsets ordered within values validity, _, _, fits =>
    .list (fun i => offsets (shift (bounds_fit fits) i)) (ordered_shift ordered fits)
      (fun i => within (shift (bounds_fit fits) i)) values (validity.map (· ∘ shift fits))
  | _, .fixedSizeList size within values validity, start, k, fits =>
    .fixedSizeList size (Nat.le_refl _)
      (values.slice (start * size) (k * size) (fixed_fits within fits))
      (validity.map (· ∘ shift fits))
  | _, .struct names columns validity, start, k, fits =>
    .struct names (fun j => (columns j).slice start k fits) (validity.map (· ∘ shift fits))

/-- The value at an index, whatever the buffers hold besides. -/
def valueAt : {n : ℕ} → ArrowArray σ n → Fin n → Value σ
  | _, .null _, _ => .null
  | _, .flat _ _ values validity, i =>
    if validity.any fun valid => !valid i then .null else .single (values i)
  | _, .list _ ordered within values validity, i =>
    if validity.any fun valid => !valid i then .null
    else .list (List.ofFn fun j => values.valueAt (shift (range_fits ordered within i) j))
  | _, .fixedSizeList _ within values validity, i =>
    if validity.any fun valid => !valid i then .null
    else .list (List.ofFn fun j => values.valueAt (shift (fixed_fits_one within i) j))
  | _, .struct _ columns validity, i =>
    if validity.any fun valid => !valid i then .null
    else .struct (List.ofFn fun j => (columns j).valueAt i)

@[simp] theorem dataType_slice (array : ArrowArray σ n) (fits : start + k ≤ n) :
    (array.slice start k fits).dataType = array.dataType := by
  induction array generalizing start k with
  | null | flat | list => rfl
  | fixedSizeList size within values validity ih => rw [slice, dataType, dataType, ih]
  | struct names columns validity ih => simp only [slice, dataType, ih]

theorem any_map_comp {α β : Type} (validity : Option (α → Bool)) (f : β → α) (i : β) :
    ((validity.map (· ∘ f)).any fun valid => !valid i) =
      validity.any fun valid => !valid (f i) := by
  cases validity <;> rfl

theorem valueAt_slice (array : ArrowArray σ n) (fits : start + k ≤ n) (i : Fin k) :
    (array.slice start k fits).valueAt i = array.valueAt (shift fits i) := by
  induction array generalizing start k with
  | null => rfl
  | flat t scalar values validity => rw [slice, valueAt, valueAt, any_map_comp]; rfl
  | list offsets ordered within values validity =>
    rw [slice, valueAt, valueAt, any_map_comp]
    rfl
  | fixedSizeList size within values validity ih =>
    rw [slice, valueAt, valueAt, any_map_comp]
    have place (j : Fin size) : shift (fixed_fits within fits)
        (shift (fixed_fits_one (Nat.le_refl _) i) j) =
          shift (fixed_fits_one within (shift fits i)) j := by
      simp only [shift, Fin.mk.injEq]
      rw [← Nat.add_assoc, ← Nat.add_mul]
    simp only [ih, place]
  | struct names columns validity ih =>
    rw [slice, valueAt, valueAt, any_map_comp]
    simp only [ih]

end ArrowArray

end PgAnalytics.ArrowArrays
