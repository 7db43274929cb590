import GpuCompute.Lib.MixedRadix
import GpuCompute.Tensor.Basic
import Mathlib.Algebra.Order.BigOperators.GroupWithZero.List

/-!
# Strides

The strides of a tensor are the running products of its dimensions, from the last one on.  They are
the weights of a mixed-radix numeral with the dimensions as radices, so that the indices of a tensor
number its elements row by row.

* `TensorDescriptor.runningProduct` : the product that `computeStrides` carries along.
* `TensorDescriptor.offset`, `TensorDescriptor.IsIndex` : the number of an element, and the indices
  of a shape.
* `RowMajor` : the strides number the elements row by row.
* `computeStrides_cons` : the strides of a shape, by recursion.
* `map_toNat_computeStrides` : the strides are the weights of the dimensions.
* `rowMajor_allocateTensor` : the strides of every tensor number its elements row by row.
-/

namespace GpuCompute

open Systems VramAllocator

@[simp] theorem exactElements_cons (dim : UInt64) (shape : List UInt64) :
    exactElements (dim :: shape) = dim.toNat * exactElements shape := by
  rw [exactElements, List.map_cons, List.prod_cons, exactElements]

namespace TensorDescriptor

/-- The product of the dimensions, from the last one on. -/
def runningProduct (shape : List UInt64) : UInt64 := shape.foldr (fun dim stride => stride * dim) 1

/-- The number of the element at an index. -/
def offset (strides : List UInt64) (idx : List ℕ) : ℕ :=
  MixedRadix.value (strides.map UInt64.toNat) idx

/-- An index of a shape has a number below each dimension. -/
def IsIndex (shape : List UInt64) (idx : List ℕ) : Prop :=
  List.Forall₂ (fun i dim => i < dim.toNat) idx shape

theorem isIndex_iff_digits {shape : List UInt64} {idx : List ℕ} :
    IsIndex shape idx ↔ MixedRadix.Digits (shape.map UInt64.toNat) idx :=
  List.forall₂_map_right_iff.symm

/-! ### The strides of a shape -/

/-- The loop of `computeStrides` carries the strides so far and the running product. -/
theorem foldl_computeStrides (shape : List UInt64) :
    shape.reverse.foldl (fun (strides, stride) dim => (strides ++ [stride], stride * dim))
        (([] : List UInt64), (1 : UInt64)) =
      ((computeStrides shape).reverse, runningProduct shape) := by
  have hfst : ∀ l : List UInt64, (computeStrides l).reverse =
      (l.reverse.foldl (fun (strides, stride) dim => (strides ++ [stride], stride * dim))
        (([] : List UInt64), (1 : UInt64))).1 := by
    intro l
    rw [computeStrides, List.reverse_reverse]
  rw [hfst, List.foldl_reverse]
  refine Prod.ext rfl ?_
  induction shape with
  | nil => rfl
  | cons dim shape ih =>
    rw [List.foldr_cons, runningProduct, List.foldr_cons]
    exact congrArg (· * dim) ih

theorem computeStrides_cons (dim : UInt64) (shape : List UInt64) :
    computeStrides (dim :: shape) = runningProduct shape :: computeStrides shape := by
  have hloop := foldl_computeStrides shape
  unfold computeStrides
  rw [List.reverse_cons, List.foldl_append, hloop]
  simp [computeStrides]

theorem toNat_runningProduct (shape : List UInt64) :
    (runningProduct shape).toNat = exactElements shape % 2 ^ 64 := by
  induction shape with
  | nil => rfl
  | cons dim shape ih =>
    rw [runningProduct, List.foldr_cons, UInt64.toNat_mul, ← runningProduct, ih, Nat.mod_mul_mod,
      exactElements_cons, Nat.mul_comm]

theorem length_computeStrides (shape : List UInt64) :
    (computeStrides shape).length = shape.length := by
  induction shape with
  | nil => rfl
  | cons dim shape ih => rw [computeStrides_cons, List.length_cons, List.length_cons, ih]

theorem map_toNat_computeStrides {shape : List UInt64}
    (hfits : ∀ k, exactElements (shape.drop k) < 2 ^ 64) :
    (computeStrides shape).map UInt64.toNat = MixedRadix.weights (shape.map UInt64.toNat) := by
  induction shape with
  | nil => rfl
  | cons dim shape ih =>
    have hhead : exactElements shape < 2 ^ 64 := hfits 1
    rw [computeStrides_cons, List.map_cons, List.map_cons, MixedRadix.weights,
      ih fun k => hfits (k + 1), toNat_runningProduct, Nat.mod_eq_of_lt hhead]
    rfl

end TensorDescriptor

theorem exactElements_drop_le {shape : List UInt64} (hpos : ∀ dim ∈ shape, 0 < dim) (k : ℕ) :
    exactElements (shape.drop k) ≤ exactElements shape := by
  have hsplit := List.prod_take_mul_prod_drop (shape.map UInt64.toNat) k
  have htake : 0 < ((shape.map UInt64.toNat).take k).prod := by
    refine List.prod_pos fun n hn => ?_
    obtain ⟨dim, hdim, rfl⟩ := List.mem_map.1 (List.mem_of_mem_take hn)
    exact UInt64.lt_iff_toNat_lt.1 (hpos dim hdim)
  rw [exactElements, exactElements, ← hsplit, List.map_drop]
  exact Nat.le_mul_of_pos_left _ htake

/-! ### Row-major order -/

open TensorDescriptor in
/-- The strides number the elements of a shape row by row. -/
structure RowMajor (shape strides : List UInt64) (numElements : UInt64) : Prop where
  length : strides.length = shape.length
  /-- Every element has one index. -/
  bijOn : Set.BijOn (offset strides) {idx | IsIndex shape idx} (Set.Iio numElements.toNat)
  /-- Elements are numbered in the lexicographic order of their indices. -/
  strictMono : ∀ idx idx', IsIndex shape idx → IsIndex shape idx' → idx < idx' →
    offset strides idx < offset strides idx'
  /-- No product on the way to the strides reaches `2^64`. -/
  product_lt : ∀ k, exactElements (shape.drop k) < 2 ^ 64
  /-- No term on the way to the number of an element does. -/
  term_lt : ∀ idx, IsIndex shape idx → ∀ p ∈ idx.zip strides, p.1 * p.2.toNat < 2 ^ 64
  /-- And no partial sum. -/
  sum_lt : ∀ idx, IsIndex shape idx → ∀ k, offset (strides.take k) (idx.take k) < 2 ^ 64

namespace TensorDescriptor

theorem rowMajor_computeStrides {shape : List UInt64} (hpos : ∀ dim ∈ shape, 0 < dim)
    (hfits : exactElements shape < 2 ^ 64) :
    RowMajor shape (computeStrides shape) (totalElements shape) := by
  have hproduct : ∀ k, exactElements (shape.drop k) < 2 ^ 64 := fun k =>
    (exactElements_drop_le hpos k).trans_lt hfits
  have hweights := map_toNat_computeStrides hproduct
  have hcount : (totalElements shape).toNat = exactElements shape := by
    rw [toNat_totalElements, Nat.mod_eq_of_lt hfits]
  have hlt : ∀ idx, IsIndex shape idx → offset (computeStrides shape) idx < 2 ^ 64 := by
    intro idx hidx
    rw [offset, hweights]
    exact (MixedRadix.value_lt (isIndex_iff_digits.1 hidx)).trans hfits
  refine ⟨length_computeStrides shape, ?_, ?_, hproduct, ?_, ?_⟩
  · have hbij := MixedRadix.bijOn_value (shape.map UInt64.toNat)
    simp only [← isIndex_iff_digits, ← hweights] at hbij
    rw [hcount]
    exact hbij
  · intro idx idx' hidx hidx' hlex
    rw [offset, offset, hweights]
    exact MixedRadix.value_strictMono (isIndex_iff_digits.1 hidx) (isIndex_iff_digits.1 hidx') hlex
  · rintro idx hidx ⟨i, stride⟩ hmem
    refine lt_of_le_of_lt ?_ (hlt idx hidx)
    refine MixedRadix.mul_le_value (p := (i, stride.toNat)) ?_
    rw [List.zip_map_right]
    exact List.mem_map.2 ⟨_, hmem, rfl⟩
  · intro idx hidx k
    refine lt_of_le_of_lt ?_ (hlt idx hidx)
    rw [offset, List.map_take]
    exact MixedRadix.value_take_le _ idx k

end TensorDescriptor

theorem TensorEngine.allocateTensor_fields {engine : TensorEngine} {allocator : VramAllocator}
    {name : String} {shape : List UInt64} {dtype : DType} {t : TensorDescriptor}
    (h : (engine.allocateTensor allocator name shape dtype).1 = some t) :
    t.shape = shape ∧ t.strides = TensorDescriptor.computeStrides shape ∧
      t.numElements = TensorDescriptor.totalElements shape ∧ t.dtype = dtype :=
  (allocateTensor_some (Prod.ext h rfl)).1

/-- **The strides of every tensor number its elements row by row.** -/
theorem rowMajor_allocateTensor {engine : TensorEngine} {allocator : VramAllocator}
    {name : String} {shape : List UInt64} {dtype : DType} {t : TensorDescriptor}
    (ht : (engine.allocateTensor allocator name shape dtype).1 = some t)
    (hpos : ∀ dim ∈ shape, 0 < dim) (hfits : exactElements shape < 2 ^ 64) :
    RowMajor shape t.strides t.numElements := by
  obtain ⟨-, hstrides, hnum, -⟩ := TensorEngine.allocateTensor_fields ht
  rw [hstrides, hnum]
  exact TensorDescriptor.rowMajor_computeStrides hpos hfits

/-- A tensor of three dimensions. -/
theorem rowMajor_two_three_five :
    ∃ t, (TensorEngine.new.allocateTensor (detectAndInit GpuRegs.plain 0 0 fun _ => 2).1 "w"
        [2, 3, 5] .float32).1 = some t ∧
      t.strides = [15, 5, 1] ∧ RowMajor [2, 3, 5] t.strides t.numElements := by
  have hsome : (TensorEngine.new.allocateTensor (detectAndInit GpuRegs.plain 0 0 fun _ => 2).1 "w"
      [2, 3, 5] .float32).1.isSome := by decide
  obtain ⟨t, ht⟩ := Option.isSome_iff_exists.1 hsome
  refine ⟨t, ht, ?_, rowMajor_allocateTensor ht (by simp) (by decide)⟩
  rw [(TensorEngine.allocateTensor_fields ht).2.1]
  decide

end GpuCompute
