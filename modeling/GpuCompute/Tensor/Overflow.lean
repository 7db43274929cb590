import GpuCompute.Lib.Checked
import GpuCompute.Tensor.Strides

/-!
# Overflow in shapes

A build with overflow checks stops when the arithmetic on a shape overflows.  The elements are
counted from the first dimension on and the strides from the last one, so that a product on the way
can be huge although a later dimension is zero and the tensor is empty.  The strides are computed
after VRAM has been taken.

* `totalElementsChecked`, `sizeBytesChecked`, `computeStridesChecked` : the arithmetic with checks.
* `TensorEngine.allocateTensorChecked` : tensor allocation with these.
* `leadingProduct` : the product of the dimensions before the first zero.
* `allocateTensorChecked_eq_some` : without an overflow the checks change nothing.
* `isSome_allocateTensorChecked_iff` : when there is no overflow.
-/

namespace GpuCompute

open Systems VramAllocator

namespace TensorDescriptor

/-- The number of elements, checked at every step. -/
def totalElementsChecked (shape : List UInt64) : Option UInt64 := checkedProd 1 shape

/-- The size in bytes, checked. -/
def sizeBytesChecked (numElements : UInt64) (dtype : DType) : Option UInt64 :=
  if dtype = .int4 then (checkedAdd numElements 1).map (· / 2)
  else checkedMul numElements dtype.elementSize

/-- One iteration of `computeStrides`, checked: the strides so far and the running product. -/
def strideStep (s : List UInt64 × UInt64) (dim : UInt64) : Option (List UInt64 × UInt64) :=
  (checkedMul s.2 dim).map fun stride => (s.1 ++ [s.2], stride)

/-- The strides, checked at every step. -/
def computeStridesChecked (shape : List UInt64) : Option (List UInt64) :=
  (shape.reverse.foldlM strideStep ([], 1)).map fun s => s.1.reverse

end TensorDescriptor

/-- Allocate a tensor in a build that stops when the arithmetic on the shape overflows: `none` says
that it has stopped. -/
def TensorEngine.allocateTensorChecked (engine : TensorEngine) (allocator : VramAllocator)
    (name : String) (shape : List UInt64) (dtype : DType) :
    Option (Option TensorDescriptor × TensorEngine × VramAllocator) :=
  (TensorDescriptor.totalElementsChecked shape).bind fun numElements =>
  (TensorDescriptor.sizeBytesChecked numElements dtype).bind fun sizeBytes =>
  match allocator.allocate sizeBytes with
  | (none, allocator) => some (none, engine, allocator)
  | (some allocation, allocator) =>
    -- VRAM has been taken already
    (TensorDescriptor.computeStridesChecked shape).map fun strides =>
    (some { name, shape, strides, dtype, allocation, numElements, sizeBytes },
      { totalAllocated := engine.totalAllocated + sizeBytes
        tensorCount := engine.tensorCount + 1 }, allocator)

/-- The product of the dimensions before the first zero. -/
def leadingProduct (shape : List UInt64) : ℕ :=
  ((shape.map UInt64.toNat).takeWhile (· ≠ 0)).prod

/-! ### The three computations -/

namespace TensorDescriptor

theorem isSome_checkedProd_one_iff (shape : List UInt64) :
    (checkedProd 1 shape).isSome ↔ leadingProduct shape < 2 ^ 64 := by
  rw [isSome_checkedProd_iff, leadingProduct, ← forall_prod_take_lt_iff (by decide)]
  simp [List.map_take]

theorem isSome_totalElementsChecked_iff (shape : List UInt64) :
    (totalElementsChecked shape).isSome ↔ leadingProduct shape < 2 ^ 64 :=
  isSome_checkedProd_one_iff shape

theorem totalElementsChecked_eq_some {shape : List UInt64} {n : UInt64}
    (h : totalElementsChecked shape = some n) : n = totalElements shape :=
  (checkedProd_eq_some_iff.1 h).2

/-- The running product of the strides is checked like a product from the last dimension on. -/
theorem isSome_computeStridesChecked_iff (shape : List UInt64) :
    (computeStridesChecked shape).isSome ↔ leadingProduct shape.reverse < 2 ^ 64 := by
  have hproduct : (shape.reverse.foldlM strideStep ([], 1)).map Prod.snd =
      checkedProd 1 shape.reverse := by
    refine map_foldlM (fun s dim => ?_) shape.reverse ([], 1)
    rw [strideStep, Option.map_map]
    exact Option.map_id'
  rw [← isSome_checkedProd_one_iff, ← hproduct, computeStridesChecked, Option.isSome_map,
    Option.isSome_map]

theorem computeStridesChecked_eq_some {shape strides : List UInt64}
    (h : computeStridesChecked shape = some strides) : strides = computeStrides shape := by
  obtain ⟨s, hs, rfl⟩ := Option.map_eq_some_iff.1 h
  rw [eq_foldl_of_foldlM (f := fun s dim => (s.1 ++ [s.2], s.2 * dim)) ?_ hs]
  · rfl
  · rintro s dim s' hs'
    obtain ⟨stride, hstride, rfl⟩ := Option.map_eq_some_iff.1 hs'
    rw [(checkedMul_eq_some_iff.1 hstride).2]

theorem sizeBytesChecked_eq_some {n size : UInt64} {dtype : DType}
    (h : sizeBytesChecked n dtype = some size) :
    size = if dtype = .int4 then (n + 1) / 2 else n * dtype.elementSize := by
  unfold sizeBytesChecked at h
  split_ifs at h ⊢
  · obtain ⟨m, hm, rfl⟩ := Option.map_eq_some_iff.1 h
    rw [(checkedAdd_eq_some_iff.1 hm).2]
  · exact (checkedMul_eq_some_iff.1 h).2

theorem toNat_of_sizeBytesChecked {n size : UInt64} {dtype : DType}
    (h : sizeBytesChecked n dtype = some size) : size.toNat = dtype.bytes n.toNat := by
  unfold sizeBytesChecked at h
  unfold DType.bytes
  split_ifs at h ⊢
  · obtain ⟨m, hm, rfl⟩ := Option.map_eq_some_iff.1 h
    obtain ⟨hfits, rfl⟩ := checkedAdd_eq_some_iff.1 hm
    have hsum : (n + 1).toNat = n.toNat + 1 := toNat_add_of_lt hfits
    rw [UInt64.toNat_div, hsum]
    rfl
  · obtain ⟨hfits, rfl⟩ := checkedMul_eq_some_iff.1 h
    exact toNat_mul_of_lt hfits

/-- When the bytes fit, only the rounding of packed elements can overflow. -/
theorem isSome_sizeBytesChecked_iff {n : UInt64} {dtype : DType}
    (hbytes : dtype.bytes n.toNat < 2 ^ 64) :
    (sizeBytesChecked n dtype).isSome ↔ ¬ (dtype = .int4 ∧ n.toNat = 2 ^ 64 - 1) := by
  have hlt := n.toNat_lt
  have hone : (1 : UInt64).toNat = 1 := rfl
  unfold sizeBytesChecked
  unfold DType.bytes at hbytes
  split_ifs at hbytes ⊢ with hint4
  · simp only [Option.isSome_map, Option.isSome_iff_exists, checkedAdd_eq_some_iff,
      exists_and_left, exists_eq, and_true, machineWord_toNat_uint64, machineWord_bits_uint64,
      hone, hint4, true_and]
    omega
  · simp only [Option.isSome_iff_exists, checkedMul_eq_some_iff, exists_and_left, exists_eq,
      and_true, machineWord_toNat_uint64, machineWord_bits_uint64, hint4, false_and,
      not_false_iff, iff_true]
    exact hbytes

end TensorDescriptor

/-! ### Tensor allocation -/

open TensorDescriptor

section

variable {engine : TensorEngine} {allocator : VramAllocator} {name : String}
  {shape : List UInt64} {dtype : DType}

/-- **Without an overflow the checks change nothing.** -/
theorem allocateTensorChecked_eq_some
    {r : Option TensorDescriptor × TensorEngine × VramAllocator}
    (h : engine.allocateTensorChecked allocator name shape dtype = some r) :
    r = engine.allocateTensor allocator name shape dtype := by
  unfold TensorEngine.allocateTensorChecked at h
  obtain ⟨n, hn, h⟩ := Option.bind_eq_some_iff.1 h
  obtain ⟨size, hsize, h⟩ := Option.bind_eq_some_iff.1 h
  obtain rfl := totalElementsChecked_eq_some hn
  have hbytes := sizeBytesChecked_eq_some hsize
  unfold TensorEngine.allocateTensor
  dsimp only
  rw [← hbytes]
  generalize allocator.allocate size = allocated at h ⊢
  rcases allocated with ⟨g | g, a⟩
  · exact (Option.some.inj h).symm
  · obtain ⟨strides, hstrides, rfl⟩ := Option.map_eq_some_iff.1 h
    rw [computeStridesChecked_eq_some hstrides]

/-- **When there is no overflow** although the elements and the bytes can be counted: the dimensions
before the first zero have a product that fits, and so have those behind the last zero unless there
is no room for the tensor; and packed elements can be rounded up. -/
theorem isSome_allocateTensorChecked_iff (hcount : exactElements shape < 2 ^ 64)
    (hbytes : dtype.bytes (exactElements shape) < 2 ^ 64) :
    (engine.allocateTensorChecked allocator name shape dtype).isSome ↔
      leadingProduct shape < 2 ^ 64 ∧
      ¬ (dtype = .int4 ∧ exactElements shape = 2 ^ 64 - 1) ∧
      (leadingProduct shape.reverse < 2 ^ 64 ∨
        NoRoomFor allocator (dtype.bytes (exactElements shape))) := by
  have hexact : (totalElements shape).toNat = exactElements shape := by
    rw [toNat_totalElements, Nat.mod_eq_of_lt hcount]
  rw [← isSome_totalElementsChecked_iff, ← isSome_computeStridesChecked_iff]
  unfold TensorEngine.allocateTensorChecked
  cases hn : totalElementsChecked shape with
  | none => simp
  | some n =>
    obtain rfl := totalElementsChecked_eq_some hn
    rw [← hexact] at hbytes ⊢
    rw [← isSome_sizeBytesChecked_iff hbytes, Option.bind_some]
    cases hsize : sizeBytesChecked (totalElements shape) dtype with
    | none => simp
    | some size =>
      have hroom : NoRoomFor allocator (dtype.bytes (totalElements shape).toNat) ↔
          (allocator.allocate size).1 = none := by
        rw [← toNat_of_sizeBytesChecked hsize, noRoomFor_iff, allocate_eq_none_iff]
      rw [hroom, Option.bind_some]
      -- the strides are computed only when there is room
      rcases allocator.allocate size with ⟨g | g, a⟩
      · simp
      · simp

end

/-- A tensor of two dimensions. -/
theorem isSome_allocateTensorChecked_two_three :
    (TensorEngine.new.allocateTensorChecked (detectAndInit GpuRegs.plain 0 0 fun _ => 2).1 "w"
      [2, 3] .float32).isSome :=
  (isSome_allocateTensorChecked_iff (by decide) (by decide)).2
    ⟨by decide, by decide, .inl (by decide)⟩

/-- An empty tensor whose strides overflow: nothing is needed for it, but it stops the driver. -/
theorem allocateTensorChecked_empty :
    exactElements [0, 0x10000000000, 0x10000000000] = 0 ∧
      TensorEngine.new.allocateTensorChecked (detectAndInit GpuRegs.plain 0 0 fun _ => 2).1 "w"
        [0, 0x10000000000, 0x10000000000] .float32 = none := by
  decide

end GpuCompute
