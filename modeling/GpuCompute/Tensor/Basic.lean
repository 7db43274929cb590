import GpuCompute.Memory.Basic
import Mathlib.Algebra.BigOperators.Group.List.Basic
import Mathlib.Algebra.Order.Group.Nat

/-!
# Tensor allocation

`TensorEngine.allocateTensor` computes the number of elements of a shape, the number of bytes they
take and asks the VRAM allocator for a block.  A `usize` is a 64-bit word here and all three
computations wrap: a shape of `2^64` elements has none, and its tensor gets an empty block.

`DType.bytes` is the exact size of a number of elements, and `Covers` says that the block of a
tensor covers it.  By `covers_iff` it does exactly when the shape fits, or the allocator has no room
for the block that is asked for.
-/

namespace GpuCompute

open Systems VramAllocator

/-- Data types of tensor elements. -/
inductive DType where
  | float32
  | float16
  | bfloat16
  | int8
  | int4
  deriving DecidableEq

/-- Bytes per element; `int4` is packed, with two elements in a byte. -/
def DType.elementSize : DType → UInt64
  | .float32 => 4
  | .float16 => 2
  | .bfloat16 => 2
  | .int8 => 1
  | .int4 => 1

/-- A tensor in VRAM. -/
structure TensorDescriptor where
  /-- Name, for debugging. -/
  name : String
  /-- The dimensions. -/
  shape : List UInt64
  /-- Strides in elements, row-major. -/
  strides : List UInt64
  /-- Data type. -/
  dtype : DType
  /-- The block of VRAM behind the tensor. -/
  allocation : GpuAllocation
  /-- Number of elements. -/
  numElements : UInt64
  /-- Size in bytes. -/
  sizeBytes : UInt64
  deriving DecidableEq

namespace TensorDescriptor

/-- Row-major strides: the product of the later dimensions, from the last dimension on. -/
def computeStrides (shape : List UInt64) : List UInt64 :=
  let (strides, _) := shape.reverse.foldl
    (fun (strides, stride) dim => (strides ++ [stride], stride * dim)) ([], 1)
  strides.reverse

/-- The number of elements. -/
def totalElements (shape : List UInt64) : UInt64 := shape.foldl (· * ·) 1

end TensorDescriptor

/-- The tensor manager, with the totals it keeps. -/
structure TensorEngine where
  /-- Bytes allocated for tensors. -/
  totalAllocated : UInt64
  /-- Number of tensors alive. -/
  tensorCount : UInt32
  deriving DecidableEq

namespace TensorEngine

/-- A tensor manager without tensors. -/
def new : TensorEngine := ⟨0, 0⟩

/-- Allocate a tensor. -/
def allocateTensor (engine : TensorEngine) (allocator : VramAllocator) (name : String)
    (shape : List UInt64) (dtype : DType) :
    Option TensorDescriptor × TensorEngine × VramAllocator :=
  let numElements := TensorDescriptor.totalElements shape
  let sizeBytes :=
    if dtype = .int4 then (numElements + 1) / 2 else numElements * dtype.elementSize
  match allocator.allocate sizeBytes with
  | (none, allocator) => (none, engine, allocator)
  | (some allocation, allocator) =>
    let strides := TensorDescriptor.computeStrides shape
    (some { name, shape, strides, dtype, allocation, numElements, sizeBytes },
      { totalAllocated := engine.totalAllocated + sizeBytes
        tensorCount := engine.tensorCount + 1 }, allocator)

/-- Check the length of a transfer and map the tensor for it: whether it can be done, and the tensor
afterwards.  A slice has fewer than `2^64` elements, so its length needs no rounding. -/
def transfer (allocator : VramAllocator) (tensor : TensorDescriptor) (len : ℕ) :
    Bool × TensorDescriptor :=
  if len ≠ tensor.sizeBytes.toNat then (false, tensor)
  else
    match allocator.mapToCpu tensor.allocation with
    | (some _, allocation) => (true, { tensor with allocation })
    | (none, allocation) => (false, { tensor with allocation })

/-- Upload data to a tensor. -/
def upload (_engine : TensorEngine) (allocator : VramAllocator) (tensor : TensorDescriptor)
    (data : List UInt8) : Bool × TensorDescriptor :=
  transfer allocator tensor data.length

/-- Download a tensor to a buffer. -/
def download (_engine : TensorEngine) (allocator : VramAllocator) (tensor : TensorDescriptor)
    (buffer : List UInt8) : Bool × TensorDescriptor :=
  transfer allocator tensor buffer.length

/-- Free a tensor. -/
def freeTensor (engine : TensorEngine) (allocator : VramAllocator) (tensor : TensorDescriptor) :
    TensorEngine × VramAllocator :=
  ({ totalAllocated := engine.totalAllocated - tensor.sizeBytes
     tensorCount := engine.tensorCount - 1 }, allocator.free tensor.allocation)

end TensorEngine

/-! ### What a tensor needs -/

/-- The exact number of elements of a shape. -/
def exactElements (shape : List UInt64) : ℕ := (shape.map UInt64.toNat).prod

/-- The exact number of bytes that `n` elements take. -/
def DType.bytes (dtype : DType) (n : ℕ) : ℕ :=
  if dtype = .int4 then (n + 1) / 2 else n * dtype.elementSize.toNat

/-- The tensor knows its exact size and its block is large enough. -/
structure Covers (shape : List UInt64) (dtype : DType) (t : TensorDescriptor) : Prop where
  numElements : t.numElements.toNat = exactElements shape
  sizeBytes : t.sizeBytes.toNat = dtype.bytes (exactElements shape)
  allocation : t.sizeBytes ≤ t.allocation.size

/-- The elements, and the bytes rounded up to a page, can be counted in 64 bits. -/
def ShapeFits (shape : List UInt64) (dtype : DType) : Prop :=
  if dtype = .int4 then exactElements shape + 1 < 2 ^ 64
  else exactElements shape * dtype.elementSize.toNat + 0xFFF < 2 ^ 64

/-- The exact number of bytes a shape takes, except that the counter has 64 bits. -/
def wrappedBytes (shape : List UInt64) (dtype : DType) : ℕ :=
  if dtype = .int4 then (exactElements shape + 1) % 2 ^ 64 / 2
  else exactElements shape * dtype.elementSize.toNat % 2 ^ 64

/-- No free region holds that many bytes, rounded up to a page with a 64-bit counter. -/
def NoRoomFor (allocator : VramAllocator) (bytes : ℕ) : Prop :=
  ∀ r ∈ allocator.freeList, r.size.toNat < (bytes + 0xFFF) % 2 ^ 64 / 4096 * 4096

/-! ### What the code computes -/

theorem toNat_foldl_mul (n : UInt64) (shape : List UInt64) :
    (shape.foldl (· * ·) n).toNat = n.toNat * exactElements shape % 2 ^ 64 := by
  induction shape generalizing n with
  | nil => simp [exactElements, Nat.mod_eq_of_lt n.toNat_lt]
  | cons d shape ih =>
    rw [List.foldl_cons, ih, UInt64.toNat_mul, Nat.mod_mul_mod, exactElements, exactElements,
      List.map_cons, List.prod_cons, Nat.mul_assoc]

theorem toNat_totalElements (shape : List UInt64) :
    (TensorDescriptor.totalElements shape).toNat = exactElements shape % 2 ^ 64 := by
  rw [TensorDescriptor.totalElements, toNat_foldl_mul, UInt64.toNat_one, Nat.one_mul]

theorem toNat_sizeBytes (shape : List UInt64) (dtype : DType) :
    (if dtype = .int4 then (TensorDescriptor.totalElements shape + 1) / 2
      else TensorDescriptor.totalElements shape * dtype.elementSize).toNat =
      wrappedBytes shape dtype := by
  unfold wrappedBytes
  split_ifs with h
  · rw [UInt64.toNat_div, UInt64.toNat_add, toNat_totalElements, UInt64.toNat_one,
      Nat.mod_add_mod]
    rfl
  · rw [UInt64.toNat_mul, toNat_totalElements, Nat.mod_mul_mod]

theorem noRoomFor_iff {allocator : VramAllocator} {size : UInt64} :
    NoRoomFor allocator size.toNat ↔ ∀ r ∈ allocator.freeList, r.size < alignedSize size := by
  simp only [NoRoomFor, UInt64.lt_iff_toNat_lt, toNat_alignedSize]

theorem TensorEngine.allocateTensor_some {engine engine' : TensorEngine}
    {allocator allocator' : VramAllocator} {name : String} {shape : List UInt64} {dtype : DType}
    {t : TensorDescriptor}
    (h : engine.allocateTensor allocator name shape dtype = (some t, engine', allocator')) :
    (t.shape = shape ∧ t.strides = TensorDescriptor.computeStrides shape ∧
      t.numElements = TensorDescriptor.totalElements shape ∧ t.dtype = dtype) ∧
    allocator.allocate t.sizeBytes = (some t.allocation, allocator') ∧
    engine' = ⟨engine.totalAllocated + t.sizeBytes, engine.tensorCount + 1⟩ := by
  unfold allocateTensor at h
  dsimp only at h
  split at h
  case h_1 a ha => cases h
  case h_2 g a ha =>
    cases h
    exact ⟨⟨rfl, rfl, rfl, rfl⟩, ha, rfl⟩

/-- All that a tensor allocation can do: return a tensor with the computed sizes and count it, or
find no room for its bytes and change nothing. -/
theorem TensorEngine.allocateTensor_cases (engine : TensorEngine) (allocator : VramAllocator)
    (name : String) (shape : List UInt64) (dtype : DType) :
    (∃ t engine' allocator',
      engine.allocateTensor allocator name shape dtype = (some t, engine', allocator') ∧
      ¬ NoRoomFor allocator (wrappedBytes shape dtype) ∧
      t.numElements = TensorDescriptor.totalElements shape ∧
      t.sizeBytes.toNat = wrappedBytes shape dtype ∧
      t.allocation.size = alignedSize t.sizeBytes) ∨
    (NoRoomFor allocator (wrappedBytes shape dtype) ∧
      engine.allocateTensor allocator name shape dtype = (none, engine, allocator)) := by
  have hsize := toNat_sizeBytes shape dtype
  unfold allocateTensor
  dsimp only
  rw [← hsize, noRoomFor_iff, ← allocate_eq_none_iff]
  split
  case h_1 a ha =>
    have hnone := congrArg Prod.fst ha
    rw [allocate_none hnone] at ha
    cases ha
    exact .inr ⟨hnone, rfl⟩
  case h_2 g a ha =>
    have hsome := congrArg Prod.fst ha
    refine .inl ⟨_, _, _, rfl, ?_, rfl, rfl, (allocate_some hsome).2.1⟩
    rw [hsome]
    exact Option.some_ne_none g

theorem DType.elementSize_pos (dtype : DType) : 0 < dtype.elementSize.toNat := by
  cases dtype <;> decide

/-- A tensor that is returned is covered exactly when its shape fits. -/
theorem covers_iff_shapeFits {shape : List UInt64} {dtype : DType} {t : TensorDescriptor}
    (hnum : t.numElements = TensorDescriptor.totalElements shape)
    (hbytes : t.sizeBytes.toNat = wrappedBytes shape dtype)
    (halloc : t.allocation.size = alignedSize t.sizeBytes) :
    Covers shape dtype t ↔ ShapeFits shape dtype := by
  have hcovers : Covers shape dtype t ↔
      exactElements shape % 2 ^ 64 = exactElements shape ∧
      wrappedBytes shape dtype = dtype.bytes (exactElements shape) ∧
      wrappedBytes shape dtype + 0xFFF < 2 ^ 64 := by
    rw [← toNat_totalElements, ← hnum, ← hbytes, ← le_alignedSize_iff, ← halloc,
      ← UInt64.le_iff_toNat_le]
    exact ⟨fun h => ⟨h.1, h.2, h.3⟩, fun h => ⟨h.1, h.2.1, h.2.2⟩⟩
  rw [hcovers, wrappedBytes, DType.bytes, ShapeFits]
  split_ifs
  · omega
  · -- the elements are no more than the bytes they take
    have hle := Nat.le_mul_of_pos_right (exactElements shape) dtype.elementSize_pos
    omega

/-- **A tensor allocation covers its tensor exactly when the shape fits**, or when there is no room
for the bytes that are asked for and no tensor is returned. -/
theorem covers_iff (engine : TensorEngine) (allocator : VramAllocator) (name : String)
    (shape : List UInt64) (dtype : DType) :
    (∀ t ∈ (engine.allocateTensor allocator name shape dtype).1, Covers shape dtype t) ↔
      ShapeFits shape dtype ∨ NoRoomFor allocator (wrappedBytes shape dtype) := by
  rcases engine.allocateTensor_cases allocator name shape dtype with
    ⟨t, e, a, heq, hroom, hnum, hbytes, halloc⟩ | ⟨hroom, heq⟩
  · have hiff := covers_iff_shapeFits hnum hbytes halloc
    rw [heq]
    constructor
    · exact fun h => .inl (hiff.1 (h t rfl))
    · rintro h _ ⟨⟩
      exact hiff.2 (h.resolve_right hroom)
  · rw [heq]
    exact iff_of_true (fun t ht => by cases ht) (.inr hroom)

/-- A matrix of `2^32` times `2^32` floats has no elements, and its block is empty. -/
theorem not_covers_two_pow_32_square :
    ¬ ∀ t ∈ (TensorEngine.new.allocateTensor (detectAndInit GpuRegs.plain 0 0 fun _ => 2).1 "w"
      [0x100000000, 0x100000000] .float32).1, Covers [0x100000000, 0x100000000] .float32 t := by
  intro h
  have hsome : (TensorEngine.new.allocateTensor (detectAndInit GpuRegs.plain 0 0 fun _ => 2).1 "w"
      [0x100000000, 0x100000000] .float32).1.isSome := by decide
  obtain ⟨t, ht⟩ := Option.isSome_iff_exists.1 hsome
  have hnum : t.numElements.toNat = 2 ^ 64 := (h t ht).numElements
  exact absurd t.numElements.toNat_lt (by omega)

end GpuCompute
