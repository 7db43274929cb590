import GpuCompute.Compute.Engine
import GpuCompute.Tensor.Overflow

/-!
# Launch geometry

The tensor operations launch a grid that covers their data.  Dimensions have 64 bits and grids 32:
a matrix multiplication rounds up before it casts and GELU casts before it rounds up, so that a
tensor of `2^32` packed elements, which takes 2 GiB, gets an empty grid.

The kernels themselves are not implemented: the operations log their geometry and return `false`.

* `matmul`, `softmax`, `gelu` : the geometry of an operation.
* `matmulGridChecked`, `softmaxGridChecked`, `geluGridChecked` : the same without overflow and
  truncation.
* `LaunchesCover` : the grids are computed exactly and cover their data.
* `matmulGridChecked_eq_some_iff`, `softmaxGridChecked_eq_some_iff`, `geluGridChecked_eq_some_iff` :
  when a grid is computed exactly.
* `launchesCover_iff` : when the grids cover their data.
-/

namespace GpuCompute

open Systems VramAllocator TensorDescriptor

namespace TensorEngine

/-! ### Matrix multiplication -/

/-- The dimensions of a product of matrices: rows of the first one and columns of the second one. -/
def matmulDims (a b c : TensorDescriptor) : Option (UInt64 × UInt64) :=
  match a.shape, b.shape, c.shape with
  | [m, k], [b0, n], [c0, c1] => if b0 ≠ k ∨ c0 ≠ m ∨ c1 ≠ n then none else some (m, n)
  | _, _, _ => none

/-- One block for each tile of 128 times 128. -/
def matmulGrid (m n : UInt64) : GridDim where
  x := ((n + 128 - 1) / 128).toUInt32
  y := ((m + 128 - 1) / 128).toUInt32
  z := 1

/-- The geometry of a matrix multiplication, unless the shapes do not match. -/
def matmul (a b c : TensorDescriptor) : Option (GridDim × BlockDim) :=
  (matmulDims a b c).map fun (m, n) => (matmulGrid m n, ⟨256, 1, 1⟩)

/-- The number of tiles in one direction, without overflow and truncation. -/
def tilesChecked (n : UInt64) : Option UInt32 :=
  (checkedAdd n 128).bind fun s => (checkedSub s 1).bind fun s => checkedCast (s / 128)

/-- The grid of a matrix multiplication, without overflow and truncation. -/
def matmulGridChecked (m n : UInt64) : Option GridDim :=
  (tilesChecked n).bind fun x => (tilesChecked m).map fun y => ⟨x, y, 1⟩

/-! ### Softmax -/

/-- The last dimension. -/
def lastDim (shape : List UInt64) : UInt64 := shape.getLast?.getD 1

/-- The number of rows: the product of all dimensions but the last one, starting with the last but
one. -/
def outerSize (shape : List UInt64) : UInt64 := (shape.reverse.drop 1).foldl (· * ·) 1

/-- One block for each row. -/
def softmaxGrid (shape : List UInt64) : GridDim := ⟨(outerSize shape).toUInt32, 1, 1⟩

/-- The geometry of a softmax, unless the shapes do not match. -/
def softmax (input output : TensorDescriptor) : Option (GridDim × BlockDim) :=
  if input.shape ≠ output.shape then none
  else some (softmaxGrid input.shape, ⟨(min (lastDim input.shape) 1024).toUInt32, 1, 1⟩)

/-- The grid of a softmax, without overflow and truncation. -/
def softmaxGridChecked (shape : List UInt64) : Option GridDim :=
  ((checkedProd 1 (shape.reverse.drop 1)).bind checkedCast).map fun x => ⟨x, 1, 1⟩

/-! ### GELU -/

/-- One thread for each element, in blocks of 256. -/
def geluGrid (total : UInt64) : GridDim where
  x := (total.toUInt32 + 256 - 1) / 256
  y := 1
  z := 1

/-- The geometry of a GELU. -/
def gelu (input : TensorDescriptor) : GridDim × BlockDim :=
  (geluGrid input.numElements, ⟨256, 1, 1⟩)

/-- The grid of a GELU, without overflow and truncation. -/
def geluGridChecked (total : UInt64) : Option GridDim :=
  (checkedCast total).bind fun t => (checkedAdd t 256).bind fun s =>
    (checkedSub s 1).map fun s => ⟨s / 256, 1, 1⟩

end TensorEngine

open TensorEngine

/-- Tiles of a given size cover `n` and none of them is superfluous. -/
def TilesCover (tile n tiles : ℕ) : Prop := n ≤ tile * tiles ∧ tile * (tiles - 1) < n

/-- The grids of the operations are computed without overflow and truncation and cover the data. -/
structure LaunchesCover (a b c input output : TensorDescriptor) : Prop where
  /-- A product of matrices is covered by tiles in both directions. -/
  matmul : ∀ m n, matmulDims a b c = some (m, n) →
    matmulGridChecked m n = some (matmulGrid m n) ∧
      (0 < n → 0 < m → TilesCover 128 n.toNat (matmulGrid m n).x.toNat ∧
        TilesCover 128 m.toNat (matmulGrid m n).y.toNat)
  /-- The rows of a softmax hold all elements. -/
  softmax : input.shape = output.shape →
    softmaxGridChecked input.shape = some (softmaxGrid input.shape) ∧
      (softmaxGrid input.shape).x.toNat * (lastDim input.shape).toNat = input.numElements.toNat
  /-- The threads of a GELU are enough for all elements. -/
  gelu : geluGridChecked input.numElements = some (geluGrid input.numElements) ∧
    input.numElements.toNat ≤ 256 * (geluGrid input.numElements).x.toNat

/-- The tensor has been returned by `allocateTensor`, and its elements can be counted. -/
def TensorDescriptor.Allocated (t : TensorDescriptor) : Prop :=
  ∃ (engine : TensorEngine) (allocator : VramAllocator) (name : String) (shape : List UInt64)
    (dtype : DType), exactElements shape < 2 ^ 64 ∧
      (engine.allocateTensor allocator name shape dtype).1 = some t

/-! ### Exact grids -/

theorem toNat_tiles {n : UInt64} (h : n.toNat + 128 < 2 ^ 64) :
    ((n + 128 - 1) / 128).toNat = (n.toNat + 127) / 128 := by
  have hup : (n + 128 - 1).toNat = n.toNat + 128 - 1 :=
    toNat_add_sub_of_le (a := n) (b := 128) (c := 1) h (by decide)
  rw [UInt64.toNat_div, hup]
  rfl

theorem tilesChecked_eq_some_iff {n : UInt64} {x : UInt32} :
    tilesChecked n = some x ↔
      n.toNat ≤ 2 ^ 39 - 128 ∧ x = ((n + 128 - 1) / 128).toUInt32 := by
  have htile : (128 : UInt64).toNat = 128 := rfl
  have hone : (1 : UInt64).toNat = 1 := rfl
  simp only [tilesChecked, Option.bind_eq_some_iff, checkedAdd_eq_some_iff,
    checkedSub_eq_some_iff, checkedCast_eq_some_iff, machineWord_toNat_uint64,
    machineWord_bits_uint64, htile, hone]
  constructor
  · rintro ⟨_, ⟨hadd, rfl⟩, _, ⟨-, rfl⟩, hcast, rfl⟩
    rw [toNat_tiles hadd] at hcast
    exact ⟨by omega, rfl⟩
  · rintro ⟨hle, rfl⟩
    have hadd : n.toNat + 128 < 2 ^ 64 := by omega
    have hsum : (n + 128).toNat = n.toNat + 128 := toNat_add_of_lt (a := n) (b := 128) hadd
    refine ⟨_, ⟨hadd, rfl⟩, _, ⟨by omega, rfl⟩, ?_, rfl⟩
    rw [toNat_tiles hadd]
    omega

theorem matmulGridChecked_eq_some_iff {m n : UInt64} :
    matmulGridChecked m n = some (matmulGrid m n) ↔
      m.toNat ≤ 2 ^ 39 - 128 ∧ n.toNat ≤ 2 ^ 39 - 128 := by
  simp only [matmulGridChecked, matmulGrid, Option.bind_eq_some_iff, Option.map_eq_some_iff,
    tilesChecked_eq_some_iff]
  constructor
  · rintro ⟨_, ⟨hn, -⟩, _, ⟨hm, -⟩, -⟩
    exact ⟨hm, hn⟩
  · rintro ⟨hm, hn⟩
    exact ⟨_, ⟨hn, rfl⟩, _, ⟨hm, rfl⟩, rfl⟩

theorem softmaxGridChecked_eq_some_iff {shape : List UInt64} :
    softmaxGridChecked shape = some (softmaxGrid shape) ↔
      leadingProduct (shape.reverse.drop 1) < 2 ^ 64 ∧
        (outerSize shape).toNat < 2 ^ 32 := by
  rw [← isSome_checkedProd_one_iff, softmaxGridChecked, softmaxGrid]
  cases hprod : checkedProd 1 (shape.reverse.drop 1) with
  | none => simp
  | some outer =>
    obtain rfl : outer = outerSize shape := (checkedProd_eq_some_iff.1 hprod).2
    simp only [Option.bind_some, Option.map_eq_some_iff, checkedCast_eq_some_iff,
      Option.isSome_some, true_and]
    constructor
    · rintro ⟨_, ⟨hlt, -⟩, -⟩
      exact hlt
    · exact fun hlt => ⟨_, ⟨hlt, rfl⟩, rfl⟩

theorem toNat_geluBlocks {t : UInt32} (h : t.toNat + 256 < 2 ^ 32) :
    ((t + 256 - 1) / 256).toNat = (t.toNat + 255) / 256 := by
  have hup : (t + 256 - 1).toNat = t.toNat + 256 - 1 :=
    toNat_add_sub_of_le (a := t) (b := 256) (c := 1) h (by decide)
  rw [UInt32.toNat_div, hup]
  rfl

theorem geluGridChecked_eq_some_iff {total : UInt64} :
    geluGridChecked total = some (geluGrid total) ↔ total.toNat + 256 < 2 ^ 32 := by
  have hblock : (256 : UInt32).toNat = 256 := rfl
  have hone : (1 : UInt32).toNat = 1 := rfl
  simp only [geluGridChecked, geluGrid, Option.bind_eq_some_iff, Option.map_eq_some_iff,
    checkedAdd_eq_some_iff, checkedSub_eq_some_iff, checkedCast_eq_some_iff,
    machineWord_toNat_uint32, machineWord_bits_uint32, hblock, hone]
  constructor
  · rintro ⟨_, ⟨hcast, rfl⟩, _, ⟨hadd, -⟩, -⟩
    rw [UInt64.toNat_toUInt32] at hadd
    omega
  · intro hlt
    have hcast : total.toUInt32.toNat = total.toNat := by
      rw [UInt64.toNat_toUInt32]
      omega
    have hadd : total.toUInt32.toNat + 256 < 2 ^ 32 := by omega
    have hsum : (total.toUInt32 + 256).toNat = total.toUInt32.toNat + 256 :=
      toNat_add_of_lt (a := total.toUInt32) (b := 256) hadd
    exact ⟨_, ⟨by omega, rfl⟩, _, ⟨hadd, rfl⟩, _, ⟨by omega, rfl⟩, rfl⟩

/-! ### Covering -/

/-- Rounding up gives enough tiles and no superfluous one. -/
theorem tilesCover_div {n : ℕ} (hn : 0 < n) : TilesCover 128 n ((n + 127) / 128) := by
  unfold TilesCover
  omega

theorem tilesCover_tiles {n : UInt64} (hpos : 0 < n) (hle : n.toNat ≤ 2 ^ 39 - 128) :
    TilesCover 128 n.toNat ((n + 128 - 1) / 128).toUInt32.toNat := by
  rw [UInt64.toNat_toUInt32, toNat_tiles (by omega), Nat.mod_eq_of_lt (by omega)]
  exact tilesCover_div (UInt64.lt_iff_toNat_lt.1 hpos)

theorem exactElements_rows (shape : List UInt64) :
    exactElements (shape.reverse.drop 1) * (lastDim shape).toNat = exactElements shape := by
  rcases List.eq_nil_or_concat' shape with rfl | ⟨init, dim, rfl⟩
  · rfl
  · have hperm := (List.reverse_perm init).map UInt64.toNat
    rw [lastDim, List.getLast?_concat, List.reverse_concat, List.drop_one, List.tail_cons,
      exactElements, exactElements, hperm.prod_eq, List.map_append, List.prod_append]
    simp

theorem toNat_outerSize (shape : List UInt64) :
    (outerSize shape).toNat = exactElements (shape.reverse.drop 1) % 2 ^ 64 := by
  rw [outerSize, toNat_foldl_mul, UInt64.toNat_one, Nat.one_mul]

theorem numElements_of_allocated {t : TensorDescriptor} (h : t.Allocated) :
    t.numElements.toNat = exactElements t.shape := by
  obtain ⟨engine, allocator, name, shape, dtype, hfits, ht⟩ := h
  obtain ⟨hshape, -, hnum, -⟩ := allocateTensor_fields ht
  rw [hnum, hshape, toNat_totalElements, Nat.mod_eq_of_lt hfits]

theorem exactElements_lt_of_leadingProduct_lt {shape : List UInt64}
    (h : leadingProduct shape < 2 ^ 64) : exactElements shape < 2 ^ 64 := by
  have hprefix := (forall_prod_take_lt_iff (by decide)).2 h shape.length
  rwa [List.take_of_length_le (by simp)] at hprefix

theorem softmax_covers_iff {shape : List UInt64} {numElements : UInt64}
    (hnum : numElements.toNat = exactElements shape) :
    (softmaxGridChecked shape = some (softmaxGrid shape) ∧
        (softmaxGrid shape).x.toNat * (lastDim shape).toNat = numElements.toNat) ↔
      leadingProduct (shape.reverse.drop 1) < 2 ^ 64 ∧
        exactElements (shape.reverse.drop 1) < 2 ^ 32 := by
  rw [softmaxGridChecked_eq_some_iff, toNat_outerSize]
  constructor
  · rintro ⟨⟨hlead, hrows⟩, -⟩
    rw [Nat.mod_eq_of_lt (exactElements_lt_of_leadingProduct_lt hlead)] at hrows
    exact ⟨hlead, hrows⟩
  · rintro ⟨hlead, hrows⟩
    have hexact : (softmaxGrid shape).x.toNat = exactElements (shape.reverse.drop 1) := by
      rw [softmaxGrid, UInt64.toNat_toUInt32, toNat_outerSize]
      omega
    rw [hexact, exactElements_rows, hnum]
    exact ⟨⟨hlead, by omega⟩, rfl⟩

theorem gelu_covers_iff (total : UInt64) :
    (geluGridChecked total = some (geluGrid total) ∧
        total.toNat ≤ 256 * (geluGrid total).x.toNat) ↔ total.toNat < 2 ^ 32 - 256 := by
  rw [geluGridChecked_eq_some_iff]
  constructor
  · rintro ⟨hlt, -⟩
    omega
  · intro hlt
    have hcast : total.toUInt32.toNat = total.toNat := by
      rw [UInt64.toNat_toUInt32]
      omega
    refine ⟨by omega, ?_⟩
    rw [geluGrid, toNat_geluBlocks (by omega), hcast]
    omega

/-- The tiles of a product cover it whenever their numbers are computed exactly. -/
theorem matmul_covers_iff (m n : UInt64) :
    (matmulGridChecked m n = some (matmulGrid m n) ∧
        (0 < n → 0 < m → TilesCover 128 n.toNat (matmulGrid m n).x.toNat ∧
          TilesCover 128 m.toNat (matmulGrid m n).y.toNat)) ↔
      m.toNat ≤ 2 ^ 39 - 128 ∧ n.toNat ≤ 2 ^ 39 - 128 := by
  rw [matmulGridChecked_eq_some_iff]
  constructor
  · exact fun h => h.1
  · rintro ⟨hm, hn⟩
    exact ⟨⟨hm, hn⟩, fun hnpos hmpos => ⟨tilesCover_tiles hnpos hn, tilesCover_tiles hmpos hm⟩⟩

/-- **When the grids cover their data**: there are fewer than `2^32` tiles in both directions, fewer
than `2^32` rows, and so few elements that rounding them up to blocks does not overflow. -/
theorem launchesCover_iff (a b c : TensorDescriptor) {input : TensorDescriptor}
    (output : TensorDescriptor) (hinput : input.Allocated) :
    LaunchesCover a b c input output ↔
      (∀ m n, matmulDims a b c = some (m, n) →
        m.toNat ≤ 2 ^ 39 - 128 ∧ n.toNat ≤ 2 ^ 39 - 128) ∧
      (input.shape = output.shape → leadingProduct (input.shape.reverse.drop 1) < 2 ^ 64 ∧
        exactElements (input.shape.reverse.drop 1) < 2 ^ 32) ∧
      input.numElements.toNat < 2 ^ 32 - 256 := by
  have hsoftmax := softmax_covers_iff (numElements_of_allocated hinput)
  have hgelu := gelu_covers_iff input.numElements
  constructor
  · intro h
    exact ⟨fun m n hdims => (matmul_covers_iff m n).1 (h.matmul m n hdims),
      fun hshape => hsoftmax.1 (h.softmax hshape), hgelu.1 h.gelu⟩
  · rintro ⟨hmatmul, hrows, htotal⟩
    exact ⟨fun m n hdims => (matmul_covers_iff m n).2 (hmatmul m n hdims),
      fun hshape => hsoftmax.2 (hrows hshape), hgelu.2 htotal⟩

section

variable {a b c input output : TensorDescriptor} {grid : GridDim} {block : BlockDim}

theorem LaunchesCover.matmul_tiles (h : LaunchesCover a b c input output)
    (hgrid : TensorEngine.matmul a b c = some (grid, block)) :
    ∃ m n, matmulDims a b c = some (m, n) ∧ (0 < n → 0 < m →
      TilesCover 128 n.toNat grid.x.toNat ∧ TilesCover 128 m.toNat grid.y.toNat) := by
  obtain ⟨⟨m, n⟩, hdims, heq⟩ := Option.map_eq_some_iff.1 hgrid
  cases heq
  exact ⟨m, n, hdims, (h.matmul m n hdims).2⟩

theorem LaunchesCover.softmax_rows (h : LaunchesCover a b c input output)
    (hgrid : TensorEngine.softmax input output = some (grid, block)) :
    grid.x.toNat * (lastDim input.shape).toNat = input.numElements.toNat := by
  rw [TensorEngine.softmax] at hgrid
  split_ifs at hgrid with hshape
  cases hgrid
  exact (h.softmax (not_not.1 hshape)).2

end

/-- A GPU with 8 GiB of VRAM, and a square of 300 times 300 floats on it. -/
theorem launchesCover_square :
    ∃ t, (TensorEngine.new.allocateTensor (detectAndInit GpuRegs.plain 0 0 fun _ => 0).1 "w"
        [300, 300] .float32).1 = some t ∧ LaunchesCover t t t t t := by
  have hsome : (TensorEngine.new.allocateTensor (detectAndInit GpuRegs.plain 0 0 fun _ => 0).1 "w"
      [300, 300] .float32).1.isSome := by decide
  obtain ⟨t, ht⟩ := Option.isSome_iff_exists.1 hsome
  obtain ⟨hshape, -, hnum, -⟩ := allocateTensor_fields ht
  refine ⟨t, ht, (launchesCover_iff t t t t ⟨_, _, _, _, _, by decide, ht⟩).2 ⟨?_, ?_, ?_⟩⟩
  · intro m n hdims
    rw [matmulDims, hshape] at hdims
    obtain ⟨rfl, rfl⟩ : m = 300 ∧ n = 300 := by simpa [eq_comm] using hdims
    decide
  · rw [hshape]
    decide
  · rw [hnum]
    decide

/-- A tensor of `2^32` packed elements takes 2 GiB, and a GELU on it launches nothing. -/
theorem not_launchesCover_two_pow_32 :
    ∃ t, (TensorEngine.new.allocateTensor (detectAndInit GpuRegs.plain 0 0 fun _ => 0).1 "w"
        [0x100000000] .int4).1 = some t ∧ t.sizeBytes = 0x80000000 ∧ (gelu t).1 = ⟨0, 1, 1⟩ ∧
      ¬ LaunchesCover t t t t t := by
  have hsome : (TensorEngine.new.allocateTensor (detectAndInit GpuRegs.plain 0 0 fun _ => 0).1 "w"
      [0x100000000] .int4).1.isSome := by decide
  have hsize : ∀ t ∈ (TensorEngine.new.allocateTensor (detectAndInit GpuRegs.plain 0 0
      fun _ => 0).1 "w" [0x100000000] .int4).1, t.sizeBytes = 0x80000000 := by decide
  obtain ⟨t, ht⟩ := Option.isSome_iff_exists.1 hsome
  obtain ⟨-, -, hnum, -⟩ := allocateTensor_fields ht
  have htotal : t.numElements = 0x100000000 := by
    rw [hnum]
    decide
  refine ⟨t, ht, hsize t ht, ?_, fun h => ?_⟩
  · rw [gelu, htotal]
    decide
  · have hcover := h.gelu.2
    rw [htotal] at hcover
    exact absurd hcover (by decide)

end GpuCompute
