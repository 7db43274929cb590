import GpuCompute.Lib.Checked
import GpuCompute.Memory.Totals

/-!
# Overflow in the allocator

The registers of the memory controller go into a shift, a product and a subtraction, with any value
that they may have.  None of them overflows in a build with overflow checks: the shift has a fixed
amount, the number of partitions is a byte, and the subtraction saturates.  From such an allocator
blocks are taken without an overflow, however many there have been, unless a size is within a page
of `2^64`.

`detectAndInitChecked_eq` says that the checks change nothing in the detection, and
`VaWithinVram.allocateChecked` that they change nothing in an allocation.
-/

namespace GpuCompute

open Systems

namespace VramAllocator

/-! ### Detection -/

/-- Decode the VRAM size register, checked. -/
def decodeVramSizeChecked (reg : UInt32) : Option UInt64 := do
  if reg = 0 then checkedProd 8 [1024, 1024, 1024]
  else
    let size ← checkedShiftLeft reg.toUInt64 20
    let limit ← checkedProd 128 [1024, 1024, 1024]
    pure (if size > 0 ∧ size ≤ limit then size else 0)

/-- Memory type from the configuration register, checked. -/
def decodeMemTypeChecked (cfg0 : UInt32) : Option MemoryType := do
  let shifted ← checkedShiftRight cfg0 8
  let t := shifted &&& 0xF
  pure (if t ≤ 0x3 then .gddr6 else if t ≤ 0x7 then .gddr6x else if t ≤ 0xB then .hbm2
    else .unknown)

/-- The VRAM info from the three memory controller registers, checked. -/
def decodeInfoChecked (cfg0 vramSizeReg nparts : UInt32) : Option VramInfo := do
  let totalBytes ← decodeVramSizeChecked vramSizeReg
  let partitions := nparts &&& 0xFF
  let memType ← decodeMemTypeChecked cfg0
  let busWidth ← match memType with
    | .hbm2 => checkedMul partitions 128
    | _ => checkedMul partitions 32
  let mebibyte ← checkedMul 1024 1024
  let mib := totalBytes / mebibyte
  pure { totalBytes, memType, busWidth, partitions,
         description := s!"{mib} MiB {memType} ({busWidth}-bit, {partitions} partitions)" }

/-- Detect the VRAM parameters and create the allocator in a build that stops when the arithmetic
overflows: `none` says that it has stopped. -/
def detectAndInitChecked {δ : Type*} (regs : GpuRegs δ) (bar1CpuBase bar1Size : UInt64) (dev : δ) :
    Option (VramAllocator × δ) :=
  let (cfg0, dev) := regs.read32 dev NV_PFB_CFG0
  let (vramSizeReg, dev) := regs.read32 dev NV_PFB_VRAM_SIZE
  let (nparts, dev) := regs.read32 dev NV_PFB_NPARTS
  (decodeInfoChecked cfg0 vramSizeReg nparts).bind fun info =>
  -- the first MiB, which is also the unit of the message at the end
  (checkedMul (1024 : UInt64) 1024).map fun reserved =>
  ({ info
     freeList := [{ start := reserved, size := saturatingSub info.totalBytes reserved }]
     nextGpuVa := 0x100000000
     bar1CpuBase
     bar1Size
     bar1VramOffset := 0 }, dev)

/-! ### Allocation -/

/-- Round a size up to 4 KiB, checked. -/
def alignedSizeChecked (size : UInt64) : Option UInt64 :=
  (checkedAdd size 0xFFF).map (· &&& ~~~0xFFF)

/-- The first-fit loop, checked. -/
def firstFitChecked (aligned : UInt64) :
    List FreeRegion → Option (Option (UInt64 × List FreeRegion))
  | [] => some none
  | region :: rest =>
    if region.size ≥ aligned then do
      let start ← checkedAdd region.start aligned
      let size ← checkedSub region.size aligned
      pure (some (region.start, { start, size } :: rest))
    else
      (firstFitChecked aligned rest).map fun fit =>
        fit.map fun (physAddr, rest') => (physAddr, region :: rest')

/-- Allocate a block of VRAM in a build that stops when the arithmetic overflows: `none` says that
it has stopped. -/
def allocateChecked (a : VramAllocator) (size : UInt64) :
    Option (Option GpuAllocation × VramAllocator) := do
  let aligned ← alignedSizeChecked size
  match ← firstFitChecked aligned a.freeList with
  | some (physAddr, freeList) =>
    let nextGpuVa ← checkedAdd a.nextGpuVa aligned
    pure (some { gpuVa := a.nextGpuVa, physAddr, size := aligned, cpuMapped := false, cpuVa := 0 },
      { a with freeList, nextGpuVa })
  | none => pure (none, a)

/-! ### No overflow in the detection -/

theorem decodeVramSizeChecked_eq (reg : UInt32) :
    decodeVramSizeChecked reg = some (decodeVramSize reg) := by
  have hdefault : checkedProd (8 : UInt64) [1024, 1024, 1024] = some (8 * 1024 * 1024 * 1024) := rfl
  have hlimit : checkedProd (128 : UInt64) [1024, 1024, 1024] = some (128 * 1024 * 1024 * 1024) :=
    rfl
  have hshift : checkedShiftLeft reg.toUInt64 20 = some (reg.toUInt64 <<< 20) :=
    checkedShiftLeft_of_lt (by decide) _
  simp only [decodeVramSizeChecked, decodeVramSize, hdefault, hlimit, hshift, Option.bind_eq_bind,
    Option.bind_some]
  split_ifs <;> rfl

theorem decodeMemTypeChecked_eq (cfg0 : UInt32) :
    decodeMemTypeChecked cfg0 = some (decodeMemType cfg0) := by
  rw [decodeMemTypeChecked, checkedShiftRight_of_lt (by decide)]
  rfl

theorem checkedMul_partitions (nparts : UInt32) {n : UInt32} (hn : n.toNat ≤ 128) :
    checkedMul (nparts &&& 0xFF) n = some ((nparts &&& 0xFF) * n) := by
  have hle : (nparts &&& 0xFF).toNat ≤ 255 := by
    rw [UInt32.toNat_and]
    exact Nat.and_le_right
  have hmul : (nparts &&& 0xFF).toNat * n.toNat ≤ 255 * 128 := Nat.mul_le_mul hle hn
  have hfits : (nparts &&& 0xFF).toNat * n.toNat < 2 ^ 32 := by omega
  exact checkedMul_of_lt hfits

theorem decodeInfoChecked_eq (cfg0 vramSizeReg nparts : UInt32) :
    decodeInfoChecked cfg0 vramSizeReg nparts = some (decodeInfo cfg0 vramSizeReg nparts) := by
  have hmib : checkedMul (1024 : UInt64) 1024 = some (1024 * 1024) := rfl
  simp only [decodeInfoChecked, decodeInfo, decodeVramSizeChecked_eq, decodeMemTypeChecked_eq, hmib,
    checkedMul_partitions nparts (show (128 : UInt32).toNat ≤ 128 from le_rfl),
    checkedMul_partitions nparts (show (32 : UInt32).toNat ≤ 128 by decide), Option.bind_eq_bind,
    Option.bind_some]
  cases decodeMemType cfg0 <;> rfl

/-- **No overflow in the detection**, whatever the registers hold. -/
theorem detectAndInitChecked_eq {δ : Type*} (regs : GpuRegs δ) (bar1CpuBase bar1Size : UInt64)
    (dev : δ) :
    detectAndInitChecked regs bar1CpuBase bar1Size dev =
      some (detectAndInit regs bar1CpuBase bar1Size dev) := by
  have hmib : checkedMul (1024 : UInt64) 1024 = some reserved := rfl
  simp only [detectAndInitChecked, decodeInfoChecked_eq, hmib, Option.bind_some, Option.map_some]
  rfl

/-! ### No overflow in an allocation -/

theorem alignedSizeChecked_eq {size : UInt64} (h : size.toNat + 0xFFF < 2 ^ 64) :
    alignedSizeChecked size = some (alignedSize size) := by
  rw [alignedSizeChecked, checkedAdd_of_lt h]
  rfl

theorem firstFitChecked_eq {aligned : UInt64} {rs : List FreeRegion}
    (h : ∀ r ∈ rs, r.start.toNat + r.size.toNat < 2 ^ 64) :
    firstFitChecked aligned rs = some (firstFit aligned rs) := by
  induction rs with
  | nil => rfl
  | cons r rs ih =>
    obtain ⟨hr, hrs⟩ := List.forall_mem_cons.1 h
    unfold firstFitChecked firstFit
    split_ifs with hle
    · rw [ge_iff_le, UInt64.le_iff_toNat_le] at hle
      have hadd : r.start.toNat + aligned.toNat < 2 ^ 64 := by omega
      rw [checkedAdd_of_lt hadd, checkedSub_of_le hle]
      rfl
    · rw [ih hrs]
      rfl

/-- **No overflow in an allocation** from an allocator of which VRAM only has been consumed. -/
theorem VaWithinVram.allocateChecked {a : VramAllocator} (h : a.VaWithinVram) {size : UInt64}
    (hsize : size.toNat + 0xFFF < 2 ^ 64) :
    a.allocateChecked size = some (a.allocate size) := by
  obtain ⟨A, hA⟩ := h.arena
  obtain ⟨r, hr, hstart, hend⟩ := hA.region
  have hlimit := hA.limit_lt
  have hregions : ∀ r ∈ a.freeList, r.start.toNat + r.size.toNat < 2 ^ 64 := by
    rw [hr]
    simp only [List.mem_singleton, forall_eq]
    omega
  have hfirst : firstFitChecked (alignedSize size) a.freeList =
      some (firstFit (alignedSize size) a.freeList) := firstFitChecked_eq hregions
  simp only [VramAllocator.allocateChecked, VramAllocator.allocate, alignedSizeChecked_eq hsize,
    hfirst, Option.bind_eq_bind, Option.bind_some]
  cases hfit : firstFit (alignedSize size) a.freeList with
  | none => rfl
  | some p =>
    have hsome : (a.allocate size).1.isSome := by
      rw [VramAllocator.allocate, hfit]
      rfl
    have hfree := (hA.isSome_allocate_iff size).1 hsome
    have hbound := h.bound
    have hva : a.nextGpuVa.toNat + (alignedSize size).toNat < 2 ^ 64 := by omega
    have hnext : checkedAdd a.nextGpuVa (alignedSize size) =
        some (a.nextGpuVa + alignedSize size) := checkedAdd_of_lt hva
    simp only [hnext, Option.bind_some]
    rfl

end VramAllocator

end GpuCompute
