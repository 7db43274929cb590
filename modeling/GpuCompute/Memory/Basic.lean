import GpuCompute.Lib.Word
import GpuCompute.Mmio.Basic

/-!
# The VRAM allocator

`VramAllocator` hands out VRAM first-fit from a free list and gives every allocation a range of
GPU virtual addresses from a counter, which DMA mappings of system memory share.  Arithmetic
wraps, as in a release build; the two mutexes are fields of the state.

* `VramAllocator.detectAndInit` : read the memory controller and build the allocator.
* `VramAllocator.allocate`, `free`, `mapToCpu`, `mapSystemMemory` : its operations, returning
  their result and the state after them.
* `VramAllocator.allocate_cases` : all that an allocation can do.
* `VramAllocator.toNat_alignedSize` : the page rounding, as wrapping arithmetic.
* `VramAllocator.decodeVramSize_spec` : every register value decodes to whole MiB, at most 128 GiB.
-/

namespace GpuCompute

open Systems

/-- GPU memory types. -/
inductive MemoryType where
  | gddr6
  | gddr6x
  | hbm2
  | unknown
  deriving DecidableEq

instance : ToString MemoryType where
  toString
    | .gddr6 => "GDDR6"
    | .gddr6x => "GDDR6X"
    | .hbm2 => "HBM2"
    | .unknown => "Unknown"

/-- What is known about the VRAM of the GPU. -/
structure VramInfo where
  /-- Total VRAM size in bytes. -/
  totalBytes : UInt64
  /-- Memory type. -/
  memType : MemoryType
  /-- Memory bus width in bits. -/
  busWidth : UInt32
  /-- Number of memory partitions. -/
  partitions : UInt32
  /-- Description for the log. -/
  description : String
  deriving DecidableEq

/-- A block of allocated GPU memory. -/
structure GpuAllocation where
  /-- GPU virtual address. -/
  gpuVa : UInt64
  /-- Physical address in VRAM. -/
  physAddr : UInt64
  /-- Size in bytes. -/
  size : UInt64
  /-- Whether the block is mapped through BAR1. -/
  cpuMapped : Bool
  /-- CPU virtual address if mapped, otherwise `0`. -/
  cpuVa : UInt64
  deriving DecidableEq

/-- A free region of VRAM. -/
structure FreeRegion where
  /-- First byte. -/
  start : UInt64
  /-- Size in bytes. -/
  size : UInt64
  deriving DecidableEq

/-- The VRAM allocator. -/
structure VramAllocator where
  /-- VRAM info. -/
  info : VramInfo
  /-- Free regions. -/
  freeList : List FreeRegion
  /-- Next GPU virtual address to assign. -/
  nextGpuVa : UInt64
  /-- CPU virtual address of the BAR1 aperture. -/
  bar1CpuBase : UInt64
  /-- Size of the BAR1 aperture. -/
  bar1Size : UInt64
  /-- How far into VRAM BAR1 is pointing. -/
  bar1VramOffset : UInt64
  deriving DecidableEq

namespace VramAllocator

/-! ### Detection -/

/-- Decode the VRAM size register: `0` stands for 8 GiB, other values are MiB up to 128 GiB. -/
def decodeVramSize (reg : UInt32) : UInt64 :=
  if reg = 0 then 8 * 1024 * 1024 * 1024
  else
    let size := reg.toUInt64 <<< 20
    if size > 0 ∧ size ≤ 128 * 1024 * 1024 * 1024 then size else 0

/-- Memory type from the configuration register. -/
def decodeMemType (cfg0 : UInt32) : MemoryType :=
  let t := (cfg0 >>> 8) &&& 0xF
  if t ≤ 0x3 then .gddr6 else if t ≤ 0x7 then .gddr6x else if t ≤ 0xB then .hbm2 else .unknown

/-- The VRAM info from the three memory controller registers. -/
def decodeInfo (cfg0 vramSizeReg nparts : UInt32) : VramInfo :=
  let totalBytes := decodeVramSize vramSizeReg
  let partitions := nparts &&& 0xFF
  let memType := decodeMemType cfg0
  let busWidth := match memType with
    | .hbm2 => partitions * 128
    | _ => partitions * 32
  let mib := totalBytes / (1024 * 1024)
  { totalBytes, memType, busWidth, partitions,
    description := s!"{mib} MiB {memType} ({busWidth}-bit, {partitions} partitions)" }

/-- The first MiB is kept for page tables and firmware. -/
def reserved : UInt64 := 1024 * 1024

/-- The allocator for a given VRAM info: everything past the reserved part is free. -/
def ofInfo (info : VramInfo) (bar1CpuBase bar1Size : UInt64) : VramAllocator :=
  { info
    freeList := [{ start := reserved, size := saturatingSub info.totalBytes reserved }]
    nextGpuVa := 0x100000000
    bar1CpuBase
    bar1Size
    bar1VramOffset := 0 }

/-- Detect the VRAM parameters and create the allocator. -/
def detectAndInit {δ : Type*} (regs : GpuRegs δ) (bar1CpuBase bar1Size : UInt64) (dev : δ) :
    VramAllocator × δ :=
  let (cfg0, dev) := regs.read32 dev NV_PFB_CFG0
  let (vramSizeReg, dev) := regs.read32 dev NV_PFB_VRAM_SIZE
  let (nparts, dev) := regs.read32 dev NV_PFB_NPARTS
  (ofInfo (decodeInfo cfg0 vramSizeReg nparts) bar1CpuBase bar1Size, dev)

/-! ### Operations -/

/-- Round a size up to 4 KiB. -/
def alignedSize (size : UInt64) : UInt64 := (size + 0xFFF) &&& ~~~0xFFF

/-- The first-fit loop: take `aligned` bytes from the start of the first region that has them. -/
def firstFit (aligned : UInt64) : List FreeRegion → Option (UInt64 × List FreeRegion)
  | [] => none
  | region :: rest =>
    if region.size ≥ aligned then
      some (region.start,
        { start := region.start + aligned, size := region.size - aligned } :: rest)
    else (firstFit aligned rest).map fun (physAddr, rest') => (physAddr, region :: rest')

/-- Allocate a block of VRAM. -/
def allocate (a : VramAllocator) (size : UInt64) : Option GpuAllocation × VramAllocator :=
  match firstFit (alignedSize size) a.freeList with
  | some (physAddr, freeList) =>
    (some { gpuVa := a.nextGpuVa, physAddr, size := alignedSize size, cpuMapped := false,
            cpuVa := 0 },
     { a with freeList, nextGpuVa := a.nextGpuVa + alignedSize size })
  | none => (none, a)

/-- Free an allocation: the bump allocator does not reclaim it. -/
def free (a : VramAllocator) (_alloc : GpuAllocation) : VramAllocator := a

/-- Map an allocation through the BAR1 aperture, which shows the first `bar1Size` bytes of
VRAM.  The allocation is updated in place. -/
def mapToCpu (a : VramAllocator) (alloc : GpuAllocation) : Option UInt64 × GpuAllocation :=
  if alloc.cpuMapped then (some alloc.cpuVa, alloc)
  else if alloc.size > a.bar1Size then (none, alloc)
  else if alloc.physAddr + alloc.size ≤ a.bar1Size then
    let cpuVa := a.bar1CpuBase + alloc.physAddr
    (some cpuVa, { alloc with cpuMapped := true, cpuVa })
  else (none, alloc)

/-- Reserve GPU virtual addresses for a DMA mapping of system memory. -/
def mapSystemMemory (a : VramAllocator) (_systemPhysAddr size : UInt64) :
    Option UInt64 × VramAllocator :=
  (some a.nextGpuVa, { a with nextGpuVa := a.nextGpuVa + alignedSize size })

/-! ### Page rounding -/

theorem toNat_alignedSize (size : UInt64) :
    (alignedSize size).toNat = (size.toNat + 0xFFF) % 2 ^ 64 / 4096 * 4096 := by
  have h := toNat_and_not_mask 12 (size + 0xFFF)
  rw [UInt64.toNat_add] at h
  exact h

theorem dvd_alignedSize (size : UInt64) : 4096 ∣ (alignedSize size).toNat := by
  rw [toNat_alignedSize]; exact Nat.dvd_mul_left _ _

theorem toNat_alignedSize_of_lt {size : UInt64} (h : size.toNat + 0xFFF < 2 ^ 64) :
    (alignedSize size).toNat = roundUp 4096 size.toNat := by
  rw [toNat_alignedSize, Nat.mod_eq_of_lt h]; rfl

/-- The rounding wraps to nothing when the size is within a page of `2^64`. -/
theorem toNat_alignedSize_of_ge {size : UInt64} (h : 2 ^ 64 ≤ size.toNat + 0xFFF) :
    (alignedSize size).toNat = 0 := by
  have := size.toNat_lt
  rw [toNat_alignedSize]
  omega

theorem le_alignedSize_iff {size : UInt64} :
    size.toNat ≤ (alignedSize size).toNat ↔ size.toNat + 0xFFF < 2 ^ 64 := by
  constructor
  · intro h
    by_contra hge
    rw [toNat_alignedSize_of_ge (by omega)] at h
    omega
  · intro h
    rw [toNat_alignedSize_of_lt h]
    exact le_roundUp (by decide) _

/-! ### Detection decodes a sane size -/

theorem decodeVramSize_spec (reg : UInt32) :
    2 ^ 20 ∣ (decodeVramSize reg).toNat ∧ (decodeVramSize reg).toNat ≤ 2 ^ 37 := by
  unfold decodeVramSize
  dsimp only
  split_ifs with h0 h
  · exact ⟨⟨8192, rfl⟩, by decide⟩
  · refine ⟨?_, UInt64.le_iff_toNat_le.1 h.2⟩
    have hreg := reg.toNat_lt
    rw [UInt64.toNat_shiftLeft, Nat.shiftLeft_eq]
    simp only [UInt32.toNat_toUInt64, UInt64.toNat_ofNat, Nat.reducePow, Nat.reduceMod]
    rw [Nat.mod_eq_of_lt (by omega)]
    exact Nat.dvd_mul_left _ _
  · exact ⟨⟨0, rfl⟩, by decide⟩

/-! ### What an allocation can do -/

theorem firstFit_eq_none {aligned : UInt64} {rs : List FreeRegion} :
    firstFit aligned rs = none ↔ ∀ r ∈ rs, r.size < aligned := by
  induction rs with
  | nil => simp [firstFit]
  | cons r rs ih =>
    unfold firstFit
    split_ifs with h
    · simp only [List.mem_cons, forall_eq_or_imp, false_iff, not_and]
      intro hlt
      exact absurd hlt (UInt64.not_lt.2 h)
    · simp only [Option.map_eq_none_iff, ih, List.mem_cons, forall_eq_or_imp,
        UInt64.not_le.1 h, true_and]

theorem firstFit_singleton {aligned : UInt64} {r : FreeRegion} (h : aligned ≤ r.size) :
    firstFit aligned [r] = some (r.start, [⟨r.start + aligned, r.size - aligned⟩]) := if_pos h

/-- **All that an allocation can do**: hand out the next virtual addresses and move the counter
by the rounded size, or find every region too small and change nothing. -/
theorem allocate_cases (a : VramAllocator) (size : UInt64) :
    (∃ physAddr freeList, firstFit (alignedSize size) a.freeList = some (physAddr, freeList) ∧
      a.allocate size = (some ⟨a.nextGpuVa, physAddr, alignedSize size, false, 0⟩,
        { a with freeList, nextGpuVa := a.nextGpuVa + alignedSize size })) ∨
    ((∀ r ∈ a.freeList, r.size < alignedSize size) ∧ a.allocate size = (none, a)) := by
  unfold allocate
  cases h : firstFit (alignedSize size) a.freeList with
  | some p => exact .inl ⟨p.1, p.2, rfl, rfl⟩
  | none => exact .inr ⟨firstFit_eq_none.1 h, rfl⟩

theorem allocate_eq_none_iff {a : VramAllocator} {size : UInt64} :
    (a.allocate size).1 = none ↔ ∀ r ∈ a.freeList, r.size < alignedSize size := by
  rw [← firstFit_eq_none, allocate]
  cases firstFit (alignedSize size) a.freeList <;> simp

theorem allocate_none {a : VramAllocator} {size : UInt64} (h : (a.allocate size).1 = none) :
    a.allocate size = (none, a) := by
  rcases a.allocate_cases size with ⟨_, _, -, heq⟩ | ⟨-, heq⟩
  · rw [heq] at h; cases h
  · exact heq

theorem allocate_some {a : VramAllocator} {size : UInt64} {g : GpuAllocation}
    (h : (a.allocate size).1 = some g) :
    g.gpuVa = a.nextGpuVa ∧ g.size = alignedSize size ∧ g.cpuMapped = false ∧ g.cpuVa = 0 ∧
      (a.allocate size).2.nextGpuVa = a.nextGpuVa + alignedSize size := by
  rcases a.allocate_cases size with ⟨_, _, -, heq⟩ | ⟨-, heq⟩
  · rw [heq] at h ⊢
    cases h
    exact ⟨rfl, rfl, rfl, rfl, rfl⟩
  · rw [heq] at h; cases h

end VramAllocator

end GpuCompute
