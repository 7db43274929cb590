import GpuCompute.Lib.Arena
import GpuCompute.Memory.Basic
import Mathlib.Algebra.Order.Group.Nat

/-!
# Runs of the VRAM allocator

The allocator as a machine whose operations are its four methods, and what every run of it
guarantees about physical memory.  Physical memory is an `Arena`: the free list always holds the
one region that `detectAndInit` put there, `allocate` cuts the next block off it, and no other
operation touches it (`physicalArena`, a refinement).

* `vram` : the allocator as a machine.
* `allocations` : the requests of a run that returned an allocation.
* `PhysicalSafe` : what a run guarantees about physical memory.
* `physicalArena` : the allocator refines an arena of physical memory.
* `physicalSafe_run` : every run from a detected allocator is `PhysicalSafe`.
-/

namespace GpuCompute

open Systems

/-- The operations of the allocator. -/
inductive VramOp where
  | allocate (size : UInt64)
  | free (alloc : GpuAllocation)
  | mapToCpu (alloc : GpuAllocation)
  | mapSystemMemory (systemPhysAddr size : UInt64)
  deriving DecidableEq

/-- What the operations return. -/
inductive VramOut where
  | allocated (alloc : Option GpuAllocation)
  | freed
  | mapped (cpuVa : Option UInt64) (alloc : GpuAllocation)
  | dma (gpuVa : Option UInt64)
  deriving DecidableEq

/-- The allocator as a machine. -/
def vram : Machine VramAllocator VramOp VramOut where
  step a
    | .allocate size => ((a.allocate size).1 |> .allocated, (a.allocate size).2)
    | .free alloc => (.freed, a.free alloc)
    | .mapToCpu alloc => (.mapped (a.mapToCpu alloc).1 (a.mapToCpu alloc).2, a)
    | .mapSystemMemory addr size =>
      (.dma (a.mapSystemMemory addr size).1, (a.mapSystemMemory addr size).2)

/-- One performed operation of the allocator. -/
abbrev VramEvent := Event VramAllocator VramOp VramOut

/-- The requested size and the returned allocation of a successful `allocate`. -/
def VramEvent.allocation (e : VramEvent) : Option (UInt64 × GpuAllocation) :=
  match e.op, e.out with
  | .allocate size, .allocated (some g) => some (size, g)
  | _, _ => none

/-- The allocations a run returned, with the requested sizes. -/
def allocations (tr : List VramEvent) : List (UInt64 × GpuAllocation) :=
  tr.filterMap VramEvent.allocation

/-- The physical range of an allocation. -/
def GpuAllocation.physBlock (g : GpuAllocation) : Block ℕ := ⟨g.physAddr.toNat, g.size.toNat⟩

/-- The bytes left in the free list. -/
def VramAllocator.freeBytes (a : VramAllocator) : ℕ := (a.freeList.map fun r => r.size.toNat).sum

/-! ### The allocator refines an arena of physical memory -/

namespace VramAllocator

/-- The free list is the one region that the arena still has to hand out. -/
structure RepresentsArena (a : VramAllocator) (A : Arena ℕ) : Prop where
  /-- The one region. -/
  region : ∃ r, a.freeList = [r] ∧ r.start.toNat = A.cursor ∧ A.cursor + r.size.toNat = A.limit
  /-- Physical addresses are 64-bit words. -/
  limit_lt : A.limit < 2 ^ 64

theorem RepresentsArena.allocate {a : VramAllocator} {A : Arena ℕ} (h : a.RepresentsArena A)
    (size : UInt64) :
    (a.allocate size).1.map GpuAllocation.physBlock = (A.take (alignedSize size).toNat).1 ∧
      (a.allocate size).2.RepresentsArena (A.take (alignedSize size).toNat).2 := by
  obtain ⟨⟨r, hr, hstart, hsize⟩, hlim⟩ := h
  by_cases hfit : alignedSize size ≤ r.size
  · have hle := UInt64.le_iff_toNat_le.1 hfit
    have htake : A.cursor + (alignedSize size).toNat ≤ A.limit := by omega
    rw [Arena.take_of_le htake, VramAllocator.allocate, hr, firstFit_singleton hfit]
    refine ⟨by simp [GpuAllocation.physBlock, hstart], ⟨_, rfl, ?_, ?_⟩, hlim⟩
    · rw [UInt64.toNat_add, hstart, Nat.mod_eq_of_lt (by omega)]
    · rw [UInt64.toNat_sub_of_le _ _ hfit]
      change A.cursor + (alignedSize size).toNat + _ = A.limit
      omega
  · have hlt : r.size < alignedSize size := UInt64.not_le.1 hfit
    have hnone : (a.allocate size).1 = none := allocate_eq_none_iff.2 (by simpa [hr] using hlt)
    rw [UInt64.lt_iff_toNat_lt] at hlt
    rw [Arena.take_of_lt (by omega), allocate_none hnone]
    exact ⟨rfl, ⟨r, hr, hstart, hsize⟩, hlim⟩

theorem RepresentsArena.congr {a b : VramAllocator} {A : Arena ℕ} (h : a.RepresentsArena A)
    (hf : b.freeList = a.freeList) : b.RepresentsArena A :=
  ⟨by rw [hf]; exact h.region, h.limit_lt⟩

theorem RepresentsArena.freeBytes {a : VramAllocator} {A : Arena ℕ} (h : a.RepresentsArena A) :
    A.cursor + a.freeBytes = A.limit := by
  obtain ⟨r, hr, -, hsize⟩ := h.region
  simpa [VramAllocator.freeBytes, hr] using hsize

/-- The physical memory behind a fresh allocator. -/
def physicalMemory (info : VramInfo) : Arena ℕ where
  cursor := 2 ^ 20
  limit := 2 ^ 20 + (info.totalBytes.toNat - 2 ^ 20)
  le := Nat.le_add_right _ _

theorem ofInfo_representsArena (info : VramInfo) (b s : UInt64) :
    (ofInfo info b s).RepresentsArena (physicalMemory info) := by
  refine ⟨⟨_, rfl, rfl, ?_⟩, ?_⟩
  · rw [toNat_saturatingSub]; rfl
  · have := info.totalBytes.toNat_lt
    simp only [physicalMemory]
    omega

end VramAllocator

open VramAllocator

/-- **The allocator refines an arena of physical memory.** -/
def physicalArena : Refinement vram (Arena.machine (α := ℕ)) where
  rel := RepresentsArena
  op
    | .allocate size => some (alignedSize size).toNat
    | _ => none
  view e := match e.op, e.out with
    | .allocate _, .allocated g => some (g.map GpuAllocation.physBlock)
    | _, _ => none
  stutter := by
    rintro a A (_ | _ | _ | _) h hop
    · cases hop
    · exact ⟨rfl, h⟩
    · exact ⟨rfl, h⟩
    · exact ⟨rfl, h.congr rfl⟩
  simulate := by
    rintro a A (size | _ | _ | _) k h hop <;> cases hop
    exact ⟨congrArg some (h.allocate size).1, (h.allocate size).2⟩

theorem map_physBlock_allocations {a : VramAllocator} {A : Arena ℕ} (h : a.RepresentsArena A)
    (ops : List VramOp) :
    (allocations (vram.trace a ops)).map (fun p => p.2.physBlock) =
      A.blocks (ops.filterMap physicalArena.op) := by
  have hout : ∀ l : List (Event (Arena ℕ) ℕ (Option (Block ℕ))),
      l.filterMap Event.out = (l.map Event.out).filterMap id := by
    intro l; rw [List.filterMap_map]; rfl
  rw [Arena.blocks, hout, ← (physicalArena.trace_eq h ops).1, List.filterMap_filterMap,
    allocations, List.map_filterMap]
  congr 1
  funext e
  obtain ⟨_, op, out⟩ := e
  cases op <;> cases out <;> try rfl
  rename_i g
  cases g <;> rfl

theorem final_representsArena {a : VramAllocator} {A : Arena ℕ} (h : a.RepresentsArena A)
    (ops : List VramOp) :
    (vram.final a ops).RepresentsArena (Arena.machine.final A (ops.filterMap physicalArena.op)) :=
  (physicalArena.trace_eq h ops).2

theorem allocation_event_allocate (a : VramAllocator) (size : UInt64) :
    VramEvent.allocation (vram.event a (.allocate size)) =
      (a.allocate size).1.map fun g => (size, g) := by
  cases h : (a.allocate size).1 <;> simp [VramEvent.allocation, vram, h]

theorem allocation_spec {a : VramAllocator} {ops : List VramOp} {p : UInt64 × GpuAllocation}
    (hp : p ∈ allocations (vram.trace a ops)) :
    .allocate p.1 ∈ ops ∧ p.2.size = alignedSize p.1 := by
  obtain ⟨e, he, hp⟩ := List.mem_filterMap.1 hp
  have hop := Machine.op_mem_of_mem_trace he
  rw [Machine.eq_event_of_mem_trace he] at hp hop
  cases hcase : e.op with
  | allocate size =>
    rw [hcase] at hp hop
    rw [allocation_event_allocate] at hp
    obtain ⟨g, hg, rfl⟩ := Option.map_eq_some_iff.1 hp
    exact ⟨hop, (allocate_some hg).2.1⟩
  | free _ => rw [hcase] at hp; cases hp
  | mapToCpu _ => rw [hcase] at hp; cases hp
  | mapSystemMemory _ _ => rw [hcase] at hp; cases hp

/-! ### What every run guarantees -/

/-- What a run guarantees about physical memory, `total` being the size of VRAM in bytes. -/
structure PhysicalSafe (total : ℕ) (tr : List VramEvent) (a : VramAllocator) : Prop where
  /-- An allocation is at least as large as requested. -/
  requested : ∀ p ∈ allocations tr, p.1.toNat ≤ p.2.size.toNat
  /-- Allocations are page aligned. -/
  aligned : ∀ p ∈ allocations tr, 4096 ∣ p.2.physAddr.toNat ∧ 4096 ∣ p.2.size.toNat
  /-- Allocations lie in VRAM and leave the first MiB alone. -/
  within : ∀ p ∈ allocations tr, p.2.physBlock.Within (2 ^ 20) (max total (2 ^ 20))
  /-- No two allocations overlap. -/
  disjoint : ((allocations tr).map fun p => p.2.physBlock).Pairwise Block.Sep
  /-- What was handed out and what is free add up to what was free at the start. -/
  conserved : ((allocations tr).map fun p => p.2.size.toNat).sum + a.freeBytes = total - 2 ^ 20

theorem physicalSafe_of_representsArena {a : VramAllocator} {info : VramInfo}
    (h : a.RepresentsArena (physicalMemory info)) {ops : List VramOp}
    (hops : ∀ size, .allocate size ∈ ops → size.toNat + 0xFFF < 2 ^ 64) :
    PhysicalSafe info.totalBytes.toNat (vram.trace a ops) (vram.final a ops) := by
  have hblocks := map_physBlock_allocations h ops
  have hlimit := Arena.limit_run (physicalMemory info) (ops.filterMap physicalArena.op)
  have hstacked := Arena.stacked_run (physicalMemory info) (ops.filterMap physicalArena.op)
  have hle := (Arena.machine.final (physicalMemory info) (ops.filterMap physicalArena.op)).le
  rw [hlimit] at hle
  rw [← hblocks] at hstacked
  have hmax : (physicalMemory info).limit = max info.totalBytes.toNat (2 ^ 20) := by
    simp only [physicalMemory]; omega
  constructor
  case requested =>
    intro p hp
    obtain ⟨hmem, hsize⟩ := allocation_spec hp
    rw [hsize]
    exact le_alignedSize_iff.2 (hops _ hmem)
  case aligned =>
    intro p hp
    have hns : ∀ n ∈ ops.filterMap physicalArena.op, 4096 ∣ n := by
      intro n hn
      obtain ⟨op, -, hop⟩ := List.mem_filterMap.1 hn
      cases op <;> cases hop
      exact dvd_alignedSize _
    have hal := (Arena.forall_blocks (P := (4096 ∣ ·)) (fun _ _ => Nat.dvd_add)
      (A := physicalMemory info) ⟨256, rfl⟩ hns).1
    rw [← hblocks] at hal
    exact hal _ (List.mem_map_of_mem hp)
  case within =>
    intro p hp
    have hw := hstacked.within _ (List.mem_map_of_mem hp)
    exact ⟨hw.1, hmax ▸ hw.2.trans hle⟩
  case disjoint => exact hstacked.pairwise_sep
  case conserved =>
    have hsum := Arena.sum_run (physicalMemory info) (ops.filterMap physicalArena.op)
    rw [← hblocks, List.map_map] at hsum
    have hfree := (final_representsArena h ops).freeBytes
    rw [hlimit] at hfree
    simp only [physicalMemory, Function.comp_def, GpuAllocation.physBlock] at hsum hfree
    omega

/-- **Physical memory is safe in every run** of a detected allocator: whatever the registers say
and whatever is allocated, freed and mapped, in any order. -/
theorem physicalSafe_run {δ : Type*} (regs : GpuRegs δ) (dev : δ) (bar1CpuBase bar1Size : UInt64)
    (ops : List VramOp) (hops : ∀ size, .allocate size ∈ ops → size.toNat + 0xFFF < 2 ^ 64) :
    let a := (detectAndInit regs bar1CpuBase bar1Size dev).1
    PhysicalSafe a.info.totalBytes.toNat (vram.trace a ops) (vram.final a ops) :=
  physicalSafe_of_representsArena (ofInfo_representsArena _ _ _) hops

/-- A run that allocates, frees twice, maps and allocates until the 3 MiB of VRAM are gone. -/
theorem physicalSafe_run_three_mib :
    let a := (detectAndInit GpuRegs.plain 0 0 fun _ => 3).1
    let ops := [.allocate 5000, .free ⟨0, 0, 0, false, 0⟩, .free ⟨0, 0, 0, false, 0⟩,
      .mapToCpu ⟨0, 0, 0, false, 0⟩, .mapSystemMemory 0 1, .allocate 0x1FE000, .allocate 1]
    PhysicalSafe a.info.totalBytes.toNat (vram.trace a ops) (vram.final a ops) :=
  physicalSafe_run GpuRegs.plain _ 0 0 _ (by simp)

end GpuCompute
