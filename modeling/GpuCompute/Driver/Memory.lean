import GpuCompute.Fifo.Allocate
import GpuCompute.Memory.Virtual

/-!
# What an allocator hands out

An allocator hands out blocks of VRAM and mappings of system memory.  Both have ranges of GPU
virtual addresses, from a counter that wraps.  As long as the address space has room for all of VRAM
and for all that is mapped, the counter does not wrap, and nothing that has been handed out overlaps
anything else, whatever sizes are asked for.

* `Handed` : a block of VRAM or a mapping of system memory.
* `handed` : what a run hands out.
* `mappedBytes` : the pages that a run maps.
* `HandedSafe` : nothing that has been handed out overlaps anything else.
* `HandedInv.step`, `handedInv_run` : what has been handed out is stacked, in VRAM and in the
  address space.
* `HandedSafe.sublist` : a part of what has been handed out is safe too.
-/

namespace GpuCompute

open Systems VramAllocator

/-- What an allocator hands out. -/
inductive Handed where
  /-- A block of VRAM: the bytes that were asked for, where it is in VRAM, and its addresses. -/
  | block (size : UInt64) (phys va : Block ℕ)
  /-- A mapping of that many bytes of system memory at an address. -/
  | mapping (va size : UInt64)
  deriving DecidableEq

namespace Handed

/-- The GPU virtual range, as exact integers. -/
def vaBlock : Handed → Block ℕ
  | .block _ _ va => va
  | .mapping va size => ⟨va.toNat, size.toNat⟩

/-- The range in VRAM, of a block. -/
def physBlock : Handed → Option (Block ℕ)
  | .block _ phys _ => some phys
  | .mapping _ _ => none

end Handed

/-- An allocation of so many bytes, as it is handed out. -/
def GpuAllocation.handed (g : GpuAllocation) (size : UInt64) : Handed :=
  .block size g.physBlock g.vaBlock

/-- What an operation hands out. -/
def VramEvent.handed (e : VramEvent) : Option Handed :=
  match e.op, e.out with
  | .allocate size, .allocated (some g) => some (g.handed size)
  | .mapSystemMemory _ size, .dma (some va) => some (.mapping va size)
  | _, _ => none

/-- What a run hands out, newest first. -/
def handed (tr : List VramEvent) : List Handed := tr.filterMap VramEvent.handed

/-- The bytes that an operation maps, in whole pages. -/
def VramOp.mappedBytes : VramOp → ℕ
  | .mapSystemMemory _ size => roundUp 4096 size.toNat
  | _ => 0

/-- The bytes that a run maps. -/
def mappedBytes (ops : List VramOp) : ℕ := (ops.map VramOp.mappedBytes).sum

/-- Nothing that has been handed out overlaps anything else, `total` being the size of VRAM. -/
structure HandedSafe (total : ℕ) (hs : List Handed) : Prop where
  /-- A block is as large as was asked for, unless rounding that up to a page wraps. -/
  requested : ∀ size phys va, .block size phys va ∈ hs → size.toNat + 0xFFF < 2 ^ 64 →
    size.toNat ≤ phys.size ∧ size.toNat ≤ va.size
  /-- Blocks start on pages, in VRAM and in the address space. -/
  aligned : ∀ size phys va, .block size phys va ∈ hs → 4096 ∣ phys.start ∧ 4096 ∣ va.start
  /-- Blocks lie in VRAM and leave the first MiB alone. -/
  vram : ∀ b ∈ hs.filterMap Handed.physBlock, b.Within (2 ^ 20) (max total (2 ^ 20))
  /-- No two blocks overlap in VRAM. -/
  vram_disjoint : (hs.filterMap Handed.physBlock).Pairwise Block.Sep
  /-- Blocks and mappings lie in the address space and do not reach its last address. -/
  within : ∀ h ∈ hs, h.vaBlock.Within 0x100000000 (2 ^ 64 - 1)
  /-- No two of them overlap there. -/
  disjoint : (hs.map Handed.vaBlock).Pairwise Block.Sep

theorem HandedSafe.sublist {total : ℕ} {hs hs' : List Handed} (h : HandedSafe total hs)
    (hsub : hs'.Sublist hs) : HandedSafe total hs' where
  requested size phys va hmem := h.requested size phys va (hsub.subset hmem)
  aligned size phys va hmem := h.aligned size phys va (hsub.subset hmem)
  vram b hb := h.vram b ((hsub.filterMap _).subset hb)
  vram_disjoint := h.vram_disjoint.sublist (hsub.filterMap _)
  within x hx := h.within x (hsub.subset hx)
  disjoint := h.disjoint.sublist (hsub.map _)

/-! ### What has been handed out is stacked -/

/-- A block starts on a page, and has the rounded size. -/
def Handed.Paged : Handed → Prop
  | .block size phys va => 4096 ∣ phys.start ∧ 4096 ∣ va.start ∧
    phys.size = (alignedSize size).toNat ∧ va.size = (alignedSize size).toNat
  | .mapping _ _ => True

/-- What has been handed out so far is stacked, in VRAM and in the address space; the counter of
addresses has moved by no more than VRAM and what has been mapped. -/
structure HandedInv (info : VramInfo) (hs : List Handed) (a : VramAllocator) (mapped : ℕ) :
    Prop where
  memory : ∃ A : Arena ℕ, a.RepresentsArena A ∧ A.limit = (physicalMemory info).limit ∧
    4096 ∣ A.cursor ∧ Stacked (2 ^ 20) (hs.filterMap Handed.physBlock) A.cursor
  counter : a.nextGpuVa.toNat + a.freeBytes ≤ 2 ^ 32 + 2 ^ 37 + mapped
  counter_dvd : 4096 ∣ a.nextGpuVa.toNat
  ranges : Stacked 0x100000000 (hs.map Handed.vaBlock) a.nextGpuVa.toNat
  paged : ∀ h ∈ hs, h.Paged

namespace HandedInv

variable {info : VramInfo} {hs : List Handed} {a : VramAllocator} {mapped : ℕ}

theorem start (h : info.totalBytes.toNat ≤ 2 ^ 37) (bar1CpuBase bar1Size : UInt64) :
    HandedInv info [] (ofInfo info bar1CpuBase bar1Size) 0 := by
  have hva := ofInfo_vaWithinVram h bar1CpuBase bar1Size
  exact ⟨⟨physicalMemory info, ofInfo_representsArena info _ _, rfl, ⟨256, rfl⟩, le_rfl⟩,
    hva.bound, hva.aligned, le_rfl, by simp⟩

theorem toNat_nextGpuVa_allocate (h : HandedInv info hs a mapped)
    (hroom : 2 ^ 32 + 2 ^ 37 + mapped < 2 ^ 64) {size : UInt64} {g : GpuAllocation}
    (hg : (a.allocate size).1 = some g) :
    (a.allocate size).2.nextGpuVa.toNat = a.nextGpuVa.toNat + (alignedSize size).toNat := by
  obtain ⟨A, hA, -⟩ := h.memory
  have hfree := hA.freeBytes_allocate hg
  have hcounter := h.counter
  obtain ⟨-, -, -, -, hnext⟩ := allocate_some hg
  rw [hnext, UInt64.toNat_add, Nat.mod_eq_of_lt (by omega)]

theorem toNat_nextGpuVa_map (h : HandedInv info hs a mapped) {size : UInt64}
    (hroom : 2 ^ 32 + 2 ^ 37 + (mapped + roundUp 4096 size.toNat) < 2 ^ 64)
    (systemPhysAddr : UInt64) :
    (alignedSize size).toNat = roundUp 4096 size.toNat ∧
      (a.mapSystemMemory systemPhysAddr size).2.nextGpuVa.toNat =
        a.nextGpuVa.toNat + roundUp 4096 size.toNat := by
  have hcounter := h.counter
  have hle := le_roundUp (m := 4096) (by decide) size.toNat
  have hsize : (alignedSize size).toNat = roundUp 4096 size.toNat :=
    toNat_alignedSize_of_lt (by unfold roundUp at hroom hle; omega)
  refine ⟨hsize, ?_⟩
  show (a.nextGpuVa + alignedSize size).toNat = _
  rw [UInt64.toNat_add, hsize, Nat.mod_eq_of_lt (by omega)]

theorem allocate (h : HandedInv info hs a mapped) (hroom : 2 ^ 32 + 2 ^ 37 + mapped < 2 ^ 64)
    {size : UInt64} {g : GpuAllocation} (hg : (a.allocate size).1 = some g) :
    HandedInv info (g.handed size :: hs) (a.allocate size).2 mapped := by
  obtain ⟨A, hA, hlimit, hdvd, hstacked⟩ := h.memory
  obtain ⟨hout, hA'⟩ := hA.allocate size
  rw [hg] at hout
  obtain ⟨hblock, hcursor⟩ := Arena.take_eq_some hout.symm
  have hfree := hA.freeBytes_allocate hg
  have hcounter := h.counter
  obtain ⟨hva, hsize, -⟩ := allocate_some hg
  have hnat := h.toNat_nextGpuVa_allocate hroom hg
  have hrange : g.vaBlock = ⟨a.nextGpuVa.toNat, (alignedSize size).toNat⟩ := by
    rw [GpuAllocation.vaBlock, hva, hsize]
  have hhanded : g.handed size = .block size ⟨A.cursor, (alignedSize size).toNat⟩
      ⟨a.nextGpuVa.toNat, (alignedSize size).toNat⟩ := by
    rw [GpuAllocation.handed, hblock, hrange]
  rw [hhanded]
  refine ⟨⟨_, hA', by rw [Arena.take_limit, hlimit], ?_, ?_⟩, by omega, ?_, ?_, ?_⟩
  · rw [hcursor]
    exact Nat.dvd_add hdvd (dvd_alignedSize size)
  · rw [hcursor]
    exact hstacked.push _
  · rw [hnat]
    exact Nat.dvd_add h.counter_dvd (dvd_alignedSize size)
  · rw [hnat]
    exact h.ranges.push _
  · exact List.forall_mem_cons.2 ⟨⟨hdvd, h.counter_dvd, rfl, rfl⟩, h.paged⟩

theorem mapSystemMemory (h : HandedInv info hs a mapped) {size : UInt64}
    (hroom : 2 ^ 32 + 2 ^ 37 + (mapped + roundUp 4096 size.toNat) < 2 ^ 64)
    (systemPhysAddr : UInt64) :
    HandedInv info (.mapping a.nextGpuVa size :: hs) (a.mapSystemMemory systemPhysAddr size).2
      (mapped + roundUp 4096 size.toNat) := by
  have hcounter := h.counter
  have hle := le_roundUp (m := 4096) (by decide) size.toNat
  obtain ⟨-, hnat⟩ := h.toNat_nextGpuVa_map hroom systemPhysAddr
  have hfree : (a.mapSystemMemory systemPhysAddr size).2.freeBytes = a.freeBytes := rfl
  obtain ⟨A, hA, hrest⟩ := h.memory
  refine ⟨⟨A, hA.congr rfl, hrest⟩, by omega, ?_, ?_, ?_⟩
  · rw [hnat]
    exact Nat.dvd_add h.counter_dvd (dvd_roundUp _ _)
  · rw [List.map_cons, hnat]
    exact (h.ranges.push size.toNat).mono (by omega)
  · exact List.forall_mem_cons.2 ⟨trivial, h.paged⟩

/-- **Every operation keeps what has been handed out stacked.** -/
theorem step {tr : List VramEvent} (h : HandedInv info (handed tr) a mapped) {op : VramOp}
    (hroom : 2 ^ 32 + 2 ^ 37 + (mapped + op.mappedBytes) < 2 ^ 64) :
    HandedInv info (handed (vram.event a op :: tr)) (vram.step a op).2
      (mapped + op.mappedBytes) := by
  cases op with
  | allocate size =>
    cases hg : (a.allocate size).1 with
    | none =>
      have hout : VramEvent.handed (vram.event a (.allocate size)) = none := by
        simp [VramEvent.handed, vram, hg]
      rw [handed, List.filterMap_cons_none hout]
      simp only [vram, allocate_none hg]
      exact h
    | some g =>
      have hout : VramEvent.handed (vram.event a (.allocate size)) = some (g.handed size) := by
        simp [VramEvent.handed, vram, hg]
      rw [handed, List.filterMap_cons_some hout]
      exact h.allocate hroom hg
  | free alloc => exact h
  | mapToCpu alloc => exact h
  | mapSystemMemory systemPhysAddr size => exact h.mapSystemMemory hroom systemPhysAddr

theorem safe (h : HandedInv info hs a mapped) (hroom : 2 ^ 32 + 2 ^ 37 + mapped < 2 ^ 64) :
    HandedSafe info.totalBytes.toNat hs := by
  obtain ⟨A, -, hlimit, -, hstacked⟩ := h.memory
  have hcounter := h.counter
  have hle := A.le
  have hmax : (physicalMemory info).limit = max info.totalBytes.toNat (2 ^ 20) := by
    simp only [physicalMemory]
    omega
  constructor
  case requested =>
    intro size phys va hmem hsize
    obtain ⟨-, -, hphys, hva⟩ := h.paged _ hmem
    rw [hphys, hva]
    exact ⟨le_alignedSize_iff.2 hsize, le_alignedSize_iff.2 hsize⟩
  case aligned =>
    intro size phys va hmem
    obtain ⟨hphys, hva, -⟩ := h.paged _ hmem
    exact ⟨hphys, hva⟩
  case vram =>
    intro b hb
    obtain ⟨hlo, hhi⟩ := hstacked.within b hb
    exact ⟨hlo, by omega⟩
  case vram_disjoint => exact hstacked.pairwise_sep
  case within =>
    intro x hx
    obtain ⟨hlo, hhi⟩ := h.ranges.within _ (List.mem_map_of_mem hx)
    exact ⟨hlo, by omega⟩
  case disjoint => exact h.ranges.pairwise_sep

end HandedInv

/-- What a run hands out is stacked. -/
theorem handedInv_run {info : VramInfo} (htotal : info.totalBytes.toNat ≤ 2 ^ 37)
    (bar1CpuBase bar1Size : UInt64) (ops : List VramOp)
    (hroom : 2 ^ 32 + 2 ^ 37 + mappedBytes ops < 2 ^ 64) :
    HandedInv info (handed (vram.trace (ofInfo info bar1CpuBase bar1Size) ops))
      (vram.final (ofInfo info bar1CpuBase bar1Size) ops) (mappedBytes ops) := by
  induction ops using List.reverseRecOn with
  | nil => exact .start htotal bar1CpuBase bar1Size
  | append_singleton ops op ih =>
    have hsum : mappedBytes (ops ++ [op]) = mappedBytes ops + op.mappedBytes := by
      simp [mappedBytes]
    rw [hsum] at hroom ⊢
    rw [Machine.trace_concat, Machine.final_concat]
    exact (ih (by omega)).step hroom

end GpuCompute
