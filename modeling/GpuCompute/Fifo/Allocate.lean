import GpuCompute.Fifo.Channel
import GpuCompute.Memory.Totals

/-!
# Allocating a channel

A channel takes two blocks of VRAM, the ring first.  When there is room for the ring and not for the
push buffer, the allocation of the channel fails and the ring is lost.

`Channel.allocate_of_lt`, `Channel.allocate_of_lt_of_le` and `Channel.allocate_of_le` say what an
attempt does, by how much is free.  It takes both blocks or nothing exactly when there is room for
both or for neither (`allOrNothing_iff`).
-/

namespace GpuCompute

open Systems VramAllocator

/-- The GPU virtual range of an allocation. -/
def GpuAllocation.vaBlock (g : GpuAllocation) : Block ℕ := ⟨g.gpuVa.toNat, g.size.toNat⟩

/-- Attempts to allocate a channel with a given ID for a given engine. -/
def channels : Machine VramAllocator (UInt32 × UInt32) (Option Channel) where
  step a ids := Channel.allocate a ids.1 ids.2

/-- An attempt to allocate a channel in this state takes both blocks or changes nothing. -/
structure AllOrNothing (a : VramAllocator) (channelId engineId : UInt32) : Prop where
  /-- An attempt that fails changes nothing. -/
  failed : (Channel.allocate a channelId engineId).1 = none →
    (Channel.allocate a channelId engineId).2.freeList = a.freeList ∧
      (Channel.allocate a channelId engineId).2.nextGpuVa = a.nextGpuVa
  /-- An attempt that succeeds takes the rounded sizes of the two blocks. -/
  taken : ∀ ch, (Channel.allocate a channelId engineId).1 = some ch →
    ch.gpfifo.size = alignedSize (DEFAULT_GPFIFO_ENTRIES.toUInt64 * 8) ∧
      ch.pushBuffer.size = alignedSize DEFAULT_PUSH_BUFFER_SIZE ∧
      (Channel.allocate a channelId engineId).2.freeBytes + ch.gpfifo.size.toNat +
        ch.pushBuffer.size.toNat = a.freeBytes ∧
      (Channel.allocate a channelId engineId).2.nextGpuVa =
        a.nextGpuVa + ch.gpfifo.size + ch.pushBuffer.size
  /-- The two blocks do not overlap. -/
  disjoint : ∀ ch, (Channel.allocate a channelId engineId).1 = some ch →
    ch.gpfifo.physBlock.Sep ch.pushBuffer.physBlock ∧ ch.gpfifo.vaBlock.Sep ch.pushBuffer.vaBlock
  /-- Attempts that fail leave room for every request for which there was room. -/
  retries : ∀ attempts, (∀ e ∈ channels.trace a attempts, e.out = none) →
    ∀ size, (a.allocate size).1.isSome → ((channels.final a attempts).allocate size).1.isSome

/-! ### What an attempt does -/

theorem alignedSize_ring : alignedSize (DEFAULT_GPFIFO_ENTRIES.toUInt64 * 8) = 0x2000 := by decide

theorem alignedSize_pushBuffer : alignedSize DEFAULT_PUSH_BUFFER_SIZE = 0x40000 := by decide

namespace Channel

variable {a : VramAllocator} {A : Arena ℕ} (h : a.RepresentsArena A) (channelId engineId : UInt32)

include h

theorem allocate_of_lt (hfree : a.freeBytes < 0x2000) :
    allocate a channelId engineId = (none, a) := by
  have hring : (alignedSize (DEFAULT_GPFIFO_ENTRIES.toUInt64 * 8)).toNat = 0x2000 := by decide
  unfold allocate
  dsimp only
  rw [h.allocate_of_lt (by omega)]

theorem allocate_of_lt_of_le (hring : 0x2000 ≤ a.freeBytes) (hpush : a.freeBytes < 0x42000) :
    allocate a channelId engineId = (none, a.bump 0x2000) := by
  have hsize : (alignedSize (DEFAULT_GPFIFO_ENTRIES.toUInt64 * 8)).toNat = 0x2000 := by decide
  have hsize' : (alignedSize DEFAULT_PUSH_BUFFER_SIZE).toNat = 0x40000 := by decide
  have hle : (alignedSize (DEFAULT_GPFIFO_ENTRIES.toUInt64 * 8)).toNat ≤ a.freeBytes := by omega
  obtain ⟨physAddr, -, hfirst⟩ := h.allocate_of_le hle
  obtain ⟨hfree, hrep⟩ := h.freeBytes_bump hle
  unfold allocate
  dsimp only
  rw [hfirst]
  dsimp only
  rw [hrep.allocate_of_lt (by omega), alignedSize_ring]

theorem allocate_of_le (hfree : 0x42000 ≤ a.freeBytes) :
    ∃ ch, allocate a channelId engineId = (some ch, a.bump 0x42000) ∧
      ch.gpfifo.gpuVa = a.nextGpuVa ∧ ch.pushBuffer.gpuVa = a.nextGpuVa + 0x2000 ∧
      ch.gpfifo.size = 0x2000 ∧ ch.pushBuffer.size = 0x40000 ∧
      ch.pushBuffer.physAddr.toNat = ch.gpfifo.physAddr.toNat + 0x2000 := by
  have hsize : (alignedSize (DEFAULT_GPFIFO_ENTRIES.toUInt64 * 8)).toNat = 0x2000 := by decide
  have hsize' : (alignedSize DEFAULT_PUSH_BUFFER_SIZE).toNat = 0x40000 := by decide
  have hle : (alignedSize (DEFAULT_GPFIFO_ENTRIES.toUInt64 * 8)).toNat ≤ a.freeBytes := by omega
  have hlimit := h.freeBytes
  obtain ⟨physAddr, hphys, hfirst⟩ := h.allocate_of_le hle
  obtain ⟨hfree', hrep⟩ := h.freeBytes_bump hle
  rw [Arena.take_of_le (by omega)] at hrep
  have hle' : (alignedSize DEFAULT_PUSH_BUFFER_SIZE).toNat ≤
      (a.bump (alignedSize (DEFAULT_GPFIFO_ENTRIES.toUInt64 * 8))).freeBytes := by omega
  obtain ⟨physAddr', hphys', hsecond⟩ := hrep.allocate_of_le hle'
  have hcursor : physAddr'.toNat = physAddr.toNat + 0x2000 := by
    rw [hphys', hphys, ← hsize]
  have hva : (a.bump (alignedSize (DEFAULT_GPFIFO_ENTRIES.toUInt64 * 8))).nextGpuVa =
      a.nextGpuVa + 0x2000 := congrArg (a.nextGpuVa + ·) alignedSize_ring
  have hsum : (0x2000 : UInt64) + 0x40000 = 0x42000 := by decide
  unfold allocate
  dsimp only
  rw [hfirst]
  dsimp only
  rw [hsecond, bump_bump, alignedSize_ring, alignedSize_pushBuffer, hsum]
  exact ⟨_, rfl, rfl, hva, rfl, rfl, hcursor⟩

theorem allocate_isSome_iff :
    (allocate a channelId engineId).1.isSome ↔ 0x42000 ≤ a.freeBytes := by
  by_cases hboth : 0x42000 ≤ a.freeBytes
  · obtain ⟨ch, heq, -⟩ := allocate_of_le h channelId engineId hboth
    rw [heq]
    exact iff_of_true rfl hboth
  · refine iff_of_false ?_ hboth
    by_cases hring : 0x2000 ≤ a.freeBytes
    · rw [allocate_of_lt_of_le h channelId engineId hring (by omega)]
      exact Bool.false_ne_true
    · rw [allocate_of_lt h channelId engineId (by omega)]
      exact Bool.false_ne_true

end Channel

/-! ### All or nothing -/

/-- Attempts that change nothing when they fail can be repeated. -/
theorem final_channels_of_failed {a : VramAllocator}
    (hfail : ∀ ids : UInt32 × UInt32, (Channel.allocate a ids.1 ids.2).1 = none →
      (Channel.allocate a ids.1 ids.2).2 = a)
    {attempts : List (UInt32 × UInt32)} (hnone : ∀ e ∈ channels.trace a attempts, e.out = none) :
    channels.final a attempts = a := by
  induction attempts using List.reverseRecOn with
  | nil => rfl
  | append_singleton attempts ids ih =>
    rw [Machine.trace_concat, List.forall_mem_cons] at hnone
    obtain ⟨hlast, hnone⟩ := hnone
    rw [ih hnone] at hlast
    rw [Machine.final_concat, ih hnone]
    exact hfail ids hlast

/-- Two ranges of addresses from one counter do not overlap, even if the counter wraps. -/
theorem vaBlock_sep {g g' : GpuAllocation} (hva : g'.gpuVa = g.gpuVa + g.size)
    (hsum : g.size.toNat + g'.size.toNat < 2 ^ 64) : g.vaBlock.Sep g'.vaBlock := by
  have hlt := g.gpuVa.toNat_lt
  unfold Block.Sep Block.stop GpuAllocation.vaBlock
  rw [hva, UInt64.toNat_add]
  dsimp only
  by_cases hwrap : g.gpuVa.toNat + g.size.toNat < 2 ^ 64
  · exact .inl (by omega)
  -- the second range starts over at the bottom of the address space
  · exact .inr (by omega)

section

variable {a : VramAllocator} {A : Arena ℕ} (h : a.RepresentsArena A) (channelId engineId : UInt32)

include h

theorem allOrNothing_of_lt (hfree : a.freeBytes < 0x2000) :
    AllOrNothing a channelId engineId := by
  have heq := Channel.allocate_of_lt h channelId engineId hfree
  constructor
  case failed => exact fun _ => by rw [heq]; exact ⟨rfl, rfl⟩
  case taken => exact fun ch hch => by rw [heq] at hch; cases hch
  case disjoint => exact fun ch hch => by rw [heq] at hch; cases hch
  case retries =>
    intro attempts hnone size hsome
    rw [final_channels_of_failed (fun ids _ => ?_) hnone]
    · exact hsome
    · rw [Channel.allocate_of_lt h _ _ hfree]

theorem freeBytes_bump_both (hfree : 0x42000 ≤ a.freeBytes) :
    (a.bump 0x42000).freeBytes = a.freeBytes - 0x42000 := by
  have hsum : alignedSize 0x42000 = 0x42000 := by decide
  have hle : (alignedSize 0x42000).toNat ≤ a.freeBytes := by
    rw [hsum]
    exact hfree
  have hbump := (h.freeBytes_bump hle).1
  rw [hsum] at hbump
  exact hbump

theorem allOrNothing_of_le (hfree : 0x42000 ≤ a.freeBytes) :
    AllOrNothing a channelId engineId := by
  obtain ⟨ch, heq, hring, hpush, hringSize, hpushSize, hphys⟩ :=
    Channel.allocate_of_le h channelId engineId hfree
  constructor
  case failed => exact fun hnone => by rw [heq] at hnone; cases hnone
  case taken =>
    intro ch' hch'
    rw [heq] at hch' ⊢
    obtain rfl : ch = ch' := Option.some.inj hch'
    have hbump := freeBytes_bump_both h hfree
    have hva : a.nextGpuVa + 0x2000 + 0x40000 = a.nextGpuVa + 0x42000 := by
      rw [add_assoc]
      rfl
    rw [hringSize, hpushSize, hbump, alignedSize_ring, alignedSize_pushBuffer, hva]
    refine ⟨rfl, rfl, ?_, rfl⟩
    simp only [UInt64.reduceToNat]
    omega
  case disjoint =>
    intro ch' hch'
    rw [heq] at hch'
    obtain rfl : ch = ch' := Option.some.inj hch'
    refine ⟨.inl ?_, vaBlock_sep ?_ ?_⟩
    · show ch.gpfifo.physAddr.toNat + ch.gpfifo.size.toNat ≤ ch.pushBuffer.physAddr.toNat
      rw [hphys, hringSize]
      rfl
    · rw [hpush, hring, hringSize]
    · rw [hringSize, hpushSize]
      decide
  case retries =>
    intro attempts hnone size hsome
    rw [final_channels_of_failed (fun ids hids => ?_) hnone]
    · exact hsome
    -- there is no attempt that fails
    · obtain ⟨ch', heq', -⟩ := Channel.allocate_of_le h ids.1 ids.2 hfree
      rw [heq'] at hids
      cases hids

theorem not_allOrNothing (hring : 0x2000 ≤ a.freeBytes) (hpush : a.freeBytes < 0x42000) :
    ¬ AllOrNothing a channelId engineId := by
  have heq := Channel.allocate_of_lt_of_le h channelId engineId hring hpush
  intro hall
  obtain ⟨-, hva⟩ := hall.failed (by rw [heq])
  rw [heq] at hva
  have hmoved : a.nextGpuVa + 0x2000 = a.nextGpuVa := hva
  simp at hmoved

end

/-- **An attempt to allocate a channel takes both blocks or nothing exactly when there is room for
both or for neither**, in every state that a detected allocator can reach. -/
theorem allOrNothing_iff {δ : Type*} (regs : GpuRegs δ) (dev : δ) (bar1CpuBase bar1Size : UInt64)
    (ops : List VramOp) (channelId engineId : UInt32) :
    let a := vram.final (detectAndInit regs bar1CpuBase bar1Size dev).1 ops
    AllOrNothing a channelId engineId ↔ a.freeBytes < 0x2000 ∨ 0x42000 ≤ a.freeBytes := by
  intro a
  have h : a.RepresentsArena _ := final_representsArena (ofInfo_representsArena _ _ _) ops
  constructor
  · intro hall
    by_contra hmid
    exact not_allOrNothing h channelId engineId (by omega) (by omega) hall
  · rintro (hlt | hle)
    · exact allOrNothing_of_lt h channelId engineId hlt
    · exact allOrNothing_of_le h channelId engineId hle

/-- With 64 KiB left an attempt fails and takes 8 KiB; after eight of them not even a page is
left. -/
theorem not_allOrNothing_64_kib :
    let a := vram.final (detectAndInit GpuRegs.plain 0 0 fun _ => 2).1 [.allocate 0xF0000]
    a.freeBytes = 0x10000 ∧ ¬ AllOrNothing a 0 0 ∧
      ((channels.final a (.replicate 8 (0, 0))).allocate 1).1 = none := by
  intro a
  have h : a.RepresentsArena _ := final_representsArena (ofInfo_representsArena _ _ _) _
  have hfree : a.freeBytes = 0x10000 := by decide
  exact ⟨hfree, not_allOrNothing h 0 0 (by omega) (by omega), by decide⟩

end GpuCompute
