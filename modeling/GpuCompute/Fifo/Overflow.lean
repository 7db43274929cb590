import GpuCompute.Fifo.Summary
import GpuCompute.Memory.Overflow

/-!
# Overflow in the FIFO

A build with overflow checks stops in `Channel.submit` when the length in bytes, the end of the
segment, its address or the put index overflows.  None of this happens for slices of a reasonable
length on a channel that comes from the allocator, whatever has been submitted to it before: the
check of `submit` keeps the offset in the push buffer also when its sum has wrapped.  The allocation
of a channel is as safe as that of its blocks, unless its ID is so large that there is no doorbell.

* `Channel.submitChecked`, `Channel.allocateChecked` : the operations with overflow checks.
* `Channel.Bounded` : what all submits keep true of a channel.
* `Channel.Bounded.submitChecked` : on such a channel the checks do not stop a submit.
* `ChannelsBounded.step` : every operation on the FIFOs keeps all channels so.
* `VaWithinVram.allocateChannelChecked` : the checks do not stop the allocation of a channel.
-/

namespace GpuCompute

open Systems VramAllocator

namespace Channel

variable {δ : Type*} (regs : GpuRegs δ)

/-- Submit a slice in a build that stops when the arithmetic overflows: `none` says that it has
stopped. -/
def submitChecked (ch : Channel) (commands : List UInt32) (dev : δ) :
    Option (Option Submission × Channel × δ) :=
  (checkedMul (UInt64.ofNat commands.length) 4).bind fun bytes =>
  (checkedAdd ch.pushOffset bytes.toUInt32).bind fun segmentEnd =>
  if segmentEnd > ch.pushSize then some (none, ch, dev)
  else
    (checkedAdd ch.pushBuffer.gpuVa ch.pushOffset.toUInt64).bind fun segmentGpuVa =>
    (checkedAdd ch.gpfifoPut 1).bind fun put =>
    -- a remainder by zero stops, too
    if ch.gpfifoEntries = 0 then none
    else
      let newIdx := put % ch.gpfifoEntries
      let dwordLen := (UInt64.ofNat commands.length).toUInt32
      some (some { segmentGpuVa, gpfifoIdx := ch.gpfifoPut,
                   gpfifoEntry := .new segmentGpuVa dwordLen, newIdx },
        -- `fetch_add` wraps in every build
        { ch with pushOffset := ch.pushOffset + bytes.toUInt32, gpfifoPut := newIdx },
        regs.write32 dev ch.doorbellOffset newIdx)

/-- The offsets of a channel are inside of its push buffer and its ring. -/
structure Bounded (ch : Channel) : Prop where
  gpfifoEntries : ch.gpfifoEntries = 1024
  pushSize : ch.pushSize = 0x40000
  gpfifoPut : ch.gpfifoPut.toNat < 1024
  pushOffset : ch.pushOffset.toNat ≤ 0x40000
  gpuVa : ch.pushBuffer.gpuVa.toNat + 0x40000 < 2 ^ 40

theorem Summarizes.bounded {ch : Channel} {bytes n : ℕ} (h : ch.Summarizes bytes n) :
    ch.Bounded := by
  refine ⟨h.gpfifoEntries, h.pushSize, ?_, ?_, h.gpuVa_lt⟩
  · rw [h.gpfifoPut]
    exact Nat.mod_lt _ (by decide)
  · rw [h.pushOffset]
    exact h.bytes_le

namespace Bounded

variable {ch : Channel}

theorem submit (h : ch.Bounded) (commands : List UInt32) (dev : δ) :
    (ch.submit regs commands dev).2.1.Bounded := by
  rcases ch.submit_cases regs commands dev with ⟨hacc, heq⟩ | ⟨-, heq⟩
  · rw [heq]
    refine ⟨h.gpfifoEntries, h.pushSize, ?_, ?_, h.gpuVa⟩
    · show ((ch.gpfifoPut + 1) % ch.gpfifoEntries).toNat < 1024
      rw [h.gpfifoEntries, UInt32.toNat_mod]
      exact Nat.mod_lt _ (by decide)
    · -- the check is on the sum that is stored
      rw [Accepts, h.pushSize] at hacc
      exact UInt32.le_iff_toNat_le.1 hacc
  · rw [heq]
    exact h

theorem resetPushBuffer (h : ch.Bounded) : ch.resetPushBuffer.Bounded :=
  ⟨h.gpfifoEntries, h.pushSize, h.gpfifoPut, Nat.zero_le _, h.gpuVa⟩

/-- **No overflow in a submit** of a slice that is short enough. -/
theorem submitChecked (h : ch.Bounded) {commands : List UInt32} (hlen : ShortSlice commands)
    (dev : δ) :
    ch.submitChecked regs commands dev = some (ch.submit regs commands dev) := by
  have hoff := h.pushOffset
  have hput := h.gpfifoPut
  have hva := h.gpuVa
  unfold ShortSlice at hlen
  have hlength : (UInt64.ofNat commands.length).toNat = commands.length := by
    rw [UInt64.toNat_ofNat', Nat.mod_eq_of_lt (by omega)]
  have hbytes : (UInt64.ofNat commands.length).toNat * 4 < 2 ^ 64 := by omega
  have hend : ch.pushOffset.toNat + (byteLen commands.length).toNat < 2 ^ 32 := by
    rw [toNat_byteLen]
    omega
  have hsegment : ch.pushBuffer.gpuVa.toNat + ch.pushOffset.toUInt64.toNat < 2 ^ 64 := by
    rw [UInt32.toNat_toUInt64]
    omega
  have hnext : ch.gpfifoPut.toNat + 1 < 2 ^ 32 := by omega
  have hentries : ch.gpfifoEntries ≠ 0 := by
    rw [h.gpfifoEntries]
    decide
  unfold byteLen at hend
  unfold Channel.submitChecked Channel.submit byteLen
  rw [checkedMul_of_lt hbytes, Option.bind_some, checkedAdd_of_lt hend, Option.bind_some]
  split_ifs
  · rfl
  · rw [checkedAdd_of_lt hsegment, Option.bind_some, checkedAdd_of_lt hnext, Option.bind_some]
    rfl

end Bounded

end Channel

/-! ### All channels -/

section System

variable {δ : Type*} {s : FifoSystem δ}

/-- The allocator has consumed VRAM only, and every channel is in its bounds. -/
structure ChannelsBounded (s : FifoSystem δ) : Prop where
  allocator : s.allocator.VaWithinVram
  channels : ∀ c ∈ s.channels, c.Bounded

namespace ChannelsBounded

theorem init (regs : GpuRegs δ) (bar1CpuBase bar1Size : UInt64) (dev : δ) :
    ChannelsBounded (.init regs bar1CpuBase bar1Size dev) :=
  ⟨detectAndInit_vaWithinVram regs _ _ _, fun _ hc => by cases hc⟩

theorem set (h : ChannelsBounded s) {c : Channel} (hc : c.Bounded) (i : ℕ)
    {a : VramAllocator} (ha : a.VaWithinVram) (dev : δ) :
    ChannelsBounded { allocator := a, channels := s.channels.set i c, dev } :=
  ⟨ha, fun _ hd => (List.mem_or_eq_of_mem_set hd).elim (h.channels _) fun heq => heq ▸ hc⟩

/-- **Every operation keeps the channels in their bounds**, submits of any length included. -/
theorem step (h : ChannelsBounded s) (regs : GpuRegs δ) (op : FifoOp) :
    ChannelsBounded ((fifoSystem regs).step s op).2 := by
  cases op with
  | allocate size => exact ⟨(h.allocator.allocate size).1, h.channels⟩
  | allocateChannel channelId engineId =>
    obtain ⟨ha, hsum⟩ := h.allocator.allocateChannel channelId engineId
    refine ⟨ha, fun c hc => ?_⟩
    rcases List.mem_append.1 hc with hc | hc
    · exact h.channels c hc
    · exact (hsum c (Option.mem_toList.1 hc)).bounded
  | submit i commands =>
    simp only [fifoSystem]
    cases hc : s.channels[i]? with
    | none => exact h
    | some c =>
      have hmem := List.mem_of_getElem? hc
      exact h.set ((h.channels c hmem).submit regs commands s.dev) i h.allocator _
  | resetPushBuffer i =>
    simp only [fifoSystem]
    cases hc : s.channels[i]? with
    | none => exact h
    | some c => exact h.set (h.channels c (List.mem_of_getElem? hc)).resetPushBuffer i h.allocator _

end ChannelsBounded

end System

/-! ### Allocating a channel -/

/-- Allocate a channel in a build that stops when the arithmetic overflows: `none` says that it has
stopped. -/
def Channel.allocateChecked (allocator : VramAllocator) (channelId engineId : UInt32) :
    Option (Option Channel × VramAllocator) := do
  let gpfifoSize ← checkedMul DEFAULT_GPFIFO_ENTRIES.toUInt64 8
  match ← allocator.allocateChecked gpfifoSize with
  | (none, allocator) => pure (none, allocator)
  | (some gpfifo, allocator) =>
    match ← allocator.allocateChecked DEFAULT_PUSH_BUFFER_SIZE with
    | (none, allocator) => pure (none, allocator)
    | (some pushBuffer, allocator) =>
      let doorbell ← checkedMul channelId 8
      let doorbellOffset ← checkedAdd 0x90000 doorbell
      pure (some { id := channelId, gpfifo, pushBuffer, gpfifoEntries := DEFAULT_GPFIFO_ENTRIES,
                   gpfifoPut := 0, pushOffset := 0, pushSize := DEFAULT_PUSH_BUFFER_SIZE.toUInt32,
                   engineId, doorbellOffset }, allocator)

/-- **No overflow in the allocation of a channel** with an ID for which there is a doorbell. -/
theorem VramAllocator.VaWithinVram.allocateChannelChecked {a : VramAllocator} (h : a.VaWithinVram)
    {channelId : UInt32} (hid : 0x90000 + channelId.toNat * 8 < 2 ^ 32) (engineId : UInt32) :
    Channel.allocateChecked a channelId engineId =
      some (Channel.allocate a channelId engineId) := by
  have hsize : checkedMul DEFAULT_GPFIFO_ENTRIES.toUInt64 8 =
      some (DEFAULT_GPFIFO_ENTRIES.toUInt64 * 8) := checkedMul_of_lt (by decide)
  have hring : (DEFAULT_GPFIFO_ENTRIES.toUInt64 * 8).toNat + 0xFFF < 2 ^ 64 := by decide
  have hpush : DEFAULT_PUSH_BUFFER_SIZE.toNat + 0xFFF < 2 ^ 64 := by decide
  have hmul : channelId.toNat * (8 : UInt32).toNat < 2 ^ 32 :=
    lt_of_le_of_lt (Nat.le_add_left _ _) hid
  have hdoorbell : checkedMul channelId 8 = some (channelId * 8) := checkedMul_of_lt hmul
  have hsum : (0x90000 : UInt32).toNat + (channelId * 8).toNat < 2 ^ 32 := by
    rw [UInt32.toNat_mul, Nat.mod_eq_of_lt hmul]
    exact hid
  have hoffset : checkedAdd (0x90000 : UInt32) (channelId * 8) = some (0x90000 + channelId * 8) :=
    checkedAdd_of_lt hsum
  have hafter := (h.allocate (DEFAULT_GPFIFO_ENTRIES.toUInt64 * 8)).1
  simp only [Channel.allocateChecked, Channel.allocate, hsize, h.allocateChecked hring,
    Option.bind_eq_bind, Option.bind_some]
  generalize a.allocate (DEFAULT_GPFIFO_ENTRIES.toUInt64 * 8) = first at hafter ⊢
  obtain ⟨_ | gpfifo, b⟩ := first
  · rfl
  · simp only [VaWithinVram.allocateChecked hafter hpush, Option.bind_some]
    generalize b.allocate DEFAULT_PUSH_BUFFER_SIZE = second
    obtain ⟨_ | pushBuffer, c⟩ := second
    · rfl
    · simp only [hdoorbell, hoffset, Option.bind_some]
      rfl

end GpuCompute
