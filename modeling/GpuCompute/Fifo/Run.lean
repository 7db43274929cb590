import GpuCompute.Fifo.Channel
import GpuCompute.Lib.Arena
import Mathlib.Algebra.Order.Group.Nat

/-!
# Runs of a channel

A channel as a machine whose operations are `submit` and `resetPushBuffer`.  A reset is the only
point where the host knows that the GPU has consumed the earlier commands, so the submissions
accepted since the last reset are *pending*.

Two resources bound the pending submissions: the bytes of the push buffer and the slots of the
ring.  `submit` checks the first, on a sum that wraps at `2^32`; it does not check the second.

* `channel regs` : a channel as a machine.
* `pending`, `basePut` : the accepted submissions since the last reset, and the put index then.
* `SegmentSafe` : an accepted segment lies in the push buffer and overlaps no pending one.
* `RingSafe` : an accepted submission takes a slot no pending one has, and the put index does not
  come back to its value at the last reset.
* `segmentSafe_run_iff` : segments are safe exactly while the sums of `submit` do not wrap.
* `ringSafe_run_iff` : the ring is safe exactly while at most 1023 submissions are pending.
-/

namespace GpuCompute

open Systems

/-- The operations of a channel. -/
inductive ChannelOp where
  | submit (commands : List UInt32)
  | resetPushBuffer
  deriving DecidableEq

section Machine

variable {δ : Type*}

/-- A channel on a device, as a machine. -/
def channel (regs : GpuRegs δ) : Machine (Channel × δ) ChannelOp (Option Submission) where
  step s
    | .submit commands => s.1.submit regs commands s.2
    | .resetPushBuffer => (none, s.1.resetPushBuffer, s.2)

/-- One performed operation of a channel. -/
abbrev ChannelEvent (δ : Type*) := Event (Channel × δ) ChannelOp (Option Submission)

/-- The slice and the values of an accepted submit. -/
def ChannelEvent.accepted (e : ChannelEvent δ) : Option (List UInt32 × Submission) :=
  match e.op with
  | .submit commands => e.out.map fun sub => (commands, sub)
  | .resetPushBuffer => none

/-- The submissions accepted since the last reset, newest first. -/
def pending : List (ChannelEvent δ) → List (List UInt32 × Submission)
  | [] => []
  | e :: h =>
    match e.op with
    | .submit _ => (ChannelEvent.accepted e).toList ++ pending h
    | .resetPushBuffer => []

/-- The put index at the last reset, or at creation. -/
def basePut (put : UInt32) : List (ChannelEvent δ) → UInt32
  | [] => put
  | e :: h =>
    match e.op with
    | .submit _ => basePut put h
    | .resetPushBuffer => e.pre.1.gpfifoPut

/-- The segment of an accepted submit, with its exact length in bytes. -/
def segment (p : List UInt32 × Submission) : Block ℕ :=
  ⟨p.2.segmentGpuVa.toNat, 4 * p.1.length⟩

/-- An accepted segment lies in the push buffer of `ch` and overlaps no pending segment. -/
def SegmentSafe (ch : Channel) (e : ChannelEvent δ) (h : List (ChannelEvent δ)) : Prop :=
  ∀ p, e.accepted = some p →
    (segment p).Within ch.pushBuffer.gpuVa.toNat
      (ch.pushBuffer.gpuVa.toNat + ch.pushSize.toNat) ∧
    ∀ q ∈ pending h, (segment p).Sep (segment q)

/-- An accepted submission takes a slot of the ring that no pending submission has, and the put
index it writes to the doorbell is not the one of the last reset. -/
def RingSafe (ch : Channel) (e : ChannelEvent δ) (h : List (ChannelEvent δ)) : Prop :=
  ∀ p, e.accepted = some p →
    p.2.newIdx ≠ basePut ch.gpfifoPut h ∧ ∀ q ∈ pending h, p.2.gpfifoIdx ≠ q.2.gpfifoIdx

/-- If the check of `submit` accepts the slice, its sum did not wrap, nor does the address of the
segment. -/
def ChannelOp.FitsExactly (ch : Channel) : ChannelOp → Prop
  | .submit commands => ch.Accepts commands.length →
    ch.pushOffset.toNat + 4 * commands.length < 2 ^ 32 ∧
      ch.pushBuffer.gpuVa.toNat + ch.pushOffset.toNat < 2 ^ 64
  | .resetPushBuffer => True

instance (ch : Channel) : (op : ChannelOp) → Decidable (op.FitsExactly ch)
  | .submit _ => inferInstanceAs (Decidable (_ → _ ∧ _))
  | .resetPushBuffer => inferInstanceAs (Decidable True)

/-- If the check of `submit` accepts the slice, fewer than 1023 submissions are pending. -/
def RingHasRoom (e : ChannelEvent δ) (h : List (ChannelEvent δ)) : Prop :=
  match e.op with
  | .submit commands => e.pre.1.Accepts commands.length → (pending h).length < 1023
  | .resetPushBuffer => True

/-! ### What one operation does to the pending submissions -/

variable {regs : GpuRegs δ} {s : Channel × δ} {h : List (ChannelEvent δ)}
  {commands : List UInt32}

theorem step_submit (hacc : s.1.Accepts commands.length) :
    (channel regs).step s (.submit commands) =
      (some (s.1.submission commands.length),
        { s.1 with
          pushOffset := s.1.pushOffset + Channel.byteLen commands.length
          gpfifoPut := (s.1.submission commands.length).newIdx },
        regs.write32 s.2 s.1.doorbellOffset (s.1.submission commands.length).newIdx) :=
  Channel.submit_of_accepts regs hacc s.2

theorem step_submit_of_not (hacc : ¬ s.1.Accepts commands.length) :
    (channel regs).step s (.submit commands) = (none, s) :=
  Channel.submit_of_not_accepts regs hacc s.2

theorem accepted_event_submit (hacc : s.1.Accepts commands.length) :
    ChannelEvent.accepted ((channel regs).event s (.submit commands)) =
      some (commands, s.1.submission commands.length) := by
  simp only [ChannelEvent.accepted, Machine.event, step_submit hacc, Option.map_some]

theorem accepted_event_submit_of_not (hacc : ¬ s.1.Accepts commands.length) :
    ChannelEvent.accepted ((channel regs).event s (.submit commands)) = none := by
  simp only [ChannelEvent.accepted, Machine.event, step_submit_of_not hacc, Option.map_none]

theorem pending_cons_submit (hacc : s.1.Accepts commands.length) :
    pending ((channel regs).event s (.submit commands) :: h) =
      (commands, s.1.submission commands.length) :: pending h := by
  rw [pending, accepted_event_submit hacc]; rfl

theorem pending_cons_submit_of_not (hacc : ¬ s.1.Accepts commands.length) :
    pending ((channel regs).event s (.submit commands) :: h) = pending h := by
  rw [pending, accepted_event_submit_of_not hacc]; rfl

@[simp] theorem pending_cons_reset :
    pending ((channel regs).event s .resetPushBuffer :: h) = [] := rfl

@[simp] theorem basePut_cons_submit (put : UInt32) :
    basePut put ((channel regs).event s (.submit commands) :: h) = basePut put h := rfl

@[simp] theorem basePut_cons_reset (put : UInt32) :
    basePut put ((channel regs).event s .resetPushBuffer :: h) = s.1.gpfifoPut := rfl

@[simp] theorem accepted_event_reset :
    ChannelEvent.accepted ((channel regs).event s .resetPushBuffer) = none := rfl

end Machine

/-! ### Segments -/

section Segments

variable {δ : Type*} {regs : GpuRegs δ} {ch : Channel}

/-- The pending segments are stacked in the push buffer up to the current offset. -/
structure SegmentInv (ch : Channel) (h : List (ChannelEvent δ)) (c : Channel) : Prop where
  pushBuffer : c.pushBuffer = ch.pushBuffer
  pushSize : c.pushSize = ch.pushSize
  offset_le : c.pushOffset.toNat ≤ ch.pushSize.toNat
  stacked : Stacked ch.pushBuffer.gpuVa.toNat ((pending h).map segment)
    (ch.pushBuffer.gpuVa.toNat + c.pushOffset.toNat)

theorem segment_submission {c : Channel} {commands : List UInt32}
    (hva : c.pushBuffer.gpuVa.toNat + c.pushOffset.toNat < 2 ^ 64) :
    segment (commands, c.submission commands.length) =
      ⟨c.pushBuffer.gpuVa.toNat + c.pushOffset.toNat, 4 * commands.length⟩ := by
  simp only [segment, Channel.submission, UInt64.toNat_add, UInt32.toNat_toUInt64, Block.mk.injEq,
    and_true]
  exact Nat.mod_eq_of_lt hva

theorem offset_le_of_accepts {c : Channel} {len : ℕ} (hacc : c.Accepts len)
    (hsum : c.pushOffset.toNat + 4 * len < 2 ^ 32) :
    c.pushOffset.toNat + 4 * len ≤ c.pushSize.toNat ∧
      (c.pushOffset + Channel.byteLen len).toNat = c.pushOffset.toNat + 4 * len := by
  rw [Channel.accepts_iff, Nat.mod_eq_of_lt hsum] at hacc
  refine ⟨hacc, ?_⟩
  rw [UInt32.toNat_add, Channel.toNat_byteLen]
  omega

theorem SegmentInv.step {h : List (ChannelEvent δ)} {s : Channel × δ} {op : ChannelOp}
    (hinv : SegmentInv ch h s.1) (hfit : op.FitsExactly s.1) :
    SegmentInv ch ((channel regs).event s op :: h) ((channel regs).step s op).2.1 := by
  cases op with
  | submit commands =>
    by_cases hacc : s.1.Accepts commands.length
    · obtain ⟨hsum, hva⟩ := hfit hacc
      obtain ⟨hle, hoff⟩ := offset_le_of_accepts hacc hsum
      rw [step_submit hacc]
      refine ⟨hinv.pushBuffer, hinv.pushSize, ?_, ?_⟩
      · rw [hoff, ← hinv.pushSize]; exact hle
      · rw [pending_cons_submit hacc, List.map_cons, segment_submission hva, hinv.pushBuffer, hoff,
          ← Nat.add_assoc]
        exact hinv.stacked.push _
    · rw [step_submit_of_not hacc]
      refine ⟨hinv.pushBuffer, hinv.pushSize, hinv.offset_le, ?_⟩
      rw [pending_cons_submit_of_not hacc]
      exact hinv.stacked
  | resetPushBuffer =>
    exact ⟨hinv.pushBuffer, hinv.pushSize, Nat.zero_le _, by simp [Stacked]⟩

theorem SegmentInv.segmentSafe {h : List (ChannelEvent δ)} {s : Channel × δ} {op : ChannelOp}
    (hinv : SegmentInv ch h s.1) (hfit : op.FitsExactly s.1) :
    SegmentSafe ch ((channel regs).event s op) h := by
  intro p hp
  cases op with
  | submit commands =>
    by_cases hacc : s.1.Accepts commands.length
    · rw [accepted_event_submit hacc] at hp
      cases hp
      obtain ⟨hsum, hva⟩ := hfit hacc
      obtain ⟨hle, -⟩ := offset_le_of_accepts hacc hsum
      have hstacked := hinv.stacked
      rw [segment_submission hva, hinv.pushBuffer]
      rw [hinv.pushSize] at hle
      refine ⟨⟨Nat.le_add_right _ _, ?_⟩, fun q hq => .inr ?_⟩
      · simp only [Block.stop]; omega
      · exact (hstacked.within _ (List.mem_map_of_mem hq)).2
    · rw [accepted_event_submit_of_not hacc] at hp; cases hp
  | resetPushBuffer => cases hp

theorem SegmentInv.fitsExactly {h : List (ChannelEvent δ)} {s : Channel × δ} {op : ChannelOp}
    (hsize : ch.pushSize.toNat < 2 ^ 31) (hinv : SegmentInv ch h s.1)
    (hsafe : SegmentSafe ch ((channel regs).event s op) h) : op.FitsExactly s.1 := by
  cases op with
  | submit commands =>
    intro hacc
    have hw := (hsafe _ (accepted_event_submit hacc)).1
    have hoff := hinv.offset_le
    have hva := s.1.pushBuffer.gpuVa.toNat_lt
    simp only [segment, Block.Within, Block.stop, Channel.submission, UInt64.toNat_add,
      UInt32.toNat_toUInt64, ← hinv.pushBuffer] at hw
    omega
  | resetPushBuffer => trivial

/-- **Segments are safe exactly while the sums do not wrap**: in a run of an allocated channel
every accepted segment lies in the push buffer and overlaps no other segment accepted since the
last reset, if and only if every submit that is accepted fits without wrapping. -/
theorem segmentSafe_run_iff {a : VramAllocator} {channelId engineId : UInt32}
    (hch : (Channel.allocate a channelId engineId).1 = some ch) (regs : GpuRegs δ) (dev : δ)
    (ops : List ChannelOp) :
    Always (SegmentSafe ch) ((channel regs).trace (ch, dev) ops) ↔
      ∀ e ∈ (channel regs).trace (ch, dev) ops, e.op.FitsExactly e.pre.1 := by
  obtain ⟨hfresh, -⟩ := Channel.allocate_spec (Prod.ext_iff.2 ⟨hch, rfl⟩)
  rw [← always_iff_forall_mem]
  refine Machine.always_iff (I := fun tr s => SegmentInv ch tr s.1) ?_ ?_ ?_ ops
  · refine ⟨rfl, rfl, ?_, ?_⟩
    · rw [hfresh.pushOffset]; exact Nat.zero_le _
    · exact Nat.le_add_right _ _
  · exact fun tr s op hinv hfit => hinv.step hfit
  · refine fun tr s op hinv => ⟨hinv.fitsExactly ?_, hinv.segmentSafe⟩
    rw [hfresh.pushSize]; decide

theorem segmentSafe_run_two_submits :
    Always (SegmentSafe .first) ((channel GpuRegs.plain).trace (.first, fun _ => 0)
        [.submit [1, 2], .submit [3]]) ↔
      ∀ e ∈ (channel GpuRegs.plain).trace (.first, fun _ => 0) [.submit [1, 2], .submit [3]],
        e.op.FitsExactly e.pre.1 :=
  segmentSafe_run_iff Channel.allocate_twoMiB _ _ _

theorem not_segmentSafe_of_length {commands : List UInt32} (hlen : commands.length = 2 ^ 30)
    (regs : GpuRegs δ) (dev : δ) :
    ¬ Always (SegmentSafe .first)
      ((channel regs).trace (.first, dev) ([] ++ [.submit commands])) := by
  intro h
  rw [Machine.trace_concat, always_cons] at h
  have hacc : Channel.first.Accepts commands.length := by rw [hlen]; decide
  have hw := (h.1 _ (accepted_event_submit hacc)).1.2
  rw [segment, Machine.final_nil, hlen] at hw
  change (Channel.first.submission (2 ^ 30)).segmentGpuVa.toNat + 4 * 2 ^ 30 ≤
    Channel.first.pushBuffer.gpuVa.toNat + Channel.first.pushSize.toNat at hw
  exact absurd hw (by decide)

/-- A slice of `2^30` zeros on a fresh channel: 4 GiB in a push buffer of 256 KiB. -/
theorem not_segmentSafe_four_gib :
    (Channel.allocate .twoMiB 0 0).1 = some .first ∧
      ¬ Always (SegmentSafe .first) ((channel GpuRegs.plain).trace (.first, fun _ => 0)
        [.submit (List.replicate (2 ^ 30) 0)]) :=
  ⟨Channel.allocate_twoMiB, not_segmentSafe_of_length List.length_replicate _ _⟩

end Segments

/-! ### Slots of the ring -/

section Ring

variable {δ : Type*} {regs : GpuRegs δ} {ch : Channel}

/-- The pending submissions have taken consecutive slots from the put index `base`. -/
def ConsecutiveSlots (base : ℕ) : List (List UInt32 × Submission) → Prop :=
  Always fun p older => p.2.gpfifoIdx.toNat = (base + older.length) % 1024

theorem ConsecutiveSlots.mem {base : ℕ} {ps : List (List UInt32 × Submission)}
    (h : ConsecutiveSlots base ps) {q : List UInt32 × Submission} (hq : q ∈ ps) :
    ∃ j < ps.length, q.2.gpfifoIdx.toNat = (base + j) % 1024 := by
  induction ps with
  | nil => cases hq
  | cons p ps ih =>
    rcases List.mem_cons.1 hq with rfl | hq
    · exact ⟨ps.length, Nat.lt_succ_self _, h.1⟩
    · obtain ⟨j, hj, hslot⟩ := ih h.2 hq
      exact ⟨j, Nat.lt_succ_of_lt hj, hslot⟩

/-- The put index counts the pending submissions from the index at the last reset. -/
structure RingInv (ch : Channel) (h : List (ChannelEvent δ)) (c : Channel) : Prop where
  entries : c.gpfifoEntries = 1024
  base_lt : (basePut ch.gpfifoPut h).toNat < 1024
  put : c.gpfifoPut.toNat = ((basePut ch.gpfifoPut h).toNat + (pending h).length) % 1024
  slots : ConsecutiveSlots (basePut ch.gpfifoPut h).toNat (pending h)
  length_le : (pending h).length ≤ 1023

theorem RingInv.toNat_newIdx {h : List (ChannelEvent δ)} {c : Channel} (hinv : RingInv ch h c)
    (len : ℕ) : (c.submission len).newIdx.toNat =
      ((basePut ch.gpfifoPut h).toNat + ((pending h).length + 1)) % 1024 := by
  have hput := hinv.put
  simp only [Channel.submission, hinv.entries, UInt32.toNat_mod, UInt32.toNat_add,
    UInt32.reduceToNat]
  omega

theorem RingInv.step {h : List (ChannelEvent δ)} {s : Channel × δ} {op : ChannelOp}
    (hinv : RingInv ch h s.1) (hroom : RingHasRoom ((channel regs).event s op) h) :
    RingInv ch ((channel regs).event s op :: h) ((channel regs).step s op).2.1 := by
  cases op with
  | submit commands =>
    by_cases hacc : s.1.Accepts commands.length
    · have hlt : (pending h).length < 1023 := hroom hacc
      rw [step_submit hacc]
      refine ⟨hinv.entries, hinv.base_lt, ?_, ?_, ?_⟩
      · rw [pending_cons_submit hacc, basePut_cons_submit, List.length_cons]
        exact hinv.toNat_newIdx commands.length
      · rw [pending_cons_submit hacc, basePut_cons_submit]
        exact ⟨hinv.put, hinv.slots⟩
      · rw [pending_cons_submit hacc, List.length_cons]
        exact hlt
    · rw [step_submit_of_not hacc]
      refine ⟨hinv.entries, hinv.base_lt, ?_, ?_, ?_⟩
      · rw [pending_cons_submit_of_not hacc, basePut_cons_submit]
        exact hinv.put
      · rw [pending_cons_submit_of_not hacc, basePut_cons_submit]
        exact hinv.slots
      · rw [pending_cons_submit_of_not hacc]
        exact hinv.length_le
  | resetPushBuffer =>
    have hlt : s.1.gpfifoPut.toNat < 1024 := by rw [hinv.put]; exact Nat.mod_lt _ (by decide)
    exact ⟨hinv.entries, hlt, (Nat.mod_eq_of_lt hlt).symm, trivial, Nat.zero_le _⟩

theorem RingInv.ringSafe_iff {h : List (ChannelEvent δ)} {s : Channel × δ} {op : ChannelOp}
    (hinv : RingInv ch h s.1) :
    RingSafe ch ((channel regs).event s op) h ↔ RingHasRoom ((channel regs).event s op) h := by
  cases op with
  | submit commands =>
    have hnew := hinv.toNat_newIdx commands.length
    have hbase := hinv.base_lt
    have hle := hinv.length_le
    constructor
    · -- with 1023 pending submissions the put index would come back to the base
      intro hsafe hacc
      have hne := (hsafe _ (accepted_event_submit hacc)).1
      rw [ne_eq, ← UInt32.toNat_inj, hnew] at hne
      omega
    · intro hroom p hp
      by_cases hacc : s.1.Accepts commands.length
      · rw [accepted_event_submit hacc] at hp
        cases hp
        have hlt : (pending h).length < 1023 := hroom hacc
        refine ⟨?_, fun q hq => ?_⟩
        · rw [ne_eq, ← UInt32.toNat_inj, hnew]; omega
        · obtain ⟨j, hj, hslot⟩ := hinv.slots.mem hq
          have hput := hinv.put
          rw [ne_eq, ← UInt32.toNat_inj, hslot]
          simp only [Channel.submission]
          omega
      · rw [accepted_event_submit_of_not hacc] at hp; cases hp
  | resetPushBuffer => exact ⟨fun _ => trivial, fun _ p hp => by cases hp⟩

theorem ringSafe_iff_of_fresh (hfresh : ch.Fresh) (regs : GpuRegs δ) (dev : δ)
    (ops : List ChannelOp) :
    Always (RingSafe ch) ((channel regs).trace (ch, dev) ops) ↔
      Always RingHasRoom ((channel regs).trace (ch, dev) ops) := by
  refine Machine.always_iff (I := fun tr s => RingInv ch tr s.1) ?_ ?_ ?_ ops
  · refine ⟨hfresh.gpfifoEntries, ?_, ?_, trivial, Nat.zero_le _⟩
    · rw [basePut, hfresh.gpfifoPut]; decide
    · rw [basePut, hfresh.gpfifoPut]; rfl
  · exact fun tr s op hinv hroom => hinv.step hroom
  · exact fun tr s op hinv => hinv.ringSafe_iff

/-- **The ring is safe exactly while there is room in it**: in a run of an allocated channel no
accepted submission takes the slot of a pending one, and the put index does not come back to its
value at the last reset, if and only if every submit is accepted with fewer than 1023 submissions
pending. -/
theorem ringSafe_run_iff {a : VramAllocator} {channelId engineId : UInt32}
    (hch : (Channel.allocate a channelId engineId).1 = some ch) (regs : GpuRegs δ) (dev : δ)
    (ops : List ChannelOp) :
    Always (RingSafe ch) ((channel regs).trace (ch, dev) ops) ↔
      Always RingHasRoom ((channel regs).trace (ch, dev) ops) :=
  ringSafe_iff_of_fresh (Channel.allocate_spec (Prod.ext_iff.2 ⟨hch, rfl⟩)).1 regs dev ops

theorem length_pending_empty_submits (regs : GpuRegs δ) {s : Channel × δ}
    (hle : s.1.pushOffset ≤ s.1.pushSize) (n : ℕ) :
    (pending ((channel regs).trace s (List.replicate n (.submit [])))).length = n ∧
      ((channel regs).final s (List.replicate n (.submit []))).1.Accepts 0 := by
  have h0 : ∀ c : Channel, c.Accepts 0 ↔ c.pushOffset ≤ c.pushSize := by
    intro c
    rw [Channel.accepts_iff, UInt32.le_iff_toNat_le, Nat.mul_zero, Nat.add_zero,
      Nat.mod_eq_of_lt c.pushOffset.toNat_lt]
  induction n with
  | zero => exact ⟨rfl, (h0 _).2 hle⟩
  | succ n ih =>
    obtain ⟨hlen, hacc⟩ := ih
    rw [List.replicate_succ', Machine.trace_concat, Machine.final_concat,
      pending_cons_submit (show Channel.Accepts _ ([] : List UInt32).length from hacc),
      List.length_cons, hlen]
    refine ⟨rfl, ?_⟩
    rw [step_submit (show Channel.Accepts _ ([] : List UInt32).length from hacc)]
    rw [h0] at hacc ⊢
    simpa [Channel.byteLen] using hacc

theorem not_ringHasRoom_empty_submits {s : Channel × δ} (hle : s.1.pushOffset ≤ s.1.pushSize)
    {n : ℕ} (hn : 1023 ≤ n) :
    ¬ Always RingHasRoom ((channel regs).trace s (List.replicate (n + 1) (.submit []))) := by
  intro h
  rw [List.replicate_succ', Machine.trace_concat, always_cons] at h
  obtain ⟨hlen, hacc⟩ := length_pending_empty_submits regs hle n
  have hroom := h.1 hacc
  rw [hlen] at hroom
  omega

theorem ringSafe_run_two_submits :
    Always (RingSafe .first) ((channel GpuRegs.plain).trace (.first, fun _ => 0)
        [.submit [1, 2], .submit []]) ↔
      Always RingHasRoom ((channel GpuRegs.plain).trace (.first, fun _ => 0)
        [.submit [1, 2], .submit []]) :=
  ringSafe_run_iff Channel.allocate_twoMiB _ _ _

/-- The 1024th empty submit brings the put index back to where it started. -/
theorem not_ringSafe_1024_submits :
    (Channel.allocate .twoMiB 0 0).1 = some .first ∧
      ¬ Always (RingSafe .first) ((channel GpuRegs.plain).trace (.first, fun _ => 0)
        (List.replicate 1024 (.submit []))) := by
  refine ⟨Channel.allocate_twoMiB, ?_⟩
  rw [ringSafe_iff_of_fresh ⟨rfl, rfl, rfl, rfl, rfl⟩]
  exact not_ringHasRoom_empty_submits (n := 1023) (by decide) le_rfl

end Ring

end GpuCompute
