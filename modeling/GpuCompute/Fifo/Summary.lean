import GpuCompute.Fifo.Channel
import GpuCompute.Lib.Components
import GpuCompute.Memory.Virtual

/-!
# Channels and the log of their submissions

The allocator, all channels built on it and the device as one machine.  What a channel keeps of
its history are two counters, and both are exact: `pushOffset` is the number of bytes accepted
since the last reset and `gpfifoPut` the number of accepted submissions modulo the ring size.
The entries that `submit` builds are lossless, because every address the allocator hands out
lies below `2^40` as long as it consumes VRAM.

* `FifoSystem`, `fifoSystem` : an allocator, its channels and the device, as a machine.
* `submits`, `bytesSince` : the two counters, read off the log of a run.
* `SubmitExact` : a submit does exactly what the counters say.
* `submitExact_run` : after every run the next submit on any channel is exact.
-/

namespace GpuCompute

open Systems VramAllocator

/-- An allocator, the channels allocated on it so far, and the device. -/
structure FifoSystem (δ : Type*) where
  /-- The VRAM allocator. -/
  allocator : VramAllocator
  /-- The channels, in the order of their allocation. -/
  channels : List Channel
  /-- The device. -/
  dev : δ

/-- The operations; a channel is named by its place in the list. -/
inductive FifoOp where
  | allocate (size : UInt64)
  | allocateChannel (channelId engineId : UInt32)
  | submit (i : ℕ) (commands : List UInt32)
  | resetPushBuffer (i : ℕ)
  deriving DecidableEq

/-- What the operations return. -/
inductive FifoOut where
  | allocated (g : Option GpuAllocation)
  | channel (c : Option Channel)
  | submitted (sub : Option Submission)
  | reset
  /-- There is no such channel: nothing was called. -/
  | absent
  deriving DecidableEq

section System

variable {δ : Type*}

/-- The whole submission side as a machine. -/
def fifoSystem (regs : GpuRegs δ) : Machine (FifoSystem δ) FifoOp FifoOut where
  step s
    | .allocate size =>
      let (g, allocator) := s.allocator.allocate size
      (.allocated g, { s with allocator })
    | .allocateChannel channelId engineId =>
      let (c, allocator) := Channel.allocate s.allocator channelId engineId
      (.channel c, { s with allocator, channels := s.channels ++ c.toList })
    | .submit i commands =>
      match s.channels[i]? with
      | none => (.absent, s)
      | some c =>
        let (sub, c', dev) := c.submit regs commands s.dev
        (.submitted sub, { s with channels := s.channels.set i c', dev })
    | .resetPushBuffer i =>
      match s.channels[i]? with
      | none => (.absent, s)
      | some c => (.reset, { s with channels := s.channels.set i c.resetPushBuffer })

/-- One performed operation. -/
abbrev FifoEvent (δ : Type*) := Event (FifoSystem δ) FifoOp FifoOut

/-- The length of the slice that a submit on channel `i` got accepted. -/
def FifoEvent.acceptedOn (i : ℕ) (e : FifoEvent δ) : Option ℕ :=
  match e.op, e.out with
  | .submit j commands, .submitted (some _) => if j = i then some commands.length else none
  | _, _ => none

/-- How many submissions channel `i` has accepted. -/
def submits (i : ℕ) (tr : List (FifoEvent δ)) : ℕ :=
  (tr.filterMap (FifoEvent.acceptedOn i)).length

/-- How many bytes channel `i` has accepted since its last reset. -/
def bytesSince (i : ℕ) : List (FifoEvent δ) → ℕ
  | [] => 0
  | e :: h =>
    if e.op = .resetPushBuffer i then 0
    else 4 * (FifoEvent.acceptedOn i e).getD 0 + bytesSince i h

/-- A slice short enough that its length in bytes, added to an offset in the push buffer, does
not wrap. -/
def ShortSlice (commands : List UInt32) : Prop := commands.length < 2 ^ 30 - 2 ^ 16

/-- The result of a submit on channel `c` and device `dev` is what the counters of the log of
`c` say. -/
structure SubmitExact (regs : GpuRegs δ) (c : Channel) (dev : δ) (bytes submits : ℕ)
    (commands : List UInt32) (result : Option Submission × Channel × δ) : Prop where
  /-- The submit succeeds iff the slice fits behind the bytes accepted since the last reset. -/
  succeeds_iff : result.1.isSome ↔ bytes + 4 * commands.length ≤ c.pushSize.toNat
  /-- The returned address is 4-aligned and counts the accepted bytes. -/
  address : ∀ sub ∈ result.1,
    sub.segmentGpuVa.toNat = c.pushBuffer.gpuVa.toNat + bytes ∧ 4 ∣ sub.segmentGpuVa.toNat
  /-- The counters move on and the put index is written to the doorbell. -/
  success : ∀ sub ∈ result.1,
    result.2.1.pushOffset.toNat = bytes + 4 * commands.length ∧
    result.2.1.gpfifoPut.toNat = (submits + 1) % 1024 ∧
    result.2.2 = regs.write32 dev (0x90000 + c.id * 8) result.2.1.gpfifoPut
  /-- A refused submit changes nothing. -/
  failure : result.1 = none → result.2 = (c, dev)
  /-- The entry built for the segment gives back its address and its length. -/
  entry : ∀ sub ∈ result.1, sub.gpfifoEntry.address = sub.segmentGpuVa ∧
    sub.gpfifoEntry.length.toNat = commands.length ∧ sub.gpfifoEntry.flag = 0
  /-- So would the entry with the "no prefetch" flag. -/
  entryNoPrefetch : ∀ sub ∈ result.1,
    let e := GpfifoEntry.newNoPrefetch sub.segmentGpuVa (UInt64.ofNat commands.length).toUInt32
    e.address = sub.segmentGpuVa ∧ e.length.toNat = commands.length ∧ e.flag = 1

end System

/-! ### One channel -/

section Channel

variable {δ : Type*} {regs : GpuRegs δ} {c : Channel} {bytes n : ℕ}

/-- The state of a channel summarizes a log of `n` accepted submissions, with `bytes` bytes
accepted since the last reset. -/
structure Channel.Summarizes (c : Channel) (bytes n : ℕ) : Prop where
  gpfifoEntries : c.gpfifoEntries = 1024
  pushSize : c.pushSize = 0x40000
  doorbellOffset : c.doorbellOffset = 0x90000 + c.id * 8
  pushOffset : c.pushOffset.toNat = bytes
  gpfifoPut : c.gpfifoPut.toNat = n % 1024
  bytes_le : bytes ≤ 0x40000
  bytes_dvd : 4 ∣ bytes
  gpuVa_dvd : 4096 ∣ c.pushBuffer.gpuVa.toNat
  gpuVa_lt : c.pushBuffer.gpuVa.toNat + 0x40000 < 2 ^ 40

theorem Channel.Summarizes.accepts_iff (h : c.Summarizes bytes n) {commands : List UInt32}
    (hlen : ShortSlice commands) :
    c.Accepts commands.length ↔ bytes + 4 * commands.length ≤ 0x40000 := by
  have hle := h.bytes_le
  unfold ShortSlice at hlen
  rw [Channel.accepts_iff, h.pushOffset, h.pushSize, Nat.mod_eq_of_lt (by omega)]
  rfl

theorem Channel.Summarizes.submission (h : c.Summarizes bytes n) {commands : List UInt32}
    (hfit : bytes + 4 * commands.length ≤ 0x40000) :
    (c.submission commands.length).segmentGpuVa.toNat = c.pushBuffer.gpuVa.toNat + bytes ∧
    (c.submission commands.length).newIdx.toNat = (n + 1) % 1024 ∧
    (c.pushOffset + Channel.byteLen commands.length).toNat = bytes + 4 * commands.length := by
  have hva := h.gpuVa_lt
  have hput := h.gpfifoPut
  refine ⟨?_, ?_, ?_⟩
  · simp only [Channel.submission, UInt64.toNat_add, UInt32.toNat_toUInt64, h.pushOffset]
    omega
  · simp only [Channel.submission, h.gpfifoEntries, UInt32.toNat_mod, UInt32.toNat_add,
      UInt32.reduceToNat]
    omega
  · rw [UInt32.toNat_add, Channel.toNat_byteLen, h.pushOffset]
    omega

theorem Channel.Summarizes.submit (h : c.Summarizes bytes n) {commands : List UInt32}
    (hfit : bytes + 4 * commands.length ≤ 0x40000) :
    { c with
      pushOffset := c.pushOffset + Channel.byteLen commands.length
      gpfifoPut := (c.submission commands.length).newIdx }.Summarizes
        (bytes + 4 * commands.length) (n + 1) := by
  obtain ⟨-, hput, hoff⟩ := h.submission hfit
  exact ⟨h.gpfifoEntries, h.pushSize, h.doorbellOffset, hoff, hput, hfit,
    Nat.dvd_add h.bytes_dvd (Nat.dvd_mul_right _ _), h.gpuVa_dvd, h.gpuVa_lt⟩

theorem Channel.Summarizes.reset (h : c.Summarizes bytes n) :
    c.resetPushBuffer.Summarizes 0 n :=
  ⟨h.gpfifoEntries, h.pushSize, h.doorbellOffset, rfl, h.gpfifoPut, Nat.zero_le _,
    Nat.dvd_zero _, h.gpuVa_dvd, h.gpuVa_lt⟩

theorem Channel.Summarizes.submitExact (h : c.Summarizes bytes n) {commands : List UInt32}
    (hlen : ShortSlice commands) (dev : δ) :
    SubmitExact regs c dev bytes n commands (c.submit regs commands dev) := by
  have hiff := h.accepts_iff hlen
  by_cases hacc : c.Accepts commands.length
  · have hfit : bytes + 4 * commands.length ≤ 0x40000 := hiff.1 hacc
    obtain ⟨haddr, hput, hoff⟩ := h.submission hfit
    have hva := h.gpuVa_lt
    have hva_dvd := h.gpuVa_dvd
    have hbytes_dvd := h.bytes_dvd
    -- the accepted length is far below the 23 bits of the entry
    have hdword : (UInt64.ofNat commands.length).toUInt32.toNat = commands.length := by
      rw [UInt64.toNat_toUInt32, UInt64.toNat_ofNat']
      omega
    have haddr_lt : (c.submission commands.length).segmentGpuVa.toNat < 2 ^ 40 := by omega
    have hdword_lt : (UInt64.ofNat commands.length).toUInt32.toNat < 2 ^ 23 := by omega
    have hentry := GpfifoEntry.fields_new haddr_lt hdword_lt
    have hentry' := GpfifoEntry.fields_newNoPrefetch haddr_lt hdword_lt
    rw [Channel.submit_of_accepts regs hacc, h.doorbellOffset]
    refine ⟨?_, ?_, ?_, ?_, ?_, ?_⟩
    · rw [h.pushSize]; exact iff_of_true rfl hfit
    · rintro _ ⟨⟩; exact ⟨haddr, by omega⟩
    · rintro _ ⟨⟩; exact ⟨hoff, hput, rfl⟩
    · exact fun hnone => by cases hnone
    · rintro _ ⟨⟩
      exact ⟨hentry.1, (congrArg UInt32.toNat hentry.2.1).trans hdword, hentry.2.2⟩
    · rintro _ ⟨⟩
      exact ⟨hentry'.1, (congrArg UInt32.toNat hentry'.2.1).trans hdword, hentry'.2.2⟩
  · rw [Channel.submit_of_not_accepts regs hacc]
    refine ⟨?_, ?_, ?_, fun _ => rfl, ?_, ?_⟩
    · rw [h.pushSize]; exact iff_of_false (by simp) fun hfit => hacc (hiff.2 hfit)
    all_goals exact fun _ hsub => by cases hsub

theorem VramAllocator.VaWithinVram.allocateChannel {a : VramAllocator} (h : a.VaWithinVram)
    (channelId engineId : UInt32) :
    (Channel.allocate a channelId engineId).2.VaWithinVram ∧
      ∀ c, (Channel.allocate a channelId engineId).1 = some c → c.Summarizes 0 0 := by
  refine ⟨Channel.allocate_preserves (fun b size hb => (hb.allocate size).1) h _ _, fun c hc => ?_⟩
  obtain ⟨hfresh, -, -, hpush⟩ := Channel.allocate_spec (Prod.ext_iff.2 ⟨hc, rfl⟩)
  obtain ⟨hend, hdvd⟩ := ((h.allocate 0x2000).1.allocate 0x40000).2 _ (congrArg Prod.fst hpush)
  have hsize : c.pushBuffer.size.toNat = 0x40000 := by
    rw [(allocate_some (congrArg Prod.fst hpush)).2.1]; decide
  refine ⟨hfresh.gpfifoEntries, hfresh.pushSize, hfresh.doorbellOffset, ?_, ?_, Nat.zero_le _,
    Nat.dvd_zero _, hdvd, by omega⟩
  · rw [hfresh.pushOffset]; rfl
  · rw [hfresh.gpfifoPut]; rfl

end Channel

/-! ### All channels -/

section Counters

variable {δ : Type*} {e : FifoEvent δ} {h : List (FifoEvent δ)} {i : ℕ}

theorem counters_of_none (hacc : FifoEvent.acceptedOn i e = none)
    (hop : e.op ≠ .resetPushBuffer i) :
    bytesSince i (e :: h) = bytesSince i h ∧ submits i (e :: h) = submits i h := by
  refine ⟨?_, ?_⟩
  · rw [bytesSince, if_neg hop, hacc, Option.getD_none, Nat.mul_zero, Nat.zero_add]
  · rw [submits, List.filterMap_cons_none hacc, submits]

theorem counters_of_some {len : ℕ} (hacc : FifoEvent.acceptedOn i e = some len)
    (hop : e.op ≠ .resetPushBuffer i) :
    bytesSince i (e :: h) = bytesSince i h + 4 * len ∧
      submits i (e :: h) = submits i h + 1 := by
  refine ⟨?_, ?_⟩
  · rw [bytesSince, if_neg hop, hacc, Option.getD_some, Nat.add_comm]
  · rw [submits, List.filterMap_cons_some hacc, List.length_cons, submits]

theorem counters_of_reset (hacc : FifoEvent.acceptedOn i e = none)
    (hop : e.op = .resetPushBuffer i) :
    bytesSince i (e :: h) = 0 ∧ submits i (e :: h) = submits i h := by
  refine ⟨?_, ?_⟩
  · rw [bytesSince, if_pos hop]
  · rw [submits, List.filterMap_cons_none hacc, submits]

end Counters

section System

variable {δ : Type*} {regs : GpuRegs δ}

/-- Every channel summarizes its log, and later channels have an empty one. -/
structure FifoInv (tr : List (FifoEvent δ)) (s : FifoSystem δ) : Prop where
  allocator : s.allocator.VaWithinVram
  channels : ∀ i (c : Channel), s.channels[i]? = some c →
    c.Summarizes (bytesSince i tr) (submits i tr)
  later : ∀ i, s.channels.length ≤ i → bytesSince i tr = 0 ∧ submits i tr = 0

variable {tr : List (FifoEvent δ)} {s : FifoSystem δ}

theorem step_submit_some (regs : GpuRegs δ) {j : ℕ} {c : Channel}
    (hc : s.channels[j]? = some c) (commands : List UInt32) :
    (fifoSystem regs).step s (.submit j commands) =
      (.submitted (c.submit regs commands s.dev).1,
        { s with
          channels := s.channels.set j (c.submit regs commands s.dev).2.1
          dev := (c.submit regs commands s.dev).2.2 }) := by
  simp only [fifoSystem, hc]

theorem step_reset_some {j : ℕ} {c : Channel} (hc : s.channels[j]? = some c) :
    (fifoSystem regs).step s (.resetPushBuffer j) =
      (.reset, { s with channels := s.channels.set j c.resetPushBuffer }) := by
  simp only [fifoSystem, hc]

/-- An event that leaves the counters of the other channels alone and updates channel `j` keeps
the invariant if the new state of channel `j` summarizes its new log. -/
theorem FifoInv.set (hinv : FifoInv tr s) {e : FifoEvent δ} {j : ℕ} {c c' : Channel}
    (hc : s.channels[j]? = some c)
    (hothers : ∀ i ≠ j, bytesSince i (e :: tr) = bytesSince i tr ∧
      submits i (e :: tr) = submits i tr)
    (hc' : c'.Summarizes (bytesSince j (e :: tr)) (submits j (e :: tr))) (dev : δ) :
    FifoInv (e :: tr) { s with channels := s.channels.set j c', dev } := by
  have hj : j < s.channels.length := (List.getElem?_eq_some_iff.1 hc).1
  refine ⟨hinv.allocator, fun i d hd => ?_, fun i hi => ?_⟩
  · rcases getElem?_set_cases hd with ⟨rfl, rfl⟩ | ⟨hij, hd⟩
    · exact hc'
    · rw [(hothers i hij).1, (hothers i hij).2]
      exact hinv.channels i d hd
  · rw [List.length_set] at hi
    rw [(hothers i (by omega)).1, (hothers i (by omega)).2]
    exact hinv.later i hi

/-- An event that no counter sees keeps the invariant if the channels stay. -/
theorem FifoInv.unseen (hinv : FifoInv tr s) {e : FifoEvent δ}
    (hacc : ∀ i, FifoEvent.acceptedOn i e = none) (hop : ∀ i, e.op ≠ .resetPushBuffer i)
    {a : VramAllocator} (ha : a.VaWithinVram) (dev : δ) :
    FifoInv (e :: tr) { s with allocator := a, dev } := by
  refine ⟨ha, fun i c hc => ?_, fun i hi => ?_⟩
  all_goals rw [(counters_of_none (hacc i) (hop i)).1, (counters_of_none (hacc i) (hop i)).2]
  · exact hinv.channels i c hc
  · exact hinv.later i hi

/-- A new channel summarizes its log, which is still empty. -/
theorem FifoInv.push (hinv : FifoInv tr s) {c : Channel} (hc : c.Summarizes 0 0) :
    FifoInv tr { s with channels := s.channels ++ [c] } := by
  refine ⟨hinv.allocator, fun i d hd => ?_, fun i hi => ?_⟩
  · rcases lt_trichotomy i s.channels.length with hi | rfl | hi
    · rw [List.getElem?_append_left hi] at hd
      exact hinv.channels i d hd
    · rw [List.getElem?_concat_length] at hd
      cases hd
      obtain ⟨hbytes, hsubmits⟩ := hinv.later _ le_rfl
      rw [hbytes, hsubmits]
      exact hc
    · rw [List.getElem?_eq_none (by simp; omega)] at hd
      cases hd
  · rw [List.length_append] at hi
    exact hinv.later i (by omega)

theorem FifoInv.submit (hinv : FifoInv tr s) (j : ℕ) {commands : List UInt32}
    (hlen : ShortSlice commands) :
    FifoInv ((fifoSystem regs).event s (.submit j commands) :: tr)
      ((fifoSystem regs).step s (.submit j commands)).2 := by
  cases hc : s.channels[j]? with
  | none =>
    have hstep : (fifoSystem regs).step s (.submit j commands) = (.absent, s) := by
      simp only [fifoSystem, hc]
    rw [Machine.event, hstep]
    exact hinv.unseen (fun _ => rfl) (fun _ h => by cases h) hinv.allocator s.dev
  | some c =>
    have hsum := hinv.channels j c hc
    have hiff := hsum.accepts_iff hlen
    have hstep := step_submit_some regs hc commands
    rw [Machine.event, hstep]
    by_cases hacc : c.Accepts commands.length
    · rw [Channel.submit_of_accepts regs hacc]
      refine hinv.set hc (fun i hij => ?_) ?_ _
      · exact counters_of_none (by exact if_neg (Ne.symm hij)) fun h => by cases h
      obtain ⟨hbytes, hsubmits⟩ := counters_of_some (h := tr) (i := j)
        (e := (⟨s, .submit j commands, .submitted (some (c.submission commands.length))⟩ :
          FifoEvent δ)) (if_pos rfl) fun h => by cases h
      rw [hbytes, hsubmits]
      exact hsum.submit (hiff.1 hacc)
    · rw [Channel.submit_of_not_accepts regs hacc]
      refine hinv.set hc (fun i _ => counters_of_none rfl fun h => by cases h) ?_ _
      obtain ⟨hbytes, hsubmits⟩ := counters_of_none (h := tr) (i := j)
        (e := (⟨s, .submit j commands, .submitted none⟩ : FifoEvent δ)) rfl fun h => by cases h
      rw [hbytes, hsubmits]
      exact hsum

theorem FifoInv.resetPushBuffer (hinv : FifoInv tr s) (j : ℕ) :
    FifoInv ((fifoSystem regs).event s (.resetPushBuffer j) :: tr)
      ((fifoSystem regs).step s (.resetPushBuffer j)).2 := by
  cases hc : s.channels[j]? with
  | none =>
    have hstep : (fifoSystem regs).step s (.resetPushBuffer j) = (.absent, s) := by
      simp only [fifoSystem, hc]
    rw [Machine.event, hstep]
    -- the channel does not exist, so that its log is empty
    have hempty := hinv.later j (List.getElem?_eq_none_iff.1 hc)
    have hcounters : ∀ i,
        bytesSince i ((⟨s, .resetPushBuffer j, .absent⟩ : FifoEvent δ) :: tr) = bytesSince i tr ∧
        submits i ((⟨s, .resetPushBuffer j, .absent⟩ : FifoEvent δ) :: tr) = submits i tr := by
      intro i
      by_cases hij : i = j
      · subst hij
        rw [hempty.1]
        exact counters_of_reset rfl rfl
      · exact counters_of_none rfl fun h => hij (FifoOp.resetPushBuffer.inj h).symm
    refine ⟨hinv.allocator, fun i c hi => ?_, fun i hi => ?_⟩
    all_goals rw [(hcounters i).1, (hcounters i).2]
    · exact hinv.channels i c hi
    · exact hinv.later i hi
  | some c =>
    rw [Machine.event, step_reset_some hc]
    refine hinv.set hc (fun i hij => ?_) ?_ _
    · exact counters_of_none rfl fun h => hij (FifoOp.resetPushBuffer.inj h).symm
    · obtain ⟨hbytes, hsubmits⟩ := counters_of_reset (h := tr) (i := j)
        (e := (⟨s, .resetPushBuffer j, .reset⟩ : FifoEvent δ)) rfl rfl
      rw [hbytes, hsubmits]
      exact (hinv.channels j c hc).reset

theorem FifoInv.step (hinv : FifoInv tr s) {op : FifoOp}
    (hlen : ∀ i commands, op = .submit i commands → ShortSlice commands) :
    FifoInv ((fifoSystem regs).event s op :: tr) ((fifoSystem regs).step s op).2 := by
  cases op with
  | allocate size =>
    exact hinv.unseen (fun _ => rfl) (fun _ h => by cases h) (hinv.allocator.allocate size).1 s.dev
  | allocateChannel channelId engineId =>
    obtain ⟨ha, hsum⟩ := hinv.allocator.allocateChannel channelId engineId
    have hframe := hinv.unseen
      (e := (fifoSystem regs).event s (.allocateChannel channelId engineId))
      (fun _ => rfl) (fun _ h => by cases h) ha s.dev
    simp only [fifoSystem] at hframe ⊢
    cases hc : (Channel.allocate s.allocator channelId engineId).1 with
    | none => simpa using hframe
    | some c => exact hframe.push (hsum c hc)
  | submit i commands => exact hinv.submit i (hlen i commands rfl)
  | resetPushBuffer i => exact hinv.resetPushBuffer i

/-- Nothing allocated, no channel, and the registers read once. -/
def FifoSystem.init (regs : GpuRegs δ) (bar1CpuBase bar1Size : UInt64) (dev : δ) : FifoSystem δ :=
  let (allocator, dev) := detectAndInit regs bar1CpuBase bar1Size dev
  { allocator, channels := [], dev }

/-- **Every submit is exact**: after any run of allocations, channel allocations, submits of
short slices and resets, the next submit of a short slice on any channel succeeds iff it fits
behind the bytes accepted since the last reset, and its address, its put index and its entry are
the ones the log of that channel gives. -/
theorem submitExact_run (regs : GpuRegs δ) (dev : δ) (bar1CpuBase bar1Size : UInt64)
    {ops : List FifoOp} (hops : ∀ i commands, .submit i commands ∈ ops → ShortSlice commands)
    {i : ℕ} {c : Channel}
    (hc : ((fifoSystem regs).final (.init regs bar1CpuBase bar1Size dev) ops).channels[i]? = some c)
    {commands : List UInt32} (hlen : ShortSlice commands) :
    let s := (fifoSystem regs).final (.init regs bar1CpuBase bar1Size dev) ops
    let tr := (fifoSystem regs).trace (.init regs bar1CpuBase bar1Size dev) ops
    SubmitExact regs c s.dev (bytesSince i tr) (submits i tr) commands
      (c.submit regs commands s.dev) := by
  intro s tr
  have hinv : FifoInv tr s := by
    refine Machine.run_induction (Q := fun e => ∀ i commands, e.op = .submit i commands →
      ShortSlice commands) (motive := fun tr s => FifoInv tr s) ?_ ?_ ops ?_
    · refine ⟨?_, fun _ _ hc => (by cases hc), fun _ _ => ⟨rfl, rfl⟩⟩
      exact detectAndInit_vaWithinVram regs _ _ _
    · exact fun tr s op hinv hop => hinv.step hop
    · exact fun e he i commands hop => hops i commands (hop ▸ Machine.op_mem_of_mem_trace he)
  exact (hinv.channels i c hc).submitExact hlen s.dev

theorem submitExact_run_two_submits :
    let s := (fifoSystem .plain).final (.init .plain 0 0 fun _ => 2)
      [.allocateChannel 0 0, .allocate 5000, .submit 0 [1, 2]]
    let tr := (fifoSystem .plain).trace (.init .plain 0 0 fun _ => 2)
      [.allocateChannel 0 0, .allocate 5000, .submit 0 [1, 2]]
    let c := { Channel.first with pushOffset := 8, gpfifoPut := 1 }
    SubmitExact .plain c s.dev (bytesSince 0 tr) (submits 0 tr) [3] (c.submit .plain [3] s.dev) :=
  submitExact_run .plain _ 0 0 (by simp [ShortSlice]) (by decide) (by simp [ShortSlice])

end System

end GpuCompute
