import GpuCompute.Fifo.Run
import GpuCompute.Lib.Components
import Mathlib.Data.Nat.ModEq

/-!
# Concurrent submits

`Channel.submit` takes a shared reference and works on two atomics, so that several calls may be
in flight on one channel.  A call is a program counter over its atomic steps here: the load of
`pushOffset` with the check, the `fetch_add`, the load and the store of `gpfifoPut`, and the
doorbell write.  A schedule says which call takes the next step.

Neither pair of accesses is atomic, and each loses an update under some schedules: two calls that
load the same offset return the same segment, and two that load the same index advance the ring by
one slot.  Nothing is lost when every `fetch_add` and every store still find the value that the
call has loaded (`nothingLost_run`).

* `Call`, `Call.step` : a call of `submit` and its next atomic step.
* `inFlight regs` : the calls in flight on a channel, as a machine.
* `Call.StepFits` : the next step of a call is not too late.
* `NothingLost` : the segments are in the push buffer and apart, and every accepted call counts.
* `Call.steps_alone` : a call whose steps nobody interrupts is `Channel.submit`.
* `nothingLost_run` : a schedule whose steps all fit loses nothing.
-/

namespace GpuCompute

open Systems

/-- Where a call of `submit` is, with the values it has loaded. -/
inductive Pc where
  /-- Not started. -/
  | start
  /-- Loaded `pushOffset` and passed the check. -/
  | checked (currentOffset : UInt32)
  /-- Advanced `pushOffset`. -/
  | added (currentOffset : UInt32)
  /-- Loaded `gpfifoPut`. -/
  | loaded (currentOffset gpfifoIdx : UInt32)
  /-- Stored the new index. -/
  | stored (currentOffset newIdx : UInt32)
  /-- Rang the doorbell and returned a segment. -/
  | accepted (currentOffset : UInt32)
  /-- Failed the check and returned nothing. -/
  | refused
  deriving DecidableEq

/-- The offset a call loaded, unless it failed the check. -/
def Pc.offset : Pc → Option UInt32
  | .start | .refused => none
  | .checked off | .added off | .loaded off _ | .stored off _ | .accepted off => some off

/-- A call of `submit`. -/
structure Call where
  /-- The slice it submits. -/
  commands : List UInt32
  /-- Where it is. -/
  pc : Pc
  deriving DecidableEq

namespace Call

variable {δ : Type*}

/-- The next atomic step of a call. -/
def step (regs : GpuRegs δ) (c : Call) (ch : Channel) (dev : δ) : Call × Channel × δ :=
  let byteLen := Channel.byteLen c.commands.length
  match c.pc with
  | .start =>
    if ch.pushOffset + byteLen > ch.pushSize then ({ c with pc := .refused }, ch, dev)
    else ({ c with pc := .checked ch.pushOffset }, ch, dev)
  | .checked off =>
    ({ c with pc := .added off }, { ch with pushOffset := ch.pushOffset + byteLen }, dev)
  | .added off => ({ c with pc := .loaded off ch.gpfifoPut }, ch, dev)
  | .loaded off gpfifoIdx =>
    let newIdx := (gpfifoIdx + 1) % ch.gpfifoEntries
    ({ c with pc := .stored off newIdx }, { ch with gpfifoPut := newIdx }, dev)
  | .stored off newIdx =>
    ({ c with pc := .accepted off }, ch, regs.write32 dev ch.doorbellOffset newIdx)
  | .accepted _ | .refused => (c, ch, dev)

/-- What the call returned, once it has. -/
def result (ch : Channel) (c : Call) : Option UInt64 :=
  match c.pc with
  | .accepted off => some (ch.pushBuffer.gpuVa + off.toUInt64)
  | _ => none

/-- The call has returned. -/
def finished (c : Call) : Bool :=
  match c.pc with
  | .accepted _ | .refused => true
  | _ => false

/-- The segment the call returned, with its exact length. -/
def segment (ch : Channel) (c : Call) : Option (Block ℕ) :=
  (c.result ch).map fun va => ⟨va.toNat, 4 * c.commands.length⟩

/-- The call has stored its index. -/
def hasStored (c : Call) : Bool :=
  match c.pc with
  | .stored _ _ | .accepted _ => true
  | _ => false

/-- The part of the push buffer, as offsets, that nobody else may be given: a call claims it with
the `fetch_add`, or with the load already if its slice is empty. -/
def claimed (c : Call) : Option (Block ℕ) :=
  match c.pc with
  | .start | .refused => none
  | .checked off => if c.commands = [] then some ⟨off.toNat, 0⟩ else none
  | .added off | .loaded off _ | .stored off _ | .accepted off =>
    some ⟨off.toNat, 4 * c.commands.length⟩

/-- The next step of a call is not too late: a check that passes did not wrap, and a `fetch_add`
of a non-empty slice and a store still find the value that the call loaded. -/
def StepFits (ch : Channel) (c : Call) : Prop :=
  match c.pc with
  | .start => (ChannelOp.submit c.commands).FitsExactly ch
  | .checked off => c.commands = [] ∨ ch.pushOffset = off
  | .loaded _ gpfifoIdx => ch.gpfifoPut = gpfifoIdx
  | _ => True

instance (ch : Channel) : (c : Call) → Decidable (c.StepFits ch)
  | ⟨commands, .start⟩ => inferInstanceAs (Decidable ((ChannelOp.submit commands).FitsExactly ch))
  | ⟨commands, .checked off⟩ =>
    inferInstanceAs (Decidable (commands = [] ∨ ch.pushOffset = off))
  | ⟨_, .loaded _ gpfifoIdx⟩ => inferInstanceAs (Decidable (ch.gpfifoPut = gpfifoIdx))
  | ⟨_, .added _⟩ | ⟨_, .stored _ _⟩ | ⟨_, .accepted _⟩ | ⟨_, .refused⟩ =>
    inferInstanceAs (Decidable True)

/-- The segment at the offset the call loaded fits in the push buffer of `ch`. -/
def HasRoom (ch : Channel) (c : Call) : Prop :=
  ∀ off ∈ c.pc.offset, off.toNat + 4 * c.commands.length ≤ ch.pushSize.toNat ∧
    ch.pushBuffer.gpuVa.toNat + off.toNat < 2 ^ 64

theorem step_start_of_accepts (regs : GpuRegs δ) {ch : Channel} {commands : List UInt32}
    (hacc : ch.Accepts commands.length) (dev : δ) :
    (⟨commands, .start⟩ : Call).step regs ch dev =
      (⟨commands, .checked ch.pushOffset⟩, ch, dev) :=
  if_neg (UInt32.not_lt.2 hacc)

theorem step_start_of_not_accepts (regs : GpuRegs δ) {ch : Channel} {commands : List UInt32}
    (hacc : ¬ ch.Accepts commands.length) (dev : δ) :
    (⟨commands, .start⟩ : Call).step regs ch dev = (⟨commands, .refused⟩, ch, dev) :=
  if_pos (UInt32.not_le.1 hacc)

/-- **A call whose steps nobody interrupts is `Channel.submit`.** -/
theorem steps_alone (regs : GpuRegs δ) (ch : Channel) (commands : List UInt32) (dev : δ) :
    let r := (fun p : Call × Channel × δ => p.1.step regs p.2.1 p.2.2)^[5]
      (⟨commands, .start⟩, ch, dev)
    r.1.result ch = (ch.submit regs commands dev).1.map Submission.segmentGpuVa ∧
      r.1.finished ∧ r.2 = (ch.submit regs commands dev).2 := by
  by_cases hacc : ch.Accepts commands.length
  · rw [Channel.submit_of_accepts regs hacc]
    simp only [Function.iterate_succ, Function.iterate_zero, Function.comp_apply,
      step_start_of_accepts regs hacc]
    exact ⟨rfl, rfl, rfl⟩
  · rw [Channel.submit_of_not_accepts regs hacc]
    simp only [Function.iterate_succ, Function.iterate_zero, Function.comp_apply,
      step_start_of_not_accepts regs hacc]
    exact ⟨rfl, rfl, rfl⟩

end Call

/-! ### Calls in flight -/

/-- A channel, its device, and the calls of `submit` on it. -/
structure InFlight (δ : Type*) where
  /-- The channel. -/
  channel : Channel
  /-- The device. -/
  dev : δ
  /-- The calls. -/
  calls : List Call

section InFlight

variable {δ : Type*}

/-- The calls in flight as a machine: an operation is the number of the call that takes its next
step. -/
def inFlight (regs : GpuRegs δ) : Machine (InFlight δ) ℕ Unit where
  step s i :=
    match s.calls[i]? with
    | none => ((), s)
    | some c =>
      let (c', channel, dev) := c.step regs s.channel s.dev
      ((), { channel, dev, calls := s.calls.set i c' })

/-- No call has started. -/
def InFlight.init (ch : Channel) (dev : δ) (slices : List (List UInt32)) : InFlight δ where
  channel := ch
  dev := dev
  calls := slices.map fun commands => ⟨commands, .start⟩

/-- The next step of call `i` is not too late. -/
def StepFits (s : InFlight δ) (i : ℕ) : Prop := ∀ c ∈ s.calls[i]?, c.StepFits s.channel

instance (s : InFlight δ) (i : ℕ) : Decidable (StepFits s i) :=
  inferInstanceAs (Decidable (∀ c ∈ s.calls[i]?, c.StepFits s.channel))

/-- What the calls on the channel `ch` leave behind. -/
structure NothingLost (ch : Channel) (s : InFlight δ) : Prop where
  /-- The returned segments lie in the push buffer. -/
  within : ∀ b ∈ s.calls.filterMap (Call.segment ch),
    b.Within ch.pushBuffer.gpuVa.toNat (ch.pushBuffer.gpuVa.toNat + ch.pushSize.toNat)
  /-- They do not overlap. -/
  disjoint : (s.calls.filterMap (Call.segment ch)).Pairwise Block.Sep
  /-- The put index has advanced by the number of accepted calls. -/
  put : s.channel.gpfifoPut.toNat ≡
    ch.gpfifoPut.toNat + (s.calls.filterMap (Call.segment ch)).length [MOD ch.gpfifoEntries.toNat]

/-! ### What one step does -/

/-- The claimed parts lie below the current offset and apart from each other, every call that
passed the check has room, and the put index counts the stores. -/
structure FlightInv (ch : Channel) (s : InFlight δ) : Prop where
  pushBuffer : s.channel.pushBuffer = ch.pushBuffer
  pushSize : s.channel.pushSize = ch.pushSize
  gpfifoEntries : s.channel.gpfifoEntries = ch.gpfifoEntries
  hasRoom : ∀ (i : ℕ) (c : Call), s.calls[i]? = some c → c.HasRoom ch
  claimed_le : ∀ (i : ℕ) (c : Call), s.calls[i]? = some c → ∀ b ∈ c.claimed,
    b.stop ≤ s.channel.pushOffset.toNat
  claimed_sep : ∀ (i j : ℕ) (c d : Call), i ≠ j → s.calls[i]? = some c → s.calls[j]? = some d →
    ∀ b ∈ c.claimed, ∀ b' ∈ d.claimed, b.Sep b'
  put : s.channel.gpfifoPut.toNat ≡
    ch.gpfifoPut.toNat + s.calls.countP Call.hasStored [MOD ch.gpfifoEntries.toNat]

variable {ch : Channel} {s : InFlight δ} {i : ℕ} {c : Call}

/-- A step of call `i` keeps the invariant if it moves the offset up only, claims nothing below
the old offset and counts its store. -/
theorem FlightInv.set (hinv : FlightInv ch s) (hc : s.calls[i]? = some c) (c' : Call)
    (channel : Channel) (dev : δ)
    (hsame : channel.pushBuffer = s.channel.pushBuffer ∧ channel.pushSize = s.channel.pushSize ∧
      channel.gpfifoEntries = s.channel.gpfifoEntries)
    (hroom : c'.HasRoom ch)
    (hmono : s.channel.pushOffset.toNat ≤ channel.pushOffset.toNat)
    (hclaim : ∀ b ∈ c'.claimed, b.stop ≤ channel.pushOffset.toNat ∧
      (b ∈ c.claimed ∨ s.channel.pushOffset.toNat ≤ b.start))
    (hput : channel.gpfifoPut.toNat + c.hasStored.toNat ≡
      s.channel.gpfifoPut.toNat + c'.hasStored.toNat [MOD ch.gpfifoEntries.toNat]) :
    FlightInv ch { channel, dev, calls := s.calls.set i c' } := by
  -- what the call that moved claims is apart from what another call claims
  have hsep : ∀ (j : ℕ) (d : Call), j ≠ i → s.calls[j]? = some d →
      ∀ b ∈ c'.claimed, ∀ b' ∈ d.claimed, b.Sep b' := by
    intro j d hji hd b hb b' hb'
    rcases (hclaim b hb).2 with hold | hnew
    · exact hinv.claimed_sep i j c d (Ne.symm hji) hc hd b hold b' hb'
    · exact .inr ((hinv.claimed_le j d hd b' hb').trans hnew)
  refine ⟨hsame.1.trans hinv.pushBuffer, hsame.2.1.trans hinv.pushSize,
    hsame.2.2.trans hinv.gpfifoEntries, ?_, ?_, ?_, ?_⟩
  · intro j d hd
    rcases getElem?_set_cases hd with ⟨-, rfl⟩ | ⟨-, hd⟩
    · exact hroom
    · exact hinv.hasRoom j d hd
  · intro j d hd b hb
    rcases getElem?_set_cases hd with ⟨-, rfl⟩ | ⟨-, hd⟩
    · exact (hclaim b hb).1
    · exact (hinv.claimed_le j d hd b hb).trans hmono
  · intro j k d e hjk hd he b hb b' hb'
    rcases getElem?_set_cases hd with ⟨rfl, rfl⟩ | ⟨hji, hj⟩ <;>
      rcases getElem?_set_cases he with ⟨rfl, rfl⟩ | ⟨hki, hk⟩
    · exact absurd rfl hjk
    · exact hsep k e hki hk b hb b' hb'
    · exact (hsep j d hji hj b' hb' b hb).symm
    · exact hinv.claimed_sep j k d e hjk hj hk b hb b' hb'
  · have hcount := countP_set_add Call.hasStored hc c'
    refine Nat.ModEq.add_right_cancel' c.hasStored.toNat (hput.trans ?_)
    rw [Nat.add_assoc, hcount, ← Nat.add_assoc]
    exact hinv.put.add_right _

/-- A step that leaves the channel alone and claims nothing new keeps the invariant. -/
theorem FlightInv.keep (hinv : FlightInv ch s) (hc : s.calls[i]? = some c) (c' : Call) (dev : δ)
    (hroom : c'.HasRoom ch) (hclaim : c'.claimed = c.claimed)
    (hstore : c'.hasStored = c.hasStored) :
    FlightInv ch { channel := s.channel, dev, calls := s.calls.set i c' } := by
  refine hinv.set hc c' s.channel dev ⟨rfl, rfl, rfl⟩ hroom le_rfl (fun b hb => ?_) ?_
  · rw [hclaim] at hb
    exact ⟨hinv.claimed_le i c hc b hb, .inl hb⟩
  · rw [hstore]

theorem step_inFlight (regs : GpuRegs δ) (hc : s.calls[i]? = some c) :
    ((inFlight regs).step s i).2 =
      { channel := (c.step regs s.channel s.dev).2.1
        dev := (c.step regs s.channel s.dev).2.2
        calls := s.calls.set i (c.step regs s.channel s.dev).1 } := by
  simp only [inFlight, hc]

theorem Call.HasRoom.toNat_add {off : UInt32} (hroom : c.HasRoom ch) (hoff : c.pc = .checked off)
    {cur : UInt32} (hfit : c.commands = [] ∨ cur = off) :
    (cur + Channel.byteLen c.commands.length).toNat = cur.toNat + 4 * c.commands.length := by
  obtain ⟨hle, -⟩ := hroom off (by rw [hoff]; rfl)
  have hsize := ch.pushSize.toNat_lt
  have hcur := cur.toNat_lt
  rw [UInt32.toNat_add, Channel.toNat_byteLen]
  rcases hfit with hnil | rfl
  · rw [hnil, List.length_nil]; omega
  · omega

variable {commands : List UInt32} {off gpfifoIdx : UInt32}

theorem FlightInv.check (hinv : FlightInv ch s) (hc : s.calls[i]? = some ⟨commands, .start⟩)
    (hacc : s.channel.Accepts commands.length)
    (hfit : (ChannelOp.submit commands).FitsExactly s.channel) :
    FlightInv ch
      { s with calls := s.calls.set i ⟨commands, .checked s.channel.pushOffset⟩ } := by
  obtain ⟨hsum, hva⟩ := hfit hacc
  obtain ⟨hle, -⟩ := offset_le_of_accepts hacc hsum
  rw [hinv.pushSize] at hle
  rw [hinv.pushBuffer] at hva
  refine hinv.set hc _ s.channel s.dev ⟨rfl, rfl, rfl⟩ ?_ le_rfl ?_ rfl
  · rintro _ ⟨⟩
    exact ⟨hle, hva⟩
  · -- an empty slice claims the empty block at the current offset
    intro b hb
    simp only [Call.claimed, Option.mem_def] at hb
    split_ifs at hb
    cases hb
    exact ⟨le_rfl, .inr le_rfl⟩

theorem FlightInv.fetchAdd (hinv : FlightInv ch s)
    (hc : s.calls[i]? = some ⟨commands, .checked off⟩)
    (hfit : commands = [] ∨ s.channel.pushOffset = off) :
    FlightInv ch
      { s with
        channel.pushOffset := s.channel.pushOffset + Channel.byteLen commands.length
        calls := s.calls.set i ⟨commands, .added off⟩ } := by
  have hroom := hinv.hasRoom i _ hc
  have hadd := hroom.toNat_add rfl hfit
  simp only at hadd
  refine hinv.set hc ⟨commands, .added off⟩
    { s.channel with pushOffset := s.channel.pushOffset + Channel.byteLen commands.length } s.dev
    ⟨rfl, rfl, rfl⟩ hroom ?_ ?_ rfl
  · simp only [hadd]; exact Nat.le_add_right _ _
  · rintro _ ⟨⟩
    simp only [hadd, Block.stop]
    rcases hfit with hnil | hoff
    · -- the empty block has been claimed by the load
      have hmem : (⟨off.toNat, 4 * commands.length⟩ : Block ℕ) ∈
          (⟨commands, .checked off⟩ : Call).claimed := by
        subst hnil; rfl
      exact ⟨(hinv.claimed_le i _ hc _ hmem).trans (Nat.le_add_right _ _), .inl hmem⟩
    · rw [hoff]
      exact ⟨le_rfl, .inr le_rfl⟩

theorem FlightInv.storePut (hinv : FlightInv ch s) (hentries : ch.gpfifoEntries = 1024)
    (hc : s.calls[i]? = some ⟨commands, .loaded off gpfifoIdx⟩)
    (hfit : s.channel.gpfifoPut = gpfifoIdx) :
    FlightInv ch
      { s with
        channel.gpfifoPut := (gpfifoIdx + 1) % s.channel.gpfifoEntries
        calls := s.calls.set i
          ⟨commands, .stored off ((gpfifoIdx + 1) % s.channel.gpfifoEntries)⟩ } := by
  have hroom := hinv.hasRoom i _ hc
  refine hinv.set hc _ { s.channel with gpfifoPut := (gpfifoIdx + 1) % s.channel.gpfifoEntries }
    s.dev ⟨rfl, rfl, rfl⟩ hroom le_rfl ?_ ?_
  · exact fun b hb => ⟨hinv.claimed_le i _ hc b hb, .inl hb⟩
  · change ((gpfifoIdx + 1) % s.channel.gpfifoEntries).toNat ≡ s.channel.gpfifoPut.toNat + 1
      [MOD ch.gpfifoEntries.toNat]
    rw [hinv.gpfifoEntries, hentries, hfit, UInt32.toNat_mod, UInt32.toNat_add]
    simp only [UInt32.reduceToNat, Nat.ModEq]
    omega

/-- **One step that fits keeps the invariant.** -/
theorem FlightInv.step (hinv : FlightInv ch s) (hentries : ch.gpfifoEntries = 1024)
    (regs : GpuRegs δ) (hfit : StepFits s i) : FlightInv ch ((inFlight regs).step s i).2 := by
  cases hc : s.calls[i]? with
  | none => simpa only [inFlight, hc] using hinv
  | some c =>
    have hfit := hfit c hc
    have hroom := hinv.hasRoom i c hc
    obtain ⟨commands, pc⟩ := c
    rw [step_inFlight regs hc]
    cases pc with
    | start =>
      by_cases hacc : s.channel.Accepts commands.length
      · rw [Call.step_start_of_accepts regs hacc]
        exact hinv.check hc hacc hfit
      · rw [Call.step_start_of_not_accepts regs hacc]
        exact hinv.keep hc _ _ (fun _ h => by cases h) rfl rfl
    | checked off => exact hinv.fetchAdd hc hfit
    | added off => exact hinv.keep hc ⟨commands, .loaded off _⟩ _ hroom rfl rfl
    | loaded off gpfifoIdx => exact hinv.storePut hentries hc hfit
    | stored off newIdx => exact hinv.keep hc ⟨commands, .accepted off⟩ _ hroom rfl rfl
    | accepted off => exact hinv.keep hc ⟨commands, .accepted off⟩ _ hroom rfl rfl
    | refused => exact hinv.keep hc ⟨commands, .refused⟩ _ hroom rfl rfl

/-! ### Whole schedules -/

theorem FlightInv.init (ch : Channel) (dev : δ) (slices : List (List UInt32)) :
    FlightInv ch (.init ch dev slices) := by
  have hcalls : ∀ (i : ℕ) (c : Call), (InFlight.init ch dev slices).calls[i]? = some c →
      c.pc = .start := by
    intro i c hc
    rw [InFlight.init, List.getElem?_map, Option.map_eq_some_iff] at hc
    obtain ⟨commands, -, rfl⟩ := hc
    rfl
  refine ⟨rfl, rfl, rfl, ?_, ?_, ?_, ?_⟩
  · intro i c hc off hoff
    rw [hcalls i c hc] at hoff
    cases hoff
  · intro i c hc b hb
    rw [Option.mem_def, Call.claimed, hcalls i c hc] at hb
    cases hb
  · intro i j c d _ hc _ b hb
    rw [Option.mem_def, Call.claimed, hcalls i c hc] at hb
    cases hb
  · have hnone : (InFlight.init ch dev slices).calls.countP Call.hasStored = 0 := by
      rw [List.countP_eq_zero]
      intro c hc
      obtain ⟨commands, -, rfl⟩ := List.mem_map.1 hc
      exact Bool.false_ne_true
    rw [hnone]
    rfl

theorem Call.HasRoom.segment_eq (hroom : c.HasRoom ch) {b : Block ℕ} (hb : c.segment ch = some b) :
    ∃ off, c.pc = .accepted off ∧
      b = ⟨ch.pushBuffer.gpuVa.toNat + off.toNat, 4 * c.commands.length⟩ := by
  obtain ⟨commands, pc⟩ := c
  cases pc with
  | accepted off =>
    obtain ⟨-, hva⟩ := hroom off rfl
    cases hb
    refine ⟨off, rfl, ?_⟩
    simp only
    rw [UInt64.toNat_add, UInt32.toNat_toUInt64, Nat.mod_eq_of_lt hva]
  | _ => cases hb

theorem Call.isSome_segment (hdone : c.finished) : (c.segment ch).isSome = c.hasStored := by
  obtain ⟨commands, pc⟩ := c
  cases pc with
  | accepted off => rfl
  | refused => rfl
  | _ => cases hdone

theorem FlightInv.nothingLost (hinv : FlightInv ch s) (hdone : ∀ c ∈ s.calls, c.finished) :
    NothingLost ch s := by
  refine ⟨?_, ?_, ?_⟩
  · intro b hb
    obtain ⟨c, hc, hseg⟩ := List.mem_filterMap.1 hb
    obtain ⟨i, hi⟩ := List.getElem?_of_mem hc
    obtain ⟨off, hpc, rfl⟩ := (hinv.hasRoom i c hi).segment_eq hseg
    obtain ⟨hle, -⟩ := hinv.hasRoom i c hi off (by rw [hpc]; rfl)
    exact ⟨Nat.le_add_right _ _, by simp only [Block.stop]; omega⟩
  · rw [List.pairwise_filterMap, List.pairwise_iff_getElem]
    intro i j hi hj hij b hb b' hb'
    have hi' := List.getElem?_eq_getElem hi
    have hj' := List.getElem?_eq_getElem hj
    obtain ⟨off, hpc, rfl⟩ := (hinv.hasRoom i _ hi').segment_eq hb
    obtain ⟨off', hpc', rfl⟩ := (hinv.hasRoom j _ hj').segment_eq hb'
    have hsep := hinv.claimed_sep i j _ _ hij.ne hi' hj'
      ⟨off.toNat, 4 * s.calls[i].commands.length⟩ (by rw [Option.mem_def, Call.claimed, hpc])
      ⟨off'.toNat, 4 * s.calls[j].commands.length⟩ (by rw [Option.mem_def, Call.claimed, hpc'])
    simp only [Block.Sep, Block.stop] at hsep ⊢
    omega
  · have hcount : (s.calls.filterMap (Call.segment ch)).length =
        s.calls.countP Call.hasStored := by
      rw [List.length_filterMap_eq_countP]
      exact List.countP_congr fun c hc => by rw [Call.isSome_segment (hdone c hc)]
    rw [hcount]
    exact hinv.put

/-- **A schedule whose steps all fit loses nothing**: when all calls on an allocated channel are
finished, whatever its two atomics were, the returned segments lie in the push buffer and do not
overlap, and the put index has advanced by the number of accepted calls. -/
theorem nothingLost_run {a : VramAllocator} {channelId engineId : UInt32}
    (hch : (Channel.allocate a channelId engineId).1 = some ch) (pushOffset gpfifoPut : UInt32)
    (regs : GpuRegs δ) (dev : δ) (slices : List (List UInt32)) (schedule : List ℕ) :
    let start := { ch with pushOffset, gpfifoPut }
    (∀ e ∈ (inFlight regs).trace (.init start dev slices) schedule, StepFits e.pre e.op) →
    (∀ c ∈ ((inFlight regs).final (.init start dev slices) schedule).calls, c.finished) →
    NothingLost start ((inFlight regs).final (.init start dev slices) schedule) := by
  intro start hfit hdone
  have hentries : start.gpfifoEntries = 1024 :=
    (Channel.allocate_spec (Prod.ext_iff.2 ⟨hch, rfl⟩)).1.gpfifoEntries
  refine FlightInv.nothingLost ?_ hdone
  refine Machine.run_induction (Q := fun e => StepFits e.pre e.op)
    (motive := fun _ s => FlightInv start s) (.init start dev slices) ?_ schedule hfit
  exact fun _ s i hinv hi => hinv.step hentries regs hi

/-- Two calls in turns that do not get in each other's way. -/
theorem nothingLost_run_two_calls :
    NothingLost .first ((inFlight .plain).final (.init .first (fun _ => 0) [[1, 2], [3]])
      [0, 0, 1, 1, 0, 0, 1, 0, 1, 1]) :=
  nothingLost_run Channel.allocate_twoMiB 0 0 .plain _ _ _ (by decide) (by decide)

/-- Two calls that take turns return the same segment and advance the ring by one slot. -/
theorem not_nothingLost_taking_turns :
    let s := (inFlight .plain).final (.init .first (fun _ => 0) [[1], [2]])
      [0, 1, 0, 1, 0, 1, 0, 1, 0, 1]
    (Channel.allocate .twoMiB 0 0).1 = some .first ∧ (∀ c ∈ s.calls, c.finished) ∧
      ¬ (s.calls.filterMap (Call.segment .first)).Pairwise Block.Sep ∧
      s.channel.gpfifoPut = 1 ∧ ¬ NothingLost .first s := by
  intro s
  have hoverlap : ¬ (s.calls.filterMap (Call.segment .first)).Pairwise Block.Sep := by decide
  exact ⟨Channel.allocate_twoMiB, by decide, hoverlap, by decide, fun h => hoverlap h.disjoint⟩

end InFlight

end GpuCompute
