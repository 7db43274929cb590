import GpuCompute.Memory.Basic

/-!
# FIFO channels

A channel owns a GPFIFO ring and a push buffer in VRAM.  `Channel.submit` checks that the
commands fit behind the current offset of the push buffer, advances the offset, builds the
GPFIFO entry that points at them, advances the put index of the ring and writes it to the
doorbell.  The two atomics of the channel are fields of the state here; `Fifo.Concurrent` looks
at the single accesses.

* `GpfifoEntry.new`, `GpfifoEntry.newNoPrefetch` are the entries of the ring, with their three
  fields read back.
* `Submission` are the values that an accepted `submit` computes.
* `Channel.allocate_spec` says what every channel starts with, and `Channel.submit_cases` all that a
  submit can do.
-/

namespace GpuCompute

open Systems

/-! ### GPFIFO entries -/

/-- A GPFIFO entry: a pointer to a segment of the push buffer. -/
structure GpfifoEntry where
  /-- Address bits `[31:0]`. -/
  lo : UInt32
  /-- Address bits `[39:32]` in `[7:0]`, length in `[30:8]`, flag in bit 31. -/
  hi : UInt32
  deriving DecidableEq

namespace GpfifoEntry

/-- An entry for a segment. -/
def new (gpuVa : UInt64) (lengthDwords : UInt32) : GpfifoEntry where
  lo := gpuVa.toUInt32
  hi := ((gpuVa >>> 32).toUInt32 &&& (0xFF : UInt32)) ||| ((lengthDwords &&& 0x7FFFFF) <<< 8)

/-- An entry for a segment, with the "no prefetch" flag. -/
def newNoPrefetch (gpuVa : UInt64) (lengthDwords : UInt32) : GpfifoEntry where
  lo := gpuVa.toUInt32
  hi := ((gpuVa >>> 32).toUInt32 &&& (0xFF : UInt32)) ||| ((lengthDwords &&& 0x7FFFFF) <<< 8) |||
    ((1 : UInt32) <<< 31)

/-- The address an entry points at. -/
def address (e : GpfifoEntry) : UInt64 := e.lo.toUInt64 ||| ((e.hi &&& 0xFF).toUInt64 <<< 32)

/-- The length of the segment in words. -/
def length (e : GpfifoEntry) : UInt32 := (e.hi >>> 8) &&& 0x7FFFFF

/-- The "no prefetch" flag. -/
def flag (e : GpfifoEntry) : UInt32 := e.hi >>> 31

end GpfifoEntry

/-! ### Channels -/

/-- A FIFO channel. -/
structure Channel where
  /-- Channel ID. -/
  id : UInt32
  /-- The ring of GPFIFO entries. -/
  gpfifo : GpuAllocation
  /-- The push buffer. -/
  pushBuffer : GpuAllocation
  /-- Number of GPFIFO entries. -/
  gpfifoEntries : UInt32
  /-- GPFIFO write index. -/
  gpfifoPut : UInt32
  /-- Push buffer write offset in bytes. -/
  pushOffset : UInt32
  /-- Push buffer size in bytes. -/
  pushSize : UInt32
  /-- The engine the channel is bound to. -/
  engineId : UInt32
  /-- Doorbell register of the channel. -/
  doorbellOffset : UInt32
  deriving DecidableEq

/-- Number of GPFIFO entries of a channel. -/
def DEFAULT_GPFIFO_ENTRIES : UInt32 := 1024

/-- Push buffer size of a channel. -/
def DEFAULT_PUSH_BUFFER_SIZE : UInt64 := 256 * 1024

/-- The values an accepted `submit` computes. -/
structure Submission where
  /-- The address of the segment, which `submit` returns. -/
  segmentGpuVa : UInt64
  /-- The ring slot of the segment's entry. -/
  gpfifoIdx : UInt32
  /-- The entry. -/
  gpfifoEntry : GpfifoEntry
  /-- The put index written to the doorbell. -/
  newIdx : UInt32
  deriving DecidableEq

namespace Channel

/-- Allocate a channel: its ring, then its push buffer. -/
def allocate (allocator : VramAllocator) (channelId engineId : UInt32) :
    Option Channel × VramAllocator :=
  let gpfifoSize := DEFAULT_GPFIFO_ENTRIES.toUInt64 * 8
  match allocator.allocate gpfifoSize with
  | (none, allocator) => (none, allocator)
  | (some gpfifo, allocator) =>
    match allocator.allocate DEFAULT_PUSH_BUFFER_SIZE with
    -- the ring is not given back
    | (none, allocator) => (none, allocator)
    | (some pushBuffer, allocator) =>
      (some { id := channelId, gpfifo, pushBuffer, gpfifoEntries := DEFAULT_GPFIFO_ENTRIES,
              gpfifoPut := 0, pushOffset := 0, pushSize := DEFAULT_PUSH_BUFFER_SIZE.toUInt32,
              engineId, doorbellOffset := 0x90000 + channelId * 8 }, allocator)

/-- The length of a slice in bytes, truncated to 32 bits. -/
def byteLen (len : ℕ) : UInt32 := (UInt64.ofNat len * 4).toUInt32

/-- The check of `submit` on a slice of `len` words. -/
def Accepts (ch : Channel) (len : ℕ) : Prop := ch.pushOffset + byteLen len ≤ ch.pushSize

instance (ch : Channel) (len : ℕ) : Decidable (ch.Accepts len) :=
  inferInstanceAs (Decidable (_ ≤ _))

/-- What `submit` computes for an accepted slice of `len` words. -/
def submission (ch : Channel) (len : ℕ) : Submission :=
  let dwordLen := (UInt64.ofNat len).toUInt32
  let segmentGpuVa := ch.pushBuffer.gpuVa + ch.pushOffset.toUInt64
  { segmentGpuVa
    gpfifoIdx := ch.gpfifoPut
    gpfifoEntry := .new segmentGpuVa dwordLen
    newIdx := (ch.gpfifoPut + 1) % ch.gpfifoEntries }

/-- Submit a slice of commands: the result, the channel and the device after it. -/
def submit {δ : Type*} (regs : GpuRegs δ) (ch : Channel) (commands : List UInt32) (dev : δ) :
    Option Submission × Channel × δ :=
  if ch.pushOffset + byteLen commands.length > ch.pushSize then (none, ch, dev)
  else
    let sub := ch.submission commands.length
    (some sub,
      { ch with pushOffset := ch.pushOffset + byteLen commands.length, gpfifoPut := sub.newIdx },
      regs.write32 dev ch.doorbellOffset sub.newIdx)

/-- Start the push buffer over, once the GPU has consumed all commands. -/
def resetPushBuffer (ch : Channel) : Channel := { ch with pushOffset := 0 }

/-! ### What the operations do -/

theorem toNat_byteLen (len : ℕ) : (byteLen len).toNat = 4 * len % 2 ^ 32 := by
  rw [byteLen, UInt64.toNat_toUInt32, UInt64.toNat_mul, UInt64.toNat_ofNat']
  simp only [UInt64.reduceToNat]
  omega

/-- The check is on the sum modulo `2^32`. -/
theorem accepts_iff (ch : Channel) (len : ℕ) :
    ch.Accepts len ↔ (ch.pushOffset.toNat + 4 * len) % 2 ^ 32 ≤ ch.pushSize.toNat := by
  rw [Accepts, UInt32.le_iff_toNat_le, UInt32.toNat_add, toNat_byteLen]
  omega

/-- **All that a submit can do.** -/
theorem submit_cases {δ : Type*} (regs : GpuRegs δ) (ch : Channel) (commands : List UInt32)
    (dev : δ) :
    (ch.Accepts commands.length ∧ ch.submit regs commands dev =
      (some (ch.submission commands.length),
        { ch with
          pushOffset := ch.pushOffset + byteLen commands.length
          gpfifoPut := (ch.submission commands.length).newIdx },
        regs.write32 dev ch.doorbellOffset (ch.submission commands.length).newIdx)) ∨
    (¬ ch.Accepts commands.length ∧ ch.submit regs commands dev = (none, ch, dev)) := by
  unfold submit Accepts
  split_ifs with h
  · exact .inr ⟨UInt32.not_le.2 h, rfl⟩
  · exact .inl ⟨UInt32.not_lt.1 h, rfl⟩

theorem submit_of_accepts {δ : Type*} (regs : GpuRegs δ) {ch : Channel} {commands : List UInt32}
    (h : ch.Accepts commands.length) (dev : δ) :
    ch.submit regs commands dev =
      (some (ch.submission commands.length),
        { ch with
          pushOffset := ch.pushOffset + byteLen commands.length
          gpfifoPut := (ch.submission commands.length).newIdx },
        regs.write32 dev ch.doorbellOffset (ch.submission commands.length).newIdx) :=
  ((ch.submit_cases regs commands dev).resolve_right fun h' => h'.1 h).2

theorem submit_of_not_accepts {δ : Type*} (regs : GpuRegs δ) {ch : Channel}
    {commands : List UInt32} (h : ¬ ch.Accepts commands.length) (dev : δ) :
    ch.submit regs commands dev = (none, ch, dev) :=
  ((ch.submit_cases regs commands dev).resolve_left fun h' => h h'.1).2

/-- What a channel starts with. -/
structure Fresh (ch : Channel) : Prop where
  gpfifoEntries : ch.gpfifoEntries = 1024
  gpfifoPut : ch.gpfifoPut = 0
  pushOffset : ch.pushOffset = 0
  pushSize : ch.pushSize = 0x40000
  doorbellOffset : ch.doorbellOffset = 0x90000 + ch.id * 8

/-- **What every allocated channel starts with**, and where its two blocks come from. -/
theorem allocate_spec {a a' : VramAllocator} {channelId engineId : UInt32} {ch : Channel}
    (h : allocate a channelId engineId = (some ch, a')) :
    ch.Fresh ∧ ch.id = channelId ∧ (a.allocate 0x2000).1 = some ch.gpfifo ∧
      (a.allocate 0x2000).2.allocate 0x40000 = (some ch.pushBuffer, a') := by
  unfold allocate at h
  dsimp only at h
  split at h
  case h_1 => cases h
  case h_2 gpfifo b hb =>
    change a.allocate 0x2000 = _ at hb
    split at h
    case h_1 => cases h
    case h_2 pushBuffer c hc =>
      change b.allocate 0x40000 = _ at hc
      cases h
      exact ⟨⟨rfl, rfl, rfl, rfl, rfl⟩, rfl, by rw [hb], by rw [hb, hc]⟩

theorem allocate_preserves {P : VramAllocator → Prop}
    (hP : ∀ a size, P a → P (a.allocate size).2) {a : VramAllocator} (ha : P a)
    (channelId engineId : UInt32) : P (allocate a channelId engineId).2 := by
  have hstep : ∀ {a size r b}, VramAllocator.allocate a size = (r, b) → P a → P b := by
    intro a size r b h ha
    simpa only [h] using hP a size ha
  unfold allocate
  dsimp only
  split
  case h_1 b hb => exact hstep hb ha
  case h_2 gpfifo b hb =>
    split
    case h_1 c hc => exact hstep hc (hstep hb ha)
    case h_2 pushBuffer c hc => exact hstep hc (hstep hb ha)

end Channel

/-! ### The smallest GPU with a channel -/

/-- The allocator of a GPU with 2 MiB of VRAM. -/
def VramAllocator.twoMiB : VramAllocator := (detectAndInit GpuRegs.plain 0 0 fun _ => 2).1

/-- Its first channel. -/
def Channel.first : Channel where
  id := 0
  gpfifo := ⟨0x100000000, 0x100000, 0x2000, false, 0⟩
  pushBuffer := ⟨0x100002000, 0x102000, 0x40000, false, 0⟩
  gpfifoEntries := 1024
  gpfifoPut := 0
  pushOffset := 0
  pushSize := 0x40000
  engineId := 0
  doorbellOffset := 0x90000

theorem Channel.allocate_twoMiB : (Channel.allocate .twoMiB 0 0).1 = some .first := by decide

/-! ### Entries are lossless on 40-bit addresses and 23-bit lengths -/

namespace GpfifoEntry

theorem fields_of_toNat_hi {e : GpfifoEntry} {va : UInt64} {len : UInt32} {f : ℕ}
    (hlo : e.lo = va.toUInt32)
    (hhi : e.hi.toNat = f * 2 ^ 31 + (len.toNat * 2 ^ 8 + va.toNat / 2 ^ 32))
    (hva : va.toNat < 2 ^ 40) (hlen : len.toNat < 2 ^ 23) :
    e.address = va ∧ e.length = len ∧ e.flag.toNat = f := by
  refine ⟨?_, ?_, ?_⟩
  · apply UInt64.toNat_inj.1
    have htop : e.hi.toNat &&& 255 = va.toNat / 2 ^ 32 := by
      rw [Nat.and_two_pow_sub_one_eq_mod e.hi.toNat 8, hhi]; omega
    have hshift : (va.toNat / 2 ^ 32) <<< 32 % 2 ^ 64 = (va.toNat / 2 ^ 32) <<< 32 :=
      shiftLeft_mod_of_lt (by omega)
    simp only [address, hlo, UInt64.toNat_or, UInt64.toNat_shiftLeft, UInt32.toNat_toUInt64,
      UInt64.toNat_toUInt32, UInt32.toNat_and, UInt32.reduceToNat, UInt64.reduceToNat,
      Nat.reduceMod, htop]
    rw [hshift, Nat.or_comm, shiftLeft_or_eq_add (Nat.mod_lt _ (by decide))]
    omega
  · apply UInt32.toNat_inj.1
    simp only [length, UInt32.toNat_and, UInt32.toNat_shiftRight, UInt32.reduceToNat,
      Nat.reduceMod, Nat.shiftRight_eq_div_pow, hhi]
    rw [Nat.and_two_pow_sub_one_eq_mod _ 23]
    omega
  · simp only [flag, UInt32.toNat_shiftRight, UInt32.reduceToNat, Nat.reduceMod,
      Nat.shiftRight_eq_div_pow, hhi]
    omega

theorem toNat_new_hi {va : UInt64} {len : UInt32} (hva : va.toNat < 2 ^ 40)
    (hlen : len.toNat < 2 ^ 23) :
    (new va len).hi.toNat = len.toNat * 2 ^ 8 + va.toNat / 2 ^ 32 := by
  have htop : (va.toNat / 2 ^ 32 % 2 ^ 32) &&& 255 = va.toNat / 2 ^ 32 := by
    rw [Nat.and_two_pow_sub_one_eq_mod _ 8]; omega
  have hlow : len.toNat &&& 8388607 = len.toNat := Nat.and_two_pow_sub_one_of_lt_two_pow hlen
  have hshift : len.toNat <<< 8 % 2 ^ 32 = len.toNat <<< 8 := shiftLeft_mod_of_lt (by omega)
  simp only [new, UInt32.toNat_or, UInt32.toNat_and, UInt64.toNat_toUInt32,
    UInt64.toNat_shiftRight, UInt32.toNat_shiftLeft, UInt32.reduceToNat, UInt64.reduceToNat,
    Nat.reduceMod, Nat.shiftRight_eq_div_pow, htop, hlow]
  rw [hshift, Nat.or_comm, shiftLeft_or_eq_add (by omega)]

/-- **An entry gives back its address, its length and flag `0`.** -/
theorem fields_new {va : UInt64} {len : UInt32} (hva : va.toNat < 2 ^ 40)
    (hlen : len.toNat < 2 ^ 23) :
    (new va len).address = va ∧ (new va len).length = len ∧ (new va len).flag = 0 := by
  obtain ⟨haddr, hlen', hflag⟩ := fields_of_toNat_hi (e := new va len) (f := 0) rfl
    (by rw [toNat_new_hi hva hlen]; omega) hva hlen
  exact ⟨haddr, hlen', UInt32.toNat_inj.1 hflag⟩

theorem fields_newNoPrefetch {va : UInt64} {len : UInt32} (hva : va.toNat < 2 ^ 40)
    (hlen : len.toNat < 2 ^ 23) :
    (newNoPrefetch va len).address = va ∧ (newNoPrefetch va len).length = len ∧
      (newNoPrefetch va len).flag = 1 := by
  have hhi : (newNoPrefetch va len).hi.toNat =
      1 * 2 ^ 31 + (len.toNat * 2 ^ 8 + va.toNat / 2 ^ 32) := by
    change ((new va len).hi ||| ((1 : UInt32) <<< 31)).toNat = _
    rw [UInt32.toNat_or, toNat_new_hi hva hlen, Nat.or_comm]
    have hlow : len.toNat * 2 ^ 8 + va.toNat / 2 ^ 32 < 2 ^ 31 := by omega
    exact shiftLeft_or_eq_add hlow 1
  obtain ⟨haddr, hlen', hflag⟩ := fields_of_toNat_hi (e := newNoPrefetch va len) rfl hhi hva hlen
  exact ⟨haddr, hlen', UInt32.toNat_inj.1 hflag⟩

end GpfifoEntry

end GpuCompute
