import GpuCompute.Lib.Machine
import GpuCompute.Lib.Word
import GpuCompute.Mmio.Basic

/-!
# Reading the timer

The timer has 64 bits and is read through two 32-bit registers, between which it goes on counting.
The driver reads the high half, the low half and the high half again, until both high halves are the
same.  The timer never goes back, so that the high half has then not changed in between.

The timer is modelled as the sequence of the values it has at the register accesses of the host.

* `GpuRegs.readTimerNs` : the loop, with a number of iterations after which it is given up.
* `GpuRegs.withTimer` : a device with a timer.
* `timer` : calls of `readTimerNs` and other accesses, as a machine.
* `NeverBack` : the timer never goes back.
* `NeverTorn` : what is returned is a value that the timer had.
* `readTimerNs_eq_some` : the value returned, and when the timer had it.
* `isSome_readTimerNs_two` : two iterations suffice when the timer is slow.
* `neverTorn` : no value of a timer that never goes back is torn.
-/

namespace GpuCompute

open Systems

/-- Base of the timer block. -/
def NV_PTIMER : UInt32 := 0x009000

/-- Low and high half of the timer. -/
def NV_PTIMER_TIME_0 : UInt32 := NV_PTIMER + 0x400
def NV_PTIMER_TIME_1 : UInt32 := NV_PTIMER + 0x404

/-- Read the timer: high half, low half and high half again, for at most `fuel` times. -/
def GpuRegs.readTimerNs {δ : Type*} (regs : GpuRegs δ) : ℕ → δ → Option (UInt64 × δ)
  | 0, _ => none
  | fuel + 1, dev =>
    let (hi1, dev) := regs.read32 dev NV_PTIMER_TIME_1
    let (lo, dev) := regs.read32 dev NV_PTIMER_TIME_0
    let (hi2, dev) := regs.read32 dev NV_PTIMER_TIME_1
    if hi1 = hi2 then some ((hi1.toUInt64 <<< 32) ||| lo.toUInt64, dev)
    else regs.readTimerNs fuel dev

/-- The loop with the state it leaves, also when it is given up. -/
def GpuRegs.pollTimer {δ : Type*} (regs : GpuRegs δ) : ℕ → δ → Option UInt64 × δ
  | 0, dev => (none, dev)
  | fuel + 1, dev =>
    let (hi1, dev) := regs.read32 dev NV_PTIMER_TIME_1
    let (lo, dev) := regs.read32 dev NV_PTIMER_TIME_0
    let (hi2, dev) := regs.read32 dev NV_PTIMER_TIME_1
    if hi1 = hi2 then (some ((hi1.toUInt64 <<< 32) ||| lo.toUInt64), dev)
    else regs.pollTimer fuel dev

theorem readTimerNs_eq_pollTimer {δ : Type*} (regs : GpuRegs δ) (fuel : ℕ) (dev : δ) :
    regs.readTimerNs fuel dev =
      (regs.pollTimer fuel dev).1.map fun ns => (ns, (regs.pollTimer fuel dev).2) := by
  induction fuel generalizing dev with
  | zero => rfl
  | succ fuel ih =>
    simp only [GpuRegs.readTimerNs, GpuRegs.pollTimer]
    split_ifs
    · rfl
    · exact ih _

/-! ### A device with a timer -/

/-- The halves of the timer. -/
def timeLo (t : UInt64) : UInt32 := t.toUInt32
def timeHi (t : UInt64) : UInt32 := (t >>> 32).toUInt32

/-- A device with a timer. -/
structure TimerState (δ : Type*) where
  /-- The rest of the device. -/
  dev : δ
  /-- How many registers have been read. -/
  reads : ℕ

/-- The device `regs` with a timer that has the value `time n` at read number `n`. -/
def GpuRegs.withTimer {δ : Type*} (regs : GpuRegs δ) (time : ℕ → UInt64) :
    GpuRegs (TimerState δ) where
  read32 s offset :=
    if offset = NV_PTIMER_TIME_0 then (timeLo (time s.reads), { s with reads := s.reads + 1 })
    else if offset = NV_PTIMER_TIME_1 then
      (timeHi (time s.reads), { s with reads := s.reads + 1 })
    else ((regs.read32 s.dev offset).1, ⟨(regs.read32 s.dev offset).2, s.reads + 1⟩)
  write32 s offset value := { s with dev := regs.write32 s.dev offset value }

/-- The timer never goes back. -/
def NeverBack (time : ℕ → UInt64) : Prop := ∀ n, time n ≤ time (n + 1)

/-- A call of `readTimerNs` that is given up after `fuel` iterations, or another access. -/
inductive TimerOp where
  | readTimer (fuel : ℕ)
  | read (offset : UInt32)
  | write (offset value : UInt32)
  deriving DecidableEq

/-- A device with a timer as a machine, which shows the values that the calls return. -/
def timer {δ : Type*} (regs : GpuRegs δ) (time : ℕ → UInt64) :
    Machine (TimerState δ) TimerOp (Option UInt64) where
  step s
    | .readTimer fuel =>
      match (regs.withTimer time).readTimerNs fuel s with
      | some (v, s') => (some v, s')
      | none => (none, s)
    | .read offset => (none, ((regs.withTimer time).read32 s offset).2)
    | .write offset value => (none, (regs.withTimer time).write32 s offset value)

/-- What the timer reads is what the timer was. -/
structure NeverTorn {δ : Type*} (regs : GpuRegs δ) (time : ℕ → UInt64) : Prop where
  /-- A value returned is the value of the timer at the low read of the last iteration, which is the
  read before the last one. -/
  exact : ∀ fuel s v s', (regs.withTimer time).readTimerNs fuel s = some (v, s') →
    ∃ i < fuel, s'.reads = s.reads + 3 * i + 3 ∧ v = time (s.reads + 3 * i + 1)
  /-- A later call returns no smaller value, whatever is done in between. -/
  nondecreasing : ∀ s ops, (((timer regs time).trace s ops).filterMap Event.out).Pairwise (· ≥ ·)
  /-- Two iterations suffice when the timer advances by less than `2^32` over their reads. -/
  returns : ∀ s : TimerState δ, (time (s.reads + 5)).toNat - (time s.reads).toNat < 2 ^ 32 →
    ((regs.withTimer time).readTimerNs 2 s).isSome

theorem NeverBack.le {time : ℕ → UInt64} (h : NeverBack time) {m n : ℕ} (hle : m ≤ n) :
    time m ≤ time n := by
  induction hle with
  | refl => exact UInt64.le_refl _
  | step _ ih => exact UInt64.le_trans ih (h _)

/-! ### Halves -/

theorem toNat_timeHi (t : UInt64) : (timeHi t).toNat = t.toNat / 2 ^ 32 := by
  have hlt := t.toNat_lt
  rw [timeHi, UInt64.toNat_toUInt32, UInt64.toNat_shiftRight]
  simp only [UInt64.reduceToNat, Nat.reduceMod, Nat.shiftRight_eq_div_pow]
  omega

theorem join_halves (t : UInt64) :
    ((timeHi t).toUInt64 <<< 32) ||| (timeLo t).toUInt64 = t := by
  have hlt := t.toNat_lt
  apply UInt64.toNat_inj.1
  rw [UInt64.toNat_or, UInt64.toNat_shiftLeft, UInt32.toNat_toUInt64, UInt32.toNat_toUInt64,
    toNat_timeHi, timeLo, UInt64.toNat_toUInt32]
  simp only [UInt64.reduceToNat, Nat.reduceMod]
  rw [shiftLeft_mod_of_lt (by omega), shiftLeft_or_eq_add (Nat.mod_lt _ (by decide))]
  omega

theorem timeHi_le_timeHi {t u : UInt64} (h : t ≤ u) :
    (timeHi t).toNat ≤ (timeHi u).toNat := by
  rw [toNat_timeHi, toNat_timeHi]
  exact Nat.div_le_div_right (UInt64.le_iff_toNat_le.1 h)

/-! ### One call -/

section

variable {δ : Type*} {regs : GpuRegs δ} {time : ℕ → UInt64}

theorem readTimerNs_succ (fuel : ℕ) (s : TimerState δ) :
    (regs.withTimer time).readTimerNs (fuel + 1) s =
      if timeHi (time s.reads) = timeHi (time (s.reads + 2)) then
        some (((timeHi (time s.reads)).toUInt64 <<< 32) |||
          (timeLo (time (s.reads + 1))).toUInt64, { s with reads := s.reads + 3 })
      else (regs.withTimer time).readTimerNs fuel { s with reads := s.reads + 3 } := by
  have hne : NV_PTIMER_TIME_1 ≠ NV_PTIMER_TIME_0 := by decide
  conv_lhs => unfold GpuRegs.readTimerNs
  simp only [GpuRegs.withTimer, hne, if_true, if_false]

theorem timeHi_eq_of_eq (hmono : NeverBack time) {n : ℕ}
    (h : timeHi (time n) = timeHi (time (n + 2))) :
    timeHi (time n) = timeHi (time (n + 1)) := by
  have hfirst := timeHi_le_timeHi (hmono n)
  have hsecond : (timeHi (time (n + 1))).toNat ≤ (timeHi (time (n + 2))).toNat :=
    timeHi_le_timeHi (hmono (n + 1))
  apply UInt32.toNat_inj.1
  have hends := congrArg UInt32.toNat h
  omega

/-- **A value returned is the value of the timer** at the low read of the last iteration. -/
theorem readTimerNs_eq_some (hmono : NeverBack time) {fuel : ℕ} {s s' : TimerState δ} {v : UInt64}
    (h : (regs.withTimer time).readTimerNs fuel s = some (v, s')) :
    ∃ i < fuel, s'.reads = s.reads + 3 * i + 3 ∧ v = time (s.reads + 3 * i + 1) := by
  induction fuel generalizing s with
  | zero => cases h
  | succ fuel ih =>
    rw [readTimerNs_succ] at h
    split_ifs at h with hsame
    -- the last iteration
    · cases h
      refine ⟨0, Nat.zero_lt_succ fuel, rfl, ?_⟩
      rw [timeHi_eq_of_eq hmono hsame, join_halves]
    · obtain ⟨i, hi, hreads, hv⟩ := ih h
      refine ⟨i + 1, Nat.succ_lt_succ hi, ?_, ?_⟩
      · rw [hreads]
        dsimp only
        omega
      · rw [hv]
        congr 1
        dsimp only
        omega

/-- If the high half changes in an iteration, then it has grown. -/
theorem timeHi_lt_of_ne (hmono : NeverBack time) {n : ℕ}
    (h : timeHi (time n) ≠ timeHi (time (n + 2))) :
    (timeHi (time n)).toNat < (timeHi (time (n + 2))).toNat :=
  lt_of_le_of_ne (timeHi_le_timeHi (hmono.le (Nat.le_add_right n 2)))
    fun heq => h (UInt32.toNat_inj.1 heq)

/-- **Two iterations suffice** when the timer is slow: the high half cannot change in both. -/
theorem isSome_readTimerNs_two (hmono : NeverBack time) {s : TimerState δ}
    (hslow : (time (s.reads + 5)).toNat - (time s.reads).toNat < 2 ^ 32) :
    ((regs.withTimer time).readTimerNs 2 s).isSome := by
  rw [readTimerNs_succ, readTimerNs_succ]
  split_ifs with hfirst hsecond
  · rfl
  · rfl
  · -- the high half has changed twice
    exfalso
    have hgrow := timeHi_lt_of_ne hmono hfirst
    have hgrow' := timeHi_lt_of_ne hmono hsecond
    have hbetween := timeHi_le_timeHi (hmono.le (Nat.le_add_right (s.reads + 2) 1))
    dsimp only at hgrow'
    simp only [toNat_timeHi, Nat.add_assoc, Nat.reduceAdd] at hgrow hgrow' hbetween
    omega

/-! ### Many calls -/

theorem reads_read32 (s : TimerState δ) (offset : UInt32) :
    ((regs.withTimer time).read32 s offset).2.reads = s.reads + 1 := by
  unfold GpuRegs.withTimer
  dsimp only
  split_ifs <;> rfl

variable (regs) in
/-- **What a step can do**: return a value that the timer has had since, or nothing. -/
theorem timer_step (hmono : NeverBack time) (s : TimerState δ) (op : TimerOp) :
    let r := (timer regs time).step s op
    s.reads ≤ r.2.reads ∧ ∀ v, r.1 = some v → time s.reads ≤ v ∧ v ≤ time r.2.reads := by
  cases op with
  | readTimer fuel =>
    simp only [timer]
    cases hread : (regs.withTimer time).readTimerNs fuel s with
    | none => exact ⟨le_rfl, fun v hv => by cases hv⟩
    | some p =>
      obtain ⟨i, -, hreads, hv⟩ := readTimerNs_eq_some hmono hread
      refine ⟨by dsimp only; omega, ?_⟩
      rintro v ⟨⟩
      rw [hv]
      exact ⟨hmono.le (by omega), hmono.le (by dsimp only; omega)⟩
  | read offset =>
    simp only [timer, reads_read32]
    exact ⟨Nat.le_succ _, fun v hv => by cases hv⟩
  | write offset value => exact ⟨le_rfl, fun v hv => by cases hv⟩

theorem pairwise_timer (hmono : NeverBack time) (s : TimerState δ) (ops : List TimerOp) :
    (((timer regs time).trace s ops).filterMap Event.out).Pairwise (· ≥ ·) := by
  have key := Machine.run_induction' (M := timer regs time) (s := s)
    (motive := fun tr s' => (tr.filterMap Event.out).Pairwise (· ≥ ·) ∧
      ∀ v ∈ tr.filterMap Event.out, v ≤ time s'.reads) ⟨.nil, by simp⟩ ?_ ops
  · exact key.1
  · rintro tr s' op ⟨hsorted, hbound⟩
    obtain ⟨hreads, hvalue⟩ := timer_step regs hmono s' op
    rw [Machine.filterMap_out_cons]
    cases hout : ((timer regs time).step s' op).1 with
    | none => exact ⟨hsorted, fun v hv => UInt64.le_trans (hbound v hv) (hmono.le hreads)⟩
    | some v =>
      obtain ⟨hlo, hhi⟩ := hvalue v hout
      refine ⟨.cons (fun u hu => UInt64.le_trans (hbound u hu) hlo) hsorted, ?_⟩
      rintro u (_ | ⟨_, hu⟩)
      · exact hhi
      · exact UInt64.le_trans (hbound u hu) (hmono.le hreads)

/-- **No value of the timer is torn**, whenever its low half rolls over. -/
theorem neverTorn {δ : Type*} (regs : GpuRegs δ) {time : ℕ → UInt64}
    (hmono : NeverBack time) : NeverTorn regs time where
  exact _ _ _ _ h := readTimerNs_eq_some hmono h
  nondecreasing := pairwise_timer hmono
  returns _ hslow := isSome_readTimerNs_two hmono hslow

end

/-- A timer whose low half rolls over between the first two reads. -/
def rollover (n : ℕ) : UInt64 := if n = 0 then 0xFFFFFFFF else 0x100000000

theorem neverTorn_rollover : NeverTorn GpuRegs.plain rollover := by
  refine neverTorn GpuRegs.plain fun n => ?_
  unfold rollover
  rw [if_neg (Nat.succ_ne_zero n)]
  split_ifs <;> decide

end GpuCompute
