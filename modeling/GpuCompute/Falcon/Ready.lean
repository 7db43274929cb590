import GpuCompute.Falcon.Basic

/-!
# Readiness of a Falcon

The firmware announces that it is ready by writing a nonzero value to `FALCON_OS`, and the driver
polls this register.  Nothing clears the register before the start, so that a value left there by
an earlier boot is taken for the new one.

The register is modelled on its own here: it holds its value until the host or the running firmware
writes it.  What the firmware does is an oracle, and everything else about the device is arbitrary.

* `Firmware` : what the program of each boot writes to `FALCON_OS`, and when.
* `FalconState`, `Falcon.withFirmware` : a device with a Falcon that runs firmware.
* `ReadyIsFresh` : a call that reports readiness has seen it announced after its own start.
* `Falcon.waitReady_spec` : what a poll that succeeds has seen.
* `readyIsFresh_iff` : readiness is fresh exactly when the register is clear at the start or the
  firmware writes it before the first poll.
-/

namespace GpuCompute

/-- What the firmware writes to `FALCON_OS`: `firmware n k` are the values that the program of the
`n`-th boot writes before the host makes its access number `k` after the start, oldest first. -/
abbrev Firmware := ℕ → ℕ → List UInt32

/-- A device with a Falcon. -/
structure FalconState (δ : Type*) where
  /-- The rest of the device. -/
  dev : δ
  /-- The register `FALCON_OS`. -/
  os : UInt32
  /-- Whether the processor runs. -/
  running : Bool
  /-- How often it has been started. -/
  boots : ℕ
  /-- How many accesses the host has made since the last start. -/
  clock : ℕ
  /-- What the firmware has written to `FALCON_OS` since the last start, newest first. -/
  written : List UInt32

namespace FalconState

variable {δ : Type*} (firmware : Firmware)

/-- The firmware writes `FALCON_OS`. -/
def put (s : FalconState δ) (value : UInt32) : FalconState δ :=
  { s with os := value, written := value :: s.written }

/-- What the firmware does before the next access of the host. -/
def tick (s : FalconState δ) : FalconState δ :=
  if s.running then { (firmware s.boots s.clock).foldl put s with clock := s.clock + 1 } else s

/-- What a write to the control register does. -/
def control (value : UInt32) (s : FalconState δ) : FalconState δ :=
  if value &&& FALCON_CPUCTL_START ≠ 0 then
    { s with running := true, boots := s.boots + 1, clock := 0, written := [] }
  else if value &&& FALCON_CPUCTL_HALT ≠ 0 then { s with running := false }
  else s

end FalconState

/-- The device `regs` with the Falcon `f`, which runs the firmware. -/
def Falcon.withFirmware {δ : Type*} (f : Falcon) (regs : GpuRegs δ) (firmware : Firmware) :
    GpuRegs (FalconState δ) where
  read32 s offset :=
    let s := s.tick firmware
    if offset = f.base + FALCON_OS then (s.os, s)
    else ((regs.read32 s.dev offset).1, { s with dev := (regs.read32 s.dev offset).2 })
  write32 s offset value :=
    let s := s.tick firmware
    if offset = f.base + FALCON_OS then { s with os := value }
    else
      let s := { s with dev := regs.write32 s.dev offset value }
      if offset = f.base + FALCON_CPUCTL then s.control value else s

/-- If a call has returned that the firmware is ready, the firmware has written a nonzero value
since the last start. -/
def ReadyIsFresh {δ : Type*} (r : Bool × FalconState δ) : Prop :=
  r.1 = true → ∃ value ∈ r.2.written, value ≠ 0

instance {δ : Type*} (r : Bool × FalconState δ) : Decidable (ReadyIsFresh r) :=
  inferInstanceAs (Decidable (_ → ∃ value ∈ r.2.written, value ≠ 0))

theorem readyIsFresh_isSome_iff {δ : Type*} {magic : Option UInt32} {s : FalconState δ} :
    ReadyIsFresh (magic.isSome, s) ↔
      ∀ value, magic = some value → ∃ value' ∈ s.written, value' ≠ 0 := by
  cases magic <;> simp [ReadyIsFresh]

/-! ### While the processor is halted -/

namespace FalconState

variable {δ : Type*}

theorem control_start (s : FalconState δ) :
    s.control FALCON_CPUCTL_START =
      { s with running := true, boots := s.boots + 1, clock := 0, written := [] } :=
  if_pos (by decide)

/-- The processor is halted, and `FALCON_OS` holds `os` after `boots` boots. -/
structure Idle (os : UInt32) (boots : ℕ) (s : FalconState δ) : Prop where
  running : s.running = false
  os_eq : s.os = os
  boots_eq : s.boots = boots

variable {firmware : Firmware} {s : FalconState δ} {os : UInt32} {boots : ℕ}

theorem Idle.tick_eq (h : s.Idle os boots) : s.tick firmware = s :=
  if_neg (by rw [h.running]; exact Bool.false_ne_true)

/-! ### While the processor runs -/

theorem foldl_put (values : List UInt32) (s : FalconState δ) :
    values.foldl put s =
      { s with os := values.reverse.headD s.os, written := values.reverse ++ s.written } := by
  induction values generalizing s with
  | nil => rfl
  | cons v values ih =>
    rw [List.foldl_cons, ih, put, List.reverse_cons, List.append_assoc]
    cases values.reverse <;> rfl

/-- The processor runs, and `FALCON_OS` holds what the firmware has written last, or `os` as long
as it has written nothing. -/
structure Follows (os : UInt32) (s : FalconState δ) : Prop where
  running : s.running = true
  os_eq : s.os = s.written.headD os

theorem tick_of_running (h : s.running = true) :
    s.tick firmware =
      { s with
        os := (firmware s.boots s.clock).reverse.headD s.os
        written := (firmware s.boots s.clock).reverse ++ s.written
        clock := s.clock + 1 } := by
  rw [tick, if_pos h, foldl_put]

theorem Follows.tick (h : s.Follows os) : (s.tick firmware).Follows os := by
  rw [tick_of_running h.running]
  refine ⟨h.running, ?_⟩
  change (firmware s.boots s.clock).reverse.headD s.os = _
  rw [h.os_eq]
  cases (firmware s.boots s.clock).reverse <;> rfl

end FalconState

/-! ### The steps of a call -/

namespace Falcon

open FalconState

variable {δ : Type*} (f : Falcon) (regs : GpuRegs δ) (firmware : Firmware) {s : FalconState δ}
  {os : UInt32} {boots : ℕ}

theorem idle_read {o : UInt32} (ho : o ≠ FALCON_OS) (h : s.Idle os boots) :
    (f.read (f.withFirmware regs firmware) o s).2.Idle os boots := by
  have hne : f.base + o ≠ f.base + FALCON_OS := f.addr_ne ho
  simp only [read, withFirmware, h.tick_eq, if_neg hne]
  exact ⟨h.running, h.os_eq, h.boots_eq⟩

theorem idle_write {o : UInt32} (ho : o ≠ FALCON_OS) (hctl : o ≠ FALCON_CPUCTL) (value : UInt32)
    (h : s.Idle os boots) :
    (f.write (f.withFirmware regs firmware) o value s).Idle os boots := by
  have hne : f.base + o ≠ f.base + FALCON_OS := f.addr_ne ho
  have hne' : f.base + o ≠ f.base + FALCON_CPUCTL := f.addr_ne hctl
  simp only [write, withFirmware, h.tick_eq, if_neg hne, if_neg hne']
  exact ⟨h.running, h.os_eq, h.boots_eq⟩

theorem write_control (value : UInt32) (s : FalconState δ) :
    f.write (f.withFirmware regs firmware) FALCON_CPUCTL value s =
      FalconState.control value { s.tick firmware with
        dev := regs.write32 (s.tick firmware).dev (f.base + FALCON_CPUCTL) value } := by
  have hne : f.base + FALCON_CPUCTL ≠ f.base + FALCON_OS :=
    f.addr_ne (by decide)
  simp only [write, withFirmware, if_neg hne, if_true]

theorem boots_tick (s : FalconState δ) : (s.tick firmware).boots = s.boots := by
  by_cases h : s.running
  · rw [tick_of_running h]
  · rw [tick, if_neg h]

theorem idle_halt (s : FalconState δ) :
    (f.halt (f.withFirmware regs firmware) s).Idle (s.tick firmware).os s.boots := by
  refine f.idle_read regs firmware (by decide) ?_
  rw [write_control]
  exact ⟨rfl, rfl, boots_tick firmware s⟩

theorem idle_clearInterrupts (h : s.Idle os boots) :
    (f.clearInterrupts (f.withFirmware regs firmware) s).Idle os boots := by
  have hread := f.idle_read regs firmware (o := FALCON_IRQSRD) (by decide) h
  unfold clearInterrupts
  dsimp only
  split_ifs
  · exact f.idle_write regs firmware (by decide) (by decide) _ hread
  · exact hread

theorem idle_upload (ctrl port : UInt32) (hctrl : ctrl ≠ FALCON_OS ∧ ctrl ≠ FALCON_CPUCTL)
    (hport : port ≠ FALCON_OS ∧ port ≠ FALCON_CPUCTL) (data : List UInt8) (memOffset : UInt32)
    (h : s.Idle os boots) :
    (f.upload (f.withFirmware regs firmware) ctrl port data memOffset s).Idle os boots := by
  by_cases hdata : 4 ∣ data.length
  · rw [f.upload_of_dvd _ hdata]
    refine List.foldlRecOn (motive := fun (s : FalconState δ) => s.Idle os boots) _ _ ?_ ?_
    · exact f.idle_write regs firmware hctrl.1 hctrl.2 _ h
    · exact fun s hs word _ => f.idle_write regs firmware hport.1 hport.2 word hs
  · rw [f.upload_of_not_dvd _ hdata]
    exact h

/-- Until the start, `FALCON_OS` holds what it held when the processor was halted. -/
theorem idle_prepare (imemFirmware dmemData : List UInt8) (s : FalconState δ) :
    (f.prepare (f.withFirmware regs firmware) imemFirmware dmemData s).Idle
      (s.tick firmware).os s.boots := by
  have himem := f.idle_upload regs firmware FALCON_IMEMC FALCON_IMEMD (by decide) (by decide)
    imemFirmware 0 (f.idle_clearInterrupts regs firmware (f.idle_halt regs firmware s))
  unfold prepare
  dsimp only
  split_ifs
  · exact f.idle_upload regs firmware _ _ (by decide) (by decide) dmemData 0 himem
  · exact himem

theorem boot_spec (h : s.Idle os boots) :
    let t := f.boot (f.withFirmware regs firmware) 0 s
    t.Follows os ∧ t.boots = boots + 1 ∧ t.clock = 0 ∧ t.written = [] := by
  have hvec := f.idle_write regs firmware (o := FALCON_BOOTVEC) (by decide) (by decide) 0 h
  unfold boot
  dsimp only
  rw [write_control, hvec.tick_eq, control_start]
  exact ⟨⟨rfl, hvec.os_eq⟩, congrArg (· + 1) hvec.boots_eq, rfl, rfl⟩

theorem read_os (s : FalconState δ) :
    f.read (f.withFirmware regs firmware) FALCON_OS s =
      ((s.tick firmware).os, s.tick firmware) := by
  simp only [read, withFirmware, if_true]

theorem waitReady_of_ne_zero (n : ℕ) (hos : (s.tick firmware).os ≠ 0) :
    f.waitReady (f.withFirmware regs firmware) (n + 1) s =
      (some (s.tick firmware).os, s.tick firmware) := by
  unfold waitReady
  rw [read_os]
  exact if_pos hos

theorem waitReady_of_eq_zero (n : ℕ) (hos : (s.tick firmware).os = 0) :
    f.waitReady (f.withFirmware regs firmware) (n + 1) s =
      f.waitReady (f.withFirmware regs firmware) n (s.tick firmware) := by
  conv_lhs => unfold waitReady
  rw [read_os]
  exact if_neg (not_not.2 hos)

/-- **What a poll that succeeds has seen**: the last value the firmware has written, if it has
written one since the start, and nothing written is lost in between. -/
theorem waitReady_spec (n : ℕ) (h : s.Follows os) {value : UInt32}
    (hready : (f.waitReady (f.withFirmware regs firmware) n s).1 = some value) :
    let t := (f.waitReady (f.withFirmware regs firmware) n s).2
    value ≠ 0 ∧ value = t.written.headD os ∧ (s.tick firmware).written <:+ t.written := by
  induction n generalizing s with
  | zero => cases hready
  | succ n ih =>
    by_cases hos : (s.tick firmware).os = 0
    · rw [f.waitReady_of_eq_zero regs firmware n hos] at hready ⊢
      obtain ⟨hne, hvalue, hsuffix⟩ := ih h.tick hready
      refine ⟨hne, hvalue, List.IsSuffix.trans ?_ hsuffix⟩
      rw [tick_of_running h.tick.running]
      exact List.suffix_append _ _
    · rw [f.waitReady_of_ne_zero regs firmware n hos] at hready ⊢
      cases hready
      exact ⟨hos, h.tick.os_eq, List.suffix_rfl⟩

/-! ### Readiness -/

/-- What polls that begin right after a start report is fresh exactly when `FALCON_OS` held `0` at
the start, or the new program writes it before the first poll. -/
theorem readyIsFresh_waitReady_iff (n : ℕ) (h : s.Follows os) (hwritten : s.written = []) :
    let polled := f.waitReady (f.withFirmware regs firmware) (n + 1) s
    ReadyIsFresh (polled.1.isSome, polled.2) ↔ os = 0 ∨ firmware s.boots s.clock ≠ [] := by
  have hspec := @waitReady_spec δ f regs firmware s os (n + 1) h
  have hfirst := f.waitReady_of_ne_zero regs firmware n (s := s)
  dsimp only at hspec ⊢
  generalize f.waitReady (f.withFirmware regs firmware) (n + 1) s = polled at hspec hfirst ⊢
  rw [readyIsFresh_isSome_iff]
  have htick : (s.tick firmware).written = (firmware s.boots s.clock).reverse := by
    rw [tick_of_running h.running, hwritten, List.append_nil]
  constructor
  · intro hfresh
    by_contra hnot
    obtain ⟨hos, hsilent⟩ := not_or.1 hnot
    rw [not_not] at hsilent
    rw [hsilent] at htick
    -- the first poll sees the old value
    have hold : (s.tick firmware).os = os := by
      rw [h.tick.os_eq, htick]
      rfl
    rw [hfirst (by rw [hold]; exact hos)] at hfresh
    obtain ⟨value, hmem, -⟩ := hfresh _ rfl
    rw [htick] at hmem
    cases hmem
  · intro hor value hvalue
    obtain ⟨hne, hhead, hsuffix⟩ := hspec hvalue
    cases hlast : polled.2.written with
    | nil =>
      rw [hlast] at hhead hsuffix
      rcases hor with hos | hwrites
      · exact absurd (hhead.trans hos) hne
      · rw [htick, List.suffix_nil, List.reverse_eq_nil_iff] at hsuffix
        exact absurd hsuffix hwrites
    | cons v written =>
      rw [hlast] at hhead
      have hv : value = v := hhead
      exact ⟨v, List.mem_cons_self, hv ▸ hne⟩

end Falcon

open FalconState in
/-- **Readiness is fresh exactly when `FALCON_OS` is clear** as the processor is halted, or the
new program writes it before the first poll. -/
theorem readyIsFresh_iff {δ : Type*} (f : Falcon) (regs : GpuRegs δ) (firmware : Firmware)
    (imemFirmware dmemData : List UInt8) (s : FalconState δ) :
    ReadyIsFresh (f.initWithFirmware (f.withFirmware regs firmware) imemFirmware dmemData s) ↔
      (s.tick firmware).os = 0 ∨ firmware (s.boots + 1) 0 ≠ [] := by
  obtain ⟨hfollows, hboots, hclock, hwritten⟩ := f.boot_spec regs firmware
    (f.idle_prepare regs firmware imemFirmware dmemData s)
  have hiff := f.readyIsFresh_waitReady_iff regs firmware 999999 hfollows hwritten
  rw [hboots, hclock] at hiff
  rw [Falcon.initWithFirmware_eq]
  exact hiff

/-- The firmware of the first boot announces that it is ready, the firmware of the second boot does
nothing: both calls return `true`. -/
theorem not_readyIsFresh_second_boot :
    let firmware : Firmware := fun n k => if n = 1 ∧ k = 0 then [1] else []
    let regs := (Falcon.new .pmu).withFirmware GpuRegs.plain firmware
    let first := (Falcon.new .pmu).initWithFirmware regs [1, 2, 3, 4] []
      ⟨fun _ => 0, 0, false, 0, 0, []⟩
    let second := (Falcon.new .pmu).initWithFirmware regs [5, 6, 7, 8] [] first.2
    first.1 = true ∧ second.1 = true ∧ ¬ ReadyIsFresh second := by
  decide

end GpuCompute
