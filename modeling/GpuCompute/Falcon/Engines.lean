import GpuCompute.Falcon.Basic
import GpuCompute.Lib.Machine
import GpuCompute.Mmio.Footprint

/-!
# The Falcon engines of a GPU

A GPU has several Falcons, each with its own block of registers.  The driver may work on all of
them, and the calls for one of them may come between those for another one.  All registers that a
call accesses are in the block of its own engine, so that the engines do not see each other.

* `Falcon.readMailbox0`, `writeMailbox0`, `readMailbox1`, `writeMailbox1` : the mailboxes.
* `FalconOp`, `Falcon.perform` : all that can be done with a Falcon.
* `falconOwner`, `falconBank` : the blocks of the engines, and a GPU that has them.
* `falcons`, `oneFalcon` : the engines of a GPU, and one engine alone, as machines.
* `Independent` : an engine does and shows what it would do and show alone.
* `Falcon.uses_perform` : the registers that an operation reads and writes.
* `independent_run` : the engines of a GPU are independent, in whatever order they are used.
-/

namespace GpuCompute

open Systems

/-- The mailboxes, through which the host and the firmware exchange words. -/
def FALCON_MAILBOX0 : UInt32 := 0x040
def FALCON_MAILBOX1 : UInt32 := 0x044

namespace Falcon

section

variable {δ : Type*} (f : Falcon) (regs : GpuRegs δ)

/-- Read mailbox 0. -/
def readMailbox0 (dev : δ) : UInt32 × δ := f.read regs FALCON_MAILBOX0 dev

/-- Write mailbox 0. -/
def writeMailbox0 (value : UInt32) (dev : δ) : δ := f.write regs FALCON_MAILBOX0 value dev

/-- Read mailbox 1. -/
def readMailbox1 (dev : δ) : UInt32 × δ := f.read regs FALCON_MAILBOX1 dev

/-- Write mailbox 1. -/
def writeMailbox1 (value : UInt32) (dev : δ) : δ := f.write regs FALCON_MAILBOX1 value dev

end

end Falcon

/-- All that can be done with a Falcon. -/
inductive FalconOp where
  | isHalted
  | halt
  | uploadImem (firmware : List UInt8) (imemOffset : UInt32)
  | uploadDmem (data : List UInt8) (dmemOffset : UInt32)
  | boot (entryPoint : UInt32)
  | waitReady (timeoutIters : UInt32)
  | readMailbox0
  | writeMailbox0 (value : UInt32)
  | readMailbox1
  | writeMailbox1 (value : UInt32)
  | clearInterrupts
  | initWithFirmware (imemFirmware dmemData : List UInt8)
  deriving DecidableEq

/-- What these operations return. -/
inductive FalconOut where
  | done
  | flag (b : Bool)
  | word (value : UInt32)
  | osVal (value : Option UInt32)
  deriving DecidableEq

/-- Perform an operation. -/
def Falcon.perform (f : Falcon) : FalconOp → DriverFn FalconOut
  | .isHalted => fun _ regs dev => (.flag (f.isHalted regs dev).1, (f.isHalted regs dev).2)
  | .halt => fun _ regs dev => (.done, f.halt regs dev)
  | .uploadImem firmware imemOffset => fun _ regs dev =>
    (.done, f.uploadImem regs firmware imemOffset dev)
  | .uploadDmem data dmemOffset => fun _ regs dev =>
    (.done, f.uploadDmem regs data dmemOffset dev)
  | .boot entryPoint => fun _ regs dev => (.done, f.boot regs entryPoint dev)
  | .waitReady timeoutIters => fun _ regs dev =>
    let (osVal, dev) := f.waitReady regs timeoutIters.toNat dev
    (.osVal osVal, dev)
  | .readMailbox0 => fun _ regs dev =>
    (.word (f.readMailbox0 regs dev).1, (f.readMailbox0 regs dev).2)
  | .writeMailbox0 value => fun _ regs dev => (.done, f.writeMailbox0 regs value dev)
  | .readMailbox1 => fun _ regs dev =>
    (.word (f.readMailbox1 regs dev).1, (f.readMailbox1 regs dev).2)
  | .writeMailbox1 value => fun _ regs dev => (.done, f.writeMailbox1 regs value dev)
  | .clearInterrupts => fun _ regs dev => (.done, f.clearInterrupts regs dev)
  | .initWithFirmware imemFirmware dmemData => fun _ regs dev =>
    let (booted, dev) := f.initWithFirmware regs imemFirmware dmemData dev
    (.flag booted, dev)

/-! ### Footprints -/

/-- The registers that the driver reads, relative to the base of the Falcon. -/
def falconReads : List UInt32 :=
  [FALCON_CPUCTL, FALCON_IRQSRD, FALCON_OS, FALCON_MAILBOX0, FALCON_MAILBOX1]

/-- The registers that the driver writes. -/
def falconWrites : List UInt32 :=
  [FALCON_CPUCTL, FALCON_BOOTVEC, FALCON_IRQSCLR, FALCON_IMEMC, FALCON_IMEMD, FALCON_DMEMC,
    FALCON_DMEMD, FALCON_MAILBOX0, FALCON_MAILBOX1]

namespace Falcon

variable (f : Falcon)

/-- The registers at the given offsets from the base. -/
def registers (offsets : List UInt32) : Set UInt32 := {a | ∃ o ∈ offsets, a = f.base + o}

/-- The function accesses the Falcon as the driver does. -/
def UsesFalcon {β : Type*} (g : DriverFn β) : Prop :=
  Uses (f.registers falconReads) (f.registers falconWrites) g

theorem usesFalcon_read (offset : UInt32) (h : offset ∈ falconReads) :
    f.UsesFalcon fun _ regs dev => f.read regs offset dev := by
  have hmem : f.base + offset ∈ f.registers falconReads := ⟨offset, h, rfl⟩
  exact uses_read32 hmem

theorem usesFalcon_write (offset : UInt32) (h : offset ∈ falconWrites) (value : UInt32) :
    f.UsesFalcon fun _ regs dev => ((), f.write regs offset value dev) := by
  have hmem : f.base + offset ∈ f.registers falconWrites := ⟨offset, h, rfl⟩
  exact uses_write32 hmem value

theorem usesFalcon_isHalted : f.UsesFalcon fun _ regs dev => f.isHalted regs dev :=
  (f.usesFalcon_read FALCON_CPUCTL (by decide)).map fun cpuctl =>
    (cpuctl &&& FALCON_CPUCTL_HALT) != 0

theorem usesFalcon_halt : f.UsesFalcon fun _ regs dev => ((), f.halt regs dev) :=
  (f.usesFalcon_write FALCON_CPUCTL (by decide) FALCON_CPUCTL_HALT).bind fun _ =>
    (f.usesFalcon_read FALCON_CPUCTL (by decide)).map fun _ => ()

theorem usesFalcon_clearInterrupts :
    f.UsesFalcon fun _ regs dev => ((), f.clearInterrupts regs dev) := by
  have hclear : ∀ pending : UInt32, f.UsesFalcon fun _ regs dev =>
      ((), if pending ≠ 0 then f.write regs FALCON_IRQSCLR pending dev else dev) := by
    intro pending
    by_cases h : pending ≠ 0
    · simp only [if_pos h]
      exact f.usesFalcon_write FALCON_IRQSCLR (by decide) pending
    · simp only [if_neg h]
      exact uses_pure ()
  exact (f.usesFalcon_read FALCON_IRQSRD (by decide)).bind hclear

theorem usesFalcon_upload {ctrl port : UInt32} (hctrl : ctrl ∈ falconWrites)
    (hport : port ∈ falconWrites) (data : List UInt8) (memOffset : UInt32) :
    f.UsesFalcon fun _ regs dev => ((), f.upload regs ctrl port data memOffset dev) := by
  by_cases h : data.length % 4 ≠ 0
  · simp only [upload, if_pos h]
    exact uses_pure ()
  · simp only [upload, if_neg h]
    exact (f.usesFalcon_write ctrl hctrl _).bind fun _ =>
      Uses.foldl (fun i => f.usesFalcon_write port hport (leWord data i)) _

theorem usesFalcon_uploadImem (firmware : List UInt8) (imemOffset : UInt32) :
    f.UsesFalcon fun _ regs dev => ((), f.uploadImem regs firmware imemOffset dev) :=
  f.usesFalcon_upload (by decide) (by decide) firmware imemOffset

theorem usesFalcon_uploadDmem (data : List UInt8) (dmemOffset : UInt32) :
    f.UsesFalcon fun _ regs dev => ((), f.uploadDmem regs data dmemOffset dev) :=
  f.usesFalcon_upload (by decide) (by decide) data dmemOffset

theorem usesFalcon_boot (entryPoint : UInt32) :
    f.UsesFalcon fun _ regs dev => ((), f.boot regs entryPoint dev) :=
  (f.usesFalcon_write FALCON_BOOTVEC (by decide) entryPoint).bind fun _ =>
    f.usesFalcon_write FALCON_CPUCTL (by decide) FALCON_CPUCTL_START

/-- Polling.  By induction on the polls that are left. -/
theorem usesFalcon_waitReady (timeoutIters : ℕ) :
    f.UsesFalcon fun _ regs dev => f.waitReady regs timeoutIters dev := by
  induction timeoutIters with
  | zero => exact uses_pure none
  | succ n ih =>
    have hpoll : ∀ osVal : UInt32, f.UsesFalcon fun _ regs dev =>
        if osVal ≠ 0 then (some osVal, dev) else f.waitReady regs n dev := by
      intro osVal
      by_cases h : osVal ≠ 0
      · simp only [if_pos h]
        exact uses_pure (some osVal)
      · simp only [if_neg h]
        exact ih
    exact (f.usesFalcon_read FALCON_OS (by decide)).bind hpoll

theorem usesFalcon_prepare (imemFirmware dmemData : List UInt8) :
    f.UsesFalcon fun _ regs dev => ((), f.prepare regs imemFirmware dmemData dev) := by
  have hbefore := (f.usesFalcon_halt.bind fun _ => f.usesFalcon_clearInterrupts).bind
    fun _ => f.usesFalcon_uploadImem imemFirmware 0
  by_cases h : !dmemData.isEmpty
  · simp only [prepare, if_pos h]
    exact hbefore.bind fun _ => f.usesFalcon_uploadDmem dmemData 0
  · simp only [prepare, if_neg h]
    exact hbefore

theorem usesFalcon_initWithFirmware (imemFirmware dmemData : List UInt8) :
    f.UsesFalcon fun _ regs dev => f.initWithFirmware regs imemFirmware dmemData dev := by
  have hboot := (f.usesFalcon_prepare imemFirmware dmemData).bind fun _ => f.usesFalcon_boot 0
  have hpolls := fun n => (hboot.bind fun _ => f.usesFalcon_waitReady n).map Option.isSome
  simp only [initWithFirmware_eq]
  exact hpolls 1000000

theorem initWithFirmware_logged (imemFirmware dmemData : List UInt8) {δ : Type} (regs : GpuRegs δ)
    (log : List Access) (dev : δ) :
    let r := f.initWithFirmware regs.logged imemFirmware dmemData (log, dev)
    r.1 = (f.initWithFirmware regs imemFirmware dmemData dev).1 ∧
      r.2.2 = (f.initWithFirmware regs imemFirmware dmemData dev).2 :=
  (f.usesFalcon_initWithFirmware imemFirmware dmemData).logged regs log dev

/-- **The registers that an operation reads and writes.** -/
theorem uses_perform (op : FalconOp) : f.UsesFalcon (f.perform op) := by
  cases op with
  | isHalted => exact f.usesFalcon_isHalted.map FalconOut.flag
  | halt => exact f.usesFalcon_halt.map fun _ => FalconOut.done
  | uploadImem firmware imemOffset =>
    exact (f.usesFalcon_uploadImem firmware imemOffset).map fun _ => FalconOut.done
  | uploadDmem data dmemOffset =>
    exact (f.usesFalcon_uploadDmem data dmemOffset).map fun _ => FalconOut.done
  | boot entryPoint => exact (f.usesFalcon_boot entryPoint).map fun _ => FalconOut.done
  | waitReady timeoutIters =>
    exact (f.usesFalcon_waitReady timeoutIters.toNat).map FalconOut.osVal
  | readMailbox0 =>
    exact (f.usesFalcon_read FALCON_MAILBOX0 (by decide)).map FalconOut.word
  | writeMailbox0 value =>
    exact (f.usesFalcon_write FALCON_MAILBOX0 (by decide) value).map fun _ => FalconOut.done
  | readMailbox1 =>
    exact (f.usesFalcon_read FALCON_MAILBOX1 (by decide)).map FalconOut.word
  | writeMailbox1 value =>
    exact (f.usesFalcon_write FALCON_MAILBOX1 (by decide) value).map fun _ => FalconOut.done
  | clearInterrupts => exact f.usesFalcon_clearInterrupts.map fun _ => FalconOut.done
  | initWithFirmware imemFirmware dmemData =>
    exact (f.usesFalcon_initWithFirmware imemFirmware dmemData).map FalconOut.flag

end Falcon

/-! ### The engines of a GPU -/

/-- The engine in whose block an offset from BAR0 is; a block has 4 KiB. -/
def falconOwner (offset : UInt32) : Option FalconEngine :=
  if offset - FalconEngine.pmu.baseOffset < 0x1000 then some .pmu
  else if offset - FalconEngine.sec2.baseOffset < 0x1000 then some .sec2
  else if offset - FalconEngine.gsp.baseOffset < 0x1000 then some .gsp
  else none

section Engines

variable {δ ε : Type}

/-- A GPU with a Falcon in each block. -/
def falconBank (engines : FalconEngine → GpuRegs δ) (rest : GpuRegs ε) :
    GpuRegs ((FalconEngine → δ) × ε) :=
  .ofBus (bank falconOwner (fun e => (engines e).bus) rest.bus)

/-- The engines of a GPU as a machine: an operation names its engine. -/
def falcons (engines : FalconEngine → GpuRegs δ) (rest : GpuRegs ε) :
    Machine ((FalconEngine → δ) × ε) (FalconEngine × FalconOp) FalconOut where
  step s op := (Falcon.new op.1).perform op.2 (falconBank engines rest) s

/-- One engine alone as a machine. -/
def oneFalcon (e : FalconEngine) (regs : GpuRegs δ) : Machine δ FalconOp FalconOut where
  step dev op := (Falcon.new e).perform op regs dev

/-- The operation, if it is one of the engine. -/
def ownOp (e : FalconEngine) (op : FalconEngine × FalconOp) : Option FalconOp :=
  if op.1 = e then some op.2 else none

/-- What the event shows, if it is one of the engine. -/
def ownOut (e : FalconEngine)
    (ev : Event ((FalconEngine → δ) × ε) (FalconEngine × FalconOp) FalconOut) : Option FalconOut :=
  if ev.op.1 = e then some ev.out else none

/-- An engine does and shows what it would do and show alone, and nothing happens to the rest of the
GPU. -/
structure Independent (engines : FalconEngine → GpuRegs δ) (rest : GpuRegs ε)
    (s : (FalconEngine → δ) × ε) (ops : List (FalconEngine × FalconOp)) (e : FalconEngine) :
    Prop where
  state : ((falcons engines rest).final s ops).1 e =
    (oneFalcon e (engines e)).final (s.1 e) (ops.filterMap (ownOp e))
  shown : ((falcons engines rest).trace s ops).filterMap (ownOut e) =
    ((oneFalcon e (engines e)).trace (s.1 e) (ops.filterMap (ownOp e))).map Event.out
  rest : ((falcons engines rest).final s ops).2 = s.2

theorem falconOwner_of_mem (e : FalconEngine) (offsets : List UInt32)
    (h : offsets.all fun o => falconOwner ((Falcon.new e).base + o) = some e) :
    ∀ a ∈ (Falcon.new e).registers offsets, falconOwner a = some e := by
  rintro a ⟨o, ho, rfl⟩
  exact of_decide_eq_true (List.all_eq_true.1 h o ho)

/-- **An operation on one engine** does to it what it does to it alone, and nothing else. -/
theorem falcons_step (engines : FalconEngine → GpuRegs δ) (rest : GpuRegs ε)
    (s : (FalconEngine → δ) × ε) (e : FalconEngine) (op : FalconOp) :
    (falcons engines rest).step s (e, op) =
      let r := (oneFalcon e (engines e)).step (s.1 e) op
      (r.1, Function.update s.1 e r.2, s.2) := by
  obtain ⟨p, hp, heq⟩ := (Falcon.new e).uses_perform op
  have hreads := falconOwner_of_mem e falconReads (by cases e <;> decide)
  have hwrites := falconOwner_of_mem e falconWrites (by cases e <;> decide)
  simp only [falcons, oneFalcon, heq]
  exact hp.run_bank hreads hwrites s

/-- The engines of a GPU refine each engine alone. -/
def falconRefinement (engines : FalconEngine → GpuRegs δ) (rest : GpuRegs ε) (e : FalconEngine) :
    Refinement (falcons engines rest) (oneFalcon e (engines e)) where
  rel s dev := s.1 e = dev
  op := ownOp e
  view := ownOut e
  stutter := by
    rintro s _ ⟨e', op⟩ rfl hop
    have hne : e' ≠ e := by
      intro h
      simp [ownOp, h] at hop
    refine ⟨if_neg hne, ?_⟩
    rw [falcons_step]
    exact Function.update_of_ne hne.symm _ _
  simulate := by
    rintro s _ ⟨e', op⟩ k rfl hop
    obtain ⟨rfl, rfl⟩ : e' = e ∧ op = k := by simpa [ownOp] using hop
    refine ⟨?_, ?_⟩
    · rw [ownOut, Machine.event_op, if_pos rfl, Machine.event_out, falcons_step]
    · rw [falcons_step]
      exact Function.update_self _ _ _

theorem falcons_rest (engines : FalconEngine → GpuRegs δ) (rest : GpuRegs ε)
    (s : (FalconEngine → δ) × ε) (ops : List (FalconEngine × FalconOp)) :
    ((falcons engines rest).final s ops).2 = s.2 := by
  refine Machine.run_induction' (M := falcons engines rest)
    (motive := fun _ s' => Prod.snd s' = s.2) rfl ?_ ops
  rintro _ s' ⟨e', op⟩ hrest
  rw [falcons_step]
  exact hrest

/-- **The engines of a GPU are independent**, whatever is done with them and in whatever order. -/
theorem independent_run (engines : FalconEngine → GpuRegs δ) (rest : GpuRegs ε)
    (s : (FalconEngine → δ) × ε) (ops : List (FalconEngine × FalconOp)) (e : FalconEngine) :
    Independent engines rest s ops e := by
  obtain ⟨hshown, hstate⟩ := (falconRefinement engines rest e).trace_eq rfl ops
  exact ⟨hstate, hshown, falcons_rest engines rest s ops⟩

end Engines

end GpuCompute
