import GpuCompute.Driver.Init
import GpuCompute.Lib.Pending
import GpuCompute.Mmio.Timer

/-!
# The interrupt handler

`handle_interrupt` reads the master status once and acknowledges all causes of the units that it
finds there.  Causes keep arriving meanwhile: the device has a schedule of arrivals, with one unit
of time for each access.  The handler may be called between any two accesses of the driver, so a run
is a sequence of calls and of single accesses.

* `handleInterrupt` : the interrupt handler.
* `IntrState`, `GpuRegs.withInterrupts` : a device whose units raise causes.
* `served` : the units that a call acknowledges.
* `interrupts` : a device with the calls and accesses of the driver as a machine.
* `intrAcks` : when an operation acknowledges the causes of a unit.
* `QuietAfter` : what the interrupt line tells after a call of the handler.
* `handleInterrupt_eq` : a call acknowledges one unit after the other.
* `pending_run_iff` : a cause is lost only by an acknowledgement of its unit after its arrival.
* `no_interrupt_storm` : the line is down after a call unless a cause arrived during the call.
-/

namespace GpuCompute

open Systems

/-- Master interrupt status: a bit for each unit. -/
def NV_PMC_INTR_0 : UInt32 := 0x000100

/-- Interrupt status and enable of the graphics engine and of the timer. -/
def NV_PGRAPH_INTR : UInt32 := NV_PGRAPH + 0x1100
def NV_PGRAPH_INTR_EN : UInt32 := NV_PGRAPH + 0x1140
def NV_PTIMER_INTR_0 : UInt32 := NV_PTIMER + 0x100
def NV_PTIMER_INTR_EN_0 : UInt32 := NV_PTIMER + 0x140

section

variable {δ : Type*}

/-- Read the pending interrupts. -/
def GpuRegs.readInterrupts (regs : GpuRegs δ) (dev : δ) : UInt32 × δ :=
  regs.read32 dev NV_PMC_INTR_0

/-- Acknowledge the units of the master status. -/
def handleInterrupt (regs : GpuRegs δ) (dev : δ) : δ :=
  let (intr, dev) := regs.readInterrupts dev
  if intr = 0 then dev
  else
    let dev := if intr &&& NV_PMC_INTR_PFIFO ≠ 0 then
      regs.write32 dev NV_PFIFO_INTR_0 0xFFFFFFFF else dev
    let dev := if intr &&& NV_PMC_INTR_PGRAPH ≠ 0 then
      regs.write32 dev NV_PGRAPH_INTR 0xFFFFFFFF else dev
    if intr &&& NV_PMC_INTR_PTIMER ≠ 0 then
      regs.write32 dev NV_PTIMER_INTR_0 0xFFFFFFFF else dev

/-- The accesses of the status report: the timer, read in `fuel` rounds at most, and then the
pending interrupts.  A report whose timer has not been read by then is still reading it. -/
def status (regs : GpuRegs δ) (fuel : ℕ) (dev : δ) : δ :=
  let (ns, dev) := regs.pollTimer fuel dev
  if ns.isSome then (regs.readInterrupts dev).2 else dev

/-- The status report of a device, which logs the rest of what it says from memory. -/
def GpuDevice.status (gpu : GpuDevice δ) (fuel : ℕ) (dev : δ) : δ :=
  GpuCompute.status gpu.regs fuel dev

/-- The interrupt handler of a device, which uses its registers only. -/
def GpuDevice.handleInterrupt (gpu : GpuDevice δ) (dev : δ) : δ :=
  GpuCompute.handleInterrupt gpu.regs dev

end

/-! ### A device whose units raise causes -/

/-- The units that the driver knows, by their bits of the master status. -/
def pfifoUnit : Fin 32 := 8
def pgraphUnit : Fin 32 := 12
def ptimerUnit : Fin 32 := 20

/-- The units that the handler acknowledges, in its order. -/
def handledUnits : List (Fin 32) := [pfifoUnit, pgraphUnit, ptimerUnit]

/-- The registers that have to do with interrupts. -/
inductive IntrReg where
  | master
  | enable
  | status (u : Fin 32)
  | gate (u : Fin 32)
  deriving DecidableEq

/-- The register at an offset, if it has to do with interrupts. -/
def intrReg (offset : UInt32) : Option IntrReg :=
  if offset = NV_PMC_INTR_0 then some .master
  else if offset = NV_PMC_INTR_EN_0 then some .enable
  else if offset = NV_PFIFO_INTR_0 then some (.status pfifoUnit)
  else if offset = NV_PFIFO_INTR_EN_0 then some (.gate pfifoUnit)
  else if offset = NV_PGRAPH_INTR then some (.status pgraphUnit)
  else if offset = NV_PGRAPH_INTR_EN then some (.gate pgraphUnit)
  else if offset = NV_PTIMER_INTR_0 then some (.status ptimerUnit)
  else if offset = NV_PTIMER_INTR_EN_0 then some (.gate ptimerUnit)
  else none

@[simp] theorem intrReg_masterEnable : intrReg NV_PMC_INTR_EN_0 = some .enable := rfl
@[simp] theorem intrReg_pfifoStatus : intrReg NV_PFIFO_INTR_0 = some (.status pfifoUnit) := rfl
@[simp] theorem intrReg_pfifoGate : intrReg NV_PFIFO_INTR_EN_0 = some (.gate pfifoUnit) := rfl
@[simp] theorem intrReg_pgraphStatus : intrReg NV_PGRAPH_INTR = some (.status pgraphUnit) := rfl
@[simp] theorem intrReg_ptimerStatus : intrReg NV_PTIMER_INTR_0 = some (.status ptimerUnit) := rfl

/-- A device whose units raise causes. -/
structure IntrState (δ : Type*) where
  /-- The pending causes of each unit. -/
  units : Pending (Fin 32) (Fin 32)
  /-- The causes that a unit reports: its own enable register. -/
  gate : Fin 32 → UInt32
  /-- The units that may raise the interrupt line: the master enable register. -/
  enabled : UInt32
  /-- The rest of the device. -/
  rest : δ

namespace IntrState

variable {δ : Type*} (s : IntrState δ)

/-- The unit reports a cause. -/
def line (u : Fin 32) : Bool :=
  (List.finRange 32).any fun c => s.units.pending u c && (s.gate u).toBitVec.getLsbD c

/-- The interrupt line is up: a unit that may raise it reports a cause. -/
def irq : Bool := (List.finRange 32).any fun u => s.enabled.toBitVec.getLsbD u && s.line u

/-- The causes that arrive at an access. -/
def arrive (arrives : ℕ → Fin 32 → Fin 32 → Bool) : IntrState δ :=
  { s with units := s.units.arrive arrives }

theorem line_iff (u : Fin 32) : s.line u = true ↔
    ∃ c : Fin 32, s.units.pending u c = true ∧ (s.gate u).toBitVec.getLsbD c = true := by
  simp [line]

theorem irq_iff : s.irq = true ↔
    ∃ u : Fin 32, s.enabled.toBitVec.getLsbD u = true ∧ s.line u = true := by
  simp [irq]

end IntrState

/-- The device `regs` with units that raise causes.  A status register shows the pending causes, and
a one written to it acknowledges a cause. -/
def GpuRegs.withInterrupts {δ : Type*} (regs : GpuRegs δ)
    (arrives : ℕ → Fin 32 → Fin 32 → Bool) : GpuRegs (IntrState δ) where
  read32 s offset :=
    let s := s.arrive arrives
    match intrReg offset with
    | some .master => (wordOfBits s.line, s)
    | some .enable => (s.enabled, s)
    | some (.status u) => (wordOfBits (s.units.pending u), s)
    | some (.gate u) => (s.gate u, s)
    | none => ((regs.read32 s.rest offset).1, { s with rest := (regs.read32 s.rest offset).2 })
  write32 s offset value :=
    let s := s.arrive arrives
    match intrReg offset with
    | some .master => s
    | some .enable => { s with enabled := value }
    | some (.status u) => { s with units := s.units.clear u fun c => value.toBitVec.getLsbD c }
    | some (.gate u) => { s with gate := Function.update s.gate u value }
    | none => { s with rest := regs.write32 s.rest offset value }

section Device

variable {δ : Type*} (regs : GpuRegs δ) (arrives : ℕ → Fin 32 → Fin 32 → Bool)

/-- The units that a call of the handler acknowledges, in their order. -/
def served (s : IntrState δ) : List (Fin 32) := handledUnits.filter (s.arrive arrives).line

theorem served_nodup (s : IntrState δ) : (served arrives s).Nodup :=
  List.Nodup.filter _ (by decide)

/-- An access that acknowledges all causes of a unit. -/
def IntrState.ack (s : IntrState δ) (u : Fin 32) : IntrState δ :=
  { s with units := s.units.ack arrives u }

theorem write32_status {offset : UInt32} {u : Fin 32} (h : intrReg offset = some (.status u))
    (s : IntrState δ) :
    (regs.withInterrupts arrives).write32 s offset 0xFFFFFFFF = s.ack arrives u := by
  have hones : (fun c : Fin 32 => (0xFFFFFFFF : UInt32).toBitVec.getLsbD c) = fun _ => true := by
    decide
  simp only [GpuRegs.withInterrupts, h, hones]
  rfl

theorem foldl_ack (s : IntrState δ) (us : List (Fin 32)) :
    us.foldl (IntrState.ack arrives) s =
      { s with units := us.foldl (Pending.ack arrives) s.units } := by
  induction us generalizing s with
  | nil => rfl
  | cons u us ih => exact ih _

/-- **A call of the handler acknowledges the units of the master status**, one after the other. -/
theorem handleInterrupt_eq (s : IntrState δ) :
    handleInterrupt (regs.withInterrupts arrives) s =
      { s.arrive arrives with
        units := (served arrives s).foldl (Pending.ack arrives) (s.units.arrive arrives) } := by
  have hread : (regs.withInterrupts arrives).readInterrupts s =
      (wordOfBits (s.arrive arrives).line, s.arrive arrives) := rfl
  have hpfifo : NV_PMC_INTR_PFIFO = wordOfBits fun u => u == pfifoUnit := by decide
  have hpgraph : NV_PMC_INTR_PGRAPH = wordOfBits fun u => u == pgraphUnit := by decide
  have hptimer : NV_PMC_INTR_PTIMER = wordOfBits fun u => u == ptimerUnit := by decide
  have hfold : handleInterrupt (regs.withInterrupts arrives) s =
      (served arrives s).foldl (IntrState.ack arrives) (s.arrive arrives) := by
    rw [served, List.foldl_filter]
    simp only [handleInterrupt, hread, hpfifo, hpgraph, hptimer,
      wordOfBits_and_single_ne_zero_iff]
    by_cases hzero : wordOfBits (s.arrive arrives).line = 0
    · have hdown := (wordOfBits_eq_zero_iff _).1 hzero
      simp [hzero, hdown, handledUnits]
    · rw [if_neg hzero, handledUnits, List.foldl_cons, List.foldl_cons, List.foldl_cons,
        List.foldl_nil]
      simp only [write32_status regs arrives intrReg_pfifoStatus,
        write32_status regs arrives intrReg_pgraphStatus,
        write32_status regs arrives intrReg_ptimerStatus]
  rw [hfold, foldl_ack]
  rfl

/-- The time at which a call of the handler acknowledges a unit. -/
def ackTime (s : IntrState δ) (u : Fin 32) : ℕ := s.units.time + 1 + (served arrives s).idxOf u

/-- When a call of the handler acknowledges a unit, if it does. -/
def handlerAcks (s : IntrState δ) (u : Fin 32) : Option ℕ :=
  if u ∈ served arrives s then some (ackTime arrives s u) else none

/-- **What a call of the handler does to a cause.** -/
theorem evolves_handleInterrupt (s : IntrState δ) (u c : Fin 32) :
    s.units.Evolves arrives (handleInterrupt (regs.withInterrupts arrives) s).units u c
      (handlerAcks arrives s u) := by
  have hread := Pending.evolves_arrive arrives s.units u c
  rw [handleInterrupt_eq, handlerAcks]
  by_cases hu : u ∈ served arrives s
  · rw [if_pos hu]
    exact hread.trans (Pending.evolves_foldl_ack_of_mem arrives _ (served_nodup arrives s) hu c)
  · rw [if_neg hu]
    exact hread.trans (Pending.evolves_foldl_ack_of_notMem arrives _ hu c)

end Device

/-! ### Runs -/

/-- What the driver does with the interrupts, and its other accesses, one by one. -/
inductive IntrOp where
  | disableInterrupts
  | enableInterrupts
  | initFifo
  | handleInterrupt
  | read (offset : UInt32)
  | write (offset : {o : UInt32 // intrReg o = none}) (value : UInt32)

section Runs

variable {δ : Type*} (regs : GpuRegs δ) (arrives : ℕ → Fin 32 → Fin 32 → Bool)

/-- Perform an operation. -/
def IntrState.perform (s : IntrState δ) : IntrOp → IntrState δ
  | .disableInterrupts => (regs.withInterrupts arrives).disableInterrupts s
  | .enableInterrupts => (regs.withInterrupts arrives).enableInterrupts s
  | .initFifo => GpuCompute.initFifo (regs.withInterrupts arrives) s
  | .handleInterrupt => GpuCompute.handleInterrupt (regs.withInterrupts arrives) s
  | .read offset => ((regs.withInterrupts arrives).read32 s offset).2
  | .write offset value => (regs.withInterrupts arrives).write32 s offset value

/-- The device as a machine, which shows the interrupt line. -/
def interrupts : Machine (IntrState δ) IntrOp Bool where
  step s op := ((s.perform regs arrives op).irq, s.perform regs arrives op)

/-- When an event acknowledges the causes of a unit: a call of the handler that finds the unit in
the master status, or the setup of the FIFO engine. -/
def intrAcks (e : Event (IntrState δ) IntrOp Bool) (u : Fin 32) : Option ℕ :=
  match e.op with
  | .handleInterrupt => handlerAcks arrives e.pre u
  | .initFifo => if u = pfifoUnit then some (e.pre.units.time + 1) else none
  | _ => none

theorem units_read32 (s : IntrState δ) (offset : UInt32) :
    ((regs.withInterrupts arrives).read32 s offset).2.units = s.units.arrive arrives := by
  simp only [GpuRegs.withInterrupts]
  split <;> rfl

theorem units_write32 (s : IntrState δ) (offset value : UInt32)
    (h : ∀ u, intrReg offset ≠ some (.status u)) :
    ((regs.withInterrupts arrives).write32 s offset value).units = s.units.arrive arrives := by
  simp only [GpuRegs.withInterrupts]
  split
  case h_3 u hu => exact absurd hu (h u)
  all_goals rfl

theorem units_initFifo (s : IntrState δ) :
    (initFifo (regs.withInterrupts arrives) s).units =
      ((s.units.arrive arrives).ack arrives pfifoUnit).arrive arrives := by
  simp only [initFifo]
  rw [units_write32 regs arrives _ _ _ (by simp), write32_status regs arrives intrReg_pfifoStatus,
    IntrState.ack, units_read32]

theorem evolves_initFifo (s : IntrState δ) (u c : Fin 32) :
    s.units.Evolves arrives (initFifo (regs.withInterrupts arrives) s).units u c
      (if u = pfifoUnit then some (s.units.time + 1) else none) := by
  have hread := Pending.evolves_arrive arrives s.units u c
  rw [units_initFifo]
  by_cases hu : u = pfifoUnit
  · rw [if_pos hu, ← hu]
    exact (hread.trans (Pending.evolves_ack_self arrives _ u c)).trans
      (Pending.evolves_arrive arrives _ u c)
  · rw [if_neg hu]
    exact (hread.trans (Pending.evolves_ack_of_ne arrives _ hu c)).trans
      (Pending.evolves_arrive arrives _ u c)

/-- The calls and accesses, with the causes that they acknowledge. -/
def intrAcknowledging : Acknowledging (interrupts regs arrives) arrives where
  units s := s.units
  acks e u _ := intrAcks arrives e u
  step s op u c := by
    have haccess : ∀ s' : IntrState δ, s'.units = s.units.arrive arrives →
        s.units.Evolves arrives s'.units u c none := by
      intro s' h
      rw [h]
      exact Pending.evolves_arrive arrives _ u c
    cases op with
    | disableInterrupts =>
      exact haccess _ (units_write32 regs arrives s NV_PMC_INTR_EN_0 0 (by simp))
    | enableInterrupts =>
      exact haccess _ (units_write32 regs arrives s NV_PMC_INTR_EN_0 _ (by simp))
    | initFifo => exact evolves_initFifo regs arrives s u c
    | handleInterrupt => exact evolves_handleInterrupt regs arrives s u c
    | read offset => exact haccess _ (units_read32 regs arrives s offset)
    | write offset value =>
      exact haccess _ (units_write32 regs arrives s offset value (by simp [offset.2]))

/-- **After every run, a cause is pending exactly when it has arrived after the last acknowledgement
of its unit.** -/
theorem pending_run_iff (s : IntrState δ) (ops : List IntrOp) (u c : Fin 32) :
    ((interrupts regs arrives).final s ops).units.pending u c = true ↔
      (intrAcknowledging regs arrives).Due s ((interrupts regs arrives).trace s ops)
        ((interrupts regs arrives).final s ops).units.time u c :=
  (intrAcknowledging regs arrives).pending_iff_due s ops u c

/-! ### The interrupt line -/

/-- What the interrupt line tells after a call of the handler: it is up exactly if a unit that may
raise it has a cause that arrived since, after its acknowledgement or after the master status was
read. -/
def QuietAfter (e : Event (IntrState δ) IntrOp Bool) : Prop :=
  e.op = .handleInterrupt → (e.out = true ↔ ∃ u c : Fin 32,
    e.pre.enabled.toBitVec.getLsbD u = true ∧ (e.pre.gate u).toBitVec.getLsbD c = true ∧
    ArrivedIn arrives ((handlerAcks arrives e.pre u).getD e.pre.units.time + 1)
      (e.pre.perform regs arrives .handleInterrupt).units.time u c)

/-- Only units that the handler acknowledges may raise the line. -/
def OnlyHandled (s : IntrState δ) : Prop :=
  ∀ u : Fin 32, s.enabled.toBitVec.getLsbD u = true → u ∈ handledUnits

theorem handleInterrupt_gate (s : IntrState δ) :
    (handleInterrupt (regs.withInterrupts arrives) s).gate = s.gate := by
  rw [handleInterrupt_eq]
  rfl

theorem handleInterrupt_enabled (s : IntrState δ) :
    (handleInterrupt (regs.withInterrupts arrives) s).enabled = s.enabled := by
  rw [handleInterrupt_eq]
  rfl

theorem pending_handleInterrupt_iff (s : IntrState δ) {u c : Fin 32} (hu : u ∈ handledUnits)
    (hc : (s.gate u).toBitVec.getLsbD c = true) :
    (handleInterrupt (regs.withInterrupts arrives) s).units.pending u c = true ↔
      ArrivedIn arrives ((handlerAcks arrives s u).getD s.units.time + 1)
        (handleInterrupt (regs.withInterrupts arrives) s).units.time u c := by
  have hevolves := evolves_handleInterrupt regs arrives s u c
  by_cases hserved : u ∈ served arrives s
  · rw [handlerAcks, if_pos hserved] at hevolves ⊢
    exact hevolves.2.2
  · rw [handlerAcks, if_neg hserved] at hevolves ⊢
    -- the unit did not report the cause when the master status was read
    have hsilent : ¬ (s.arrive arrives).line u = true := fun h =>
      hserved (List.mem_filter.2 ⟨hu, h⟩)
    have hnot : ¬ (s.units.pending u c = true ∨
        ArrivedIn arrives s.units.time (s.units.time + 1) u c) := by
      intro h
      refine hsilent ((IntrState.line_iff _ u).2 ⟨c, ?_, hc⟩)
      exact (Pending.evolves_arrive arrives s.units u c).2.2 h
    have hlt : s.units.time + 1 ≤
        (handleInterrupt (regs.withInterrupts arrives) s).units.time := by
      have hfold := Pending.evolves_foldl_ack_of_notMem arrives (s.units.arrive arrives) hserved c
      rw [handleInterrupt_eq]
      exact hfold.time_le
    rw [hevolves.2, arrivedIn_iff_or (Nat.le_succ _) hlt, ← or_assoc, or_iff_right hnot]
    rfl

/-- **The line is down after a call unless a cause arrived during the call.** -/
theorem quietAfter_of_onlyHandled (s : IntrState δ) (h : OnlyHandled s) :
    QuietAfter regs arrives ((interrupts regs arrives).event s .handleInterrupt) := by
  intro _
  have hout : ((interrupts regs arrives).event s .handleInterrupt).out =
      (handleInterrupt (regs.withInterrupts arrives) s).irq := rfl
  rw [hout, IntrState.irq_iff, handleInterrupt_enabled]
  refine exists_congr fun u => ?_
  rw [IntrState.line_iff, handleInterrupt_gate]
  constructor
  · rintro ⟨hu, c, hpending, hc⟩
    exact ⟨c, hu, hc, (pending_handleInterrupt_iff regs arrives s (h u hu) hc).1 hpending⟩
  · rintro ⟨c, hu, hc, harrived⟩
    exact ⟨hu, c, (pending_handleInterrupt_iff regs arrives s (h u hu) hc).2 harrived, hc⟩

theorem enabled_read32 (s : IntrState δ) (offset : UInt32) :
    ((regs.withInterrupts arrives).read32 s offset).2.enabled = s.enabled := by
  simp only [GpuRegs.withInterrupts]
  split <;> rfl

theorem enabled_write32 (s : IntrState δ) (offset value : UInt32)
    (h : intrReg offset ≠ some .enable) :
    ((regs.withInterrupts arrives).write32 s offset value).enabled = s.enabled := by
  simp only [GpuRegs.withInterrupts]
  split
  case h_2 henable => exact absurd henable h
  all_goals rfl

theorem onlyHandled_of_enabled {s : IntrState δ} {value : UInt32}
    (h : ∀ u : Fin 32, value.toBitVec.getLsbD u = true → u ∈ handledUnits) :
    OnlyHandled { s with enabled := value } := h

theorem onlyHandled_perform (s : IntrState δ) (h : OnlyHandled s) (op : IntrOp) :
    OnlyHandled (s.perform regs arrives op) := by
  have hkeep : ∀ s' : IntrState δ, s'.enabled = s.enabled → OnlyHandled s' := by
    intro s' heq u hu
    rw [heq] at hu
    exact h u hu
  cases op with
  | disableInterrupts => exact onlyHandled_of_enabled (by decide)
  | enableInterrupts => exact onlyHandled_of_enabled (by decide)
  | initFifo =>
    refine hkeep _ ?_
    simp only [IntrState.perform, initFifo]
    rw [enabled_write32 _ _ _ _ _ (by simp), enabled_write32 _ _ _ _ _ (by simp), enabled_read32]
  | handleInterrupt => exact hkeep _ (handleInterrupt_enabled regs arrives s)
  | read offset => exact hkeep _ (enabled_read32 regs arrives s offset)
  | write offset value =>
    exact hkeep _ (enabled_write32 regs arrives s offset value (by simp [offset.2]))

/-- What the interrupt line tells in a run in which only units of the handler may raise it. -/
theorem quietAfter_run (s : IntrState δ) (h : OnlyHandled s) (ops : List IntrOp) :
    Always (fun e _ => QuietAfter regs arrives e) ((interrupts regs arrives).trace s ops) := by
  have key := Machine.run_induction' (M := interrupts regs arrives) (s := s)
    (motive := fun tr s' => Always (fun e _ => QuietAfter regs arrives e) tr ∧ OnlyHandled s')
    ⟨always_nil, h⟩ ?_ ops
  · exact key.1
  · rintro tr s' op ⟨hquiet, honly⟩
    refine ⟨⟨fun hop => ?_, hquiet⟩, onlyHandled_perform regs arrives s' honly op⟩
    obtain rfl : op = .handleInterrupt := hop
    exact quietAfter_of_onlyHandled regs arrives s' honly rfl

/-- **No interrupt storm**: once a GPU is initialized, whatever is done and whenever causes arrive,
the line is up after a call of the handler only for a cause that arrived during the call. -/
theorem no_interrupt_storm (pci : GpuPciDevice) (s : IntrState δ) (ops : List IntrOp) :
    Always (fun e _ => QuietAfter regs arrives e)
      ((interrupts regs arrives).trace
        (GpuDevice.setUp pci (regs.withInterrupts arrives) s).2 ops) := by
  have henable : ∃ s', (GpuDevice.setUp pci (regs.withInterrupts arrives) s).2 =
      (regs.withInterrupts arrives).enableInterrupts s' := ⟨_, rfl⟩
  obtain ⟨s', heq⟩ := henable
  rw [heq]
  exact quietAfter_run regs arrives _ (onlyHandled_of_enabled (by decide)) ops

end Runs

end GpuCompute
