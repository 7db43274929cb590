import GpuCompute.Driver.Interrupt
import GpuCompute.Driver.Registers

/-!
# Interrupts during the initialization

The initialization disables the interrupts, sets up the driver, and enables the interrupts.  The
handler needs what is set up in between, so the interrupt line must be down after every access until
then.  Causes keep arriving meanwhile: the setup of the FIFO engine acknowledges those that it
finds, and all others are there when the interrupts are enabled.

* `GpuRegs.watched` : a device with a record of its interrupt line after every access.
* `DownSince` : the line has been down since a moment.
* `QuietBringUp` : what happens to the interrupts during the initialization.
* `DownSince.uses` : a function that does not write the master enable register keeps the line down.
* `Uses.evolves` : a function that writes no status register acknowledges nothing.
* `quietBringUp_setUp` : the initialization raises no interrupt and loses only causes of the FIFO
  engine from before its setup.
-/

namespace GpuCompute

open Systems

/-- A device with a record of its interrupt line after every access, newest first. -/
def GpuRegs.watched {δ : Type} (regs : GpuRegs (IntrState δ)) :
    GpuRegs (List Bool × IntrState δ) where
  read32 s offset :=
    let r := regs.read32 s.2 offset
    (r.1, r.2.irq :: s.1, r.2)
  write32 s offset value :=
    let dev := regs.write32 s.2 offset value
    (dev.irq :: s.1, dev)

theorem intrReg_eq_enable_iff {offset : UInt32} :
    intrReg offset = some .enable ↔ offset = NV_PMC_INTR_EN_0 := by
  constructor
  · intro h
    by_contra hne
    unfold intrReg at h
    rw [if_neg hne] at h
    split_ifs at h <;> cases h
  · rintro rfl
    rfl

theorem IntrState.irq_of_enabled {δ : Type*} {s : IntrState δ} (h : s.enabled = 0) :
    s.irq = false := by
  simp [irq, h]

/-- The registers that acknowledge nothing when they are written. -/
def silentWrites : Set UInt32 := {o | ∀ u, intrReg o ≠ some (.status u)}

theorem mem_silentWrites_of_none {offset : UInt32} (h : intrReg offset = none) :
    offset ∈ silentWrites := by
  intro u hu
  rw [h] at hu
  cases hu

theorem enable_mem_silentWrites : NV_PMC_INTR_EN_0 ∈ silentWrites := by
  intro u hu
  cases hu

section Accesses

variable {δ : Type} (regs : GpuRegs δ) (arrives : ℕ → Fin 32 → Fin 32 → Bool)
  {β : Type*} {R W : Set UInt32} {f : DriverFn β}

theorem Uses.watched (h : Uses R W f) (record : List Bool) (s : IntrState δ) :
    (f (regs.withInterrupts arrives).watched (record, s)).1 =
        (f (regs.withInterrupts arrives) s).1 ∧
      (f (regs.withInterrupts arrives).watched (record, s)).2.2 =
        (f (regs.withInterrupts arrives) s).2 := by
  let rel : List Bool × IntrState δ → IntrState δ → Prop := fun a b => a.2 = b
  have hstart : rel (record, s) s := rfl
  refine h.simulates ?_ ?_ hstart
  · rintro a _ rfl offset -
    exact ⟨rfl, rfl⟩
  · rintro a _ rfl offset - value
    rfl

/-- No unit may raise the line, and it has been down since the record was `base`. -/
structure DownSince (base : List Bool) (s : List Bool × IntrState δ) : Prop where
  enabled : s.2.enabled = 0
  record : ∃ since, s.1 = since ++ base ∧ ∀ up ∈ since, up = false

theorem DownSince.start (base : List Bool) {dev : IntrState δ} (hdev : dev.enabled = 0) :
    DownSince base (dev.irq :: base, dev) := by
  refine ⟨hdev, [dev.irq], rfl, ?_⟩
  exact List.forall_mem_singleton.2 (IntrState.irq_of_enabled hdev)

theorem DownSince.access {base : List Bool} {s : List Bool × IntrState δ} (h : DownSince base s)
    {dev : IntrState δ} (hdev : dev.enabled = 0) : DownSince base (dev.irq :: s.1, dev) := by
  obtain ⟨since, hrecord, hdown⟩ := h.record
  refine ⟨hdev, dev.irq :: since, ?_, ?_⟩
  · rw [hrecord, List.cons_append]
  · exact List.forall_mem_cons.2 ⟨IntrState.irq_of_enabled hdev, hdown⟩

/-- **A function that does not write the master enable register keeps the line down.** -/
theorem DownSince.uses {base : List Bool} {s : List Bool × IntrState δ} (h : DownSince base s)
    (hf : Uses R W f) (hW : NV_PMC_INTR_EN_0 ∉ W) :
    DownSince base (f (regs.withInterrupts arrives).watched s).2 := by
  refine hf.preserves (fun dev hdev offset _ => ?_) (fun dev hdev offset hoffset value => ?_) h
  · exact hdev.access ((enabled_read32 regs arrives dev.2 offset).trans hdev.enabled)
  · have hne : intrReg offset ≠ some .enable := by
      intro henable
      rw [intrReg_eq_enable_iff.1 henable] at hoffset
      exact hW hoffset
    exact hdev.access ((enabled_write32 regs arrives dev.2 offset value hne).trans hdev.enabled)

/-- **A function that writes no status register acknowledges nothing.** -/
theorem Uses.evolves (hf : Uses R silentWrites f)
    (s : IntrState δ) (u c : Fin 32) :
    s.units.Evolves arrives (f (regs.withInterrupts arrives) s).2.units u c none := by
  have harrive : ∀ dev dev' : IntrState δ, dev'.units = dev.units.arrive arrives →
      s.units.Evolves arrives dev.units u c none → s.units.Evolves arrives dev'.units u c none := by
    intro dev dev' hunits hdev
    rw [hunits]
    exact hdev.trans (Pending.evolves_arrive arrives dev.units u c)
  let P : IntrState δ → Prop := fun dev => s.units.Evolves arrives dev.units u c none
  have hstart : P s := Pending.evolves_refl arrives s.units u c
  refine hf.preserves (fun dev hdev offset _ => ?_) (fun dev hdev offset hoffset value => ?_) hstart
  · exact harrive dev _ (units_read32 regs arrives dev offset) hdev
  · exact harrive dev _ (units_write32 regs arrives dev offset value hoffset) hdev

end Accesses

/-! ### The initialization -/

/-- The device when the initialization calls `initFifo`. -/
def atInitFifo {δ : Type} (pci : GpuPciDevice) (regs : GpuRegs δ) (dev : δ) : δ :=
  (detectGpu pci regs (regs.disableInterrupts (regs.readChipId dev).2)).2

/-- The time of the only acknowledgement of the initialization: `initFifo` reads the status register
of the FIFO engine, and its next access acknowledges what the register shows. -/
def fifoAckTime {δ : Type} (pci : GpuPciDevice) (regs : GpuRegs (IntrState δ)) (s : IntrState δ) :
    ℕ :=
  (atInitFifo pci regs s).units.time + 1

/-- What happens to the interrupts from a state `s` to a state `s'`, with the record of the line
after each access, newest first.  The FIFO engine is acknowledged at the time `setup`. -/
structure QuietBringUp (arrives : ℕ → Fin 32 → Fin 32 → Bool) {δ : Type*} (s s' : IntrState δ)
    (record : List Bool) (setup : ℕ) : Prop where
  /-- After the first access the line is down until the last one. -/
  quiet : ∃ last since first, record = last :: (since ++ [first]) ∧ ∀ up ∈ since, up = false
  /-- Then it is up if a unit of the handler reports a cause. -/
  raised : s'.irq = true ↔ ∃ u ∈ handledUnits, s'.line u = true
  /-- The causes of all units but the FIFO engine are kept, and those that arrived are there. -/
  kept : ∀ u, u ≠ pfifoUnit → ∀ c, s.units.Evolves arrives s'.units u c none
  /-- The causes of the FIFO engine are those that arrived after its acknowledgement. -/
  fifo : ∀ c, s.units.Evolves arrives s'.units pfifoUnit c (some setup)

section SetUp

variable {δ : Type} (regs : GpuRegs δ) (arrives : ℕ → Fin 32 → Fin 32 → Bool)

theorem intrReg_of_mem_falconRegs {offset : UInt32} (h : offset ∈ falconRegs) :
    intrReg offset = none := by
  obtain ⟨e, o, ho, rfl⟩ := h
  have hall : falconWrites.all fun o => decide (intrReg ((Falcon.new e).base + o) = none) := by
    cases e <;> decide
  exact of_decide_eq_true (List.all_eq_true.1 hall o ho)

theorem intrReg_of_allocate {vram : VramAllocator} {engineId : UInt32} {ch : Channel}
    (h : ch ∈ (Channel.allocate vram 0 engineId).1) : intrReg ch.doorbellOffset = none := by
  obtain ⟨hid, hfresh, -⟩ := Channel.allocate_fresh h
  rw [hfresh.doorbellOffset, hid]
  rfl

/-- What is set up between the two writes of the master enable register. -/
def betweenEnables (pci : GpuPciDevice) : DriverFn Unit := fun _ regs dev =>
  let found := detectGpu pci regs dev
  let ch := (Channel.allocate found.1.1 0 0).1
  let dev := initFifo regs found.2
  ((), (bindIfReady (.new pci.family) (!pci.family.needsGspRm && ch.isSome) ch regs dev).2.2)

theorem setUp_snd (pci : GpuPciDevice) (regs : GpuRegs δ) (dev : δ) :
    (GpuDevice.setUp pci regs dev).2 = regs.enableInterrupts
      (betweenEnables pci regs (regs.disableInterrupts (regs.readChipId dev).2)).2 := rfl

theorem uses_betweenEnables (pci : GpuPciDevice) :
    Uses driverReads {o | o ≠ NV_PMC_INTR_EN_0} (betweenEnables pci) := by
  have hne : ∀ {offset : UInt32}, intrReg offset = none → offset ≠ NV_PMC_INTR_EN_0 := by
    rintro _ hnone rfl
    cases hnone
  have hdetect : Uses driverReads {o | o ≠ NV_PMC_INTR_EN_0} (detectGpu pci) :=
    (uses_detectGpu pci).mono subset_rfl fun _ ho => hne (intrReg_of_mem_falconRegs ho)
  have hfifo : Uses driverReads {o | o ≠ NV_PMC_INTR_EN_0}
      fun _ regs dev => ((), initFifo regs dev) := by
    refine uses_initFifo.mono ?_ ?_
    · rintro _ rfl
      exact .inl (by decide)
    · rintro _ (rfl | rfl) <;> decide
  have hbind : ∀ (vram : VramAllocator) (ready : Bool), Uses driverReads {o | o ≠ NV_PMC_INTR_EN_0}
      fun _ regs dev =>
        (bindIfReady (.new pci.family) ready (Channel.allocate vram 0 0).1 regs dev).2 := by
    intro vram ready
    refine (uses_bindIfReady _ _ _).mono (Set.empty_subset _) ?_
    rintro _ ⟨ch, hch, rfl⟩
    exact hne (intrReg_of_allocate hch)
  exact hdetect.bind fun found => hfifo.bind fun _ =>
    (hbind found.1 (!pci.family.needsGspRm && (Channel.allocate found.1 0 0).1.isSome)).map
      fun _ => ()

theorem quiet_setUp (pci : GpuPciDevice) (s : IntrState δ) :
    ∃ last since first, (GpuDevice.setUp pci (regs.withInterrupts arrives).watched ([], s)).2.1 =
      last :: (since ++ [first]) ∧ ∀ up ∈ since, up = false := by
  have hstart : DownSince _ ((regs.withInterrupts arrives).watched.disableInterrupts
      ((regs.withInterrupts arrives).watched.readChipId ([], s)).2) := .start _ rfl
  have hnot : NV_PMC_INTR_EN_0 ∉ {o | o ≠ NV_PMC_INTR_EN_0} := fun h => h rfl
  obtain ⟨since, hrecord, hdown⟩ := (hstart.uses regs arrives (uses_betweenEnables pci) hnot).record
  rw [setUp_snd]
  exact ⟨_, since, _, congrArg (List.cons _) hrecord, hdown⟩

theorem irq_enableInterrupts (s : IntrState δ) :
    let s' := (regs.withInterrupts arrives).enableInterrupts s
    s'.irq = true ↔ ∃ u ∈ handledUnits, s'.line u = true := by
  have hmask : ∀ u : Fin 32, (NV_PMC_INTR_PFIFO ||| NV_PMC_INTR_PGRAPH |||
      NV_PMC_INTR_PTIMER).toBitVec.getLsbD u = true ↔ u ∈ handledUnits := by
    decide
  intro s'
  rw [IntrState.irq_iff]
  exact exists_congr fun u => and_congr_left' (hmask u)

theorem uses_beforeFifo (pci : GpuPciDevice) : Uses driverReads silentWrites fun _ regs dev =>
    ((), atInitFifo pci regs dev) := by
  have hboot : NV_PMC_BOOT_0 ∈ driverReads := .inl (by decide)
  have hdetect : Uses driverReads silentWrites (detectGpu pci) :=
    (uses_detectGpu pci).mono subset_rfl fun _ ho =>
      mem_silentWrites_of_none (intrReg_of_mem_falconRegs ho)
  exact (uses_read32 hboot).bind fun _ =>
    (uses_write32 enable_mem_silentWrites 0).bind fun _ => hdetect.map fun _ => ()

theorem uses_afterFifo (pci : GpuPciDevice) (vram : VramAllocator) (ready : Bool) :
    Uses ∅ silentWrites fun _ regs dev => ((), regs.enableInterrupts
      (bindIfReady (.new pci.family) ready (Channel.allocate vram 0 0).1 regs dev).2.2) := by
  have hbind : Uses ∅ silentWrites fun _ regs dev =>
      (bindIfReady (.new pci.family) ready (Channel.allocate vram 0 0).1 regs dev).2 := by
    refine (uses_bindIfReady _ _ _).mono subset_rfl ?_
    rintro _ ⟨ch, hch, rfl⟩
    exact mem_silentWrites_of_none (intrReg_of_allocate hch)
  exact hbind.bind fun _ => uses_write32 enable_mem_silentWrites _

/-- What the initialization does to a cause: the only acknowledgement is that of `initFifo`. -/
theorem evolves_setUp (pci : GpuPciDevice) (s : IntrState δ) (u c : Fin 32) :
    s.units.Evolves arrives (GpuDevice.setUp pci (regs.withInterrupts arrives) s).2.units u c
      (if u = pfifoUnit then some (fifoAckTime pci (regs.withInterrupts arrives) s) else none) := by
  let found := detectGpu pci (regs.withInterrupts arrives)
    ((regs.withInterrupts arrives).disableInterrupts
      ((regs.withInterrupts arrives).readChipId s).2)
  let ready := !pci.family.needsGspRm && (Channel.allocate found.1.1 0 0).1.isSome
  have hbefore := (uses_beforeFifo pci).evolves regs arrives s u c
  have hsetup := evolves_initFifo regs arrives found.2 u c
  have hafter := (uses_afterFifo pci found.1.1 ready).evolves regs arrives
    (initFifo (regs.withInterrupts arrives) found.2) u c
  have hall := (hbefore.trans hsetup).trans hafter
  split_ifs at hall ⊢ with hu
  · exact hall
  · exact hall

/-- **The initialization raises no interrupt, and loses only the causes of the FIFO engine** that
`initFifo` acknowledges: whatever GPU it is, whatever it shows, and whenever causes arrive. -/
theorem quietBringUp_setUp (pci : GpuPciDevice) (s : IntrState δ) :
    let r := GpuDevice.setUp pci (regs.withInterrupts arrives).watched ([], s)
    QuietBringUp arrives s r.2.2 r.2.1 (fifoAckTime pci (regs.withInterrupts arrives) s) := by
  intro r
  have hsame : r.2.2 = (GpuDevice.setUp pci (regs.withInterrupts arrives) s).2 :=
    ((uses_setUp pci (Set.mem_singleton 0)).watched regs arrives [] s).2
  have hevolves := evolves_setUp regs arrives pci s
  rw [hsame]
  constructor
  case quiet => exact quiet_setUp regs arrives pci s
  case raised => exact irq_enableInterrupts regs arrives _
  case kept =>
    intro u hu c
    have h := hevolves u c
    rwa [if_neg hu] at h
  case fifo =>
    intro c
    have h := hevolves pfifoUnit c
    rwa [if_pos rfl] at h

end SetUp

end GpuCompute
