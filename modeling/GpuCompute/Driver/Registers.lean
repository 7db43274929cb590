import GpuCompute.Driver.Overflow
import GpuCompute.Driver.System
import GpuCompute.Mmio.Footprint
import GpuCompute.Mmio.Log
import GpuCompute.Pci.Rescan

/-!
# The registers that the driver accesses

All that the driver does to the hardware it does through registers.  Its reads and writes, from the
initialization on and over every run, are at a few offsets that are known beforehand: those of the
interrupts, those of the Falcons, and the doorbells of the channels.  The doorbell of a channel is
computed from its ID, which nothing bounds.

* `driverReads`, `driverWrites ids` : the registers that the driver reads, and that it writes when
  its channels have the given IDs.
* `InWindow` : an access that is aligned and inside of the 16 MiB of registers.
* `GpuRegs.withIdentity` : a device with the registers that say what GPU it is.
* `Driver.uses_perform`, `uses_setUp` : the footprints of the operations and of the initialization.
* `registerSafe_run` : all accesses of a run are in the footprint, and inside of the window of the
  registers if the IDs of the channels are small.
* `init_again` : after a run the driver can be initialized again, and finds what it has found
  before.
-/

namespace GpuCompute

open Systems VramAllocator

/-! ### The footprint -/

/-- The registers that the driver reads, apart from those of the Falcons. -/
def hostReads : List UInt32 :=
  [NV_PMC_BOOT_0, NV_PMC_INTR_0, NV_PMC_ENABLE, NV_PFIFO_INTR_0, NV_PTIMER_TIME_0,
    NV_PTIMER_TIME_1, NV_PFB_CFG0, NV_PFB_VRAM_SIZE, NV_PFB_NPARTS, NV_PGRAPH_GPC_COUNT,
    NV_PGRAPH_TPC_PER_GPC]

/-- The registers that the driver writes, apart from those of the Falcons and the doorbells. -/
def hostWrites : List UInt32 :=
  [NV_PMC_INTR_EN_0, NV_PMC_ENABLE, NV_PFIFO_INTR_0, NV_PFIFO_INTR_EN_0, NV_PGRAPH_INTR,
    NV_PTIMER_INTR_0]

/-- The doorbell of a channel. -/
def doorbell (channelId : UInt32) : UInt32 := 0x90000 + channelId * 8

/-- The doorbells of channels with IDs of `ids`. -/
def doorbells (ids : Set UInt32) : Set UInt32 := {o | ∃ channelId ∈ ids, o = doorbell channelId}

/-- The registers that the driver reads. -/
def driverReads : Set UInt32 :=
  {o | o ∈ hostReads ∨ ∃ e, o ∈ (Falcon.new e).registers falconReads}

/-- The registers that the driver writes when its channels have IDs of `ids`. -/
def driverWrites (ids : Set UInt32) : Set UInt32 :=
  {o | o ∈ hostWrites ∨ (∃ e, o ∈ (Falcon.new e).registers falconWrites) ∨ o ∈ doorbells ids}

/-- The IDs of the channels of a run, of which the initialization allocates the first. -/
def channelIds (ops : List DriverOp) : Set UInt32 :=
  {id | id = 0 ∨ ∃ engineId, .allocateChannel id engineId ∈ ops}

section Uses

variable {ids : Set UInt32}

/-- The function accesses registers as the driver does. -/
def UsesDriver {β : Type*} (ids : Set UInt32) (f : DriverFn β) : Prop :=
  Uses driverReads (driverWrites ids) f

theorem uses_hostRead (offset : UInt32) (h : offset ∈ hostReads) :
    UsesDriver ids fun _ regs dev => regs.read32 dev offset := uses_read32 (.inl h)

theorem uses_hostWrite (offset : UInt32) (h : offset ∈ hostWrites) (value : UInt32) :
    UsesDriver ids fun _ regs dev => ((), regs.write32 dev offset value) :=
  uses_write32 (.inl h) value

theorem Falcon.UsesFalcon.usesDriver {β : Type*} {e : FalconEngine} {f : DriverFn β}
    (h : (Falcon.new e).UsesFalcon f) : UsesDriver ids f :=
  h.mono (fun _ ho => .inr ⟨e, ho⟩) fun _ ho => .inr (.inl ⟨e, ho⟩)

/-- The channels ring doorbells of `ids`. -/
def RingDoorbells (ids : Set UInt32) (chs : List Channel) : Prop :=
  ∀ ch ∈ chs, ∃ channelId ∈ ids, ch.doorbellOffset = doorbell channelId

theorem Channel.uses_submit {β : Type*} (ch : Channel) (commands : List UInt32)
    (f : Option Submission → Channel → β) :
    Uses ∅ {ch.doorbellOffset} fun _ regs dev =>
      let r := ch.submit regs commands dev
      (f r.1 r.2.1, r.2.2) := by
  by_cases hacc : ch.Accepts commands.length
  · simp only [Channel.submit_of_accepts _ hacc]
    exact (uses_write32 (Set.mem_singleton _) _).map fun _ => _
  · simp only [Channel.submit_of_not_accepts _ hacc]
    exact uses_pure _

theorem uses_submit {β : Type*} {chs : List Channel} (hchs : RingDoorbells ids chs) {ch : Channel}
    (hch : ch ∈ chs) (commands : List UInt32) (f : Option Submission → Channel → β) :
    Uses ∅ (doorbells ids) fun _ regs dev =>
      let r := ch.submit regs commands dev
      (f r.1 r.2.1, r.2.2) :=
  (ch.uses_submit commands f).mono subset_rfl (Set.singleton_subset_iff.2 (hchs ch hch))

/-- What a dispatch shows, from what its submit has returned. -/
def ComputeEngine.dispatched (isSignaled : GpuFence → ℕ → Bool) (fence : Option GpuFence)
    (cmds : List UInt32) (wait : Bool) : Option Submission → Dispatched
  | none => ⟨false, fence, cmds, none, 0⟩
  | some submission =>
    match wait, fence with
    | true, some f =>
      let (result, polls) := GpuFence.wait (isSignaled f) 10000000
      ⟨result, fence, cmds, some submission, polls⟩
    | _, _ => ⟨true, fence, cmds, some submission, 0⟩

/-- **A dispatch is a submit**, as far as the device is concerned. -/
theorem ComputeEngine.dispatch_eq {δ : Type*} (regs : GpuRegs δ)
    (isSignaled : GpuFence → ℕ → Bool) (engine : ComputeEngine) (ch : Channel)
    (shader : ShaderProgram) (grid : GridDim) (block : BlockDim)
    (constBuffers : List ConstantBufferBinding) (a : VramAllocator) (wait : Bool) (dev : δ) :
    engine.dispatch regs isSignaled ch shader grid block constBuffers a wait dev =
      let (fence, engine', a') := engine.dispatchFence a wait
      let cmds := engine'.buildDispatchCommands shader grid block constBuffers fence
      let r := ch.submit regs cmds dev
      (dispatched isSignaled fence cmds wait r.1, engine', r.2.1, a', r.2.2) := by
  unfold dispatch
  rcases engine.dispatchFence a wait with ⟨fence, engine', a'⟩
  dsimp only
  rcases ch.submit regs (engine'.buildDispatchCommands shader grid block constBuffers fence) dev
    with ⟨_ | submission, ch', dev'⟩
  · rfl
  · cases wait <;> cases fence <;> rfl

theorem uses_handleInterrupt :
    Uses {NV_PMC_INTR_0} {NV_PFIFO_INTR_0, NV_PGRAPH_INTR, NV_PTIMER_INTR_0}
      fun _ regs dev => ((), handleInterrupt regs dev) := by
  have hack : ∀ (c : Prop) [Decidable c] {offset : UInt32},
      offset ∈ ({NV_PFIFO_INTR_0, NV_PGRAPH_INTR, NV_PTIMER_INTR_0} : Set UInt32) →
      Uses {NV_PMC_INTR_0} {NV_PFIFO_INTR_0, NV_PGRAPH_INTR, NV_PTIMER_INTR_0} fun _ regs dev =>
        ((), if c then regs.write32 dev offset 0xFFFFFFFF else dev) := by
    intro c _ offset hoffset
    split_ifs
    · exact uses_write32 hoffset _
    · exact uses_pure ()
  refine (uses_read32 (Set.mem_singleton NV_PMC_INTR_0)).bind
    (g := fun intr _ regs dev => ((), if intr = 0 then dev
      else
        let dev := if intr &&& NV_PMC_INTR_PFIFO ≠ 0 then
          regs.write32 dev NV_PFIFO_INTR_0 0xFFFFFFFF else dev
        let dev := if intr &&& NV_PMC_INTR_PGRAPH ≠ 0 then
          regs.write32 dev NV_PGRAPH_INTR 0xFFFFFFFF else dev
        if intr &&& NV_PMC_INTR_PTIMER ≠ 0 then
          regs.write32 dev NV_PTIMER_INTR_0 0xFFFFFFFF else dev)) fun intr => ?_
  by_cases hzero : intr = 0
  · simp only [if_pos hzero]
    exact uses_pure ()
  · simp only [if_neg hzero]
    exact ((hack (intr &&& NV_PMC_INTR_PFIFO ≠ 0) (.inl rfl)).bind fun _ =>
      hack (intr &&& NV_PMC_INTR_PGRAPH ≠ 0) (.inr (.inl rfl))).bind fun _ =>
        hack (intr &&& NV_PMC_INTR_PTIMER ≠ 0) (.inr (.inr rfl))

/-- The loop that reads the timer, by induction on its rounds. -/
theorem uses_pollTimer (fuel : ℕ) : UsesDriver ids fun _ regs dev => regs.pollTimer fuel dev := by
  induction fuel with
  | zero => exact uses_pure none
  | succ fuel ih =>
    have hhigh : UsesDriver ids fun _ regs dev => regs.read32 dev NV_PTIMER_TIME_1 :=
      uses_hostRead NV_PTIMER_TIME_1 (by decide)
    refine hhigh.bind fun hi1 => (uses_hostRead NV_PTIMER_TIME_0 (by decide)).bind fun lo =>
      hhigh.bind (g := fun hi2 _ regs dev =>
        if hi1 = hi2 then (some ((hi1.toUInt64 <<< 32) ||| lo.toUInt64), dev)
        else regs.pollTimer fuel dev) fun hi2 => ?_
    split_ifs
    · exact uses_pure _
    · exact ih

theorem uses_status (fuel : ℕ) : UsesDriver ids fun _ regs dev => ((), status regs fuel dev) := by
  refine (uses_pollTimer fuel).bind (g := fun ns _ regs dev =>
    ((), if ns.isSome then (regs.readInterrupts dev).2 else dev)) fun ns => ?_
  split_ifs
  · exact (uses_hostRead NV_PMC_INTR_0 (by decide)).map fun _ => ()
  · exact uses_pure ()

theorem uses_masterReset : UsesDriver ids fun _ regs dev => ((), regs.masterReset dev) := by
  have hread : UsesDriver ids fun _ regs dev => regs.read32 dev NV_PMC_ENABLE :=
    uses_hostRead NV_PMC_ENABLE (by decide)
  have hwrite : ∀ value, UsesDriver ids fun _ regs dev =>
      ((), regs.write32 dev NV_PMC_ENABLE value) :=
    uses_hostWrite NV_PMC_ENABLE (by decide)
  exact hread.bind fun enable => (hwrite 0).bind fun _ => hread.bind fun _ =>
    (hwrite enable).bind fun _ => hread.map fun _ => ()

/-- The operation is done with the objects of the driver; all that it may access are doorbells. -/
def DriverOp.OnObjects : DriverOp → Prop
  | .handleInterrupt | .status _ | .masterReset | .falcon _ _ => False
  | _ => True

/-- **An operation on the objects of the driver rings doorbells only.** -/
theorem Driver.uses_perform_of_onObjects (d : Driver) (hd : RingDoorbells ids d.channels)
    {op : DriverOp} (hop : op.OnObjects) : Uses ∅ (doorbells ids) (d.perform op) := by
  cases op with
  | submit i commands =>
    simp only [perform]
    rcases hch : d.channels[i]? with _ | ch
    · exact uses_pure _
    · exact uses_submit hd (List.mem_of_getElem? hch) commands
        fun s ch' => ((⟨[], s.map (⟨ch, commands, ·⟩)⟩ : DriverOut),
          { d with channels := d.channels.set i ch' })
  | bindToChannel i =>
    simp only [perform, ComputeEngine.bindToChannel]
    rcases hch : d.channels[i]? with _ | ch
    · exact uses_pure _
    · exact uses_submit hd (List.mem_of_getElem? hch) _
        fun s ch' =>
          ((⟨[], s.map (⟨ch, [gpuMethod1 d.compute.subchannel 0, d.compute.classId], ·⟩)⟩ :
              DriverOut),
            { d with channels := d.channels.set i ch' })
  | dispatch isSignaled i j grid block constBuffers wait =>
    simp only [perform, ComputeEngine.dispatch_eq]
    rcases hch : d.channels[i]? with _ | ch
    · exact uses_pure _
    rcases d.shaders[j]? with _ | shader
    · exact uses_pure _
    · rcases d.compute.dispatchFence d.vram wait with ⟨fence, compute, vram⟩
      exact uses_submit hd (List.mem_of_getElem? hch)
        (compute.buildDispatchCommands shader grid block constBuffers fence)
        fun s ch' =>
          let shown := ComputeEngine.dispatched isSignaled fence
            (compute.buildDispatchCommands shader grid block constBuffers fence) wait s
          ((⟨shown.fence.toList.map fun f => f.allocation.handed 64,
              shown.submission.map (⟨ch, shown.cmds, ·⟩)⟩ : DriverOut),
            { d with compute, vram, channels := d.channels.set i ch' })
  | resetPushBuffer _ | upload _ _ | download _ _ | freeTensor _ | commit _ =>
    simp only [perform]
    split <;> exact uses_pure _
  | allocate _ | free _ | mapToCpu _ | mapSystemMemory _ _ | allocateChannel _ _
  | loadShader _ _ _ _ | allocateTensor _ _ _ | newRunlist _ | addChannel _ _
  | removeChannel _ _ => exact uses_pure _
  | handleInterrupt | status _ | masterReset | falcon _ _ => exact hop.elim

/-- **The registers that an operation of the driver reads and writes.** -/
theorem Driver.uses_perform (d : Driver) (hd : RingDoorbells ids d.channels) (op : DriverOp) :
    UsesDriver ids (d.perform op) := by
  have hobjects : op.OnObjects → UsesDriver ids (d.perform op) := fun hop =>
    (d.uses_perform_of_onObjects hd hop).mono (Set.empty_subset _) fun _ ho => .inr (.inr ho)
  cases op with
  | handleInterrupt =>
    refine (uses_handleInterrupt.mono ?_ ?_).map fun _ => (DriverOut.quiet, d)
    · rintro _ rfl
      exact .inl (by decide)
    · rintro _ (rfl | rfl | rfl) <;> exact .inl (by decide)
  | status fuel => exact (uses_status fuel).map fun _ => (DriverOut.quiet, d)
  | masterReset => exact uses_masterReset.map fun _ => (DriverOut.quiet, d)
  | falcon e op =>
    exact ((Falcon.new e).uses_perform op).usesDriver.map fun _ => (DriverOut.quiet, d)
  | _ => exact hobjects trivial

/-- The registers that the driver writes at the Falcons. -/
def falconRegs : Set UInt32 := {o | ∃ e, o ∈ (Falcon.new e).registers falconWrites}

/-- What the initialization finds out about a GPU: VRAM, and the numbers of GPCs and TPCs. -/
def detectGpu (pci : GpuPciDevice) : DriverFn (VramAllocator × UInt32 × UInt32) :=
  fun _ regs dev =>
    let dev := if !pci.family.needsGspRm then ((Falcon.new .pmu).isHalted regs dev).2 else dev
    let vram := detectAndInit regs pci.bar1Base pci.bar1Size dev
    let gpcCount := regs.gpcCount vram.2
    let tpcPerGpc := regs.tpcPerGpc gpcCount.2
    ((vram.1, gpcCount.1, tpcPerGpc.1), tpcPerGpc.2)

theorem uses_detectGpu (pci : GpuPciDevice) : Uses driverReads falconRegs (detectGpu pci) := by
  have hread : ∀ offset ∈ hostReads,
      Uses driverReads falconRegs fun _ regs dev => regs.read32 dev offset :=
    fun _ h => uses_read32 (.inl h)
  have hpmu : Uses driverReads falconRegs fun _ regs dev =>
      ((), if !pci.family.needsGspRm then ((Falcon.new .pmu).isHalted regs dev).2 else dev) := by
    split_ifs
    · refine ((Falcon.new .pmu).usesFalcon_isHalted.mono ?_ ?_).map fun _ => ()
      · exact fun _ ho => .inr ⟨.pmu, ho⟩
      · exact fun _ ho => ⟨.pmu, ho⟩
    · exact uses_pure ()
  exact hpmu.bind fun _ => (hread NV_PFB_CFG0 (by decide)).bind fun cfg0 =>
    (hread NV_PFB_VRAM_SIZE (by decide)).bind fun vramSizeReg =>
      (hread NV_PFB_NPARTS (by decide)).bind fun nparts =>
        (hread NV_PGRAPH_GPC_COUNT (by decide)).bind fun gpcCount =>
          (hread NV_PGRAPH_TPC_PER_GPC (by decide)).map fun tpcPerGpc =>
            (ofInfo (decodeInfo cfg0 vramSizeReg nparts) pci.bar1Base pci.bar1Size, gpcCount,
              tpcPerGpc)

theorem uses_initFifo : Uses {NV_PFIFO_INTR_0} {NV_PFIFO_INTR_0, NV_PFIFO_INTR_EN_0}
    fun _ regs dev => ((), initFifo regs dev) := by
  have hstatus : NV_PFIFO_INTR_0 ∈ ({NV_PFIFO_INTR_0, NV_PFIFO_INTR_EN_0} : Set UInt32) := .inl rfl
  have henable : NV_PFIFO_INTR_EN_0 ∈ ({NV_PFIFO_INTR_0, NV_PFIFO_INTR_EN_0} : Set UInt32) :=
    .inr rfl
  exact (uses_read32 (Set.mem_singleton _)).bind fun _ =>
    (uses_write32 hstatus 0xFFFFFFFF).bind fun _ => uses_write32 henable 0xFFFFFFFF

theorem uses_bindIfReady (compute : ComputeEngine) (ready : Bool) (channel : Option Channel) :
    Uses ∅ {o | ∃ ch ∈ channel, o = ch.doorbellOffset} fun _ regs dev =>
      (bindIfReady compute ready channel regs dev).2 := by
  cases channel with
  | none => exact uses_pure none
  | some ch =>
    cases ready with
    | false => exact uses_pure (some ch)
    | true =>
      simp only [bindIfReady, if_true, ComputeEngine.bindToChannel]
      refine (ch.uses_submit _ fun _ ch' => some ch').mono (Set.empty_subset _) ?_
      exact Set.singleton_subset_iff.2 ⟨ch, rfl, rfl⟩

theorem GpuDevice.setUp_eq {δ : Type} (pci : GpuPciDevice) (regs : GpuRegs δ) (dev : δ) :
    let compute := ComputeEngine.new pci.family
    let found := detectGpu pci regs (regs.disableInterrupts (regs.readChipId dev).2)
    let ch := Channel.allocate found.1.1 0 0
    let ready := !pci.family.needsGspRm && ch.1.isSome
    let bound := bindIfReady compute ready ch.1 regs (initFifo regs found.2)
    ((GpuDevice.setUp pci regs dev).1.1.driver, (GpuDevice.setUp pci regs dev).2) =
      (⟨ch.2, compute, .new, bound.2.1.toList, [], [], []⟩, regs.enableInterrupts bound.2.2) := rfl

theorem ringDoorbells_allocate (a : VramAllocator) {channelId : UInt32} (hid : channelId ∈ ids)
    (engineId : UInt32) :
    RingDoorbells ids (Channel.allocate a channelId engineId).1.toList := by
  intro ch hch
  obtain ⟨rfl, hfresh, -⟩ := Channel.allocate_fresh (Option.mem_toList.1 hch)
  exact ⟨ch.id, hid, hfresh.doorbellOffset⟩

/-- **The registers that the initialization reads and writes.** -/
theorem uses_setUp (pci : GpuPciDevice) (h0 : 0 ∈ ids) :
    UsesDriver ids fun _ regs dev =>
      ((GpuDevice.setUp pci regs dev).1.1.driver, (GpuDevice.setUp pci regs dev).2) := by
  have hdetect : UsesDriver ids (detectGpu pci) :=
    (uses_detectGpu pci).mono subset_rfl fun _ ho => .inr (.inl ho)
  have hfifo : UsesDriver ids fun _ regs dev => ((), initFifo regs dev) := by
    refine uses_initFifo.mono ?_ ?_
    · rintro _ rfl
      exact .inl (by decide)
    · rintro _ (rfl | rfl) <;> exact .inl (by decide)
  have hbind : ∀ (vram : VramAllocator) (ready : Bool), UsesDriver ids fun _ regs dev =>
      (bindIfReady (.new pci.family) ready (Channel.allocate vram 0 0).1 regs dev).2 := by
    intro vram ready
    refine (uses_bindIfReady _ _ _).mono (Set.empty_subset _) ?_
    rintro _ ⟨ch, hch, rfl⟩
    exact .inr (.inr (ringDoorbells_allocate vram h0 0 ch (Option.mem_toList.2 hch)))
  simp only [GpuDevice.setUp_eq]
  exact (uses_hostRead NV_PMC_BOOT_0 (by decide)).bind fun _ =>
    (uses_hostWrite NV_PMC_INTR_EN_0 (by decide) 0).bind fun _ =>
      hdetect.bind fun found => hfifo.bind fun _ =>
        (hbind found.1 (!pci.family.needsGspRm && (Channel.allocate found.1 0 0).1.isSome)).bind
          fun bound => (uses_hostWrite NV_PMC_INTR_EN_0 (by decide)
            (NV_PMC_INTR_PFIFO ||| NV_PMC_INTR_PGRAPH ||| NV_PMC_INTR_PTIMER)).map fun _ =>
              (⟨(Channel.allocate found.1 0 0).2, .new pci.family, .new, bound.toList, [], [], []⟩ :
                Driver)

end Uses

/-! ### What the accesses of a run keep -/

section Runs

variable {δ : Type} {ids : Set UInt32}

theorem RingDoorbells.step {chs chs' : List Channel} {op : DriverOp} {out : DriverOut}
    (h : RingDoorbells ids chs) (hstep : ChannelStep chs op out chs')
    (hop : ∀ channelId engineId, op = .allocateChannel channelId engineId → channelId ∈ ids) :
    RingDoorbells ids chs' := by
  cases hstep with
  | same => exact h
  | @allocate channelId engineId ch hid hfresh hsize =>
    intro c hc
    rcases List.mem_append.1 hc with hc | hc
    · exact h c hc
    · rw [List.mem_singleton.1 hc, hfresh.doorbellOffset, hid]
      exact ⟨channelId, hop channelId engineId rfl, rfl⟩
  | @reset _ i ch hch =>
    intro c hc
    rcases List.mem_or_eq_of_mem_set hc with hc | rfl
    · exact h c hc
    · exact h ch (List.mem_of_getElem? hch)
  | @submit _ hs i a hch hfits hshort =>
    intro c hc
    rcases List.mem_or_eq_of_mem_set hc with hc | rfl
    · exact h c hc
    · exact h a.channel (List.mem_of_getElem? hch)

theorem ringDoorbells_setUp (pci : GpuPciDevice) (regs : GpuRegs δ) (dev : δ) (h0 : 0 ∈ ids) :
    RingDoorbells ids (GpuDevice.setUp pci regs dev).1.1.driver.channels := by
  obtain ⟨info, ready, dev', -, -, hchannel⟩ := GpuDevice.setUp_channel pci regs dev
  have hd := ringDoorbells_allocate (ofInfo info pci.bar1Base pci.bar1Size) h0 0
  show RingDoorbells ids (GpuDevice.setUp pci regs dev).1.1.computeChannel.toList
  rw [hchannel]
  obtain heq | ⟨ch, n, put, hch, -, heq⟩ := bindIfReady_channel (.new pci.family) ready
    (Channel.allocate (ofInfo info pci.bar1Base pci.bar1Size) 0 0).1 regs dev'
  · rw [heq]
    exact hd
  · rw [heq]
    rintro _ hc
    rw [List.mem_singleton.1 hc]
    exact hd ch (by rw [hch]; exact List.mem_singleton_self ch)

/-- The accesses that the driver may make keep `P`. -/
structure KeptByAccesses (regs : GpuRegs δ) (ids : Set UInt32) (P : δ → Prop) : Prop where
  read32 : ∀ dev, P dev → ∀ offset ∈ driverReads, P (regs.read32 dev offset).2
  write32 : ∀ dev, P dev → ∀ offset ∈ driverWrites ids, ∀ value,
    P (regs.write32 dev offset value)

/-- **What the accesses of the driver keep, every run keeps**, the initialization included. -/
theorem KeptByAccesses.run {regs : GpuRegs δ} {P : δ → Prop} {ops : List DriverOp}
    (h : KeptByAccesses regs (channelIds ops) P) (pci : GpuPciDevice) (dev : δ) (hdev : P dev) :
    let r := GpuDevice.setUp pci regs dev
    P r.2 ∧ P ((driver regs).final (r.1.1.driver, r.2) ops).2 := by
  intro r
  have h0 : (0 : UInt32) ∈ channelIds ops := .inl rfl
  have hstart : P r.2 := (uses_setUp pci h0).preserves h.read32 h.write32 hdev
  refine ⟨hstart, ?_⟩
  have key := Machine.run_induction (M := driver regs) (s := (r.1.1.driver, r.2))
    (Q := fun e => e.op ∈ ops)
    (motive := fun _ s => RingDoorbells (channelIds ops) (Prod.fst s).channels ∧ P (Prod.snd s))
    ⟨ringDoorbells_setUp pci regs dev h0, hstart⟩ ?_ ops
    fun e he => Machine.op_mem_of_mem_trace he
  · exact key.2
  · rintro tr s op ⟨hd, hP⟩ hop
    refine ⟨hd.step (s.1.channelStep op regs s.2) ?_, ?_⟩
    · rintro channelId engineId rfl
      exact .inr ⟨engineId, hop⟩
    · exact (s.1.uses_perform hd op).preserves h.read32 h.write32 hP

/-! ### All accesses are in the window of the registers -/

/-- The offset of the register. -/
def Access.offset : Access → UInt32
  | .read offset _ => offset
  | .write offset _ => offset

/-- The access is a read of a register of `R` or a write of a register of `W`. -/
def Access.IsIn (R W : Set UInt32) : Access → Prop
  | .read offset _ => offset ∈ R
  | .write offset _ => offset ∈ W

/-- A register in the 16 MiB that BAR0 has at least. -/
def InWindow (offset : UInt32) : Prop := 4 ∣ offset.toNat ∧ offset.toNat + 4 ≤ 0x1000000

instance (offset : UInt32) : Decidable (InWindow offset) := inferInstanceAs (Decidable (_ ∧ _))

/-- What a log of accesses shows of a driver whose channels have IDs of `ids`. -/
structure RegisterSafe (ids : Set UInt32) (log : List Access) : Prop where
  /-- Only the registers of the interrupts, of the Falcons and the doorbells are written. -/
  footprint : ∀ a ∈ log, a.IsIn driverReads (driverWrites ids)
  /-- With IDs whose doorbells are there, all registers are in the window. -/
  window : (∀ channelId ∈ ids, channelId < 0x1EE000) → ∀ a ∈ log, InWindow a.offset

theorem inWindow_of_mem_falcon {offsets : List UInt32}
    (h : offsets.all fun o => [FalconEngine.pmu, .sec2, .gsp].all fun e =>
      decide (InWindow ((Falcon.new e).base + o))) {e : FalconEngine} {offset : UInt32}
    (ho : offset ∈ (Falcon.new e).registers offsets) : InWindow offset := by
  obtain ⟨o, ho, rfl⟩ := ho
  have he : e ∈ [FalconEngine.pmu, .sec2, .gsp] := by cases e <;> decide
  exact of_decide_eq_true (List.all_eq_true.1 (List.all_eq_true.1 h o ho) e he)

theorem inWindow_of_mem_reads {offset : UInt32} (h : offset ∈ driverReads) : InWindow offset := by
  rcases h with h | ⟨e, h⟩
  · have hall : hostReads.all fun o => decide (InWindow o) := by decide
    exact of_decide_eq_true (List.all_eq_true.1 hall offset h)
  · exact inWindow_of_mem_falcon (by decide) h

theorem inWindow_of_mem_writes (hids : ∀ channelId ∈ ids, channelId < 0x1EE000) {offset : UInt32}
    (h : offset ∈ driverWrites ids) : InWindow offset := by
  rcases h with h | ⟨e, h⟩ | ⟨channelId, hmem, rfl⟩
  · have hall : hostWrites.all fun o => decide (InWindow o) := by decide
    exact of_decide_eq_true (List.all_eq_true.1 hall offset h)
  · exact inWindow_of_mem_falcon (by decide) h
  · have hlt := UInt32.lt_iff_toNat_lt.1 (hids channelId hmem)
    have htoNat : (doorbell channelId).toNat = 0x90000 + channelId.toNat * 8 := by
      simp only [doorbell, UInt32.toNat_add, UInt32.toNat_mul, UInt32.reduceToNat] at hlt ⊢
      omega
    rw [InWindow, htoNat]
    simp only [UInt32.reduceToNat] at hlt
    omega

theorem Driver.step_logged {regs : GpuRegs δ} {t : Driver × List Access × δ} {t' : Driver × δ}
    (hd : RingDoorbells ids t'.1.channels) (hdriver : t.1 = t'.1) (hdev : t.2.2 = t'.2)
    (op : DriverOp) :
    ((driver regs.logged).step t op).2.1 = ((driver regs).step t' op).2.1 ∧
      ((driver regs.logged).step t op).2.2.2 = ((driver regs).step t' op).2.2 := by
  obtain ⟨d, log, dev⟩ := t
  obtain ⟨d', dev'⟩ := t'
  obtain rfl : d = d' := hdriver
  obtain rfl : dev = dev' := hdev
  have hstep : ∀ {ε : Type} (regs : GpuRegs ε) (s : Driver × ε), (driver regs).step s op =
      ((s.1.perform op regs s.2).1.1, (s.1.perform op regs s.2).1.2,
        (s.1.perform op regs s.2).2) := fun _ _ => rfl
  obtain ⟨hout, hdev⟩ := (d.uses_perform hd op).logged regs log dev
  rw [hstep, hstep]
  exact ⟨congrArg Prod.snd hout, hdev⟩

/-- The run whose accesses are recorded is the run itself.  By induction on the run, in which the
channels keep their doorbells. -/
theorem logged_run (pci : GpuPciDevice) (regs : GpuRegs δ) (dev : δ) (ops : List DriverOp) :
    let r := GpuDevice.setUp pci regs.logged ([], dev)
    let r' := GpuDevice.setUp pci regs dev
    let s := (driver regs.logged).final (r.1.1.driver, r.2) ops
    let s' := (driver regs).final (r'.1.1.driver, r'.2) ops
    s.1 = s'.1 ∧ s.2.2 = s'.2 := by
  intro r r' s s'
  have key : RingDoorbells Set.univ s'.1.channels ∧ s.1 = s'.1 ∧ s.2.2 = s'.2 := by
    unfold s s'
    induction ops using List.reverseRecOn with
    | nil =>
      obtain ⟨hdriver, hdev⟩ := (uses_setUp pci (Set.mem_univ 0)).logged regs [] dev
      exact ⟨ringDoorbells_setUp pci regs dev (Set.mem_univ 0), hdriver, hdev⟩
    | append_singleton ops op ih =>
      obtain ⟨hd, hdriver, hdev⟩ := ih
      rw [Machine.final_concat, Machine.final_concat]
      generalize (driver regs).final (r'.1.1.driver, r'.2) ops = t' at hd hdriver hdev ⊢
      obtain ⟨hdriver, hdev⟩ := Driver.step_logged hd hdriver hdev op
      exact ⟨hd.step (t'.1.channelStep op regs t'.2) fun _ _ _ => Set.mem_univ _, hdriver, hdev⟩
  exact key.2

/-- **The driver accesses the registers of the interrupts, of the Falcons and the doorbells only**,
from its initialization on, whatever the device shows and whatever is done. -/
theorem registerSafe_run (pci : GpuPciDevice) (regs : GpuRegs δ) (dev : δ) (ops : List DriverOp) :
    let r := GpuDevice.setUp pci regs.logged ([], dev)
    RegisterSafe (channelIds ops) ((driver regs.logged).final (r.1.1.driver, r.2) ops).2.1 := by
  have hkept : KeptByAccesses regs.logged (channelIds ops) fun s =>
      ∀ a ∈ Prod.fst s, a.IsIn driverReads (driverWrites (channelIds ops)) :=
    ⟨fun _ h offset hoffset => List.forall_mem_cons.2 ⟨hoffset, h⟩,
      fun _ h offset hoffset _ => List.forall_mem_cons.2 ⟨hoffset, h⟩⟩
  obtain ⟨-, hlog⟩ := hkept.run pci ([], dev) (by simp)
  refine ⟨hlog, fun hids a ha => ?_⟩
  have hin := hlog a ha
  cases a with
  | read offset value => exact inWindow_of_mem_reads hin
  | write offset value => exact inWindow_of_mem_writes hids hin

end Runs

/-! ### What the initialization has found stays true -/

/-- The registers that say what GPU it is. -/
def identityRegs : List UInt32 :=
  [NV_PMC_BOOT_0, NV_PFB_CFG0, NV_PFB_VRAM_SIZE, NV_PFB_NPARTS, NV_PGRAPH_GPC_COUNT,
    NV_PGRAPH_TPC_PER_GPC]

/-- The device `regs` with the registers that say what GPU it is, which hold their values until they
are written. -/
def GpuRegs.withIdentity {δ : Type*} (regs : GpuRegs δ) : GpuRegs ((UInt32 → UInt32) × δ) where
  read32 s offset :=
    if offset ∈ identityRegs then (s.1 offset, s)
    else ((regs.read32 s.2 offset).1, s.1, (regs.read32 s.2 offset).2)
  write32 s offset value :=
    if offset ∈ identityRegs then (Function.update s.1 offset value, s.2)
    else (s.1, regs.write32 s.2 offset value)

section Identity

variable {δ : Type} (regs : GpuRegs δ)

@[simp] theorem withIdentity_read32_snd (s : (UInt32 → UInt32) × δ) (offset : UInt32) :
    (regs.withIdentity.read32 s offset).2.1 = s.1 := by
  simp only [GpuRegs.withIdentity]
  split_ifs <;> rfl

theorem withIdentity_read32 (s : (UInt32 → UInt32) × δ) {offset : UInt32}
    (h : offset ∈ identityRegs) : (regs.withIdentity.read32 s offset).1 = s.1 offset := by
  simp only [GpuRegs.withIdentity, if_pos h]

theorem withIdentity_write32 (s : (UInt32 → UInt32) × δ) {offset : UInt32}
    (h : offset ∉ identityRegs) (value : UInt32) :
    (regs.withIdentity.write32 s offset value).1 = s.1 := by
  simp only [GpuRegs.withIdentity, if_neg h]

/-- Two initializations have found the same GPU and have left the driver in the same state. -/
structure SameGpu {ε : Type*} (a b : GpuDevice ε) : Prop where
  chipId : a.chipId = b.chipId
  gpcCount : a.gpcCount = b.gpcCount
  tpcPerGpc : a.tpcPerGpc = b.tpcPerGpc
  computeReady : a.computeReady = b.computeReady
  driver : a.driver = b.driver
  /-- The driver tells the same about both. -/
  info : a.queryInfo = b.queryInfo

theorem bindIfReady_channel_eq {ε : Type*} (compute : ComputeEngine) (ready : Bool)
    (channel : Option Channel) (regs : GpuRegs ε) (dev dev' : ε) :
    (bindIfReady compute ready channel regs dev).2.1 =
      (bindIfReady compute ready channel regs dev').2.1 := by
  cases channel with
  | none => rfl
  | some ch =>
    cases ready with
    | false => rfl
    | true =>
      simp only [bindIfReady, if_true, ComputeEngine.bindToChannel, Channel.submit]
      split_ifs <;> rfl

theorem detectAndInit_withIdentity (bar1CpuBase bar1Size : UInt64) (s : (UInt32 → UInt32) × δ) :
    (detectAndInit regs.withIdentity bar1CpuBase bar1Size s).1 =
        ofInfo (decodeInfo (s.1 NV_PFB_CFG0) (s.1 NV_PFB_VRAM_SIZE) (s.1 NV_PFB_NPARTS))
          bar1CpuBase bar1Size ∧
      (detectAndInit regs.withIdentity bar1CpuBase bar1Size s).2.1 = s.1 := by
  simp (disch := decide) only [detectAndInit, withIdentity_read32, withIdentity_read32_snd,
    and_self]

/-- The device when its VRAM is detected. -/
def atDetection {ε : Type*} (pci : GpuPciDevice) (regs : GpuRegs ε) (dev : ε) : ε :=
  let dev := regs.disableInterrupts (regs.readChipId dev).2
  if !pci.family.needsGspRm then ((Falcon.new .pmu).isHalted regs dev).2 else dev

theorem atDetection_withIdentity (pci : GpuPciDevice) (s : (UInt32 → UInt32) × δ) :
    (atDetection pci regs.withIdentity s).1 = s.1 := by
  unfold atDetection
  split_ifs <;> simp (disch := decide) only [GpuRegs.disableInterrupts, GpuRegs.readChipId,
    Falcon.isHalted, Falcon.read, withIdentity_read32_snd, withIdentity_write32]

theorem GpuDevice.setUp_fields {ε : Type*} (pci : GpuPciDevice) (regs : GpuRegs ε) (dev : ε) :
    let gpu := (GpuDevice.setUp pci regs dev).1.1
    let v := detectAndInit regs pci.bar1Base pci.bar1Size (atDetection pci regs dev)
    let ch := Channel.allocate v.1 0 0
    let ready := !pci.family.needsGspRm && ch.1.isSome
    gpu.chipId = (regs.readChipId dev).1 ∧ gpu.gpcCount = (regs.gpcCount v.2).1 ∧
      gpu.tpcPerGpc = (regs.tpcPerGpc (regs.gpcCount v.2).2).1 ∧ gpu.computeReady = ready ∧
      ∃ dev', gpu.driver = ⟨ch.2, .new pci.family, .new,
        (bindIfReady (.new pci.family) ready ch.1 regs dev').2.1.toList, [], [], []⟩ :=
  ⟨rfl, rfl, rfl, rfl, _, rfl⟩

/-- The VRAM allocator after the initialization, and the first channel. -/
def firstChannel (pci : GpuPciDevice) (v : UInt32 → UInt32) : Option Channel × VramAllocator :=
  Channel.allocate (ofInfo (decodeInfo (v NV_PFB_CFG0) (v NV_PFB_VRAM_SIZE) (v NV_PFB_NPARTS))
    pci.bar1Base pci.bar1Size) 0 0

/-- What the initialization records depends on the registers that say what GPU it is. -/
theorem setUp_withIdentity (pci : GpuPciDevice) (s : (UInt32 → UInt32) × δ) :
    let gpu := (GpuDevice.setUp pci regs.withIdentity s).1.1
    let ready := !pci.family.needsGspRm && (firstChannel pci s.1).1.isSome
    gpu.chipId = (s.1 NV_PMC_BOOT_0 >>> 20) &&& 0xFFF ∧
      gpu.gpcCount = s.1 NV_PGRAPH_GPC_COUNT ∧ gpu.tpcPerGpc = s.1 NV_PGRAPH_TPC_PER_GPC ∧
      gpu.computeReady = ready ∧
      ∃ dev', gpu.driver = ⟨(firstChannel pci s.1).2, .new pci.family, .new,
        (bindIfReady (.new pci.family) ready (firstChannel pci s.1).1
          regs.withIdentity dev').2.1.toList, [], [], []⟩ := by
  obtain ⟨hchip, hgpc, htpc, hready, dev', hdriver⟩ :=
    GpuDevice.setUp_fields pci regs.withIdentity s
  obtain ⟨hvram, hfst⟩ := detectAndInit_withIdentity regs pci.bar1Base pci.bar1Size
    (atDetection pci regs.withIdentity s)
  rw [atDetection_withIdentity] at hvram hfst
  rw [hvram] at hready hdriver
  simp (disch := decide) only [GpuRegs.readChipId, GpuRegs.gpcCount, GpuRegs.tpcPerGpc,
    withIdentity_read32, withIdentity_read32_snd, hfst] at hchip hgpc htpc
  exact ⟨hchip, hgpc, htpc, hready, dev', hdriver⟩

theorem setUp_sameGpu (pci : GpuPciDevice) {s s' : (UInt32 → UInt32) × δ} (h : s'.1 = s.1) :
    SameGpu (GpuDevice.setUp pci regs.withIdentity s').1.1
      (GpuDevice.setUp pci regs.withIdentity s).1.1 := by
  obtain ⟨hchip, hgpc, htpc, hready, dev, hdriver⟩ := setUp_withIdentity regs pci s
  obtain ⟨hchip', hgpc', htpc', hready', dev', hdriver'⟩ := setUp_withIdentity regs pci s'
  rw [h] at hchip' hgpc' htpc' hready' hdriver'
  rw [bindIfReady_channel_eq _ _ _ _ dev' dev, ← hdriver] at hdriver'
  refine ⟨hchip'.trans hchip.symm, hgpc'.trans hgpc.symm, htpc'.trans htpc.symm,
    hready'.trans hready.symm, hdriver', ?_⟩
  have htotal : (GpuDevice.setUp pci regs.withIdentity s').1.1.vram.info.totalBytes =
      (GpuDevice.setUp pci regs.withIdentity s).1.1.vram.info.totalBytes :=
    congrArg (fun d => d.vram.info.totalBytes) hdriver'
  simp only [GpuDevice.queryInfo, hgpc, hgpc', htpc, htpc', hready, hready', htotal]
  rfl

/-- After a run the initialization of a GPU finds what it has found before, and leaves the driver as
it was then, if no doorbell is one of the registers that say what GPU it is.  The accessor comes
with an equation, so that a device that holds it need not be unfolded. -/
theorem setUp_again (pci : GpuPciDevice) (s : (UInt32 → UInt32) × δ) (ops : List DriverOp)
    (hids : ∀ channelId ∈ channelIds ops, doorbell channelId ∉ identityRegs) :
    ∀ regs', regs' = regs.withIdentity →
      let r := GpuDevice.setUp pci regs' s
      let s' := ((driver r.1.1.regs).final (r.1.1.driver, r.2) ops).2
      SameGpu (GpuDevice.setUp pci regs' s').1.1 r.1.1 := by
  rintro _ rfl
  have hkept : KeptByAccesses regs.withIdentity (channelIds ops) fun s' => s'.1 = s.1 := by
    refine ⟨fun s' h offset _ => (withIdentity_read32_snd regs s' offset).trans h,
      fun s' h offset hoffset value => (withIdentity_write32 regs s' ?_ value).trans h⟩
    rcases hoffset with hmem | ⟨e, o, ho, rfl⟩ | ⟨channelId, hmem, rfl⟩
    · have hall : hostWrites.all fun o => decide (o ∉ identityRegs) := by decide
      exact of_decide_eq_true (List.all_eq_true.1 hall offset hmem)
    · have hall : falconWrites.all fun o =>
          decide ((Falcon.new e).base + o ∉ identityRegs) := by cases e <;> decide
      exact of_decide_eq_true (List.all_eq_true.1 hall o ho)
    · exact hids channelId hmem
  exact setUp_sameGpu regs pci (hkept.run pci s rfl).2

theorem GpuDevice.init_of_some {ε : Type*} {hb hb' : HostBridge} {pci : GpuPciDevice}
    (h : scanForNvidiaGpu hb = (some pci, hb')) (mmio : UInt64 → GpuRegs ε) (dev : ε) :
    GpuDevice.init mmio hb dev = (some (GpuDevice.setUp pci (mmio pci.bar0Base) dev).1, hb',
      (GpuDevice.setUp pci (mmio pci.bar0Base) dev).2) := by
  rw [GpuDevice.init, h]

theorem GpuDevice.init_of_none {ε : Type*} {hb hb' : HostBridge}
    (h : scanForNvidiaGpu hb = (none, hb')) (mmio : UInt64 → GpuRegs ε) (dev : ε) :
    GpuDevice.init mmio hb dev = (none, hb', dev) := by
  rw [GpuDevice.init, h]

/-- **The driver can be initialized again**: after a run, and whatever errors have been latched on
the bus, it finds the GPU it has found before, knows the same about it, and is as it was then; and
no register of the bus is changed. -/
theorem init_again {hb : HostBridge} (hrules : KeepRules hb.functions) (mmio : UInt64 → GpuRegs δ)
    (s : (UInt32 → UInt32) × δ) (ops : List DriverOp) (pciOps : List PciOp)
    (hids : ∀ channelId ∈ channelIds ops, doorbell channelId ∉ identityRegs) :
    let mmio' := fun base => (mmio base).withIdentity
    let r := GpuDevice.init mmio' hb s
    ∀ d ∈ r.1,
      let s' := ((driver d.1.regs).final (d.1.driver, r.2.2) ops).2
      let r' := GpuDevice.init mmio' (pciBus.final r.2.1 pciOps) s'
      (∃ d' ∈ r'.1, d'.1.pci = d.1.pci ∧ SameGpu d'.1 d.1) ∧
        r'.2.1.functions = (pciBus.final r.2.1 pciOps).functions := by
  intro mmio' r d hd
  obtain ⟨hsettled, -, -⟩ := settled_run hrules pciOps
  obtain ⟨hfound, hkept⟩ := hsettled.scan
  rcases hscan : scanForNvidiaGpu hb with ⟨_ | pci, hb'⟩
  · have hr : r = _ := GpuDevice.init_of_none hscan mmio' s
    rw [hr] at hd
    cases hd
  · rw [hscan] at hfound hkept
    have hr : r = _ := GpuDevice.init_of_some hscan mmio' s
    rw [hr] at hd ⊢
    obtain rfl : _ = d := Option.some.inj hd
    intro s' r'
    have hagain : scanForNvidiaGpu (pciBus.final hb' pciOps) =
        (some pci, (scanForNvidiaGpu (pciBus.final hb' pciOps)).2) := Prod.ext hfound rfl
    have hr' : r' = _ := GpuDevice.init_of_some hagain mmio' s'
    rw [hr']
    have hpci : ∀ s₁, (GpuDevice.setUp pci (mmio' pci.bar0Base) s₁).1.1.pci = pci :=
      fun s₁ => (GpuDevice.setUp_spec pci (mmio' pci.bar0Base) s₁).1
    refine ⟨⟨(GpuDevice.setUp pci (mmio' pci.bar0Base) s').1, Option.mem_some_self _, ?_, ?_⟩,
      hkept⟩
    · rw [hpci, hpci]
    · exact setUp_again (mmio pci.bar0Base) pci s ops hids _ rfl

end Identity

/-- A run with a second channel, whose doorbell is rung, and an error that is latched. -/
theorem init_again_second_channel :
    let mmio := fun _ : UInt64 => GpuRegs.plain.withIdentity
    let ops := [.allocateChannel 7 0, .submit 1 [1, 2, 3], .handleInterrupt]
    let pciOps := [.latch ⟨0, 0, 0⟩ 0x20000000]
    let r := GpuDevice.init mmio (HostBridge.of [(⟨0, 0, 0⟩, ampereSpace)])
      (fun _ => 3, fun _ => 0)
    ∃ d ∈ r.1,
      let s' := ((driver d.1.regs).final (d.1.driver, r.2.2) ops).2
      let r' := GpuDevice.init mmio (pciBus.final r.2.1 pciOps) s'
      (∃ d' ∈ r'.1, d'.1.pci = d.1.pci ∧ SameGpu d'.1 d.1) ∧
        r'.2.1.functions = (pciBus.final r.2.1 pciOps).functions := by
  have hrules : KeepRules (HostBridge.of [(⟨0, 0, 0⟩, ampereSpace)]).functions := by
    intro p hp
    obtain rfl := eq_of_isGpu_of hp
    exact ⟨by decide, by decide⟩
  have hids : ∀ channelId ∈ channelIds [.allocateChannel 7 0, .submit 1 [1, 2, 3],
      .handleInterrupt], doorbell channelId ∉ identityRegs := by
    rintro channelId (rfl | ⟨engineId, hmem⟩)
    · decide
    · obtain ⟨rfl, -⟩ : channelId = 7 ∧ engineId = 0 := by simpa using hmem
      decide
  have hagain := init_again hrules (fun _ => GpuRegs.plain) (fun _ => 3, fun _ => 0)
    [.allocateChannel 7 0, .submit 1 [1, 2, 3], .handleInterrupt]
    [.latch ⟨0, 0, 0⟩ 0x20000000] hids
  have hsome : (GpuDevice.init (fun _ => GpuRegs.plain.withIdentity)
      (HostBridge.of [(⟨0, 0, 0⟩, ampereSpace)])
      ((fun _ => 3, fun _ => 0) : (UInt32 → UInt32) × (UInt32 → UInt32))).1.isSome := by
    decide
  obtain ⟨d, hd⟩ := Option.isSome_iff_exists.1 hsome
  exact ⟨d, hd, hagain d hd⟩

end GpuCompute
