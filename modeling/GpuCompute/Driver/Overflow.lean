import GpuCompute.Compute.Overflow
import GpuCompute.Driver.Init
import GpuCompute.Pci.Overflow

/-!
# Overflow in the initialization

The initialization computes with what it reads from the configuration space and from the registers.
A GPU that is missing or without power returns all ones, so that every value must be expected.  The
driver expects them everywhere but for the topology: the number of SMs is the product of the values
of two registers as they are, in 32 bits.  It is computed for a message during the initialization,
and again by `GpuDevice.queryInfo`.

The method header and the ring entry with which the class is bound are made by shifts of a fixed
amount from what the driver has itself, and these are left without checks.

* `GpuInfo`, `GpuDevice.queryInfo` : what the device tells about itself.
* `GpuDevice.initChecked`, `GpuDevice.queryInfoChecked` : both with overflow checks.
* `NoOverflowInBringUp` : neither stops, and the size of VRAM is bounded.
* `TopologyFits` : the values of the two registers have a product.
* `GpuDevice.setUpChecked_eq_some_iff`, `GpuDevice.initChecked_eq_some_iff` : when the checks change
  nothing.
* `noOverflowInBringUp_iff` : there is no overflow exactly when the topology fits.
-/

namespace GpuCompute

open Systems VramAllocator

/-! ### What the device tells about itself -/

/-- The SMs in a TPC. -/
def GpuFamily.smsPerTpc : GpuFamily → UInt32
  | .ampere | .ada => 2
  | _ => 1

/-- The number of SMs, checked at every step. -/
def GpuFamily.smCountChecked (family : GpuFamily) (gpcCount tpcPerGpc : UInt32) : Option UInt32 :=
  checkedProd gpcCount [tpcPerGpc, family.smsPerTpc]

/-- Information about a GPU. -/
structure GpuInfo where
  /-- Name. -/
  name : String
  /-- Family. -/
  family : GpuFamily
  /-- PCI device ID. -/
  deviceId : UInt16
  /-- Total VRAM in bytes. -/
  vramBytes : UInt64
  /-- Number of GPCs. -/
  gpcCount : UInt32
  /-- Number of TPCs in a GPC. -/
  tpcPerGpc : UInt32
  /-- Number of SMs. -/
  smCount : UInt32
  /-- Whether the firmware is required. -/
  needsGspRm : Bool
  /-- Whether the GPU is ready for compute. -/
  computeReady : Bool
  deriving DecidableEq

namespace GpuDevice

variable {δ : Type*}

/-- Query GPU information. -/
def queryInfo (device : GpuDevice δ) : GpuInfo where
  name := device.pci.name
  family := device.pci.family
  deviceId := device.pci.deviceId
  vramBytes := device.vram.info.totalBytes
  gpcCount := device.gpcCount
  tpcPerGpc := device.tpcPerGpc
  smCount := device.gpcCount * device.tpcPerGpc * device.pci.family.smsPerTpc
  needsGspRm := device.pci.family.needsGspRm
  computeReady := device.computeReady

/-- Query GPU information in a build that stops when the arithmetic overflows. -/
def queryInfoChecked (device : GpuDevice δ) : Option GpuInfo :=
  (device.pci.family.smCountChecked device.gpcCount device.tpcPerGpc).map fun smCount =>
  { name := device.pci.name, family := device.pci.family, deviceId := device.pci.deviceId,
    vramBytes := device.vram.info.totalBytes, gpcCount := device.gpcCount,
    tpcPerGpc := device.tpcPerGpc, smCount, needsGspRm := device.pci.family.needsGspRm,
    computeReady := device.computeReady }

end GpuDevice

/-! ### The initialization with overflow checks -/

section Checked

variable {δ : Type*}

/-- The chip ID, with the shift checked. -/
def GpuRegs.readChipIdChecked (regs : GpuRegs δ) (dev : δ) : Option (UInt32 × δ) :=
  let (boot0, dev) := regs.read32 dev NV_PMC_BOOT_0
  (checkedShiftRight boot0 20).map fun id => (id &&& 0xFFF, dev)

/-- Whether a Falcon is halted, with the offset of the register checked. -/
def Falcon.isHaltedChecked (f : Falcon) (regs : GpuRegs δ) (dev : δ) : Option (Bool × δ) :=
  (checkedAdd f.base FALCON_CPUCTL).map fun offset =>
  let (cpuctl, dev) := regs.read32 dev offset
  ((cpuctl &&& FALCON_CPUCTL_HALT) != 0, dev)

/-- Bind the compute class, the submit checked. -/
def ComputeEngine.bindToChannelChecked (engine : ComputeEngine) (channel : Channel)
    (regs : GpuRegs δ) (dev : δ) : Option (Bound × Channel × δ) :=
  let cmds := [gpuMethod1 engine.subchannel 0x0000, engine.classId]
  (channel.submitChecked regs cmds dev).map fun (submission, channel, dev) =>
  ({ cmds, submission }, channel, dev)

/-- Bind the compute class if the device is ready, checked. -/
def bindIfReadyChecked (compute : ComputeEngine) (computeReady : Bool)
    (computeChannel : Option Channel) (regs : GpuRegs δ) (dev : δ) :
    Option (Option Bound × Option Channel × δ) :=
  match computeChannel with
  | some ch =>
    if computeReady then
      (compute.bindToChannelChecked ch regs dev).map fun (bound, ch, dev) =>
      (some bound, some ch, dev)
    else some (none, some ch, dev)
  | none => some (none, none, dev)

/-- Initialize a GPU that was found in a build that stops when the arithmetic overflows: `none` says
that it has stopped. -/
def GpuDevice.setUpChecked (pci : GpuPciDevice) (regs : GpuRegs δ) (dev : δ) :
    Option ((GpuDevice δ × Option Bound) × δ) :=
  -- the size of BAR0 is logged in MiB
  (checkedMul (1024 : UInt64) 1024).bind fun _ =>
  (regs.readChipIdChecked dev).bind fun (chipId, dev) =>
  let dev := regs.disableInterrupts dev
  let needsGspRm := pci.family.needsGspRm
  (if !needsGspRm then ((Falcon.new .pmu).isHaltedChecked regs dev).map Prod.snd
    else some dev).bind fun dev =>
  (detectAndInitChecked regs pci.bar1Base pci.bar1Size dev).bind fun (vram, dev) =>
  let (gpcCount, dev) := regs.gpcCount dev
  let (tpcPerGpc, dev) := regs.tpcPerGpc dev
  -- the number of SMs is logged
  (pci.family.smCountChecked gpcCount tpcPerGpc).bind fun _ =>
  let dev := initFifo regs dev
  let compute := ComputeEngine.new pci.family
  (Channel.allocateChecked vram 0 0).bind fun (computeChannel, vram) =>
  let computeReady := !needsGspRm && computeChannel.isSome
  (bindIfReadyChecked compute computeReady computeChannel regs dev).map
    fun (bound, computeChannel, dev) =>
  let tensors := TensorEngine.new
  let dev := regs.enableInterrupts dev
  (({ pci, regs, vram, compute, tensors, computeChannel, computeReady, chipId, gpcCount,
      tpcPerGpc }, bound), dev)

/-- Look for a GPU and initialize it in a build that stops when the arithmetic overflows. -/
def GpuDevice.initChecked (mmio : UInt64 → GpuRegs δ) (hb : HostBridge) (dev : δ) :
    Option (Option (GpuDevice δ × Option Bound) × HostBridge × δ) :=
  (scanForNvidiaGpuChecked hb).bind fun
    | (none, hb) => some (none, hb, dev)
    | (some pci, hb) =>
      (GpuDevice.setUpChecked pci (mmio pci.bar0Base) dev).map fun (device, dev) =>
      (some device, hb, dev)

/-- What the two topology registers read, after all that is accessed before them. -/
def topologyRead (regs : GpuRegs δ) (family : GpuFamily) (dev : δ) : UInt32 × UInt32 :=
  let dev := regs.disableInterrupts (regs.readChipId dev).2
  let dev := if !family.needsGspRm then ((Falcon.new .pmu).isHalted regs dev).2 else dev
  let dev := (regs.read32 dev NV_PFB_CFG0).2
  let dev := (regs.read32 dev NV_PFB_VRAM_SIZE).2
  let dev := (regs.read32 dev NV_PFB_NPARTS).2
  let (gpcCount, dev) := regs.read32 dev NV_PGRAPH_GPC_COUNT
  (gpcCount, (regs.read32 dev NV_PGRAPH_TPC_PER_GPC).1)

/-- The values that the topology registers of a GPU read have a product, with the number of SMs in a
TPC of its family. -/
def TopologyFits (mmio : UInt64 → GpuRegs δ) (dev : δ) (c : ConfigSpace) : Prop :=
  let family := deviceIdToFamily c.deviceId
  let topology := topologyRead (mmio (decodeBar64 (c 4).value (c 5).value).1) family dev
  ProductFits topology.1 topology.2 family.smsPerTpc

/-- There is no overflow in the functions of the bring-up, with these registers and this
configuration space, and no more than 128 GiB of VRAM are found. -/
structure NoOverflowInBringUp (mmio : UInt64 → GpuRegs δ) (hb : HostBridge) (dev : δ) : Prop where
  init : (GpuDevice.initChecked mmio hb dev).isSome
  detectAndInit : ∀ bar0Base bar1CpuBase bar1Size,
    (detectAndInitChecked (mmio bar0Base) bar1CpuBase bar1Size dev).isSome
  allocate : ∀ bar0Base bar1CpuBase bar1Size engineId,
    (Channel.allocateChecked (VramAllocator.detectAndInit (mmio bar0Base) bar1CpuBase bar1Size
      dev).1 0 engineId).isSome
  probeBarSize : ∀ bus device function barOffset,
    (probeBarSizeChecked bus device function barOffset hb).isSome
  queryInfo : ∀ d bound, (GpuDevice.init mmio hb dev).1 = some (d, bound) →
    d.queryInfoChecked.isSome
  totalBytes : ∀ bar0Base bar1CpuBase bar1Size,
    (VramAllocator.detectAndInit (mmio bar0Base) bar1CpuBase bar1Size
      dev).1.info.totalBytes.toNat ≤ 128 * 2 ^ 30

/-! ### No overflow in the steps -/

theorem GpuRegs.readChipIdChecked_eq (regs : GpuRegs δ) (dev : δ) :
    regs.readChipIdChecked dev = some (regs.readChipId dev) := by
  simp only [GpuRegs.readChipIdChecked]
  rw [checkedShiftRight_of_lt (by decide)]
  rfl

theorem Falcon.isHaltedChecked_pmu (regs : GpuRegs δ) (dev : δ) :
    (Falcon.new .pmu).isHaltedChecked regs dev = some ((Falcon.new .pmu).isHalted regs dev) := by
  rw [Falcon.isHaltedChecked, checkedAdd_of_lt (by decide)]
  rfl

theorem GpuFamily.smCountChecked_eq_some_iff {family : GpuFamily} {gpcCount tpcPerGpc n : UInt32} :
    family.smCountChecked gpcCount tpcPerGpc = some n ↔
      ProductFits gpcCount tpcPerGpc family.smsPerTpc ∧
        n = gpcCount * tpcPerGpc * family.smsPerTpc :=
  checkedProd_three_eq_some_iff

/-- **When there is no overflow in a query.** -/
theorem GpuDevice.queryInfoChecked_eq_some_iff {device : GpuDevice δ} {info : GpuInfo} :
    device.queryInfoChecked = some info ↔
      ProductFits device.gpcCount device.tpcPerGpc device.pci.family.smsPerTpc ∧
        info = device.queryInfo := by
  simp only [queryInfoChecked, Option.map_eq_some_iff, GpuFamily.smCountChecked_eq_some_iff]
  constructor
  · rintro ⟨_, ⟨hfits, rfl⟩, rfl⟩
    exact ⟨hfits, rfl⟩
  · rintro ⟨hfits, rfl⟩
    exact ⟨_, ⟨hfits, rfl⟩, rfl⟩

theorem bindIfReadyChecked_eq (compute : ComputeEngine) (ready : Bool) {channel : Option Channel}
    (hchannel : ∀ ch ∈ channel, ch.Bounded) (regs : GpuRegs δ) (dev : δ) :
    bindIfReadyChecked compute ready channel regs dev =
      some (bindIfReady compute ready channel regs dev) := by
  cases channel with
  | none => rfl
  | some ch =>
    have hshort : ShortSlice [gpuMethod1 compute.subchannel 0x0000, compute.classId] := by
      unfold ShortSlice
      exact Nat.le_of_ble_eq_true rfl
    have hbind : compute.bindToChannelChecked ch regs dev =
        some (compute.bindToChannel ch regs dev) := by
      rw [ComputeEngine.bindToChannelChecked, (hchannel ch rfl).submitChecked regs hshort]
      rfl
    simp only [bindIfReadyChecked, bindIfReady, hbind]
    split_ifs <;> rfl

theorem allocateChecked_detectAndInit (regs : GpuRegs δ) (bar1CpuBase bar1Size : UInt64) (dev : δ)
    (engineId : UInt32) :
    Channel.allocateChecked (detectAndInit regs bar1CpuBase bar1Size dev).1 0 engineId =
      some (Channel.allocate (detectAndInit regs bar1CpuBase bar1Size dev).1 0 engineId) :=
  (detectAndInit_vaWithinVram regs _ _ _).allocateChannelChecked (by decide) engineId

theorem bounded_allocate_detectAndInit (regs : GpuRegs δ) (bar1CpuBase bar1Size : UInt64) (dev : δ)
    (engineId : UInt32) :
    ∀ ch ∈ (Channel.allocate (detectAndInit regs bar1CpuBase bar1Size dev).1 0 engineId).1,
      ch.Bounded := by
  intro ch hch
  exact (((detectAndInit_vaWithinVram regs _ _ _).allocateChannel 0 engineId).2 ch hch).bounded

/-! ### When there is no overflow -/

/-- **When there is no overflow in the initialization of a GPU**: then the checks change nothing. -/
theorem GpuDevice.setUpChecked_eq_some_iff (pci : GpuPciDevice) (regs : GpuRegs δ) (dev : δ)
    {r : (GpuDevice δ × Option Bound) × δ} :
    GpuDevice.setUpChecked pci regs dev = some r ↔
      ProductFits (topologyRead regs pci.family dev).1 (topologyRead regs pci.family dev).2
          pci.family.smsPerTpc ∧
        r = GpuDevice.setUp pci regs dev := by
  have hmib : checkedMul (1024 : UInt64) 1024 = some (1024 * 1024) := rfl
  have hpmu : ∀ dev, (if !pci.family.needsGspRm then
      ((Falcon.new .pmu).isHaltedChecked regs dev).map Prod.snd else some dev) =
        some (if !pci.family.needsGspRm then ((Falcon.new .pmu).isHalted regs dev).2
          else dev) := by
    intro dev
    rw [Falcon.isHaltedChecked_pmu]
    split_ifs <;> rfl
  simp only [setUpChecked, hmib, GpuRegs.readChipIdChecked_eq, hpmu, detectAndInitChecked_eq,
    Option.bind_some, allocateChecked_detectAndInit,
    bindIfReadyChecked_eq _ _ (bounded_allocate_detectAndInit regs _ _ _ _), Option.map_some,
    Option.bind_eq_some_iff, GpuFamily.smCountChecked_eq_some_iff, Option.some.injEq]
  constructor
  · rintro ⟨_, ⟨hfits, -⟩, rfl⟩
    exact ⟨hfits, rfl⟩
  · rintro ⟨hfits, rfl⟩
    exact ⟨_, ⟨hfits, rfl⟩, rfl⟩

theorem topologyFits_iff {mmio : UInt64 → GpuRegs δ} {dev : δ} {pci : GpuPciDevice}
    {c : ConfigSpace} (h : pci.Reads c) :
    TopologyFits mmio dev c ↔
      ProductFits (topologyRead (mmio pci.bar0Base) pci.family dev).1
        (topologyRead (mmio pci.bar0Base) pci.family dev).2 pci.family.smsPerTpc := by
  rw [TopologyFits, ← h.family, ← h.bar0Base]

/-- **When there is no overflow in the initialization.** -/
theorem GpuDevice.initChecked_eq_some_iff (mmio : UInt64 → GpuRegs δ) (hb : HostBridge) (dev : δ)
    {r : Option (GpuDevice δ × Option Bound) × HostBridge × δ} :
    GpuDevice.initChecked mmio hb dev = some r ↔
      (∀ p, FirstOnZero hb.functions p → TopologyFits mmio dev (hb.functions p)) ∧
        r = GpuDevice.init mmio hb dev := by
  unfold GpuDevice.initChecked GpuDevice.init
  rw [scanForNvidiaGpuChecked_eq, Option.bind_some]
  generalize hscan : scanForNvidiaGpu hb = scan
  obtain ⟨_ | pci, hb'⟩ := scan
  · have hnone := scanForNvidiaGpu_none (congrArg Prod.fst hscan)
    simp only [hnone, false_imp_iff, implies_true, true_and, Option.some.injEq, eq_comm]
  · obtain ⟨hfirst, hreads⟩ := scanForNvidiaGpu_some (congrArg Prod.fst hscan)
    rw [hfirst.forall_iff (P := fun p => TopologyFits mmio dev (hb.functions p)),
      topologyFits_iff hreads]
    simp only [Option.map_eq_some_iff, setUpChecked_eq_some_iff]
    constructor
    · rintro ⟨_, ⟨hfits, rfl⟩, rfl⟩
      exact ⟨hfits, rfl⟩
    · rintro ⟨hfits, rfl⟩
      exact ⟨_, ⟨hfits, rfl⟩, rfl⟩

/-- **There is no overflow in the bring-up exactly when** the values of the topology registers of
the GPU that is found have a product of 32 bits. -/
theorem noOverflowInBringUp_iff (mmio : UInt64 → GpuRegs δ) (hb : HostBridge) (dev : δ) :
    NoOverflowInBringUp mmio hb dev ↔
      ∀ p, FirstOnZero hb.functions p → TopologyFits mmio dev (hb.functions p) := by
  constructor
  · intro h
    obtain ⟨r, hr⟩ := Option.isSome_iff_exists.1 h.init
    exact ((GpuDevice.initChecked_eq_some_iff mmio hb dev).1 hr).1
  · intro h
    constructor
    case init =>
      rw [(GpuDevice.initChecked_eq_some_iff mmio hb dev).2 ⟨h, rfl⟩]
      rfl
    case detectAndInit =>
      intro bar0Base bar1CpuBase bar1Size
      rw [detectAndInitChecked_eq]
      rfl
    case allocate =>
      intro bar0Base bar1CpuBase bar1Size engineId
      rw [allocateChecked_detectAndInit]
      rfl
    case probeBarSize =>
      intro bus device function barOffset
      rw [probeBarSizeChecked_eq]
      rfl
    case queryInfo =>
      intro d bound hd
      obtain ⟨hinit, -⟩ | ⟨pci, hfirst, hreads, hinit⟩ := GpuDevice.init_cases mmio hb dev
      · rw [hinit] at hd
        cases hd
      · obtain rfl : d = (GpuDevice.setUp pci (mmio pci.bar0Base) dev).1.1 :=
          congrArg Prod.fst (Option.some.inj (hd.symm.trans hinit))
        rw [GpuDevice.queryInfoChecked_eq_some_iff.2
          ⟨(topologyFits_iff hreads).1 (h _ hfirst), rfl⟩]
        rfl
    case totalBytes => exact fun _ _ _ => (decodeVramSize_spec _).2

end Checked

/-- Registers of a GPU that does not answer: every read returns all ones. -/
def GpuRegs.allOnes : GpuRegs Unit where
  read32 _ _ := (0xFFFFFFFF, ())
  write32 _ _ _ := ()

/-- The number of SMs of a GPU that is found and does not answer overflows. -/
theorem not_noOverflowInBringUp_allOnes :
    ((GpuDevice.init (fun _ => GpuRegs.allOnes) (HostBridge.of [(⟨0, 0, 0⟩, ampereSpace)])
        ()).1.map fun r => (r.1.gpcCount, r.1.tpcPerGpc)) = some (0xFFFFFFFF, 0xFFFFFFFF) ∧
      ¬ NoOverflowInBringUp (fun _ => GpuRegs.allOnes)
        (HostBridge.of [(⟨0, 0, 0⟩, ampereSpace)]) () := by
  have hstop : (GpuDevice.initChecked (fun _ => GpuRegs.allOnes)
      (HostBridge.of [(⟨0, 0, 0⟩, ampereSpace)]) ()).isSome = false := by decide
  refine ⟨by decide, fun h => ?_⟩
  rw [h.init] at hstop
  cases hstop

end GpuCompute
