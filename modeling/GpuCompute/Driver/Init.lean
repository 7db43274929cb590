import GpuCompute.Compute.Engine
import GpuCompute.Falcon.Basic
import GpuCompute.Fifo.Allocate
import GpuCompute.Fifo.Runlist
import GpuCompute.Pci.Scan
import GpuCompute.Tensor.Basic

/-!
# Device initialization

`GpuDevice.init` scans the PCI bus, detects VRAM, allocates a channel and binds the compute class
to it.  A GPU that needs the GSP-RM firmware gets no class.  Of a GPU that the driver does not know
it is assumed that it needs none.

* `GpuDevice`, `GpuDevice.init` : the device and its initialization.
* `BindsOwnClass` : a device that is ready is listed for a family before Turing, and the class of
  that family is bound.
* `Channel.allocate_detectAndInit_isSome_iff` : how much VRAM a channel takes.
* `GpuDevice.setUp_spec` : what the initialization of a GPU that was found does.
* `GpuDevice.init_cases` : what the initialization returns.
* `ownClass_iff` : which GPUs are taken for one of another family before Turing.
* `bindsOwnClass_iff` : the class is the right one exactly when VRAM is too small or the GPU is
  listed, and not for Volta.
-/

namespace GpuCompute

open Systems VramAllocator

/-- The families whose compute engines need the GSP-RM firmware. -/
def GpuFamily.needsGspRm : GpuFamily → Bool
  | .turing | .ampere | .ada => true
  | _ => false

/-- The GPU with all its resources. -/
structure GpuDevice (δ : Type*) where
  /-- PCI device info. -/
  pci : GpuPciDevice
  /-- Register accessor. -/
  regs : GpuRegs δ
  /-- VRAM allocator. -/
  vram : VramAllocator
  /-- Compute engine. -/
  compute : ComputeEngine
  /-- Tensor engine. -/
  tensors : TensorEngine
  /-- Compute channel. -/
  computeChannel : Option Channel
  /-- Whether the GPU is initialized for compute. -/
  computeReady : Bool
  /-- Chip ID. -/
  chipId : UInt32
  /-- Number of GPCs. -/
  gpcCount : UInt32
  /-- Number of TPCs in a GPC. -/
  tpcPerGpc : UInt32

/-- Bind the compute class if the device is ready. -/
def bindIfReady {δ : Type*} (compute : ComputeEngine) (computeReady : Bool)
    (computeChannel : Option Channel) (regs : GpuRegs δ) (dev : δ) :
    Option Bound × Option Channel × δ :=
  match computeChannel with
  | some ch =>
    if computeReady then
      let (bound, ch, dev) := compute.bindToChannel ch regs dev
      (some bound, some ch, dev)
    else (none, some ch, dev)
  | none => (none, none, dev)

/-- Initialize a GPU that was found: the device and what was bound to its channel, and the
hardware afterwards. -/
def GpuDevice.setUp {δ : Type*} (pci : GpuPciDevice) (regs : GpuRegs δ) (dev : δ) :
    (GpuDevice δ × Option Bound) × δ :=
  let (chipId, dev) := regs.readChipId dev
  let dev := regs.disableInterrupts dev
  let needsGspRm := pci.family.needsGspRm
  -- whether the PMU runs is only logged
  let dev := if !needsGspRm then ((Falcon.new .pmu).isHalted regs dev).2 else dev
  let (vram, dev) := detectAndInit regs pci.bar1Base pci.bar1Size dev
  let (gpcCount, dev) := regs.gpcCount dev
  let (tpcPerGpc, dev) := regs.tpcPerGpc dev
  let dev := initFifo regs dev
  let compute := ComputeEngine.new pci.family
  let (computeChannel, vram) := Channel.allocate vram 0 0
  let computeReady := !needsGspRm && computeChannel.isSome
  let (bound, computeChannel, dev) := bindIfReady compute computeReady computeChannel regs dev
  let tensors := TensorEngine.new
  let dev := regs.enableInterrupts dev
  (({ pci, regs, vram, compute, tensors, computeChannel, computeReady, chipId, gpcCount,
      tpcPerGpc }, bound), dev)

/-- Look for a GPU and initialize it.  `mmio` is the accessor of the registers at an address. -/
def GpuDevice.init {δ : Type*} (mmio : UInt64 → GpuRegs δ) (hb : HostBridge) (dev : δ) :
    Option (GpuDevice δ × Option Bound) × HostBridge × δ :=
  match scanForNvidiaGpu hb with
  | (none, hb) => (none, hb, dev)
  | (some pci, hb) =>
    let (device, dev) := GpuDevice.setUp pci (mmio pci.bar0Base) dev
    (some device, hb, dev)

/-- A device that is ready for compute is listed for a family before Turing, it has a channel, and
the class of this family has been bound to it. -/
def BindsOwnClass {δ : Type*} (r : Option (GpuDevice δ × Option Bound)) : Prop :=
  ∀ d bound, r = some (d, bound) → d.computeReady = true →
    ∃ family ∈ [GpuFamily.kepler, .maxwell, .pascal, .volta],
      listedFamily d.pci.deviceId = family ∧ d.computeChannel.isSome ∧
        ∃ b, bound = some b ∧ b.submission.isSome ∧
          b.cmds = [gpuMethod1 d.compute.subchannel 0, computeClassForFamily family]

/-- What the VRAM size register reads when VRAM is detected, the PMU having been looked at. -/
def vramSizeRead {δ : Type*} (regs : GpuRegs δ) (dev : δ) : UInt32 :=
  let dev := regs.disableInterrupts (regs.readChipId dev).2
  let dev := ((Falcon.new .pmu).isHalted regs dev).2
  (regs.read32 (regs.read32 dev NV_PFB_CFG0).2 NV_PFB_VRAM_SIZE).1

/-! ### How much VRAM a channel takes -/

theorem Channel.allocate_detectAndInit_isSome_iff {δ : Type*} (regs : GpuRegs δ)
    (bar1CpuBase bar1Size : UInt64) (dev : δ) (channelId engineId : UInt32) :
    (Channel.allocate (detectAndInit regs bar1CpuBase bar1Size dev).1 channelId
        engineId).1.isSome ↔
      2 * 2 ^ 20 ≤ (decodeVramSize
        (regs.read32 (regs.read32 dev NV_PFB_CFG0).2 NV_PFB_VRAM_SIZE).1).toNat := by
  obtain ⟨hdvd, -⟩ := decodeVramSize_spec
    (regs.read32 (regs.read32 dev NV_PFB_CFG0).2 NV_PFB_VRAM_SIZE).1
  have h : (detectAndInit regs bar1CpuBase bar1Size dev).1.RepresentsArena _ :=
    ofInfo_representsArena _ _ _
  have hfree : 2 ^ 20 + (detectAndInit regs bar1CpuBase bar1Size dev).1.freeBytes =
      2 ^ 20 + ((decodeVramSize
        (regs.read32 (regs.read32 dev NV_PFB_CFG0).2 NV_PFB_VRAM_SIZE).1).toNat - 2 ^ 20) :=
    h.freeBytes
  rw [Channel.allocate_isSome_iff h]
  omega

/-! ### What the initialization does -/

theorem ComputeEngine.bindToChannel_fresh {δ : Type*} (engine : ComputeEngine) {ch : Channel}
    (h : ch.Fresh) (regs : GpuRegs δ) (dev : δ) :
    ((engine.bindToChannel ch regs dev).1.submission).isSome := by
  have haccepts : ch.Accepts [gpuMethod1 engine.subchannel 0x0000, engine.classId].length := by
    rw [Channel.accepts_iff, h.pushOffset, h.pushSize]
    exact Nat.le_of_ble_eq_true rfl
  unfold bindToChannel
  simp only [Channel.submit_of_accepts regs haccepts, Option.isSome_some]

theorem bindIfReady_spec {δ : Type*} (compute : ComputeEngine) {ready : Bool}
    {channel : Option Channel} (hfresh : ∀ ch ∈ channel, ch.Fresh)
    (hready : ready = true → channel.isSome) (regs : GpuRegs δ) (dev : δ) (h : ready = true) :
    (bindIfReady compute ready channel regs dev).2.1.isSome ∧
      ∃ b, (bindIfReady compute ready channel regs dev).1 = some b ∧ b.submission.isSome ∧
        b.cmds = [gpuMethod1 compute.subchannel 0, compute.classId] := by
  obtain ⟨ch, rfl⟩ := Option.isSome_iff_exists.1 (hready h)
  subst h
  exact ⟨rfl, _, rfl, compute.bindToChannel_fresh (hfresh ch rfl) regs dev, rfl⟩

theorem Channel.fresh_of_allocate {a : VramAllocator} {channelId engineId : UInt32} :
    ∀ ch ∈ (Channel.allocate a channelId engineId).1, ch.Fresh := by
  intro ch hch
  have hpair : Channel.allocate a channelId engineId =
      (some ch, (Channel.allocate a channelId engineId).2) := Prod.ext hch rfl
  exact (Channel.allocate_spec hpair).1

/-- **What the initialization of a GPU does**: the device is ready exactly when it needs no
firmware and a channel could be allocated, and then the compute class of its family is bound. -/
theorem GpuDevice.setUp_spec {δ : Type*} (pci : GpuPciDevice) (regs : GpuRegs δ) (dev : δ) :
    let r := (GpuDevice.setUp pci regs dev).1
    r.1.pci = pci ∧ r.1.compute = .new pci.family ∧
      (r.1.computeReady = true ↔ pci.family.needsGspRm = false ∧
        2 * 2 ^ 20 ≤ (decodeVramSize (vramSizeRead regs dev)).toNat) ∧
      (r.1.computeReady = true → r.1.computeChannel.isSome ∧ ∃ b, r.2 = some b ∧
        b.submission.isSome ∧ b.cmds = [gpuMethod1 0 0, computeClassForFamily pci.family]) := by
  refine ⟨rfl, rfl, ?_, fun hready => ?_⟩
  · show (!pci.family.needsGspRm && (Channel.allocate (detectAndInit regs pci.bar1Base pci.bar1Size
      (if !pci.family.needsGspRm then _ else _)).1 0 0).1.isSome) = true ↔ _
    cases hgsp : pci.family.needsGspRm with
    | false =>
      refine (Channel.allocate_detectAndInit_isSome_iff regs pci.bar1Base pci.bar1Size
        ((Falcon.new .pmu).isHalted regs (regs.disableInterrupts (regs.readChipId dev).2)).2
        0 0).trans ?_
      exact (and_iff_right rfl).symm
    | true => exact iff_of_false Bool.false_ne_true fun h => Bool.noConfusion h.1
  · exact bindIfReady_spec (.new pci.family) Channel.fresh_of_allocate
      (fun h => (Bool.and_eq_true_iff.1 h).2) regs _ hready

/-- **What the initialization returns**: the first GPU on a function `0`, set up, or nothing if
there is none. -/
theorem GpuDevice.init_cases {δ : Type*} (mmio : UInt64 → GpuRegs δ) (hb : HostBridge) (dev : δ) :
    (GpuDevice.init mmio hb dev).1 = none ∧ (∀ p, ¬ FirstOnZero hb.functions p) ∨
      ∃ pci : GpuPciDevice, FirstOnZero hb.functions pci.bdf ∧ pci.Reads (hb.functions pci.bdf) ∧
        (GpuDevice.init mmio hb dev).1 =
          some (GpuDevice.setUp pci (mmio pci.bar0Base) dev).1 := by
  rcases hscan : scanForNvidiaGpu hb with ⟨_ | pci, hb'⟩
  · refine .inl ⟨?_, scanForNvidiaGpu_none (congrArg Prod.fst hscan)⟩
    rw [GpuDevice.init, hscan]
  · obtain ⟨hfirst, hreads⟩ := scanForNvidiaGpu_some (congrArg Prod.fst hscan)
    refine .inr ⟨pci, hfirst, hreads, ?_⟩
    rw [GpuDevice.init, hscan]

/-! ### The class of a device that is ready -/

/-- The family that the driver takes a GPU for needs firmware, or its class is the one of a listed
family before Turing, exactly for the listed GPUs without the Voltas. -/
theorem ownClass_iff (deviceId : UInt16) :
    ((deviceIdToFamily deviceId).needsGspRm = false →
      ∃ family ∈ [GpuFamily.kepler, .maxwell, .pascal, .volta], listedFamily deviceId = family ∧
        computeClassForFamily (deviceIdToFamily deviceId) = computeClassForFamily family) ↔
      listedFamily deviceId ≠ .unknown ∧ listedFamily deviceId ≠ .volta := by
  obtain ⟨hlisted, hfamily⟩ | ⟨hlisted, hfamily⟩ | ⟨hvolta, hfamily⟩ :=
    listedFamily_cases deviceId
  · -- a Volta is taken for a Pascal
    rw [hlisted, hfamily]
    decide
  · -- an Ada is taken for an Ampere, and both need firmware
    rw [hlisted, hfamily]
    decide
  · rw [hfamily]
    generalize listedFamily deviceId = family at hvolta
    revert hvolta
    cases family <;> decide

theorem bindsOwnClass_setUp_iff {δ : Type*} {pci : GpuPciDevice}
    (hfamily : pci.family = deviceIdToFamily pci.deviceId) (regs : GpuRegs δ) (dev : δ) :
    BindsOwnClass (some (GpuDevice.setUp pci regs dev).1) ↔
      (decodeVramSize (vramSizeRead regs dev)).toNat < 2 * 2 ^ 20 ∨
        listedFamily pci.deviceId ≠ .unknown ∧ listedFamily pci.deviceId ≠ .volta := by
  have hspec := GpuDevice.setUp_spec pci regs dev
  generalize GpuDevice.setUp pci regs dev = r at hspec ⊢
  obtain ⟨⟨d, bound⟩, dev'⟩ := r
  obtain ⟨hpci, hcompute, hready, hbound⟩ := hspec
  rw [← ownClass_iff, ← hfamily]
  constructor
  · intro h
    by_cases hvram : (decodeVramSize (vramSizeRead regs dev)).toNat < 2 * 2 ^ 20
    · exact .inl hvram
    · refine .inr fun hgsp => ?_
      have hr := hready.2 ⟨hgsp, Nat.le_of_not_lt hvram⟩
      obtain ⟨-, b, hb, -, hcmds⟩ := hbound hr
      obtain ⟨family, hmem, hlisted, -, b', hb', -, hcmds'⟩ := h _ _ rfl hr
      obtain rfl := Option.some.inj (hb.symm.trans hb')
      rw [hcmds, hcompute] at hcmds'
      rw [hpci] at hlisted
      exact ⟨family, hmem, hlisted, (List.cons.inj (List.cons.inj hcmds').2).1⟩
  · rintro hcond _ _ ⟨⟩ hr
    obtain ⟨hgsp, hvram⟩ := hready.1 hr
    obtain ⟨family, hmem, hlisted, hclass⟩ := hcond.resolve_left (Nat.not_lt.2 hvram) hgsp
    obtain ⟨hchannel, b, hb, hsubmitted, hcmds⟩ := hbound hr
    refine ⟨family, hmem, ?_, hchannel, b, hb, hsubmitted, ?_⟩
    · rw [hpci]
      exact hlisted
    · rw [hcmds, hcompute, ← hclass]
      rfl

/-- **The initialization binds the class of the GPU's own family exactly when** there is too little
VRAM for a channel, or the device ID is listed, and not for Volta. -/
theorem bindsOwnClass_iff {δ : Type*} (mmio : UInt64 → GpuRegs δ) (hb : HostBridge) (dev : δ) :
    BindsOwnClass (GpuDevice.init mmio hb dev).1 ↔ ∀ p, FirstOnZero hb.functions p →
      let c := hb.functions p
      let bar0Base := (decodeBar64 (c 4).value (c 5).value).1
      (decodeVramSize (vramSizeRead (mmio bar0Base) dev)).toNat < 2 * 2 ^ 20 ∨
        listedFamily (ConfigSpace.deviceId c) ≠ .unknown ∧
        listedFamily (ConfigSpace.deviceId c) ≠ .volta := by
  obtain ⟨hinit, hnone⟩ | ⟨pci, hfirst, hreads, hinit⟩ := GpuDevice.init_cases mmio hb dev
  · rw [hinit]
    exact iff_of_true (fun _ _ h => by cases h) fun p hp => absurd hp (hnone p)
  · have hfamily : pci.family = deviceIdToFamily pci.deviceId := by
      rw [hreads.family, hreads.deviceId]
    rw [hinit, bindsOwnClass_setUp_iff hfamily, hreads.bar0Base, hreads.deviceId, iff_comm]
    exact hfirst.forall_iff

/-- A Volta GPU on a bus of its own. -/
def voltaBridge : HostBridge :=
  HostBridge.of [(⟨0, 0, 0⟩, fun
    | 0 => .hardwired 0x1D8110DE
    | 2 => .hardwired 0x030000A1
    | 4 => .readWrite 0xF0000004 0xFF000000
    | _ => .hardwired 0)]

/-- The class of Pascal is bound to a Volta GPU. -/
theorem not_bindsOwnClass_volta :
    listedFamily 0x1D81 = .volta ∧
      ((GpuDevice.init (fun _ => GpuRegs.plain) voltaBridge fun _ => 0).1.map fun r =>
        (r.1.pci.deviceId, r.1.computeReady, r.2.map Bound.cmds)) =
          some (0x1D81, true, some [gpuMethod1 0 0, PASCAL_COMPUTE_A]) ∧
      ¬ BindsOwnClass (GpuDevice.init (fun _ => GpuRegs.plain) voltaBridge fun _ => 0).1 := by
  have hlisted : listedFamily 0x1D81 = .volta := by decide
  have hinit : ((GpuDevice.init (fun _ => GpuRegs.plain) voltaBridge fun _ => 0).1.map fun r =>
      (r.1.pci.deviceId, r.1.computeReady, r.2.map Bound.cmds)) =
        some (0x1D81, true, some [gpuMethod1 0 0, PASCAL_COMPUTE_A]) := by
    decide
  refine ⟨hlisted, hinit, fun h => ?_⟩
  obtain ⟨⟨d, bound⟩, hd, hfields⟩ := Option.map_eq_some_iff.1 hinit
  obtain ⟨hid, hr⟩ := Prod.mk.inj hfields
  obtain ⟨hready, hcmds⟩ := Prod.mk.inj hr
  obtain ⟨family, -, hfamily, -, b, hb, -, hclass⟩ := h d bound hd hready
  have hid' : d.pci.deviceId = 0x1D81 := hid
  rw [hid', hlisted] at hfamily
  subst hfamily
  have hb' : bound = some b := hb
  rw [hb', Option.map_some, hclass] at hcmds
  exact absurd (List.cons.inj (List.cons.inj (Option.some.inj hcmds)).2).1 (by decide)

end GpuCompute
