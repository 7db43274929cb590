import GpuCompute.Pci.Config
import GpuCompute.Pci.Family

/-!
# The PCI scan

The driver looks for the first NVIDIA GPU on the PCI bus, decodes its BARs and enables memory space
and bus mastering.  Of every device only function `0` is looked at.

* `GpuPciDevice` : what the scan returns.
* `setUpGpu` : what it does with the GPU it has found.
* `scanForNvidiaGpu` : the scan.
* `IsGpu`, `Bdf.Le` : the functions that are GPUs, and the order of the scan.
* `FirstOnZero` : the first of the GPUs on functions `0`.
* `FindsFirstGpu` : the scan finds a GPU if there is one, and then the first.
* `scanFrom_spec` : how the scan goes through a list of devices.
* `scanForNvidiaGpu_spec`, `scanForNvidiaGpu_some`, `scanForNvidiaGpu_none` : what the scan finds
  and returns.
* `findsFirstGpu_iff` : the scan finds the first GPU exactly when no GPU comes before the GPUs on
  functions `0`.
-/

namespace GpuCompute

open Systems

/-! ### Registers -/

/-- The vendor of NVIDIA GPUs. -/
def NVIDIA_VENDOR_ID : UInt16 := 0x10DE

def PCI_VENDOR_ID : UInt8 := 0x00
def PCI_COMMAND : UInt8 := 0x04
def PCI_CLASS_CODE : UInt8 := 0x09
def PCI_BAR0 : UInt8 := 0x10
def PCI_BAR1 : UInt8 := 0x14
def PCI_BAR2 : UInt8 := 0x18
def PCI_BAR3 : UInt8 := 0x1C
def PCI_BAR4 : UInt8 := 0x20
def PCI_BAR5 : UInt8 := 0x24

/-- Bits of the command register. -/
def PCI_CMD_MEMORY_SPACE : UInt16 := (1 : UInt16) <<< 1
def PCI_CMD_BUS_MASTER : UInt16 := (1 : UInt16) <<< 2

/-! ### The scan -/

/-- A GPU found on the PCI bus. -/
structure GpuPciDevice where
  /-- PCI bus number. -/
  bus : UInt8
  /-- PCI device number. -/
  device : UInt8
  /-- PCI function number. -/
  function : UInt8
  /-- PCI device ID. -/
  deviceId : UInt16
  /-- PCI revision. -/
  revision : UInt8
  /-- GPU family. -/
  family : GpuFamily
  /-- BAR0: registers. -/
  bar0Base : UInt64
  bar0Size : UInt64
  /-- BAR1: VRAM aperture. -/
  bar1Base : UInt64
  bar1Size : UInt64
  /-- BAR2/3, which may be absent. -/
  bar2Base : UInt64
  bar2Size : UInt64
  /-- Name of the GPU. -/
  name : String
  deriving DecidableEq

/-- Set the two bits of the command register unless they are set. -/
def enableDevice (bus device : UInt8) (hb : HostBridge) : HostBridge :=
  let (cmd, hb) := pciConfigRead16 bus device 0 PCI_COMMAND hb
  let newCmd := cmd ||| PCI_CMD_MEMORY_SPACE ||| PCI_CMD_BUS_MASTER
  if cmd ≠ newCmd then pciConfigWrite16 bus device 0 PCI_COMMAND newCmd hb else hb

/-- Decode the BARs of a GPU and enable it. -/
def setUpGpu (bus device : UInt8) (devId : UInt16) (revision : UInt8) (hb : HostBridge) :
    GpuPciDevice × HostBridge :=
  let family := deviceIdToFamily devId
  let name := deviceIdToName devId
  let (bar0Raw, hb) := pciConfigRead32 bus device 0 PCI_BAR0 hb
  let (bar1Raw, hb) := pciConfigRead32 bus device 0 PCI_BAR1 hb
  let (bar2Raw, hb) := pciConfigRead32 bus device 0 PCI_BAR2 hb
  let (bar3Raw, hb) := pciConfigRead32 bus device 0 PCI_BAR3 hb
  let bar0Base := (decodeBar64 bar0Raw bar1Raw).1
  let (bar0Size, hb) := probeBarSize bus device 0 PCI_BAR0 hb
  let isBar064bit := (bar0Raw &&& 0x06) = 0x04
  if isBar064bit then
    let (bar2Hi, hb) := pciConfigRead32 bus device 0 PCI_BAR3 hb
    let bar1Base := (decodeBar64 bar2Raw bar2Hi).1
    let (bar1Size, hb) := probeBarSize bus device 0 PCI_BAR2 hb
    let (bar4Raw, hb) := pciConfigRead32 bus device 0 PCI_BAR4 hb
    let (bar5Raw, hb) := pciConfigRead32 bus device 0 PCI_BAR5 hb
    let bar2Base := (decodeBar64 bar4Raw bar5Raw).1
    let (bar2Size, hb) := probeBarSize bus device 0 PCI_BAR4 hb
    ({ bus, device, function := 0, deviceId := devId, revision, family, bar0Base, bar0Size,
       bar1Base, bar1Size, bar2Base, bar2Size, name }, enableDevice bus device hb)
  else
    let bar1Base := (decodeBar64 bar2Raw bar3Raw).1
    let (bar1Size, hb) := probeBarSize bus device 0 PCI_BAR2 hb
    ({ bus, device, function := 0, deviceId := devId, revision, family, bar0Base, bar0Size,
       bar1Base, bar1Size, bar2Base := 0, bar2Size := 0, name }, enableDevice bus device hb)

/-- The loop over buses and devices, for the devices that are left. -/
def scanFrom : List (UInt8 × UInt8) → HostBridge → Option GpuPciDevice × HostBridge
  | [], hb => (none, hb)
  | (bus, device) :: rest, hb =>
    let (vendorDevice, hb) := pciConfigRead32 bus device 0 PCI_VENDOR_ID hb
    let vendorId := (vendorDevice &&& 0xFFFF).toUInt16
    let devId := ((vendorDevice >>> 16) &&& 0xFFFF).toUInt16
    if vendorId ≠ NVIDIA_VENDOR_ID then scanFrom rest hb
    else
      let (classRev, hb) := pciConfigRead32 bus device 0 PCI_CLASS_CODE hb
      let classCode := ((classRev >>> 24) &&& 0xFF).toUInt8
      let revision := (classRev &&& 0xFF).toUInt8
      -- display controllers or processing accelerators
      if classCode ≠ 0x03 ∧ classCode ≠ 0x12 then scanFrom rest hb
      else
        let (gpu, hb) := setUpGpu bus device devId revision hb
        (some gpu, hb)

/-- The buses and devices, in the order of the scan. -/
def scanOrder : List (UInt8 × UInt8) :=
  (List.range 256).flatMap fun bus =>
    (List.range 32).map fun device => (UInt8.ofNat bus, UInt8.ofNat device)

/-- Scan the PCI bus for an NVIDIA GPU. -/
def scanForNvidiaGpu (hb : HostBridge) : Option GpuPciDevice × HostBridge :=
  scanFrom scanOrder hb

/-! ### What the registers say -/

namespace ConfigSpace

variable (c : ConfigSpace)

/-- The vendor ID. -/
def vendorId : UInt16 := ((c 0).value &&& 0xFFFF).toUInt16

/-- The device ID. -/
def deviceId : UInt16 := (((c 0).value >>> 16) &&& 0xFFFF).toUInt16

/-- The base class. -/
def classCode : UInt8 := (((c 2).value >>> 24) &&& 0xFF).toUInt8

/-- The revision. -/
def revision : UInt8 := ((c 2).value &&& 0xFF).toUInt8

/-- The function is an NVIDIA display controller or processing accelerator. -/
def IsGpu : Prop := c.vendorId = NVIDIA_VENDOR_ID ∧ (c.classCode = 0x03 ∨ c.classCode = 0x12)

/-- The type bits of BAR0 say that it is a 64-bit BAR. -/
def Bar0Is64bit : Prop := (c 4).value &&& 0x06 = 0x04

end ConfigSpace

/-! ### Setting up a GPU -/

/-- **What setting up a GPU returns, and what it leaves**: the bases are those that the registers
hold, and the sizes are probed before the device is enabled. -/
theorem setUpGpu_spec {device : UInt8} (hd : device.toNat < 32) (bus : UInt8) (devId : UInt16)
    (revision : UInt8) (hb : HostBridge) :
    let c := hb.functions (Bdf.ofBytes bus device 0)
    let r := setUpGpu bus device devId revision hb
    (r.1.bus = bus ∧ r.1.device = device ∧ r.1.function = 0 ∧ r.1.deviceId = devId ∧
      r.1.revision = revision ∧ r.1.family = deviceIdToFamily devId) ∧
    (r.1.bar0Base = (decodeBar64 (c 4).value (c 5).value).1 ∧
      r.1.bar1Base = (decodeBar64 (c 6).value (c 7).value).1) ∧
    ∃ hb' : HostBridge, r.2 = enableDevice bus device hb' ∧
      (((c 4).clearable = 0 ∧ (c 6).clearable = 0 ∧ (c 8).clearable = 0) →
        hb'.functions = hb.functions) := by
  have hf : (0 : UInt8).toNat < 8 := by decide
  have hprobe : ∀ (off : UInt8) (hb' : HostBridge),
      (hb.functions (Bdf.ofBytes bus device 0) (regIndex off)).clearable = 0 →
      hb'.functions = hb.functions →
      (probeBarSize bus device 0 off hb').2.functions = hb.functions := by
    intro off hb' hclear heq
    rw [probeBarSize_functions hd hf (by rw [heq]; exact hclear), heq]
  unfold setUpGpu
  simp only [pciConfigRead32_eq hd hf]
  split_ifs with h64
  · refine ⟨⟨rfl, rfl, rfl, rfl, rfl, rfl⟩, ⟨rfl, ?_⟩, _, rfl, ?_⟩
    · -- the high half is read again after the first probe
      rw [probeBarSize_of_ne hd hf _ (by decide)]
      rfl
    · rintro ⟨h4, h6, h8⟩
      exact hprobe PCI_BAR4 _ h8 (hprobe PCI_BAR2 _ h6 (hprobe PCI_BAR0 _ h4 rfl))
  · refine ⟨⟨rfl, rfl, rfl, rfl, rfl, rfl⟩, ⟨rfl, rfl⟩, _, rfl, ?_⟩
    rintro ⟨h4, h6, -⟩
    exact hprobe PCI_BAR2 _ h6 (hprobe PCI_BAR0 _ h4 rfl)

/-! ### Going through the devices -/

/-- The function `0` of a device in the order of the scan. -/
def functionZero (x : UInt8 × UInt8) : Bdf := Bdf.ofBytes x.1 x.2 0

/-- What the scan returns when it has found a GPU in the state `hb`. -/
def foundGpu (x : UInt8 × UInt8) (hb : HostBridge) : Option GpuPciDevice × HostBridge :=
  let c := hb.functions (functionZero x)
  let gpu := setUpGpu x.1 x.2 (ConfigSpace.deviceId c) (ConfigSpace.revision c) hb
  (some gpu.1, gpu.2)

theorem scanFrom_cons {x : UInt8 × UInt8} (hx : x.2.toNat < 32) (l : List (UInt8 × UInt8))
    (hb : HostBridge) :
    ∃ hb' : HostBridge, hb'.functions = hb.functions ∧
      ((ConfigSpace.IsGpu (hb.functions (functionZero x)) ∧
          scanFrom (x :: l) hb = foundGpu x hb') ∨
        (¬ ConfigSpace.IsGpu (hb.functions (functionZero x)) ∧
          scanFrom (x :: l) hb = scanFrom l hb')) := by
  obtain ⟨bus, device⟩ := x
  have hf : (0 : UInt8).toNat < 8 := by decide
  simp only [scanFrom, pciConfigRead32_eq hx hf]
  split_ifs with hvendor hclass
  · exact ⟨_, by rfl, .inr ⟨fun hgpu => hvendor hgpu.1, rfl⟩⟩
  · exact ⟨_, by rfl, .inr ⟨fun hgpu => hgpu.2.elim hclass.1 hclass.2, rfl⟩⟩
  · rw [ne_eq, not_not] at hvendor
    rw [not_and_or, ne_eq, ne_eq, not_not, not_not] at hclass
    exact ⟨_, by rfl, .inl ⟨⟨hvendor, hclass⟩, rfl⟩⟩

/-- **How the scan goes through a list of devices**: it changes nothing until it meets the first
GPU, which it sets up, and there it ends. -/
theorem scanFrom_spec {l : List (UInt8 × UInt8)} (hl : ∀ x ∈ l, x.2.toNat < 32)
    (hb : HostBridge) :
    ∃ hb' : HostBridge, hb'.functions = hb.functions ∧
      (((∀ x ∈ l, ¬ ConfigSpace.IsGpu (hb.functions (functionZero x))) ∧
          scanFrom l hb = (none, hb')) ∨
        ∃ pre x post, l = pre ++ x :: post ∧
          (∀ y ∈ pre, ¬ ConfigSpace.IsGpu (hb.functions (functionZero y))) ∧
          ConfigSpace.IsGpu (hb.functions (functionZero x)) ∧
          scanFrom l hb = foundGpu x hb') := by
  induction l generalizing hb with
  | nil => exact ⟨hb, rfl, .inl ⟨by simp, rfl⟩⟩
  | cons x l ih =>
    obtain ⟨hb', heq, ⟨hgpu, hscan⟩ | ⟨hgpu, hscan⟩⟩ :=
      scanFrom_cons (hl x List.mem_cons_self) l hb
    · exact ⟨hb', heq, .inr ⟨[], x, l, rfl, by simp, hgpu, hscan⟩⟩
    · obtain ⟨hb'', heq', hrest⟩ := ih (fun y hy => hl y (List.mem_cons_of_mem x hy)) hb'
      rw [heq] at hrest heq'
      refine ⟨hb'', heq', ?_⟩
      rw [hscan]
      rcases hrest with ⟨hnone, hres⟩ | ⟨pre, y, post, rfl, hpre, hy, hres⟩
      · exact .inl ⟨List.forall_mem_cons.2 ⟨hgpu, hnone⟩, hres⟩
      · exact .inr ⟨x :: pre, y, post, rfl, List.forall_mem_cons.2 ⟨hgpu, hpre⟩, hy, hres⟩

/-! ### The order of the scan -/

/-- `p` is not after `q` in the order of buses, devices and functions. -/
def Bdf.Le (p q : Bdf) : Prop :=
  p.bus < q.bus ∨ p.bus = q.bus ∧
    (p.device < q.device ∨ p.device = q.device ∧ p.function ≤ q.function)

theorem mem_scanOrder {x : UInt8 × UInt8} : x ∈ scanOrder ↔ x.2.toNat < 32 := by
  obtain ⟨bus, device⟩ := x
  have hbus := bus.toNat_lt
  simp only [scanOrder, List.mem_flatMap, List.mem_map, List.mem_range, Prod.mk.injEq]
  constructor
  · rintro ⟨b, hb, d, hd, rfl, rfl⟩
    rw [UInt8.toNat_ofNat']
    omega
  · intro hd
    exact ⟨bus.toNat, hbus, device.toNat, hd, UInt8.ofNat_toNat, UInt8.ofNat_toNat⟩

theorem pairwise_scanOrder :
    scanOrder.Pairwise fun x y => x.1.toNat < y.1.toNat ∨ x.1 = y.1 ∧ x.2.toNat < y.2.toNat := by
  refine List.pairwise_flatMap.2 ⟨fun b _ => ?_, ?_⟩
  · refine List.pairwise_map.2 (List.Pairwise.imp_of_mem ?_ List.pairwise_lt_range)
    intro d e hd he hde
    rw [List.mem_range] at hd he
    refine .inr ⟨rfl, ?_⟩
    rw [UInt8.toNat_ofNat', UInt8.toNat_ofNat']
    omega
  · refine List.Pairwise.imp_of_mem ?_ List.pairwise_lt_range
    intro b c hb hc hbc x hx y hy
    rw [List.mem_range] at hb hc
    obtain ⟨d, -, rfl⟩ := List.mem_map.1 hx
    obtain ⟨e, -, rfl⟩ := List.mem_map.1 hy
    refine .inl ?_
    rw [UInt8.toNat_ofNat', UInt8.toNat_ofNat']
    omega

/-- Every function `0` is scanned. -/
theorem exists_functionZero {q : Bdf} (hq : q.function = 0) :
    ∃ x ∈ scanOrder, functionZero x = q := by
  obtain ⟨bus, device, function⟩ := q
  change function = 0 at hq
  subst hq
  have hbus := bus.isLt
  have hdevice := device.isLt
  refine ⟨(UInt8.ofNat bus, UInt8.ofNat device), mem_scanOrder.2 ?_, ?_⟩
  · rw [UInt8.toNat_ofNat']
    omega
  · simp only [functionZero, Bdf.ofBytes, Bdf.mk.injEq, Fin.ext_iff, Fin.val_ofNat,
      UInt8.toNat_ofNat', UInt8.reduceToNat]
    omega

/-- `p` is the first of the GPUs on functions `0`. -/
structure FirstOnZero (functions : Bdf → ConfigSpace) (p : Bdf) : Prop where
  function : p.function = 0
  isGpu : ConfigSpace.IsGpu (functions p)
  least : ∀ q : Bdf, q.function = 0 → ConfigSpace.IsGpu (functions q) → p.Le q

theorem Bdf.Le.antisymm {p q : Bdf} (h : p.Le q) (h' : q.Le p) : p = q := by
  obtain ⟨pb, pd, pf⟩ := p
  obtain ⟨qb, qd, qf⟩ := q
  simp only [Bdf.Le, Bdf.mk.injEq] at *
  omega

theorem FirstOnZero.unique {functions : Bdf → ConfigSpace} {p q : Bdf}
    (h : FirstOnZero functions p) (h' : FirstOnZero functions q) : p = q :=
  (h.least q h'.function h'.isGpu).antisymm (h'.least p h.function h.isGpu)

/-- What holds of the first GPU on a function `0` holds of all that are first. -/
theorem FirstOnZero.forall_iff {functions : Bdf → ConfigSpace} {p : Bdf}
    (h : FirstOnZero functions p) {P : Bdf → Prop} :
    (∀ q, FirstOnZero functions q → P q) ↔ P p := by
  constructor
  · intro hall
    exact hall p h
  · intro hp q hq
    rw [hq.unique h]
    exact hp

/-- **What the scan finds**: nothing if there is no GPU on a function `0`, or the first of those. -/
theorem scanForNvidiaGpu_spec (hb : HostBridge) :
    ∃ hb' : HostBridge, hb'.functions = hb.functions ∧
      (((∀ q : Bdf, q.function = 0 → ¬ ConfigSpace.IsGpu (hb.functions q)) ∧
          scanForNvidiaGpu hb = (none, hb')) ∨
        ∃ x : UInt8 × UInt8, x.2.toNat < 32 ∧ FirstOnZero hb.functions (functionZero x) ∧
          scanForNvidiaGpu hb = foundGpu x hb') := by
  obtain ⟨hb', heq, ⟨hnone, hscan⟩ | ⟨pre, x, post, horder, hpre, hx, hscan⟩⟩ :=
    scanFrom_spec (fun x hx => mem_scanOrder.1 hx) hb
  · refine ⟨hb', heq, .inl ⟨fun q hq => ?_, hscan⟩⟩
    obtain ⟨y, hy, rfl⟩ := exists_functionZero hq
    exact hnone y hy
  · have hxlt : x.2.toNat < 32 := mem_scanOrder.1 (by rw [horder]; simp)
    refine ⟨hb', heq, .inr ⟨x, hxlt, ⟨rfl, hx, fun q hq hgpu => ?_⟩, hscan⟩⟩
    obtain ⟨y, hy, rfl⟩ := exists_functionZero hq
    have hylt := mem_scanOrder.1 hy
    rw [horder] at hy
    have hsorted := pairwise_scanOrder
    rw [horder] at hsorted
    rcases List.mem_append.1 hy with hy | hy
    · exact absurd hgpu (hpre y hy)
    · rcases List.mem_cons.1 hy with rfl | hy
      · exact .inr ⟨rfl, .inr ⟨rfl, le_rfl⟩⟩
      · have hbx := x.1.toNat_lt
        have hby := y.1.toNat_lt
        have hlt := (List.pairwise_cons.1 (List.pairwise_append.1 hsorted).2.1).1 y hy
        simp only [Bdf.Le, functionZero, Bdf.ofBytes, Fin.lt_def, Fin.ext_iff, Fin.val_ofNat,
          ← UInt8.toNat_inj] at hlt ⊢
        omega

/-- Where a GPU was found. -/
def GpuPciDevice.bdf (gpu : GpuPciDevice) : Bdf := Bdf.ofBytes gpu.bus gpu.device gpu.function

/-- The GPU was found at `p`. -/
structure GpuPciDevice.At (gpu : GpuPciDevice) (p : Bdf) : Prop where
  bus : gpu.bus.toNat = p.bus
  device : gpu.device.toNat = p.device
  function : gpu.function.toNat = p.function

/-- The fields of the GPU are what the registers say. -/
structure GpuPciDevice.Reads (gpu : GpuPciDevice) (c : ConfigSpace) : Prop where
  deviceId : gpu.deviceId = c.deviceId
  revision : gpu.revision = c.revision
  family : gpu.family = deviceIdToFamily c.deviceId
  bar0Base : gpu.bar0Base = (decodeBar64 (c 4).value (c 5).value).1
  bar1Base : gpu.bar1Base = (decodeBar64 (c 6).value (c 7).value).1

theorem GpuPciDevice.At.bdf_eq {gpu : GpuPciDevice} {p : Bdf} (h : gpu.At p) : gpu.bdf = p := by
  obtain ⟨bus, device, function⟩ := p
  have hbus := h.bus
  have hdevice := h.device
  have hfunction := h.function
  have hb := bus.isLt
  have hd := device.isLt
  have hf := function.isLt
  simp only [GpuPciDevice.bdf, Bdf.ofBytes, Bdf.mk.injEq, Fin.ext_iff, Fin.val_ofNat]
    at hbus hdevice hfunction ⊢
  omega

/-- **The GPU that is set up** was found on the function `0` of its device, and it is what the
registers say. -/
theorem foundGpu_spec {x : UInt8 × UInt8} (hx : x.2.toNat < 32) (hb : HostBridge) :
    ∃ gpu, (foundGpu x hb).1 = some gpu ∧ gpu.At (functionZero x) ∧
      gpu.Reads (hb.functions (functionZero x)) := by
  obtain ⟨⟨hbus, hdevice, hfunction, hid, hrev, hfamily⟩, ⟨hbar0, hbar1⟩, -⟩ := setUpGpu_spec hx x.1
    (ConfigSpace.deviceId (hb.functions (functionZero x)))
    (ConfigSpace.revision (hb.functions (functionZero x))) hb
  have hb1 := x.1.toNat_lt
  refine ⟨_, rfl, ⟨?_, ?_, ?_⟩, hid, hrev, hfamily, hbar0, hbar1⟩
  · rw [hbus]
    exact (Nat.mod_eq_of_lt hb1).symm
  · rw [hdevice]
    exact (Nat.mod_eq_of_lt hx).symm
  · rw [hfunction]
    rfl

/-- **A GPU that the scan returns** is the first one on a function `0`, it is what its registers
say. -/
theorem scanForNvidiaGpu_some {hb : HostBridge} {gpu : GpuPciDevice}
    (h : (scanForNvidiaGpu hb).1 = some gpu) :
    FirstOnZero hb.functions gpu.bdf ∧ gpu.Reads (hb.functions gpu.bdf) := by
  obtain ⟨hb', heq, ⟨-, hscan⟩ | ⟨x, hx, hfirst, hscan⟩⟩ := scanForNvidiaGpu_spec hb
  · rw [hscan] at h
    cases h
  · rw [hscan] at h
    obtain ⟨gpu', hfound, hat, hreads⟩ := foundGpu_spec hx hb'
    obtain rfl := Option.some.inj (hfound.symm.trans h)
    rw [heq] at hreads
    rw [hat.bdf_eq]
    exact ⟨hfirst, hreads⟩

theorem FirstOnZero.found {hb : HostBridge} {p : Bdf} (h : FirstOnZero hb.functions p) :
    ∃ gpu, (scanForNvidiaGpu hb).1 = some gpu ∧ gpu.bdf = p := by
  obtain ⟨hb', -, ⟨hnone, -⟩ | ⟨x, hx, hfirst, hscan⟩⟩ := scanForNvidiaGpu_spec hb
  · exact absurd h.isGpu (hnone p h.function)
  · obtain ⟨gpu, hfound, hat, -⟩ := foundGpu_spec hx hb'
    exact ⟨gpu, by rw [hscan, hfound], by rw [hat.bdf_eq, hfirst.unique h]⟩

theorem scanForNvidiaGpu_none {hb : HostBridge} (h : (scanForNvidiaGpu hb).1 = none) (p : Bdf) :
    ¬ FirstOnZero hb.functions p := by
  intro hp
  obtain ⟨gpu, hgpu, -⟩ := hp.found
  rw [h] at hgpu
  cases hgpu

/-! ### The first GPU -/

/-- The scan has found a GPU if there is one, on whatever function, and it has found the first one,
with its own device ID and revision. -/
def FindsFirstGpu (functions : Bdf → ConfigSpace) (found : Option GpuPciDevice) : Prop :=
  (found.isSome ↔ ∃ p, ConfigSpace.IsGpu (functions p)) ∧
  ∀ gpu, found = some gpu → ∃ p, gpu.At p ∧ ConfigSpace.IsGpu (functions p) ∧
    (∀ q, ConfigSpace.IsGpu (functions q) → p.Le q) ∧
    gpu.deviceId = ConfigSpace.deviceId (functions p) ∧
    gpu.revision = ConfigSpace.revision (functions p)

theorem Bdf.Le.trans {p q r : Bdf} (h : p.Le q) (h' : q.Le r) : p.Le r := by
  unfold Bdf.Le at *
  omega

theorem GpuPciDevice.At.unique {gpu : GpuPciDevice} {p q : Bdf} (h : gpu.At p) (h' : gpu.At q) :
    p = q := by
  obtain ⟨pb, pd, pf⟩ := p
  obtain ⟨qb, qd, qf⟩ := q
  have hbus := h.bus.symm.trans h'.bus
  have hdevice := h.device.symm.trans h'.device
  have hfunction := h.function.symm.trans h'.function
  simp only [Bdf.mk.injEq, Fin.ext_iff]
  exact ⟨hbus, hdevice, hfunction⟩

/-- **The scan finds the first GPU exactly when no GPU comes before the GPUs on functions `0`.** -/
theorem findsFirstGpu_iff (hb : HostBridge) :
    FindsFirstGpu hb.functions (scanForNvidiaGpu hb).1 ↔
      ∀ q, ConfigSpace.IsGpu (hb.functions q) →
        ∃ p : Bdf, p.function = 0 ∧ p.Le q ∧ ConfigSpace.IsGpu (hb.functions p) := by
  obtain ⟨hb', heq, ⟨hnone, hscan⟩ | ⟨x, hxlt, hfirst, hscan⟩⟩ := scanForNvidiaGpu_spec hb
  · rw [hscan]
    constructor
    · intro h q hq
      exact absurd (h.1.2 ⟨q, hq⟩) Bool.false_ne_true
    · intro h
      refine ⟨iff_of_false Bool.false_ne_true ?_, fun gpu hgpu => by cases hgpu⟩
      rintro ⟨q, hq⟩
      obtain ⟨p, hp, -, hgpu⟩ := h q hq
      exact hnone p hp hgpu
  · obtain ⟨gpu, hfound, hat, hreads⟩ := foundGpu_spec hxlt hb'
    rw [heq] at hreads
    rw [hscan, hfound]
    constructor
    · intro h q hq
      obtain ⟨p, hat', hgpu, hle, -⟩ := h.2 gpu rfl
      obtain rfl := hat'.unique hat
      exact ⟨functionZero x, rfl, hle q hq, hgpu⟩
    · intro h
      refine ⟨iff_of_true rfl ⟨_, hfirst.isGpu⟩, ?_⟩
      rintro _ ⟨⟩
      refine ⟨functionZero x, hat, hfirst.isGpu, fun q hq => ?_, hreads.deviceId,
        hreads.revision⟩
      obtain ⟨p, hp, hle, hgpu⟩ := h q hq
      exact (hfirst.least p hp hgpu).trans hle

theorem mem_of_isGpu_of {spaces : List (Bdf × ConfigSpace)} {q : Bdf}
    (h : ConfigSpace.IsGpu ((HostBridge.of spaces).functions q)) : q ∈ spaces.map Prod.fst := by
  by_contra hmem
  have hlookup : spaces.lookup q = none := by
    refine List.lookup_eq_none_iff.2 fun p hp => ?_
    refine bne_iff_ne.2 fun heq => hmem ?_
    rw [heq]
    exact List.mem_map_of_mem hp
  have habsent : (HostBridge.of spaces).functions q = fun _ => .hardwired 0xFFFFFFFF := by
    simp [HostBridge.of, hlookup]
  rw [habsent] at h
  exact absurd h.1 (by decide)

/-- A command register that is read/write below a status register that is cleared by ones. -/
def commandStatus (value : UInt32) : Register := ⟨value, 0xFFFF, 0xFFFF0000, by decide⟩

/-- The registers of an Ampere GPU with a 16 MiB BAR0 and a 256 MiB BAR1. -/
def ampereSpace : ConfigSpace
  | 0 => .hardwired 0x248410DE
  | 1 => commandStatus 0
  | 2 => .hardwired 0x030000A1
  | 4 => .readWrite 0xE0000000 0xFF000000
  | 5 => .readWrite 0xD000000C 0xF0000000
  | 6 => .readWrite 0 0xFFFFFFFF
  | _ => .hardwired 0

/-- The registers of an NVIDIA audio device. -/
def audioSpace : ConfigSpace
  | 0 => .hardwired 0x228B10DE
  | 2 => .hardwired 0x040300A1
  | _ => .hardwired 0

/-- A GPU on function `1`, behind an audio device, is not found. -/
theorem not_findsFirstGpu_function_one :
    let hb := HostBridge.of [(⟨0, 0, 0⟩, audioSpace), (⟨0, 0, 1⟩, ampereSpace)]
    (scanForNvidiaGpu hb).1 = none ∧ ¬ FindsFirstGpu hb.functions (scanForNvidiaGpu hb).1 := by
  intro hb
  have hgpu : ConfigSpace.IsGpu (hb.functions ⟨0, 0, 1⟩) := ⟨by decide, .inl (by decide)⟩
  have hzero : ∀ q : Bdf, q.function = 0 → ¬ ConfigSpace.IsGpu (hb.functions q) := by
    intro q hq h
    have hmem : q = ⟨0, 0, 0⟩ ∨ q = ⟨0, 0, 1⟩ := by simpa using mem_of_isGpu_of h
    obtain rfl | rfl := hmem
    · exact absurd h.2 (by decide)
    · cases hq
  obtain ⟨hb', -, ⟨-, hscan⟩ | ⟨x, -, hfirst, -⟩⟩ := scanForNvidiaGpu_spec hb
  · rw [hscan]
    exact ⟨rfl, fun h => absurd (h.1.2 ⟨_, hgpu⟩) Bool.false_ne_true⟩
  · exact absurd hfirst.isGpu (hzero _ rfl)

end GpuCompute
