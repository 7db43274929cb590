import GpuCompute.Lib.Machine
import GpuCompute.Pci.Frame

/-!
# Scanning again

Every initialization of the driver scans the PCI bus.  Between two scans the functions go on
latching errors in their status registers, which share a word with the command registers.  A later
scan probes the BARs of the GPU again, but it has nothing left to enable.

* `probedSize`, `gpuOf` : what the scan reads off the registers of a GPU.
* `enabled` : what the scan leaves of the registers.
* `PciOp`, `pciBus` : a bus on which errors are latched and scans are made.
* `latched` : the registers after a number of errors.
* `scanForNvidiaGpu_congr` : what the scan returns does not depend on the command and status
  registers.
* `scanForNvidiaGpu_functions` : what the scan leaves.
* `rescan_run` : all later scans return the same GPU and leave every register as it is.
-/

namespace GpuCompute

open Systems

/-! ### What a scan returns -/

/-- The size that is computed when all ones have been written to a BAR. -/
def probedSize (r : Register) : UInt64 :=
  let sizeMask := (r.write 0xFFFFFFFF).value
  if sizeMask = 0 ∨ sizeMask = 0xFFFFFFFF then 0
  else
    let mask := sizeMask &&& ~~~0xF
    if mask = 0 then 0 else (~~~mask + 1).toUInt64

theorem probeBarSize_fst_eq {device : UInt8} (hd : device.toNat < 32) (bus barOffset : UInt8)
    (hb : HostBridge) :
    (probeBarSize bus device 0 barOffset hb).1 =
      probedSize (hb.functions (Bdf.ofBytes bus device 0) (regIndex barOffset)) := by
  have hf : (0 : UInt8).toNat < 8 := by decide
  unfold probeBarSize probedSize
  simp only [pciConfigRead32_eq hd hf, pciConfigWrite32_eq hd hf, HostBridge.store_self]
  split_ifs <;> rfl

/-- The GPU on a device whose function `0` has the registers `c`. -/
def gpuOf (bus device : UInt8) (c : ConfigSpace) : GpuPciDevice where
  bus
  device
  function := 0
  deviceId := c.deviceId
  revision := c.revision
  family := deviceIdToFamily c.deviceId
  bar0Base := (decodeBar64 (c 4).value (c 5).value).1
  bar0Size := probedSize (c 4)
  bar1Base := (decodeBar64 (c 6).value (c 7).value).1
  bar1Size := probedSize (c 6)
  bar2Base := if (c 4).value &&& 0x06 = 0x04 then (decodeBar64 (c 8).value (c 9).value).1 else 0
  bar2Size := if (c 4).value &&& 0x06 = 0x04 then probedSize (c 8) else 0
  name := deviceIdToName c.deviceId

/-- **A GPU that is set up is what its registers say**, the probes of its BARs included. -/
theorem setUpGpu_fst {device : UInt8} (hd : device.toNat < 32) (bus : UInt8) (hb : HostBridge) :
    let c := hb.functions (Bdf.ofBytes bus device 0)
    (setUpGpu bus device (ConfigSpace.deviceId c) (ConfigSpace.revision c) hb).1 =
      gpuOf bus device c := by
  have hf : (0 : UInt8).toNat < 8 := by decide
  intro c
  have hbar0 : hb.functions (Bdf.ofBytes bus device 0) (regIndex PCI_BAR0) = c 4 := rfl
  unfold setUpGpu gpuOf
  simp only [pciConfigRead32_eq hd hf, probeBarSize_fst_eq hd, hbar0]
  -- a probe changes no register but its own
  split_ifs <;> simp (disch := decide) only [probeBarSize_of_ne hd hf] <;> rfl

theorem foundGpu_fst {x : UInt8 × UInt8} (hx : x.2.toNat < 32) (hb : HostBridge) :
    (foundGpu x hb).1 = some (gpuOf x.1 x.2 (hb.functions (functionZero x))) :=
  congrArg some (setUpGpu_fst hx x.1 hb)

theorem functionZero_injective {x y : UInt8 × UInt8} (hx : x.2.toNat < 32) (hy : y.2.toNat < 32)
    (h : functionZero x = functionZero y) : x = y := by
  have hbx := x.1.toNat_lt
  have hby := y.1.toNat_lt
  simp only [functionZero, Bdf.ofBytes, Bdf.mk.injEq, Fin.ext_iff, Fin.val_ofNat, and_true] at h
  refine Prod.ext (UInt8.toNat_inj.1 ?_) (UInt8.toNat_inj.1 ?_)
  · omega
  · omega

/-! ### What it depends on -/

/-- The registers are the same, the words of the command and status registers apart. -/
def SameButStatus (before after : Bdf → ConfigSpace) : Prop :=
  ∀ p i, i ≠ 1 → after p i = before p i

namespace SameButStatus

variable {before after : Bdf → ConfigSpace}

theorem isGpu_iff (h : SameButStatus before after) (p : Bdf) :
    ConfigSpace.IsGpu (after p) ↔ ConfigSpace.IsGpu (before p) := by
  have h0 := h p 0 (by decide)
  have h2 := h p 2 (by decide)
  simp only [ConfigSpace.IsGpu, ConfigSpace.vendorId, ConfigSpace.classCode, h0, h2]

theorem firstOnZero_iff (h : SameButStatus before after) (p : Bdf) :
    FirstOnZero after p ↔ FirstOnZero before p := by
  constructor
  · intro hp
    exact ⟨hp.function, (h.isGpu_iff p).1 hp.isGpu,
      fun q hq hgpu => hp.least q hq ((h.isGpu_iff q).2 hgpu)⟩
  · intro hp
    exact ⟨hp.function, (h.isGpu_iff p).2 hp.isGpu,
      fun q hq hgpu => hp.least q hq ((h.isGpu_iff q).1 hgpu)⟩

theorem gpuOf_eq (h : SameButStatus before after) (bus device : UInt8) (p : Bdf) :
    gpuOf bus device (after p) = gpuOf bus device (before p) := by
  have h0 := h p 0 (by decide)
  have h2 := h p 2 (by decide)
  have h4 := h p 4 (by decide)
  have h5 := h p 5 (by decide)
  have h6 := h p 6 (by decide)
  have h7 := h p 7 (by decide)
  have h8 := h p 8 (by decide)
  have h9 := h p 9 (by decide)
  simp only [gpuOf, ConfigSpace.deviceId, ConfigSpace.revision, h0, h2, h4, h5, h6, h7, h8, h9]

end SameButStatus

/-- **What the scan returns does not depend on the command and status registers.** -/
theorem scanForNvidiaGpu_congr {hb hb' : HostBridge}
    (h : SameButStatus hb.functions hb'.functions) :
    (scanForNvidiaGpu hb').1 = (scanForNvidiaGpu hb).1 := by
  obtain ⟨hb₁, heq₁, ⟨hnone₁, hscan₁⟩ | ⟨x, hx, hfirst₁, hscan₁⟩⟩ := scanForNvidiaGpu_spec hb
  · obtain ⟨hb₂, -, ⟨-, hscan₂⟩ | ⟨y, -, hfirst₂, -⟩⟩ := scanForNvidiaGpu_spec hb'
    · rw [hscan₁, hscan₂]
    · have hgpu := ((h.firstOnZero_iff _).1 hfirst₂).isGpu
      exact absurd hgpu (hnone₁ _ rfl)
  · obtain ⟨hb₂, heq₂, ⟨hnone₂, -⟩ | ⟨y, hy, hfirst₂, hscan₂⟩⟩ := scanForNvidiaGpu_spec hb'
    · exact absurd ((h.firstOnZero_iff _).2 hfirst₁).isGpu (hnone₂ _ rfl)
    · obtain rfl := functionZero_injective hx hy
        (hfirst₁.unique ((h.firstOnZero_iff _).1 hfirst₂))
      rw [hscan₁, hscan₂, foundGpu_fst hx, foundGpu_fst hx, heq₁, heq₂, h.gpuOf_eq]

/-! ### What a scan leaves -/

/-- The registers after a GPU has been enabled. -/
def enabled (functions : Bdf → ConfigSpace) (p : Bdf) : Bdf → ConfigSpace :=
  if (functions p 1).value ||| 6 = (functions p 1).value then functions
  else HostBridge.store functions p 1 ((functions p 1).write ((functions p 1).value ||| 6))

/-- The functions that are GPUs keep the rules for their registers. -/
def KeepRules (functions : Bdf → ConfigSpace) : Prop :=
  ∀ p, ConfigSpace.IsGpu (functions p) → PciRules (functions p)

/-- **What the scan leaves**: the first GPU on a function `0` enabled, and all else as it was. -/
theorem scanForNvidiaGpu_functions {hb : HostBridge} (hrules : KeepRules hb.functions) :
    ((∀ p, ¬ FirstOnZero hb.functions p) ∧ (scanForNvidiaGpu hb).2.functions = hb.functions) ∨
      ∃ p, FirstOnZero hb.functions p ∧
        (scanForNvidiaGpu hb).2.functions = enabled hb.functions p := by
  obtain ⟨hb', heq, ⟨hnone, hscan⟩ | ⟨x, hx, hfirst, hscan⟩⟩ := scanForNvidiaGpu_spec hb
  · refine .inl ⟨fun p hp => hnone p hp.function hp.isGpu, ?_⟩
    rw [hscan, heq]
  · obtain ⟨-, -, hb'', hset, hprobes⟩ := setUpGpu_spec hx x.1
      (ConfigSpace.deviceId (hb'.functions (functionZero x)))
      (ConfigSpace.revision (hb'.functions (functionZero x))) hb'
    have hrule := hrules _ hfirst.isGpu
    have hback : hb''.functions = hb.functions := by
      rw [← heq]
      refine hprobes ?_
      rw [heq]
      exact ⟨hrule.bars 4 (by decide) (by decide), hrule.bars 6 (by decide) (by decide),
        hrule.bars 8 (by decide) (by decide)⟩
    have hafter : (foundGpu x hb').2 = enableDevice x.1 x.2 hb'' := hset
    refine .inr ⟨functionZero x, hfirst, ?_⟩
    rw [hscan, hafter, enableDevice_functions hx, hback]
    rfl

section Enabled

variable {functions : Bdf → ConfigSpace} {p : Bdf}

theorem sameButStatus_store (r : Register) :
    SameButStatus functions (HostBridge.store functions p 1 r) :=
  fun _ _ hi => HostBridge.store_of_ne fun h => hi h.2

theorem KeepRules.store (h : KeepRules functions) {r : Register}
    (hr : r.writable = (functions p 1).writable) :
    KeepRules (HostBridge.store functions p 1 r) := by
  intro q hq
  have hrule := h q (((sameButStatus_store r).isGpu_iff q).1 hq)
  refine ⟨fun i h4 h9 => ?_, ?_⟩
  · have hi : i ≠ 1 := by
      rintro rfl
      exact absurd h4 (by decide)
    rw [sameButStatus_store r q i hi]
    exact hrule.bars i h4 h9
  · by_cases hqp : q = p
    · subst hqp
      rw [HostBridge.store_self, hr]
      exact hrule.command
    · rw [HostBridge.store_of_ne fun h => hqp h.1]
      exact hrule.command

theorem sameButStatus_enabled : SameButStatus functions (enabled functions p) := by
  unfold enabled
  split_ifs
  · exact fun _ _ _ => rfl
  · exact sameButStatus_store _

theorem KeepRules.enabled (h : KeepRules functions) : KeepRules (enabled functions p) := by
  unfold GpuCompute.enabled
  split_ifs
  · exact h
  · exact h.store (Register.write_writable _ _)

theorem enabled_command (h : PciRules (functions p)) :
    (enabled functions p p 1).value &&& 6 = 6 := by
  unfold enabled
  split_ifs with hset
  · exact Register.or_eq_self_iff.1 hset
  · rw [HostBridge.store_self]
    exact Register.write_or_and h.command

theorem enabled_of_command (h : (functions p 1).value &&& 6 = 6) :
    enabled functions p = functions :=
  if_pos (Register.or_eq_self_iff.2 h)

end Enabled

/-! ### A bus on which errors are latched -/

/-- What happens on the bus. -/
inductive PciOp where
  /-- The driver scans the bus. -/
  | scan
  /-- A function latches errors in its status register. -/
  | latch (p : Bdf) (errors : UInt32)
  deriving DecidableEq

/-- A register with more of its clearable bits set. -/
def latchBits (r : Register) (errors : UInt32) : Register :=
  { r with value := r.value ||| (errors &&& r.clearable) }

/-- The registers after a function has latched errors. -/
def latch (functions : Bdf → ConfigSpace) (p : Bdf) (errors : UInt32) : Bdf → ConfigSpace :=
  HostBridge.store functions p 1 (latchBits (functions p 1) errors)

/-- The PCI bus; a scan puts out what it finds. -/
def pciBus : Machine HostBridge PciOp (Option GpuPciDevice) where
  step hb op :=
    match op with
    | .scan => scanForNvidiaGpu hb
    | .latch p errors => (none, { hb with functions := latch hb.functions p errors })

/-- The registers after the errors of a run, had there been no scans. -/
def latched (functions : Bdf → ConfigSpace) : List PciOp → Bdf → ConfigSpace
  | [] => functions
  | .scan :: ops => latched functions ops
  | .latch p errors :: ops => latched (latch functions p errors) ops

theorem latched_append (functions : Bdf → ConfigSpace) (ops ops' : List PciOp) :
    latched functions (ops ++ ops') = latched (latched functions ops) ops' := by
  induction ops generalizing functions with
  | nil => rfl
  | cons op ops ih =>
    cases op with
    | scan => exact ih functions
    | latch p errors => exact ih _

/-- The bus after a scan: the GPU is the one that was found, and it is enabled. -/
structure Settled (hb : HostBridge) (functions : Bdf → ConfigSpace) : Prop where
  same : SameButStatus hb.functions functions
  rules : KeepRules functions
  command : ∀ p, FirstOnZero functions p → (functions p 1).value &&& 6 = 6

theorem SameButStatus.trans {f g h : Bdf → ConfigSpace} (hfg : SameButStatus f g)
    (hgh : SameButStatus g h) : SameButStatus f h :=
  fun p i hi => (hgh p i hi).trans (hfg p i hi)

theorem settled_scan {hb : HostBridge} (hrules : KeepRules hb.functions) :
    Settled hb (scanForNvidiaGpu hb).2.functions := by
  obtain ⟨hnone, heq⟩ | ⟨p, hp, heq⟩ := scanForNvidiaGpu_functions hrules
  · rw [heq]
    exact ⟨fun _ _ _ => rfl, hrules, fun q hq => absurd hq (hnone q)⟩
  · rw [heq]
    refine ⟨sameButStatus_enabled, hrules.enabled, fun q hq => ?_⟩
    obtain rfl := ((sameButStatus_enabled.firstOnZero_iff q).1 hq).unique hp
    exact enabled_command (hrules _ hp.isGpu)

namespace Settled

variable {hb hb' : HostBridge}

theorem latch {functions : Bdf → ConfigSpace} (h : Settled hb functions) (p : Bdf)
    (errors : UInt32) : Settled hb (latch functions p errors) := by
  have hsame : SameButStatus functions (GpuCompute.latch functions p errors) :=
    sameButStatus_store _
  refine ⟨h.same.trans hsame, h.rules.store rfl, fun q hq => ?_⟩
  have hcommand := h.command q ((hsame.firstOnZero_iff q).1 hq)
  unfold GpuCompute.latch
  by_cases hqp : q = p
  · subst hqp
    rw [HostBridge.store_self]
    exact Register.or_and_of_and hcommand _
  · rw [HostBridge.store_of_ne fun heq => hqp heq.1]
    exact hcommand

/-- **A scan of a settled bus** finds the GPU that was found, and leaves every register. -/
theorem scan (h : Settled hb hb'.functions) :
    (scanForNvidiaGpu hb').1 = (scanForNvidiaGpu hb).1 ∧
      (scanForNvidiaGpu hb').2.functions = hb'.functions := by
  refine ⟨scanForNvidiaGpu_congr h.same, ?_⟩
  obtain ⟨-, heq⟩ | ⟨p, hp, heq⟩ := scanForNvidiaGpu_functions h.rules
  · exact heq
  · rw [heq, enabled_of_command (h.command p hp)]

end Settled

theorem settled_run {hb : HostBridge} (hrules : KeepRules hb.functions) (ops : List PciOp) :
    let first := scanForNvidiaGpu hb
    Settled hb (pciBus.final first.2 ops).functions ∧
      (∀ e ∈ pciBus.trace first.2 ops, e.op = .scan → e.out = first.1) ∧
      (pciBus.final first.2 ops).functions = latched first.2.functions ops := by
  intro first
  induction ops using List.reverseRecOn with
  | nil => exact ⟨settled_scan hrules, by simp, rfl⟩
  | append_singleton ops op ih =>
    obtain ⟨hsettled, hout, hfinal⟩ := ih
    rw [Machine.trace_concat, Machine.final_concat, latched_append, ← hfinal]
    cases op with
    | scan =>
      obtain ⟨hfound, hkept⟩ := hsettled.scan
      refine ⟨?_, List.forall_mem_cons.2 ⟨fun _ => hfound, hout⟩, hkept⟩
      show Settled hb (scanForNvidiaGpu _).2.functions
      rw [hkept]
      exact hsettled
    | latch p errors =>
      refine ⟨hsettled.latch p errors, List.forall_mem_cons.2 ⟨fun hop => ?_, hout⟩, rfl⟩
      cases hop

/-- **All later scans return the GPU of the first one, and leave every register as it is**: nothing
that has been latched since is lost. -/
theorem rescan_run {hb : HostBridge} (hrules : KeepRules hb.functions) (ops : List PciOp) :
    let first := scanForNvidiaGpu hb
    (∀ e ∈ pciBus.trace first.2 ops, e.op = .scan → e.out = first.1) ∧
      (pciBus.final first.2 ops).functions = latched first.2.functions ops :=
  (settled_run hrules ops).2

/-- An Ampere GPU latches an error after it has been found, and the bus is scanned again. -/
theorem rescan_run_ampere :
    let hb := HostBridge.of [(⟨0, 0, 0⟩, ampereSpace)]
    let first := scanForNvidiaGpu hb
    let ops := [.latch ⟨0, 0, 0⟩ 0x20000000, .scan]
    (∀ e ∈ pciBus.trace first.2 ops, e.op = .scan → e.out = first.1) ∧
      (pciBus.final first.2 ops).functions = latched first.2.functions ops := by
  refine rescan_run (fun p hp => ?_) _
  obtain rfl := eq_of_isGpu_of hp
  exact ⟨by decide, by decide⟩

end GpuCompute
