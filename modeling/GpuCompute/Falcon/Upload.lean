import GpuCompute.Falcon.Boot
import GpuCompute.Lib.Port

/-!
# What an upload leaves in the memories

The two memories of a Falcon have 64 KiB each and are written through a configuration register and
a data port.  A write of the configuration register sets the position, and bit 25 of it makes every
word that is written to the port advance the position by four.  The driver writes the configuration
once and then only words, so that an image ends up where it is meant to be because the port counts
along.

* `FalconMemory`, `MemoryState` : the memories behind their ports, and the rest of the device.
* `GpuRegs.withMemories` : a device with the memories of a Falcon.
* `Falcon.uploadTo` : the upload to one of the memories.
* `Uploaded` : the image is in place and nothing else has changed.
* `Falcon.uploadTo_withMemories` : the state after an upload of whole words.
* `uploadTo_exact` : an image of whole words is placed exactly, any other is not written at all.
-/

namespace GpuCompute

open Systems

/-- The memories of a Falcon. -/
inductive FalconMemory where
  | imem
  | dmem
  deriving DecidableEq

/-- The configuration register of a memory. -/
def FalconMemory.config : FalconMemory → UInt32
  | .imem => FALCON_IMEMC
  | .dmem => FALCON_DMEMC

/-- The data port of a memory. -/
def FalconMemory.port : FalconMemory → UInt32
  | .imem => FALCON_IMEMD
  | .dmem => FALCON_DMEMD

/-- The upload to a memory. -/
def Falcon.uploadTo {δ : Type*} (f : Falcon) (regs : GpuRegs δ) :
    FalconMemory → List UInt8 → UInt32 → δ → δ
  | .imem => f.uploadImem regs
  | .dmem => f.uploadDmem regs

/-! ### A device with memories -/

/-- A write of the configuration register: bits 15..2 are the position, bit 25 is
auto-increment. -/
def configure (port : Port 16 UInt8) (value : UInt32) : Port 16 UInt8 :=
  { port with
    position := value.toBitVec.extractLsb' 2 14 ++ 0#2
    autoIncrement := value.toBitVec.getLsbD 25 }

/-- A device with the memories of a Falcon. -/
structure MemoryState (δ : Type*) where
  /-- The memories behind their ports. -/
  ports : FalconMemory → Port 16 UInt8
  /-- The rest of the device. -/
  dev : δ

namespace MemoryState

variable {δ : Type*}

/-- Change one port. -/
def modify (m : FalconMemory) (g : Port 16 UInt8 → Port 16 UInt8) (s : MemoryState δ) :
    MemoryState δ :=
  { s with ports := Function.update s.ports m (g (s.ports m)) }

/-- The bytes of a memory. -/
def bytes (s : MemoryState δ) (m : FalconMemory) : BitVec 16 → UInt8 := (s.ports m).cells

theorem modify_modify (m : FalconMemory) (g h : Port 16 UInt8 → Port 16 UInt8)
    (s : MemoryState δ) : (s.modify m g).modify m h = s.modify m (h ∘ g) := by
  simp [modify]

@[simp] theorem bytes_modify_self (m : FalconMemory) (g : Port 16 UInt8 → Port 16 UInt8)
    (s : MemoryState δ) : (s.modify m g).bytes m = (g (s.ports m)).cells := by
  simp [modify, bytes]

theorem bytes_modify_of_ne {m m' : FalconMemory} (h : m' ≠ m)
    (g : Port 16 UInt8 → Port 16 UInt8) (s : MemoryState δ) :
    (s.modify m g).bytes m' = s.bytes m' := by
  simp [modify, bytes, h]

end MemoryState

/-- The device `regs` with the memories of a Falcon.  Reads see the rest of the device: an upload
makes none. -/
def GpuRegs.withMemories {δ : Type*} (regs : GpuRegs δ) (f : Falcon) :
    GpuRegs (MemoryState δ) where
  read32 s offset :=
    ((regs.read32 s.dev offset).1, { s with dev := (regs.read32 s.dev offset).2 })
  write32 s offset value :=
    if offset = f.base + FALCON_IMEMC then s.modify .imem (configure · value)
    else if offset = f.base + FALCON_IMEMD then s.modify .imem (·.transfer (leBytes value))
    else if offset = f.base + FALCON_DMEMC then s.modify .dmem (configure · value)
    else if offset = f.base + FALCON_DMEMD then s.modify .dmem (·.transfer (leBytes value))
    else { s with dev := regs.write32 s.dev offset value }

/-- The image is in place, and nothing else has changed in the memories or in the rest of the
device. -/
structure Uploaded {δ : Type*} (m : FalconMemory) (data : List UInt8) (memOffset : UInt32)
    (before after : MemoryState δ) : Prop where
  /-- The memory that has been written. -/
  placed : PlacedAt (before.bytes m) (after.bytes m) memOffset.toNat data
  /-- The other memory. -/
  other : ∀ m' ≠ m, after.bytes m' = before.bytes m'
  /-- The other registers. -/
  dev : after.dev = before.dev

theorem getLsbD_positionMask : ∀ i < 14,
    (0xFFFC : UInt32).toBitVec.getLsbD (i + 2) = true ∧
      ((1 : UInt32) <<< 25).toBitVec.getLsbD (i + 2) = false := by decide

theorem position_upload {memOffset : UInt32} (h : 4 ∣ memOffset.toNat) :
    (((1 : UInt32) <<< 25) ||| (memOffset &&& 0xFFFC)).toBitVec.extractLsb' 2 14 ++ 0#2 =
      BitVec.ofNat 16 memOffset.toNat := by
  obtain ⟨k, hk⟩ := h
  apply BitVec.eq_of_getLsbD_eq
  intro i hi
  have hoffset : (BitVec.ofNat 16 memOffset.toNat).getLsbD i = memOffset.toNat.testBit i := by
    rw [BitVec.getLsbD_ofNat, decide_eq_true hi, Bool.true_and]
  rw [hoffset, BitVec.getLsbD_append]
  rcases Nat.lt_or_ge i 2 with hlow | hlow
  · -- an aligned offset has no bits below the position
    rw [if_pos hlow, BitVec.getLsbD_zero, hk, show 4 * k = 2 ^ 2 * k by rfl,
      Nat.testBit_two_pow_mul, decide_eq_false (by omega), Bool.false_and]
  · obtain ⟨j, rfl⟩ := Nat.exists_eq_add_of_le' hlow
    obtain ⟨hmask, hauto⟩ := getLsbD_positionMask j (by omega)
    rw [if_neg (by omega), Nat.add_sub_cancel, BitVec.getLsbD_extractLsb',
      decide_eq_true (by omega), Bool.true_and, Nat.add_comm 2 j, UInt32.toBitVec_or,
      BitVec.getLsbD_or, hauto, Bool.false_or, UInt32.toBitVec_and, BitVec.getLsbD_and, hmask,
      Bool.and_true]
    rfl

theorem configure_upload (port : Port 16 UInt8) {memOffset : UInt32} (h : 4 ∣ memOffset.toNat) :
    configure port (((1 : UInt32) <<< 25) ||| (memOffset &&& 0xFFFC)) =
      ⟨port.cells, BitVec.ofNat 16 memOffset.toNat, true⟩ := by
  have hauto : (((1 : UInt32) <<< 25) ||| (memOffset &&& 0xFFFC)).toBitVec.getLsbD 25 = true := by
    rw [UInt32.toBitVec_or, BitVec.getLsbD_or,
      show ((1 : UInt32) <<< 25).toBitVec.getLsbD 25 = true by decide, Bool.true_or]
  rw [configure, position_upload h, hauto]

namespace Falcon

variable {δ : Type*} (f : Falcon) (regs : GpuRegs δ) (m : FalconMemory)

theorem uploadTo_eq (data : List UInt8) (memOffset : UInt32) (dev : δ) :
    f.uploadTo regs m data memOffset dev = f.upload regs m.config m.port data memOffset dev := by
  cases m <;> rfl

theorem write_config (value : UInt32) (s : MemoryState δ) :
    f.write (regs.withMemories f) m.config value s = s.modify m (configure · value) := by
  cases m with
  | imem => simp [write, GpuRegs.withMemories, FalconMemory.config]
  | dmem =>
    have himemc := f.addr_ne (a := FALCON_DMEMC) (b := FALCON_IMEMC) (by decide)
    have himemd := f.addr_ne (a := FALCON_DMEMC) (b := FALCON_IMEMD) (by decide)
    simp [write, GpuRegs.withMemories, FalconMemory.config, himemc, himemd]

theorem write_port (word : UInt32) (s : MemoryState δ) :
    f.write (regs.withMemories f) m.port word s = s.modify m (·.transfer (leBytes word)) := by
  cases m with
  | imem =>
    have himemc := f.addr_ne (a := FALCON_IMEMD) (b := FALCON_IMEMC) (by decide)
    simp [write, GpuRegs.withMemories, FalconMemory.port, himemc]
  | dmem =>
    have himemc := f.addr_ne (a := FALCON_DMEMD) (b := FALCON_IMEMC) (by decide)
    have himemd := f.addr_ne (a := FALCON_DMEMD) (b := FALCON_IMEMD) (by decide)
    have hdmemc := f.addr_ne (a := FALCON_DMEMD) (b := FALCON_DMEMC) (by decide)
    simp [write, GpuRegs.withMemories, FalconMemory.port, himemc, himemd, hdmemc]

theorem foldl_write_port (words : List UInt32) (s : MemoryState δ) :
    words.foldl (fun s word => f.write (regs.withMemories f) m.port word s) s =
      s.modify m fun port => (words.map leBytes).foldl Port.transfer port := by
  induction words generalizing s with
  | nil => simp [MemoryState.modify]
  | cons word words ih =>
    rw [List.foldl_cons, write_port, ih, MemoryState.modify_modify]
    rfl

/-- **The state after an upload of whole words.** -/
theorem uploadTo_withMemories {data : List UInt8} {memOffset : UInt32}
    (hdata : 4 ∣ data.length) (hoffset : 4 ∣ memOffset.toNat) (hlen : data.length ≤ 2 ^ 16)
    (s : MemoryState δ) :
    f.uploadTo (regs.withMemories f) m data memOffset s =
      s.modify m fun port =>
        ⟨storeAt port.cells (BitVec.ofNat 16 memOffset.toNat) data,
          BitVec.ofNat 16 memOffset.toNat + BitVec.ofNat 16 data.length, true⟩ := by
  have hflatten : ((leWords data).map leBytes).flatten = data := by
    rw [← List.flatMap_def, flatMap_leBytes_leWords data hdata]
  rw [uploadTo_eq, f.upload_of_dvd _ hdata, write_config, foldl_write_port,
    MemoryState.modify_modify]
  congr 1
  funext port
  have htransfer := Port.foldl_transfer ((leWords data).map leBytes) port.cells
    (BitVec.ofNat 16 memOffset.toNat) (by rw [hflatten]; exact hlen)
  rw [hflatten] at htransfer
  rw [Function.comp_apply, configure_upload port hoffset]
  exact htransfer

end Falcon

/-- **An upload places the image exactly.**  An image that is not made of whole words is not
written at all: the log of register accesses stays as it is. -/
theorem uploadTo_exact {δ : Type*} (f : Falcon) (regs : GpuRegs δ) (m : FalconMemory)
    (data : List UInt8) (memOffset : UInt32) :
    (4 ∣ data.length → 4 ∣ memOffset.toNat → memOffset.toNat + data.length ≤ 2 ^ 16 →
      ∀ s : MemoryState δ,
        Uploaded m data memOffset s (f.uploadTo (regs.withMemories f) m data memOffset s)) ∧
    (¬ 4 ∣ data.length →
      ∀ s : List Access × δ, f.uploadTo regs.logged m data memOffset s = s) := by
  constructor
  · intro hdata hoffset hlen s
    rw [f.uploadTo_withMemories regs m hdata hoffset (by omega)]
    constructor
    · rw [MemoryState.bytes_modify_self]
      exact placedAt_storeAt _ hlen
    · exact fun m' hm' => MemoryState.bytes_modify_of_ne hm' _ s
    · rfl
  · intro hdata s
    rw [Falcon.uploadTo_eq, f.upload_of_not_dvd _ hdata]

/-- Eight bytes on a PMU with empty memories, and three bytes that are not written. -/
theorem uploadTo_exact_pmu :
    let f := Falcon.new .pmu
    let s : MemoryState (UInt32 → UInt32) := ⟨fun _ => ⟨fun _ => 0, 0, false⟩, fun _ => 0⟩
    Uploaded .imem [1, 2, 3, 4, 5, 6, 7, 8] 0x100 s
        (f.uploadTo (GpuRegs.plain.withMemories f) .imem [1, 2, 3, 4, 5, 6, 7, 8] 0x100 s) ∧
      f.uploadTo GpuRegs.plain.logged .dmem [1, 2, 3] 0x100 ([], fun _ => 0) =
        ([], fun _ => 0) :=
  ⟨(uploadTo_exact (.new .pmu) GpuRegs.plain .imem [1, 2, 3, 4, 5, 6, 7, 8] 0x100).1
      (by decide) (by decide) (by decide) _,
    (uploadTo_exact (.new .pmu) GpuRegs.plain .dmem [1, 2, 3] 0x100).2 (by decide) _⟩

end GpuCompute
