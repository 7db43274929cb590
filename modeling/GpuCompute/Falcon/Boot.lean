import GpuCompute.Falcon.Basic
import GpuCompute.Lib.Machine
import GpuCompute.Mmio.Log

/-!
# What a Falcon is started on

The uploads refuse an image that is not made of whole words, and they do not say so: the sequence
goes on and starts the processor on whatever its memories hold.  The log of a call tells what has
been uploaded before the start.

`BootsUploaded` says that before every start of a call both images have been written completely.
`Falcon.initWithFirmware_log` gives all accesses of a call, and by `bootsUploaded_iff` the start
finds both images exactly when both are made of whole words.
-/

namespace GpuCompute

open Systems

/-- Whenever the log starts the processor, the words written to the two data ports before are the
two images. -/
def BootsUploaded (f : Falcon) (imemFirmware dmemData : List UInt8) (log : List Access) : Prop :=
  Always (fun a before => ∀ value, a = .write (f.base + FALCON_CPUCTL) value →
    value &&& FALCON_CPUCTL_START ≠ 0 →
      (written (f.base + FALCON_IMEMD) before).flatMap leBytes = imemFirmware ∧
      (written (f.base + FALCON_DMEMD) before).flatMap leBytes = dmemData) log

/-- The access does not start the processor. -/
def Access.NoStart (f : Falcon) (a : Access) : Prop :=
  ∀ value, a = .write (f.base + FALCON_CPUCTL) value → value &&& FALCON_CPUCTL_START = 0

namespace Falcon

variable {δ : Type*} (f : Falcon) (regs : GpuRegs δ)

/-! ### The accesses of the steps -/

/-- The accesses of an upload, newest first. -/
def uploadLog (ctrl port : UInt32) (data : List UInt8) (memOffset : UInt32) : List Access :=
  if 4 ∣ data.length then
    (leWords data).reverse.map (.write (f.base + port)) ++
      [.write (f.base + ctrl) (((1 : UInt32) <<< 25) ||| (memOffset &&& 0xFFFC))]
  else []

theorem foldl_write_log (port : UInt32) (words : List UInt32) (s : List Access × δ) :
    (words.foldl (fun s w => f.write regs.logged port w s) s).1 =
      words.reverse.map (.write (f.base + port)) ++ s.1 := by
  induction words generalizing s with
  | nil => rfl
  | cons w words ih =>
    rw [List.foldl_cons, ih, List.reverse_cons, List.map_append, List.append_assoc]
    rfl

theorem upload_log (ctrl port : UInt32) (data : List UInt8) (memOffset : UInt32)
    (s : List Access × δ) :
    (f.upload regs.logged ctrl port data memOffset s).1 =
      f.uploadLog ctrl port data memOffset ++ s.1 := by
  unfold uploadLog
  split_ifs with h
  · rw [upload_of_dvd f regs.logged h, foldl_write_log, List.append_assoc]
    rfl
  · rw [upload_of_not_dvd f regs.logged h, List.nil_append]

theorem waitReady_log (n : ℕ) (s : List Access × δ) :
    ∃ polls : List UInt32, (f.waitReady regs.logged n s).2.1 =
      polls.map (.read (f.base + FALCON_OS)) ++ s.1 := by
  induction n generalizing s with
  | zero => exact ⟨[], rfl⟩
  | succ n ih =>
    unfold waitReady
    dsimp only [read]
    split_ifs with h
    · exact ⟨[(regs.read32 s.2 (f.base + FALCON_OS)).1], rfl⟩
    · obtain ⟨polls, hpolls⟩ := ih (regs.logged.read32 s (f.base + FALCON_OS)).2
      refine ⟨polls ++ [(regs.read32 s.2 (f.base + FALCON_OS)).1], hpolls.trans ?_⟩
      rw [List.map_append, List.append_assoc]
      rfl

/-- The accesses before the start, newest first: `cpuctl` and `pending` are what the processor
control and the interrupt status have shown. -/
def beforeStart (imemFirmware dmemData : List UInt8) (cpuctl pending : UInt32) : List Access :=
  .write (f.base + FALCON_BOOTVEC) 0 ::
    (if dmemData.isEmpty then [] else f.uploadLog FALCON_DMEMC FALCON_DMEMD dmemData 0) ++
    f.uploadLog FALCON_IMEMC FALCON_IMEMD imemFirmware 0 ++
    (if pending = 0 then [] else [.write (f.base + FALCON_IRQSCLR) pending]) ++
    [.read (f.base + FALCON_IRQSRD) pending, .read (f.base + FALCON_CPUCTL) cpuctl,
      .write (f.base + FALCON_CPUCTL) FALCON_CPUCTL_HALT]

theorem clearInterrupts_log (s : List Access × δ) :
    ∃ pending, (f.clearInterrupts regs.logged s).1 =
      (if pending = 0 then [] else [.write (f.base + FALCON_IRQSCLR) pending]) ++
        .read (f.base + FALCON_IRQSRD) pending :: s.1 := by
  refine ⟨(regs.read32 s.2 (f.base + FALCON_IRQSRD)).1, ?_⟩
  unfold clearInterrupts
  dsimp only [read, GpuRegs.logged]
  split_ifs <;> first | rfl | contradiction

theorem prepare_log (imemFirmware dmemData : List UInt8) (dev : δ) :
    ∃ cpuctl pending, .write (f.base + FALCON_BOOTVEC) 0 ::
        (f.prepare regs.logged imemFirmware dmemData ([], dev)).1 =
      f.beforeStart imemFirmware dmemData cpuctl pending := by
  obtain ⟨pending, hpending⟩ := f.clearInterrupts_log regs (f.halt regs.logged ([], dev))
  refine ⟨(regs.read32 (regs.write32 dev (f.base + FALCON_CPUCTL) FALCON_CPUCTL_HALT)
    (f.base + FALCON_CPUCTL)).1, pending, ?_⟩
  have hhalt : (f.halt regs.logged ([], dev)).1 =
      [.read (f.base + FALCON_CPUCTL) (regs.read32 (regs.write32 dev (f.base + FALCON_CPUCTL)
          FALCON_CPUCTL_HALT) (f.base + FALCON_CPUCTL)).1,
        .write (f.base + FALCON_CPUCTL) FALCON_CPUCTL_HALT] := rfl
  rw [hhalt] at hpending
  unfold prepare beforeStart
  cases dmemData.isEmpty <;>
    simp [uploadDmem, uploadImem, upload_log, hpending]

/-- **The accesses of a call**: what comes before the start, the start, and polls. -/
theorem initWithFirmware_log (imemFirmware dmemData : List UInt8) (dev : δ) :
    ∃ (polls : List UInt32) (cpuctl pending : UInt32),
      (f.initWithFirmware regs.logged imemFirmware dmemData ([], dev)).2.1 =
        polls.map (.read (f.base + FALCON_OS)) ++
          .write (f.base + FALCON_CPUCTL) FALCON_CPUCTL_START ::
            f.beforeStart imemFirmware dmemData cpuctl pending := by
  obtain ⟨cpuctl, pending, hprepare⟩ := f.prepare_log regs imemFirmware dmemData dev
  obtain ⟨polls, hpolls⟩ := f.waitReady_log regs 1000000
    (f.boot regs.logged 0 (f.prepare regs.logged imemFirmware dmemData ([], dev)))
  refine ⟨polls, cpuctl, pending, ?_⟩
  rw [initWithFirmware_eq, ← hprepare]
  exact hpolls

/-! ### What has been written before the start -/

theorem written_uploadLog_port {ctrl port : UInt32} (h : ctrl ≠ port) (data : List UInt8)
    (memOffset : UInt32) :
    (written (f.base + port) (f.uploadLog ctrl port data memOffset)).flatMap leBytes =
      if 4 ∣ data.length then data else [] := by
  unfold uploadLog
  split_ifs with hdata
  · rw [written_append, written_write_of_ne (f.addr_ne h), written_nil, List.nil_append,
      written_map_write_self, List.reverse_reverse, flatMap_leBytes_leWords data hdata]
  · rfl

theorem written_uploadLog_of_ne {ctrl port o : UInt32} (hctrl : ctrl ≠ o) (hport : port ≠ o)
    (data : List UInt8) (memOffset : UInt32) :
    written (f.base + o) (f.uploadLog ctrl port data memOffset) = [] := by
  unfold uploadLog
  split_ifs
  · rw [written_append, written_write_of_ne (f.addr_ne hctrl), written_nil, List.nil_append,
      written_map_write_of_ne (f.addr_ne hport)]
  · rfl

theorem written_beforeStart {o : UInt32} (hboot : FALCON_BOOTVEC ≠ o) (hclr : FALCON_IRQSCLR ≠ o)
    (hctl : FALCON_CPUCTL ≠ o) (imemFirmware dmemData : List UInt8) (cpuctl pending : UInt32) :
    written (f.base + o) (f.beforeStart imemFirmware dmemData cpuctl pending) =
      written (f.base + o) (f.uploadLog FALCON_IMEMC FALCON_IMEMD imemFirmware 0) ++
        written (f.base + o)
          (if dmemData.isEmpty then [] else f.uploadLog FALCON_DMEMC FALCON_DMEMD dmemData 0) := by
  have hclear : written (f.base + o)
      (if pending = 0 then [] else [.write (f.base + FALCON_IRQSCLR) pending]) = [] := by
    split_ifs
    · rfl
    · exact written_write_of_ne (f.addr_ne hclr) _ _
  rw [beforeStart, List.cons_append, List.cons_append, List.cons_append,
    written_write_of_ne (f.addr_ne hboot), written_append, written_append, written_append, hclear,
    written_read, written_read, written_write_of_ne (f.addr_ne hctl), written_nil]
  rfl

theorem imem_beforeStart (imemFirmware dmemData : List UInt8) (cpuctl pending : UInt32) :
    (written (f.base + FALCON_IMEMD)
        (f.beforeStart imemFirmware dmemData cpuctl pending)).flatMap leBytes =
      if 4 ∣ imemFirmware.length then imemFirmware else [] := by
  have hdmem : written (f.base + FALCON_IMEMD)
      (if dmemData.isEmpty then [] else f.uploadLog FALCON_DMEMC FALCON_DMEMD dmemData 0) = [] := by
    split_ifs
    · rfl
    · exact f.written_uploadLog_of_ne (by decide) (by decide) _ _
  rw [f.written_beforeStart (by decide) (by decide) (by decide), hdmem, List.append_nil,
    f.written_uploadLog_port (by decide)]

theorem dmem_beforeStart (imemFirmware dmemData : List UInt8) (cpuctl pending : UInt32) :
    (written (f.base + FALCON_DMEMD)
        (f.beforeStart imemFirmware dmemData cpuctl pending)).flatMap leBytes =
      if 4 ∣ dmemData.length then dmemData else [] := by
  rw [f.written_beforeStart (by decide) (by decide) (by decide),
    f.written_uploadLog_of_ne (by decide) (by decide), List.nil_append]
  cases dmemData with
  | nil => rfl
  | cons b dmemData => exact f.written_uploadLog_port (by decide) _ _

/-! ### What does not start the processor -/

variable {f} in
theorem noStart_read (o value : UInt32) : (Access.read o value).NoStart f :=
  fun _ h => by cases h

theorem noStart_write_of_ne {o : UInt32} (h : o ≠ FALCON_CPUCTL) (value : UInt32) :
    (Access.write (f.base + o) value).NoStart f := by
  rintro _ heq
  exact absurd (Access.write.inj heq).1 (f.addr_ne h)

theorem noStart_write_halt :
    (Access.write (f.base + FALCON_CPUCTL) FALCON_CPUCTL_HALT).NoStart f := by
  rintro _ heq
  rw [← (Access.write.inj heq).2]
  decide

theorem noStart_uploadLog {ctrl port : UInt32} (hctrl : ctrl ≠ FALCON_CPUCTL)
    (hport : port ≠ FALCON_CPUCTL) (data : List UInt8) (memOffset : UInt32) :
    ∀ a ∈ f.uploadLog ctrl port data memOffset, a.NoStart f := by
  intro a ha
  unfold uploadLog at ha
  split_ifs at ha
  · rcases List.mem_append.1 ha with ha | ha
    · obtain ⟨value, -, rfl⟩ := List.mem_map.1 ha
      exact f.noStart_write_of_ne hport value
    · rw [List.mem_singleton.1 ha]
      exact f.noStart_write_of_ne hctrl _
  · cases ha

theorem noStart_beforeStart (imemFirmware dmemData : List UInt8) (cpuctl pending : UInt32) :
    ∀ a ∈ f.beforeStart imemFirmware dmemData cpuctl pending, a.NoStart f := by
  intro a ha
  simp only [beforeStart, List.cons_append, List.append_assoc, List.mem_cons, List.mem_append,
    List.not_mem_nil, or_false] at ha
  rcases ha with rfl | ha | ha | ha | rfl | rfl | rfl
  · exact f.noStart_write_of_ne (by decide) _
  · split_ifs at ha
    · cases ha
    · exact f.noStart_uploadLog (by decide) (by decide) _ _ a ha
  · exact f.noStart_uploadLog (by decide) (by decide) _ _ a ha
  · split_ifs at ha
    · cases ha
    · rw [List.mem_singleton.1 ha]
      exact f.noStart_write_of_ne (by decide) _
  · exact noStart_read _ _
  · exact noStart_read _ _
  · exact f.noStart_write_halt

end Falcon

/-! ### The start -/

/-- What the one start of a call finds: an image of whole words, or nothing. -/
theorem bootsUploaded_iff_written {δ : Type*} (f : Falcon) (regs : GpuRegs δ)
    (imemFirmware dmemData : List UInt8) (dev : δ) :
    BootsUploaded f imemFirmware dmemData
        (f.initWithFirmware regs.logged imemFirmware dmemData ([], dev)).2.1 ↔
      (if 4 ∣ imemFirmware.length then imemFirmware else []) = imemFirmware ∧
        (if 4 ∣ dmemData.length then dmemData else []) = dmemData := by
  obtain ⟨polls, cpuctl, pending, hlog⟩ := f.initWithFirmware_log regs imemFirmware dmemData dev
  rw [hlog, BootsUploaded, always_append_cons_iff, f.imem_beforeStart, f.dmem_beforeStart]
  · constructor
    · exact fun h => h _ rfl (by decide)
    · exact fun h _ _ _ => h
  · intro a ha before value hstart hbit
    obtain ⟨v, -, rfl⟩ := List.mem_map.1 ha
    cases hstart
  · intro a ha before value hstart hbit
    exact absurd (f.noStart_beforeStart _ _ _ _ a ha value hstart) hbit

/-- **A Falcon is started on both images exactly when both are made of whole words.** -/
theorem bootsUploaded_iff {δ : Type*} (f : Falcon) (regs : GpuRegs δ)
    (imemFirmware dmemData : List UInt8) (dev : δ) :
    BootsUploaded f imemFirmware dmemData
        (f.initWithFirmware regs.logged imemFirmware dmemData ([], dev)).2.1 ↔
      4 ∣ imemFirmware.length ∧ 4 ∣ dmemData.length := by
  have hwhole : ∀ data : List UInt8,
      (if 4 ∣ data.length then data else []) = data ↔ 4 ∣ data.length := by
    intro data
    split_ifs with h
    · exact iff_of_true rfl h
    · exact iff_of_false (fun heq => h (by rw [← heq]; exact dvd_zero 4)) h
  rw [bootsUploaded_iff_written, hwhole, hwhole]

/-- Three bytes of firmware are not uploaded, and the processor is started all the same. -/
theorem not_bootsUploaded_three_bytes :
    ¬ BootsUploaded (.new .pmu) [1, 2, 3] [] ((Falcon.new .pmu).initWithFirmware
      GpuRegs.plain.logged [1, 2, 3] [] ([], fun _ => 1)).2.1 := by
  rw [bootsUploaded_iff_written]
  decide

end GpuCompute
