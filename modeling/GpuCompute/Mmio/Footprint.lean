import GpuCompute.Lib.Access
import GpuCompute.Mmio.Basic
import GpuCompute.Mmio.Log

/-!
# Footprints of driver functions

A driver function is given for every device, and all that it can do with a device is to read and
write its registers.  `Uses R W f` says that `f` reads registers of `R` and writes registers of `W`
only; it is a program of accesses, whose laws are those of `Lib.Access`.

* `DriverFn β` : a function of the driver with result `β`, given for every device.
* `Uses R W f` : the footprint of a function.
* `Represents p f` : the program of a function; there is just one (`Represents.unique`).
* `uses_read32`, `uses_write32`, `Uses.bind`, `Uses.foldl` : footprints from those of the steps.
* `Uses.simulates` : devices that look the same in the footprint look the same to the function.
* `Uses.logged` : a log of the accesses changes nothing.
* `Uses.preserves` : what the accesses keep, the function keeps.
-/

namespace GpuCompute

open Systems

/-- The registers as addresses of a bus. -/
def GpuRegs.bus {δ : Type*} (regs : GpuRegs δ) : Bus UInt32 UInt32 δ := ⟨regs.read32, regs.write32⟩

/-- A bus with 32-bit addresses and words as registers. -/
def GpuRegs.ofBus {δ : Type*} (bus : Bus UInt32 UInt32 δ) : GpuRegs δ := ⟨bus.read, bus.write⟩

/-- A driver function, given for every device. -/
abbrev DriverFn (β : Type*) := ∀ ⦃δ : Type⦄, GpuRegs δ → δ → β × δ

/-- The function reads registers of `R` and writes registers of `W` only. -/
def Uses {β : Type*} (R W : Set UInt32) (f : DriverFn β) : Prop :=
  ∃ p : Prog UInt32 UInt32 β, p.Within R W ∧
    ∀ ⦃δ : Type⦄ (regs : GpuRegs δ) (dev : δ), f regs dev = p.run regs.bus dev

section Uses

variable {β γ ι : Type*} {R R' W W' : Set UInt32} {f : DriverFn β}

theorem Uses.mono (h : Uses R W f) (hR : R ⊆ R') (hW : W ⊆ W') : Uses R' W' f := by
  obtain ⟨p, hp, heq⟩ := h
  exact ⟨p, hp.mono hR hW, heq⟩

theorem uses_pure (b : β) : Uses R W fun _ _ dev => (b, dev) :=
  ⟨.pure b, trivial, fun _ _ _ => rfl⟩

theorem uses_read32 {offset : UInt32} (h : offset ∈ R) :
    Uses R W fun _ regs dev => regs.read32 dev offset :=
  ⟨.read offset .pure, ⟨h, fun _ => trivial⟩, fun _ _ _ => rfl⟩

theorem uses_write32 {offset : UInt32} (h : offset ∈ W) (value : UInt32) :
    Uses R W fun _ regs dev => ((), regs.write32 dev offset value) :=
  ⟨.write offset value (.pure ()), ⟨h, trivial⟩, fun _ _ _ => rfl⟩

theorem Uses.bind (h : Uses R W f) {g : β → DriverFn γ} (hg : ∀ b, Uses R W (g b)) :
    Uses R W fun _ regs dev => g (f regs dev).1 regs (f regs dev).2 := by
  obtain ⟨p, hp, heq⟩ := h
  choose q hq hqeq using hg
  refine ⟨p.bind q, hp.bind hq, fun δ regs dev => ?_⟩
  rw [Prog.run_bind, ← heq, ← hqeq]

theorem Uses.map (h : Uses R W f) (g : β → γ) :
    Uses R W fun _ regs dev => (g (f regs dev).1, (f regs dev).2) :=
  h.bind fun b => uses_pure (g b)

theorem Uses.foldl {g : ι → ∀ ⦃δ : Type⦄, GpuRegs δ → δ → δ}
    (hg : ∀ i, Uses R W fun _ regs dev => ((), g i regs dev)) (l : List ι) :
    Uses R W fun _ regs dev => ((), l.foldl (fun dev i => g i regs dev) dev) := by
  induction l with
  | nil => exact uses_pure ()
  | cons i l ih => exact (hg i).bind fun _ => ih

theorem Uses.simulates (h : Uses R W f) {δ ε : Type} {fine : GpuRegs δ} {coarse : GpuRegs ε}
    {rel : δ → ε → Prop}
    (hread : ∀ s t, rel s t → ∀ offset ∈ R,
      (fine.read32 s offset).1 = (coarse.read32 t offset).1 ∧
        rel (fine.read32 s offset).2 (coarse.read32 t offset).2)
    (hwrite : ∀ s t, rel s t → ∀ offset ∈ W, ∀ value,
      rel (fine.write32 s offset value) (coarse.write32 t offset value))
    {s : δ} {t : ε} (hst : rel s t) :
    (f fine s).1 = (f coarse t).1 ∧ rel (f fine s).2 (f coarse t).2 := by
  obtain ⟨p, hp, heq⟩ := h
  rw [heq, heq]
  exact hp.simulates hread hwrite hst

theorem Uses.logged (h : Uses R W f) {δ : Type} (regs : GpuRegs δ) (log : List Access) (dev : δ) :
    (f regs.logged (log, dev)).1 = (f regs dev).1 ∧
      (f regs.logged (log, dev)).2.2 = (f regs dev).2 := by
  let rel : List Access × δ → δ → Prop := fun s t => s.2 = t
  have hread : ∀ s t, rel s t → ∀ offset ∈ R,
      (regs.logged.read32 s offset).1 = (regs.read32 t offset).1 ∧
        rel (regs.logged.read32 s offset).2 (regs.read32 t offset).2 := by
    rintro s _ rfl offset -
    exact ⟨rfl, rfl⟩
  have hwrite : ∀ s t, rel s t → ∀ offset ∈ W, ∀ value,
      rel (regs.logged.write32 s offset value) (regs.write32 t offset value) := by
    rintro s _ rfl offset - value
    rfl
  have hrel : rel (log, dev) dev := rfl
  exact h.simulates hread hwrite hrel

theorem Uses.preserves (h : Uses R W f) {δ : Type} {regs : GpuRegs δ} {P : δ → Prop}
    (hread : ∀ dev, P dev → ∀ offset ∈ R, P (regs.read32 dev offset).2)
    (hwrite : ∀ dev, P dev → ∀ offset ∈ W, ∀ value, P (regs.write32 dev offset value)) {dev : δ}
    (hP : P dev) : P (f regs dev).2 := by
  obtain ⟨p, hp, heq⟩ := h
  rw [heq]
  exact hp.preserves hread hwrite hP

end Uses

/-! ### The program of a function -/

/-- The accesses of the function are those of the program. -/
def Represents {β : Type} (p : Prog UInt32 UInt32 β) (f : DriverFn β) : Prop :=
  ∀ ⦃δ : Type⦄ (regs : GpuRegs δ) (dev : δ), f regs dev = p.run regs.bus dev

section Represents

variable {β : Type} {R W : Set UInt32} {f : DriverFn β} {p q : Prog UInt32 UInt32 β}

theorem Represents.unique (hp : Represents p f) (hq : Represents q f) : p = q :=
  Prog.ext_run fun _ bus s => (hp (.ofBus bus) s).symm.trans (hq (.ofBus bus) s)

theorem Uses.within (h : Uses R W f) (hp : Represents p f) : p.Within R W := by
  obtain ⟨q, hq, heq⟩ := h
  rwa [hp.unique heq]

end Represents

end GpuCompute
