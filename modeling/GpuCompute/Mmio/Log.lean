import GpuCompute.Lib.Machine
import GpuCompute.Mmio.Basic

/-!
# Register logs

`GpuRegs.logged` records every access to a device, and does not touch the device by this.

* `Access` is one register access, with the value read or written.
* `GpuRegs.logged` is a device with a log of its accesses, newest first.
* `written offset log` are the values written to a register, oldest first.
-/

namespace GpuCompute

/-- A register access. -/
inductive Access where
  | read (offset value : UInt32)
  | write (offset value : UInt32)
  deriving DecidableEq

/-- The value an access writes to the register at `offset`. -/
def Access.writtenTo (offset : UInt32) : Access → Option UInt32
  | .read _ _ => none
  | .write o value => if o = offset then some value else none

/-- The values written to the register at `offset`, oldest first. -/
def written (offset : UInt32) (log : List Access) : List UInt32 :=
  (log.filterMap (Access.writtenTo offset)).reverse

@[simp] theorem written_nil (offset : UInt32) : written offset [] = [] := rfl

@[simp] theorem written_append (offset : UInt32) (later earlier : List Access) :
    written offset (later ++ earlier) = written offset earlier ++ written offset later := by
  simp [written]

theorem written_read (offset o value : UInt32) (log : List Access) :
    written offset (.read o value :: log) = written offset log := rfl

theorem written_write_self (offset value : UInt32) (log : List Access) :
    written offset (.write offset value :: log) = written offset log ++ [value] := by
  simp [written, Access.writtenTo]

theorem written_write_of_ne {offset o : UInt32} (h : o ≠ offset) (value : UInt32)
    (log : List Access) : written offset (.write o value :: log) = written offset log := by
  simp [written, Access.writtenTo, h]

theorem written_map_write_self (offset : UInt32) (values : List UInt32) :
    written offset (values.map (.write offset)) = values.reverse := by
  induction values with
  | nil => rfl
  | cons v values ih => rw [List.map_cons, written_write_self, ih, List.reverse_cons]

theorem written_map_write_of_ne {offset o : UInt32} (h : o ≠ offset) (values : List UInt32) :
    written offset (values.map (.write o)) = [] := by
  induction values with
  | nil => rfl
  | cons v values ih => rw [List.map_cons, written_write_of_ne h, ih]

namespace GpuRegs

variable {δ : Type*}

/-- A device together with the log of its accesses, newest first. -/
def logged (regs : GpuRegs δ) : GpuRegs (List Access × δ) where
  read32 s offset :=
    (((regs.read32 s.2 offset).1),
      (.read offset (regs.read32 s.2 offset).1 :: s.1, (regs.read32 s.2 offset).2))
  write32 s offset value := (.write offset value :: s.1, regs.write32 s.2 offset value)

end GpuRegs

end GpuCompute
