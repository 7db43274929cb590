import Mathlib.Data.Set.Basic
import Mathlib.Logic.Function.Basic

/-!
# Programs that access a bus

A driver reads and writes a device at addresses of a bus.  Seen from the outside a driver function
is a *program*: a tree of reads and writes, in which the value of a read selects what comes next.
What a program does to one part of a device, and what it leaves alone, follows from the addresses
that occur in it.

* `Bus α ω δ` : a device with states `δ` behind addresses `α` of words `ω`.
* `Prog α ω β` : a program with results `β`, and `Prog.run`, what it does to a device.
* `Prog.Within R W` : the program reads at addresses of `R` and writes at addresses of `W` only.
* `bank` : several devices behind one bus, each with its own addresses.
* `Prog.run_bind`, `Prog.Within.bind` : programs one after the other.
* `Prog.Within.simulates` : devices that look the same at the addresses of a program look the same
  to the program.
* `Prog.Within.preserves` : what the accesses of a program keep, the program keeps.
* `Prog.ext_run` : programs that do the same to all devices are equal.
* `Prog.Within.run_bank` : a program at the addresses of one device does to that device what it does
  to the device alone, and nothing to the others.
-/

namespace Systems

/-- A device behind a bus. -/
structure Bus (α ω δ : Type*) where
  /-- Read at an address. -/
  read : δ → α → ω × δ
  /-- Write at an address. -/
  write : δ → α → ω → δ

/-- A program of accesses. -/
inductive Prog (α ω β : Type*) where
  | pure (b : β)
  | read (a : α) (next : ω → Prog α ω β)
  | write (a : α) (w : ω) (next : Prog α ω β)

namespace Prog

variable {α ω β γ δ ε ι : Type*}

/-- Perform a program. -/
def run (bus : Bus α ω δ) : Prog α ω β → δ → β × δ
  | .pure b, s => (b, s)
  | .read a next, s => (next (bus.read s a).1).run bus (bus.read s a).2
  | .write a w next, s => next.run bus (bus.write s a w)

/-- One program after the other. -/
def bind : Prog α ω β → (β → Prog α ω γ) → Prog α ω γ
  | .pure b, q => q b
  | .read a next, q => .read a fun w => (next w).bind q
  | .write a w next, q => .write a w (next.bind q)

theorem run_bind (bus : Bus α ω δ) (p : Prog α ω β) (q : β → Prog α ω γ) (s : δ) :
    (p.bind q).run bus s = (q (p.run bus s).1).run bus (p.run bus s).2 := by
  induction p generalizing s with
  | pure b => rfl
  | read a next ih => exact ih _ _
  | write a w next ih => exact ih _

/-- All reads are at addresses of `R` and all writes at addresses of `W`. -/
def Within (R W : Set α) : Prog α ω β → Prop
  | .pure _ => True
  | .read a next => a ∈ R ∧ ∀ w, (next w).Within R W
  | .write a _ next => a ∈ W ∧ next.Within R W

namespace Within

variable {R R' W W' : Set α} {p : Prog α ω β}

theorem mono (h : p.Within R W) (hR : R ⊆ R') (hW : W ⊆ W') : p.Within R' W' := by
  induction p with
  | pure b => trivial
  | read a next ih => exact ⟨hR h.1, fun w => ih w (h.2 w)⟩
  | write a w next ih => exact ⟨hW h.1, ih h.2⟩

theorem bind (h : p.Within R W) {q : β → Prog α ω γ} (hq : ∀ b, (q b).Within R W) :
    (p.bind q).Within R W := by
  induction p with
  | pure b => exact hq b
  | read a next ih => exact ⟨h.1, fun w => ih w (h.2 w)⟩
  | write a w next ih => exact ⟨h.1, ih h.2⟩

/-- **Devices that look the same at the addresses of a program look the same to the program.**  By
induction on the program, with the relation between the two devices as the invariant. -/
theorem simulates {fine : Bus α ω δ} {coarse : Bus α ω ε} {rel : δ → ε → Prop}
    (hread : ∀ s t, rel s t → ∀ a ∈ R, (fine.read s a).1 = (coarse.read t a).1 ∧
      rel (fine.read s a).2 (coarse.read t a).2)
    (hwrite : ∀ s t, rel s t → ∀ a ∈ W, ∀ w, rel (fine.write s a w) (coarse.write t a w))
    (hp : p.Within R W) {s : δ} {t : ε} (h : rel s t) :
    (p.run fine s).1 = (p.run coarse t).1 ∧ rel (p.run fine s).2 (p.run coarse t).2 := by
  induction p generalizing s t with
  | pure b => exact ⟨rfl, h⟩
  | read a next ih =>
    obtain ⟨hvalue, hrel⟩ := hread s t h a hp.1
    simp only [run, hvalue]
    exact ih _ (hp.2 _) hrel
  | write a w next ih => exact ih hp.2 (hwrite s t h a hp.1 w)

theorem preserves {bus : Bus α ω δ} {P : δ → Prop} (hread : ∀ s, P s → ∀ a ∈ R, P (bus.read s a).2)
    (hwrite : ∀ s, P s → ∀ a ∈ W, ∀ w, P (bus.write s a w)) (hp : p.Within R W) {s : δ}
    (h : P s) : P (p.run bus s).2 := by
  induction p generalizing s with
  | pure b => exact h
  | read a next ih => exact ih _ (hp.2 _) (hread s h a hp.1)
  | write a w next ih => exact ih hp.2 (hwrite s h a hp.1 w)

end Within

end Prog

/-! ### What a program does to all devices -/

section Ext

universe u

variable {α ω β δ : Type u}

/-- A device that remembers the first access, and answers `w`. -/
def firstAccess (w : ω) : Bus α ω (Option (α × Option ω)) where
  read s a := (w, s <|> some (a, none))
  write s a w' := s <|> some (a, some w')

/-- A device behind a first access, which is answered `w` and leads to the state `s₀`. -/
def afterFirst (bus : Bus α ω δ) (w : ω) (s₀ : δ) : Bus α ω (Option δ) where
  read
    | none, _ => (w, some s₀)
    | some s, a => ((bus.read s a).1, some (bus.read s a).2)
  write
    | none, _, _ => some s₀
    | some s, a, w' => some (bus.write s a w')

namespace Prog

/-- The first access, with the word that is written. -/
def first : Prog α ω β → Option (α × Option ω)
  | .pure _ => none
  | .read a _ => some (a, none)
  | .write a w _ => some (a, some w)

theorem run_firstAccess_some (w : ω) (p : Prog α ω β) (x : α × Option ω) :
    (p.run (firstAccess w) (some x)).2 = some x := by
  induction p with
  | pure b => rfl
  | read a next ih => exact ih w
  | write a w' next ih => exact ih

theorem run_firstAccess_none (w : ω) (p : Prog α ω β) :
    (p.run (firstAccess w) none).2 = p.first := by
  cases p with
  | pure b => rfl
  | read a next => exact run_firstAccess_some w (next w) (a, none)
  | write a w' next => exact run_firstAccess_some w next (a, some w')

theorem first_eq_of_run_eq {w : ω} {p q : Prog α ω β}
    (h : p.run (firstAccess w) none = q.run (firstAccess w) none) : p.first = q.first := by
  have hsnd := congrArg Prod.snd h
  rwa [run_firstAccess_none, run_firstAccess_none] at hsnd

theorem run_afterFirst (bus : Bus α ω δ) (w : ω) (s₀ : δ) (p : Prog α ω β) (s : δ) :
    p.run (afterFirst bus w s₀) (some s) = ((p.run bus s).1, some (p.run bus s).2) := by
  induction p generalizing s with
  | pure b => rfl
  | read a next ih => exact ih _ _
  | write a w' next ih => exact ih _

theorem run_eq_of_afterFirst {bus : Bus α ω δ} {w : ω} {s₀ : δ} {p q : Prog α ω β} {s : δ}
    (h : p.run (afterFirst bus w s₀) (some s) = q.run (afterFirst bus w s₀) (some s)) :
    p.run bus s = q.run bus s := by
  rw [run_afterFirst, run_afterFirst, Prod.mk.injEq, Option.some.injEq] at h
  exact Prod.ext h.1 h.2

/-- **A program is known by what it does to all devices.**  Its first access is the one that a
device remembers, and after the answer `w` it does what it does to a device that answers the first
access with `w`. -/
theorem ext_run [Nonempty ω] {p q : Prog α ω β}
    (h : ∀ ⦃δ : Type u⦄ (bus : Bus α ω δ) (s : δ), p.run bus s = q.run bus s) : p = q := by
  obtain ⟨w₀⟩ := ‹Nonempty ω›
  induction p generalizing q with
  | pure b =>
    have hfirst := first_eq_of_run_eq (h (firstAccess w₀) none)
    cases q with
    | pure b' => exact congrArg Prog.pure (congrArg Prod.fst (h (firstAccess w₀) none))
    | read a next => cases hfirst
    | write a w next => cases hfirst
  | read a next ih =>
    have hfirst := first_eq_of_run_eq (h (firstAccess w₀) none)
    cases q with
    | pure b => cases hfirst
    | read a' next' =>
      cases hfirst
      refine congrArg (Prog.read a) (funext fun w => ih w fun δ bus s => ?_)
      exact run_eq_of_afterFirst (h (afterFirst bus w s) none)
    | write a' w' next' => cases hfirst
  | write a w next ih =>
    have hfirst := first_eq_of_run_eq (h (firstAccess w₀) none)
    cases q with
    | pure b => cases hfirst
    | read a' next' => cases hfirst
    | write a' w' next' =>
      cases hfirst
      refine congrArg (Prog.write a w) (ih fun δ bus s => ?_)
      exact run_eq_of_afterFirst (h (afterFirst bus w₀ s) none)

end Prog

end Ext

/-! ### Several devices behind one bus -/

section Bank

variable {α ω β δ ε ι : Type*} [DecidableEq ι]

/-- Several devices and the rest of a system behind one bus: every address belongs to one device or
to the rest. -/
def bank (owner : α → Option ι) (bus : ι → Bus α ω δ) (rest : Bus α ω ε) :
    Bus α ω ((ι → δ) × ε) where
  read s a :=
    match owner a with
    | some i => (((bus i).read (s.1 i) a).1,
        Function.update s.1 i ((bus i).read (s.1 i) a).2, s.2)
    | none => ((rest.read s.2 a).1, s.1, (rest.read s.2 a).2)
  write s a w :=
    match owner a with
    | some i => (Function.update s.1 i ((bus i).write (s.1 i) a w), s.2)
    | none => (s.1, rest.write s.2 a w)

variable {owner : α → Option ι} {bus : ι → Bus α ω δ} {rest : Bus α ω ε} {i : ι} {a : α}

theorem bank_read_of_some (h : owner a = some i) (s : (ι → δ) × ε) :
    (bank owner bus rest).read s a = (((bus i).read (s.1 i) a).1,
      Function.update s.1 i ((bus i).read (s.1 i) a).2, s.2) := by
  simp only [bank, h]

theorem bank_write_of_some (h : owner a = some i) (s : (ι → δ) × ε) (w : ω) :
    (bank owner bus rest).write s a w =
      (Function.update s.1 i ((bus i).write (s.1 i) a w), s.2) := by
  simp only [bank, h]

/-- **A program at the addresses of one device** does to that device what it does to the device
alone, and nothing to the others or to the rest. -/
theorem Prog.Within.run_bank {R W : Set α} {p : Prog α ω β} (hp : p.Within R W)
    (hR : ∀ a ∈ R, owner a = some i) (hW : ∀ a ∈ W, owner a = some i) (s : (ι → δ) × ε) :
    p.run (bank owner bus rest) s =
      ((p.run (bus i) (s.1 i)).1, Function.update s.1 i (p.run (bus i) (s.1 i)).2, s.2) := by
  induction p generalizing s with
  | pure b => exact Prod.ext rfl (Prod.ext (Function.update_eq_self i s.1).symm rfl)
  | read a next ih =>
    simp only [run, bank_read_of_some (hR a hp.1), ih _ (hp.2 _), Function.update_self,
      Function.update_idem]
  | write a w next ih =>
    simp only [run, bank_write_of_some (hW a hp.1), ih hp.2, Function.update_self,
      Function.update_idem]

end Bank

end Systems
