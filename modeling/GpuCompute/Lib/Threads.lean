import GpuCompute.Lib.Access
import GpuCompute.Lib.Machine

/-!
# Threads on one bus

Several threads perform their programs on one bus, one access at a time, in the order of a schedule.
Between two accesses of a thread there may be any number of accesses of the others.

Threads that keep to the addresses of their own devices do not notice each other: after any schedule
a thread is where it would be alone after as many turns.  How many turns it needs depends on what
its device answers, but it is always a number, since a program is well-founded.

* `Prog.step`, `Prog.left` : one access, and the number of accesses that are left.
* `Prog.step_iterate_of_left_le` : with a turn for each of its accesses a program is done.
* `threads` : threads on one bus, as a machine.
* `threads_final` : threads at the addresses of their own devices do not notice each other.
-/

namespace Systems

variable {α ω β δ ε ι : Type*}

/-! ### One access -/

namespace Prog

/-- Make the next access, if there is one left. -/
def step (bus : Bus α ω δ) : Prog α ω β × δ → Prog α ω β × δ
  | (.pure b, s) => (.pure b, s)
  | (.read a next, s) => (next (bus.read s a).1, (bus.read s a).2)
  | (.write a w next, s) => (next, bus.write s a w)

/-- The number of accesses that are left. -/
def left (bus : Bus α ω δ) : Prog α ω β → δ → ℕ
  | .pure _, _ => 0
  | .read a next, s => (next (bus.read s a).1).left bus (bus.read s a).2 + 1
  | .write a w next, s => next.left bus (bus.write s a w) + 1

variable {bus : Bus α ω δ}

@[simp] theorem run_step (c : Prog α ω β × δ) :
    (step bus c).1.run bus (step bus c).2 = c.1.run bus c.2 := by
  obtain ⟨_ | _ | _, s⟩ := c <;> rfl

@[simp] theorem left_step (c : Prog α ω β × δ) :
    (step bus c).1.left bus (step bus c).2 = c.1.left bus c.2 - 1 := by
  obtain ⟨_ | _ | _, s⟩ := c <;> rfl

theorem Within.step {R W : Set α} {c : Prog α ω β × δ} (h : c.1.Within R W) :
    (Prog.step bus c).1.Within R W := by
  obtain ⟨_ | _ | _, s⟩ := c
  · exact h
  · exact h.2 _
  · exact h.2

theorem eq_pure_of_left_eq_zero {p : Prog α ω β} {s : δ} (h : p.left bus s = 0) :
    (p, s) = (.pure (p.run bus s).1, (p.run bus s).2) := by
  cases p with
  | pure b => rfl
  | read a next => exact absurd h (Nat.succ_ne_zero _)
  | write a w next => exact absurd h (Nat.succ_ne_zero _)

/-! ### Several accesses -/

@[simp] theorem run_step_iterate (n : ℕ) (c : Prog α ω β × δ) :
    ((step bus)^[n] c).1.run bus ((step bus)^[n] c).2 = c.1.run bus c.2 := by
  induction n with
  | zero => rfl
  | succ n ih => simp [Function.iterate_succ_apply', ih]

@[simp] theorem left_step_iterate (n : ℕ) (c : Prog α ω β × δ) :
    ((step bus)^[n] c).1.left bus ((step bus)^[n] c).2 = c.1.left bus c.2 - n := by
  induction n with
  | zero => rfl
  | succ n ih => simp [Function.iterate_succ_apply', ih, Nat.sub_sub]

theorem Within.step_iterate {R W : Set α} {p : Prog α ω β} (h : p.Within R W) (s : δ) (n : ℕ) :
    ((Prog.step bus)^[n] (p, s)).1.Within R W := by
  induction n with
  | zero => exact h
  | succ n ih =>
    rw [Function.iterate_succ_apply']
    exact ih.step

/-- **With a turn for every access a program is done.** -/
theorem step_iterate_of_left_le {p : Prog α ω β} {s : δ} {n : ℕ} (h : p.left bus s ≤ n) :
    (step bus)^[n] (p, s) = (.pure (p.run bus s).1, (p.run bus s).2) := by
  have hleft : ((step bus)^[n] (p, s)).1.left bus ((step bus)^[n] (p, s)).2 = 0 := by simp [h]
  have hpure := eq_pure_of_left_eq_zero hleft
  rw [run_step_iterate] at hpure
  exact hpure

end Prog

/-! ### Threads -/

section Threads

variable [DecidableEq ι]

/-- Threads on one bus as a machine: the operation `i` is a turn of thread `i`. -/
def threads (bus : Bus α ω δ) : Machine ((ι → Prog α ω β) × δ) ι Unit where
  step s i :=
    let c := Prog.step bus (s.1 i, s.2)
    ((), Function.update s.1 i c.1, c.2)

variable {owner : α → Option ι} {bus : ι → Bus α ω δ} {rest : Bus α ω ε}

/-- An access at an address of one device. -/
theorem Prog.Within.step_bank {R W : Set α} {p : Prog α ω β} (hp : p.Within R W) {i : ι}
    (hR : ∀ a ∈ R, owner a = some i) (hW : ∀ a ∈ W, owner a = some i) (s : (ι → δ) × ε) :
    Prog.step (bank owner bus rest) (p, s) =
      let c := Prog.step (bus i) (p, s.1 i)
      (c.1, Function.update s.1 i c.2, s.2) := by
  cases p with
  | pure b => exact Prod.ext rfl (Prod.ext (Function.update_eq_self i s.1).symm rfl)
  | read a next => simp only [Prog.step, bank_read_of_some (hR a hp.1)]
  | write a w next => simp only [Prog.step, bank_write_of_some (hW a hp.1)]

variable (bus rest) in
/-- **Threads at the addresses of their own devices do not notice each other**: after any schedule a
thread and its device are where they would be alone after as many turns, and the rest is as it was.
By induction on the schedule. -/
theorem threads_final {R W : ι → Set α} {ps : ι → Prog α ω β} (hps : ∀ i, (ps i).Within (R i) (W i))
    (hR : ∀ i, ∀ a ∈ R i, owner a = some i) (hW : ∀ i, ∀ a ∈ W i, owner a = some i)
    (s : (ι → δ) × ε) (schedule : List ι) :
    let t := (threads (bank owner bus rest)).final (ps, s) schedule
    (∀ i, (t.1 i, t.2.1 i) = (Prog.step (bus i))^[schedule.count i] (ps i, s.1 i)) ∧
      t.2.2 = s.2 := by
  intro t
  unfold t
  induction schedule using List.reverseRecOn with
  | nil => exact ⟨fun i => rfl, rfl⟩
  | append_singleton schedule j ih =>
    rw [Machine.final_concat]
    generalize (threads (bank owner bus rest)).final (ps, s) schedule = t at ih ⊢
    obtain ⟨hall, hrest⟩ := ih
    have hwithin : (t.1 j).Within (R j) (W j) := by
      have hthread : t.1 j = ((Prog.step (bus j))^[schedule.count j] (ps j, s.1 j)).1 :=
        congrArg Prod.fst (hall j)
      rw [hthread]
      exact (hps j).step_iterate (s.1 j) (schedule.count j)
    simp only [threads, hwithin.step_bank (hR j) (hW j)]
    refine ⟨fun i => ?_, hrest⟩
    by_cases hij : i = j
    · subst hij
      simp [hall i, Function.iterate_succ_apply']
    · simp [hij, Ne.symm hij, hall i]

end Threads

end Systems
