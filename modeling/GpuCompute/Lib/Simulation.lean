import GpuCompute.Lib.Machine
import Mathlib.Algebra.BigOperators.Group.List.Basic
import Mathlib.Algebra.GroupWithZero.Nat
import Mathlib.Data.List.Forall2
import Mathlib.Data.List.Flatten

/-!
# Simulations

A machine *simulates* another one when each of its operations is a list of operations of the other.
Which operations these are may depend on the event: a step of a thread performs an operation at the
moment at which it takes effect, and a call of a driver performs some operations of an allocator.

* `Simulation M N` : every event of `M` is a list of operations of `N`.
* `Simulation.performed` : the operations of `N` that a trace of `M` performs.
* `Simulation.run` : a run of `M` is a run of `N`.
* `Simulation.flatMap_sublist` : what the events of `M` show, the run of `N` shows.
* `Simulation.sum_performed` : what a run costs in `N` is the sum of what its operations cost.
-/

namespace Systems

variable {σ ι ο τ κ π γ : Type*}

/-- Each event of `M` is a list of operations of `N`. -/
structure Simulation (M : Machine σ ι ο) (N : Machine τ κ π) where
  /-- The states of `M` that represent a state of `N`. -/
  rel : σ → τ → Prop
  /-- The operations of `N` that an event of `M` performs. -/
  ops : Event σ ι ο → List κ
  /-- What an event of `M` shows of the events of `N` that it is. -/
  shows : Event σ ι ο → List (Event τ κ π) → Prop
  /-- An operation follows the steps of its operations of `N` and shows what they do. -/
  step : ∀ s t i, rel s t →
    rel (M.step s i).2 (N.final t (ops (M.event s i))) ∧
      shows (M.event s i) (N.trace t (ops (M.event s i)))

namespace Simulation

variable {M : Machine σ ι ο} {N : Machine τ κ π} (S : Simulation M N)

/-- The operations of `N` that a trace performs, oldest first. -/
def performed : List (Event σ ι ο) → List κ
  | [] => []
  | e :: h => performed h ++ S.ops e

/-- **A run of `M` is a run of `N`**, which consists of what the events of `M` show. -/
theorem run {s : σ} {t : τ} (h : S.rel s t) (is : List ι) :
    S.rel (M.final s is) (N.final t (S.performed (M.trace s is))) ∧
      ∃ parts, List.Forall₂ S.shows (M.trace s is) parts ∧
        parts.flatten = N.trace t (S.performed (M.trace s is)) := by
  refine Machine.run_induction' (M := M) (motive := fun tr s' =>
    S.rel s' (N.final t (S.performed tr)) ∧ ∃ parts, List.Forall₂ S.shows tr parts ∧
      parts.flatten = N.trace t (S.performed tr)) ⟨h, [], .nil, rfl⟩ ?_ is
  rintro tr s' i ⟨hrel, parts, hshows, hflatten⟩
  obtain ⟨hrel', hshow⟩ := S.step _ _ i hrel
  rw [performed, Machine.final_append, Machine.trace_append]
  refine ⟨hrel', _ :: parts, .cons hshow hshows, ?_⟩
  rw [List.flatten_cons, hflatten]

section Shown

variable {f : Event σ ι ο → List γ} {g : Event τ κ π → Option γ}

theorem flatMap_sublist (hfg : ∀ e part, S.shows e part → (f e).Sublist (part.filterMap g))
    {s : σ} {t : τ} (h : S.rel s t) (is : List ι) :
    ((M.trace s is).flatMap f).Sublist
      ((N.trace t (S.performed (M.trace s is))).filterMap g) := by
  obtain ⟨-, parts, hshows, hflatten⟩ := S.run h is
  rw [← hflatten]
  clear hflatten
  generalize M.trace s is = tr at hshows
  induction hshows with
  | nil => exact .slnil
  | cons hshow _ ih =>
    rw [List.flatMap_cons, List.flatten_cons, List.filterMap_append]
    exact (hfg _ _ hshow).append ih

end Shown

theorem sum_performed {cost : κ → ℕ} {cost' : ι → ℕ}
    (hcost : ∀ e, ((S.ops e).map cost).sum = cost' e.op) (s : σ) (is : List ι) :
    ((S.performed (M.trace s is)).map cost).sum = (is.map cost').sum := by
  induction is using List.reverseRecOn with
  | nil => rfl
  | append_singleton is i ih =>
    rw [Machine.trace_concat, performed, List.map_append, List.sum_append, ih, hcost]
    simp

end Simulation

end Systems
