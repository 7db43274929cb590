import Mathlib.Data.List.Infix

/-!
# Deterministic machines and their runs

A *machine* answers each operation with an output and a next state.  A *run* performs a list
of operations from a start state; its *trace* records every operation together with the state
it was performed in and the output it gave.

Traces are stored **newest first**: the events before an event are its tail, so a property
that looks back at the history (`Always`) is a structural recursion, and extending a run by one
operation is a `cons`.

* `Machine σ ι ο` : a step function `σ → ι → ο × σ`.
* `Event σ ι ο` : one performed operation.
* `Machine.trace`, `Machine.final` : the trace and the last state of a run.
* `Always P` : `P` holds of every event of a trace and the events before it.
* `Refinement M N` : every step of `M` is matched by a step of `N` or by none.
* `Machine.run_induction` : the rule by which every statement about runs is proved.
* `Machine.trace_append`, `Machine.final_append` : a run in two parts.
* `Machine.always_iff_of`, `Machine.always_iff` : an invariant under which a condition on the steps
  is exact makes it exact for runs.
* `Refinement.trace_eq` : a refining machine shows the outputs of the machine it refines.
-/

namespace Systems

/-- A deterministic machine with states `σ`, operations `ι` and outputs `ο`. -/
structure Machine (σ ι ο : Type*) where
  /-- The output of an operation and the state after it. -/
  step : σ → ι → ο × σ

/-- One performed operation. -/
structure Event (σ ι ο : Type*) where
  /-- The state the operation was performed in. -/
  pre : σ
  /-- The operation. -/
  op : ι
  /-- What the operation returned. -/
  out : ο

/-- `P e h` holds of every event `e` of the trace and the events `h` before it. -/
def Always {ε : Type*} (P : ε → List ε → Prop) : List ε → Prop
  | [] => True
  | e :: h => P e h ∧ Always P h

section Always

variable {ε : Type*} {P Q : ε → List ε → Prop}

@[simp] theorem always_nil : Always P [] := trivial

@[simp] theorem always_cons {e : ε} {h : List ε} : Always P (e :: h) ↔ P e h ∧ Always P h :=
  Iff.rfl

theorem always_iff_forall_mem {R : ε → Prop} {tr : List ε} :
    Always (fun e _ => R e) tr ↔ ∀ e ∈ tr, R e := by
  induction tr with
  | nil => simp
  | cons x tr ih => simp [ih]

/-- When only one event of a trace can violate a property, the property holds always iff it holds
of this event. -/
theorem always_append_cons_iff {later earlier : List ε} {e : ε}
    (hlater : ∀ x ∈ later, ∀ h, P x h) (hearlier : ∀ x ∈ earlier, ∀ h, P x h) :
    Always P (later ++ e :: earlier) ↔ P e earlier := by
  have hall : ∀ tr : List ε, (∀ x ∈ tr, ∀ h, P x h) → Always P tr := by
    intro tr htr
    induction tr with
    | nil => trivial
    | cons x tr ih =>
      exact ⟨htr x List.mem_cons_self tr, ih fun y hy => htr y (List.mem_cons_of_mem x hy)⟩
  induction later with
  | nil =>
    rw [List.nil_append, always_cons]
    exact and_iff_left (hall earlier hearlier)
  | cons x later ih =>
    have hiff : Always P (later ++ e :: earlier) ↔ P e earlier :=
      ih fun y hy => hlater y (List.mem_cons_of_mem x hy)
    rw [List.cons_append, always_cons, hiff]
    exact and_iff_right (hlater x List.mem_cons_self _)

end Always

namespace Machine

variable {σ ι ο : Type*} (M : Machine σ ι ο)

/-- The event of performing `i` in state `s`. -/
def event (s : σ) (i : ι) : Event σ ι ο := ⟨s, i, (M.step s i).1⟩

/-- Extend a run by one operation. -/
def next (c : List (Event σ ι ο) × σ) (i : ι) : List (Event σ ι ο) × σ :=
  (M.event c.2 i :: c.1, (M.step c.2 i).2)

/-- Perform the operations of a list, oldest first. -/
def run (s : σ) (is : List ι) : List (Event σ ι ο) × σ := is.foldl M.next ([], s)

/-- The events of a run, newest first. -/
def trace (s : σ) (is : List ι) : List (Event σ ι ο) := (M.run s is).1

/-- The state after a run. -/
def final (s : σ) (is : List ι) : σ := (M.run s is).2

variable {M}

@[simp] theorem event_pre (s : σ) (i : ι) : (M.event s i).pre = s := rfl
@[simp] theorem event_op (s : σ) (i : ι) : (M.event s i).op = i := rfl
@[simp] theorem event_out (s : σ) (i : ι) : (M.event s i).out = (M.step s i).1 := rfl

@[simp] theorem trace_nil (s : σ) : M.trace s [] = [] := rfl
@[simp] theorem final_nil (s : σ) : M.final s [] = s := rfl

@[simp] theorem trace_concat (s : σ) (is : List ι) (i : ι) :
    M.trace s (is ++ [i]) = M.event (M.final s is) i :: M.trace s is := by
  simp [trace, final, run, next]

@[simp] theorem final_concat (s : σ) (is : List ι) (i : ι) :
    M.final s (is ++ [i]) = (M.step (M.final s is) i).2 := by
  simp [final, run, next]

theorem final_append (s : σ) (is js : List ι) :
    M.final s (is ++ js) = M.final (M.final s is) js := by
  induction js using List.reverseRecOn with
  | nil => simp
  | append_singleton js j ih => rw [← List.append_assoc, final_concat, final_concat, ih]

theorem final_cons (s : σ) (i : ι) (is : List ι) :
    M.final s (i :: is) = M.final (M.step s i).2 is := M.final_append s [i] is

theorem trace_append (s : σ) (is js : List ι) :
    M.trace s (is ++ js) = M.trace (M.final s is) js ++ M.trace s is := by
  induction js using List.reverseRecOn with
  | nil => simp
  | append_singleton js j ih =>
    rw [← List.append_assoc, trace_concat, trace_concat, ih, final_append, List.cons_append]

/-- **Induction over a run.**  A property of traces and states that holds at the start and is
preserved by every operation satisfying `Q` holds after every run whose events all satisfy `Q`. -/
theorem run_induction {Q : Event σ ι ο → Prop} {motive : List (Event σ ι ο) → σ → Prop} {s : σ}
    (nil : motive [] s)
    (step : ∀ tr t i, motive tr t → Q (M.event t i) → motive (M.event t i :: tr) (M.step t i).2)
    (is : List ι) (hQ : ∀ e ∈ M.trace s is, Q e) : motive (M.trace s is) (M.final s is) := by
  induction is using List.reverseRecOn with
  | nil => exact nil
  | append_singleton is i ih =>
    rw [trace_concat] at hQ ⊢
    rw [final_concat]
    exact step _ _ _ (ih fun e he => hQ e (List.mem_cons_of_mem _ he)) (hQ _ List.mem_cons_self)

/-- Induction over a run without a condition on its events. -/
theorem run_induction' {motive : List (Event σ ι ο) → σ → Prop} {s : σ} (nil : motive [] s)
    (step : ∀ tr t i, motive tr t → motive (M.event t i :: tr) (M.step t i).2) (is : List ι) :
    motive (M.trace s is) (M.final s is) :=
  run_induction (Q := fun _ => True) nil (fun tr t i h _ => step tr t i h) is fun _ _ => trivial

theorem filterMap_out_cons {M : Machine σ ι (Option ο)} (s : σ) (i : ι)
    (tr : List (Event σ ι (Option ο))) :
    (M.event s i :: tr).filterMap Event.out =
      (M.step s i).1.toList ++ tr.filterMap Event.out := by
  cases h : (M.step s i).1 <;> simp [h]

theorem op_mem_of_mem_trace {s : σ} {is : List ι} {e : Event σ ι ο} (he : e ∈ M.trace s is) :
    e.op ∈ is := by
  induction is using List.reverseRecOn with
  | nil => simp at he
  | append_singleton is i ih =>
    rw [trace_concat] at he
    rcases List.mem_cons.1 he with rfl | he
    · simp
    · exact List.mem_append_left _ (ih he)

theorem eq_event_of_mem_trace {s : σ} {is : List ι} {e : Event σ ι ο} (he : e ∈ M.trace s is) :
    e = M.event e.pre e.op := by
  induction is using List.reverseRecOn with
  | nil => simp at he
  | append_singleton is i ih =>
    rw [trace_concat] at he
    rcases List.mem_cons.1 he with rfl | he
    · rfl
    · exact ih he

/-- **Exact conditions of a run.**  If an invariant makes `P` and `Q` the same at every step of an
operation that may occur, and steps that satisfy `Q` preserve it, then `P` holds always in a run
iff `Q` does. -/
theorem always_iff_of {R : ι → Prop} {P Q : Event σ ι ο → List (Event σ ι ο) → Prop}
    {I : List (Event σ ι ο) → σ → Prop} {s : σ} (nil : I [] s)
    (step : ∀ tr t i, R i → I tr t → Q (M.event t i) tr → I (M.event t i :: tr) (M.step t i).2)
    (same : ∀ tr t i, R i → I tr t → (P (M.event t i) tr ↔ Q (M.event t i) tr))
    {is : List ι} (hR : ∀ i ∈ is, R i) :
    Always P (M.trace s is) ↔ Always Q (M.trace s is) := by
  have key := run_induction (M := M) (s := s) (Q := fun e => R e.op)
    (motive := fun tr t => (Always P tr ↔ Always Q tr) ∧ (Always Q tr → I tr t))
    ⟨Iff.rfl, fun _ => nil⟩ ?_ is fun e he => hR _ (op_mem_of_mem_trace he)
  · exact key.1
  · rintro tr t i ⟨hiff, hI⟩ hi
    refine ⟨?_, fun hQ => step tr t i hi (hI hQ.2) hQ.1⟩
    rw [always_cons, always_cons, hiff]
    exact and_congr_left fun hQ => same tr t i hi (hI hQ)

theorem always_iff {P Q : Event σ ι ο → List (Event σ ι ο) → Prop}
    {I : List (Event σ ι ο) → σ → Prop} {s : σ} (nil : I [] s)
    (step : ∀ tr t i, I tr t → Q (M.event t i) tr → I (M.event t i :: tr) (M.step t i).2)
    (same : ∀ tr t i, I tr t → (P (M.event t i) tr ↔ Q (M.event t i) tr)) (is : List ι) :
    Always P (M.trace s is) ↔ Always Q (M.trace s is) :=
  always_iff_of (R := fun _ => True) nil (fun tr t i _ => step tr t i)
    (fun tr t i _ => same tr t i) fun _ _ => trivial

end Machine

/-- `M` refines `N`: each operation of `M` is one operation of `N` with the same visible output,
or is invisible and does nothing in `N`. -/
structure Refinement {σ ι ο τ κ π : Type*} (M : Machine σ ι ο) (N : Machine τ κ π) where
  /-- The states of `M` that represent a state of `N`. -/
  rel : σ → τ → Prop
  /-- The operation of `N` that an operation of `M` performs, if any. -/
  op : ι → Option κ
  /-- The output of `N` that an event of `M` shows, if any. -/
  view : Event σ ι ο → Option π
  /-- An operation without a counterpart shows nothing and keeps the represented state. -/
  stutter : ∀ s t i, rel s t → op i = none →
    view (M.event s i) = none ∧ rel (M.step s i).2 t
  /-- An operation with a counterpart shows its output and follows its step. -/
  simulate : ∀ s t i k, rel s t → op i = some k →
    view (M.event s i) = some (N.step t k).1 ∧ rel (M.step s i).2 (N.step t k).2

namespace Refinement

variable {σ ι ο τ κ π : Type*} {M : Machine σ ι ο} {N : Machine τ κ π} (R : Refinement M N)

/-- **A refining machine shows the outputs of the machine it refines**, after every run. -/
theorem trace_eq {s : σ} {t : τ} (h : R.rel s t) (is : List ι) :
    (M.trace s is).filterMap R.view = (N.trace t (is.filterMap R.op)).map Event.out ∧
      R.rel (M.final s is) (N.final t (is.filterMap R.op)) := by
  induction is using List.reverseRecOn with
  | nil => exact ⟨rfl, h⟩
  | append_singleton is i ih =>
    obtain ⟨htr, hrel⟩ := ih
    rw [Machine.trace_concat, Machine.final_concat, List.filterMap_append]
    cases hop : R.op i with
    | none =>
      obtain ⟨hview, hrel'⟩ := R.stutter _ _ i hrel hop
      rw [List.filterMap_cons_none hview, List.filterMap_cons_none hop, List.filterMap_nil,
        List.append_nil]
      exact ⟨htr, hrel'⟩
    | some k =>
      obtain ⟨hview, hrel'⟩ := R.simulate _ _ i k hrel hop
      rw [List.filterMap_cons_some hview, List.filterMap_cons_some hop, List.filterMap_nil,
        Machine.trace_concat, Machine.final_concat, List.map_cons, htr]
      exact ⟨rfl, hrel'⟩

end Refinement

end Systems
