import GpuCompute.Lib.Components
import GpuCompute.Lib.Machine

/-!
# Concurrent calls

Calls that work on a shared state, one step at a time, in the order of a schedule.  Three things are
general: what a lock guarantees, that calls of which one can always move are all finished after
enough rounds, and that calls which take effect at one of their own steps are a run of a sequential
machine.

* `calls step` : the calls as a machine, whose operations are the numbers of the calls.
* `HeldBy lock cs holds` : the lock is held by the call of which `holds` is true.
* `Linearization step N` : every call takes effect at one of its steps, as an operation of `N`.
* `Linearization.order` : the calls in the order in which they have taken effect.
* `HeldBy.acquire`, `HeldBy.release`, `HeldBy.keep`, `HeldBy.unique` : the laws of a lock.
* `final_of_rounds` : after as many rounds as there are steps left, none is left.
* `Linearization.run` : the calls that have taken effect are a run of `N`.
-/

namespace Systems

variable {σ γ τ κ π ι ο : Type*}

/-- Calls on a shared state as a machine: an operation is the number of the call that takes its next
step. -/
def calls (step : ℕ → γ → σ → γ × σ) : Machine (σ × List γ) ℕ Unit where
  step s i :=
    match s.2[i]? with
    | none => ((), s)
    | some c => ((), (step i c s.1).2, s.2.set i (step i c s.1).1)

section Step

variable {step : ℕ → γ → σ → γ × σ} {s : σ} {cs : List γ} {i : ℕ} {c : γ}

theorem calls_step_of_none (h : cs[i]? = none) : (calls step).step (s, cs) i = ((), s, cs) := by
  simp only [calls, h]

theorem calls_step_of_some (h : cs[i]? = some c) : (calls step).step (s, cs) i =
    ((), (step i c s).2, cs.set i (step i c s).1) := by
  simp only [calls, h]

end Step

/-! ### Locks -/

/-- A lock and the calls: the call that holds it is the one of which `holds` is true. -/
structure HeldBy (lock : Option ℕ) (cs : List γ) (holds : γ → Bool) : Prop where
  iff : ∀ i c, cs[i]? = some c → (holds c = true ↔ lock = some i)
  isCall : ∀ i, lock = some i → ∃ c, cs[i]? = some c

namespace HeldBy

variable {lock : Option ℕ} {cs : List γ} {holds : γ → Bool} {i j : ℕ} {c c' d : γ}

theorem unique (h : HeldBy lock cs holds) (hc : cs[i]? = some c) (hd : cs[j]? = some d)
    (hi : holds c = true) (hj : holds d = true) : i = j :=
  Option.some.inj (((h.iff i c hc).1 hi).symm.trans ((h.iff j d hd).1 hj))

theorem set (h : HeldBy lock cs holds) (hc : cs[i]? = some c) {lock' : Option ℕ}
    (hself : holds c' = true ↔ lock' = some i)
    (hother : ∀ j ≠ i, (lock' = some j ↔ lock = some j)) : HeldBy lock' (cs.set i c') holds := by
  obtain ⟨hi, -⟩ := List.getElem?_eq_some_iff.1 hc
  refine ⟨fun j d hd => ?_, fun j hj => ?_⟩
  · rcases getElem?_set_cases hd with ⟨rfl, rfl⟩ | ⟨hji, hd⟩
    · exact hself
    · rw [hother j hji]
      exact h.iff j d hd
  · by_cases hji : j = i
    · subst hji
      exact ⟨c', List.getElem?_set_self hi⟩
    · obtain ⟨d, hd⟩ := h.isCall j ((hother j hji).1 hj)
      exact ⟨d, by rwa [List.getElem?_set_ne (Ne.symm hji)]⟩

theorem acquire (h : HeldBy none cs holds) (hc : cs[i]? = some c) (hholds : holds c' = true) :
    HeldBy (some i) (cs.set i c') holds :=
  h.set hc (iff_of_true hholds rfl) fun j hji => by simp [Ne.symm hji]

theorem release (h : HeldBy lock cs holds) (hc : cs[i]? = some c) (hheld : holds c = true)
    (hholds : holds c' = false) : HeldBy none (cs.set i c') holds := by
  have hlock := (h.iff i c hc).1 hheld
  refine h.set hc (by simp [hholds]) fun j hji => ?_
  simp [hlock, Ne.symm hji]

theorem keep (h : HeldBy lock cs holds) (hc : cs[i]? = some c) (hsame : holds c' = holds c) :
    HeldBy lock (cs.set i c') holds :=
  h.set hc (by rw [hsame]; exact h.iff i c hc) fun _ _ => Iff.rfl

end HeldBy

/-! ### Progress -/

section Progress

variable {M : Machine σ ι ο} {I : σ → Prop} {left : σ → ℕ}
  (stable : ∀ s i, I s → I (M.step s i).2)
  (moves : ∀ s i, I s → (M.step s i).2 = s ∨ left (M.step s i).2 < left s)
include stable moves

theorem left_final_le {s : σ} (h : I s) (is : List ι) :
    I (M.final s is) ∧ left (M.final s is) ≤ left s := by
  refine Machine.run_induction' (M := M) (motive := fun _ s' => I s' ∧ left s' ≤ left s)
    ⟨h, Nat.le_refl _⟩ ?_ is
  rintro _ s' i ⟨hI, hle⟩
  refine ⟨stable s' i hI, ?_⟩
  rcases moves s' i hI with heq | hlt
  · rwa [heq]
  · omega

/-- A round in which a call that can move has a turn.  By induction on the round: until its turn the
state is the same, or another call has moved. -/
theorem left_final_lt {s : σ} (h : I s) {i : ι} (hi : left (M.step s i).2 < left s) {r : List ι}
    (hmem : i ∈ r) : left (M.final s r) < left s := by
  induction r generalizing s with
  | nil => exact absurd hmem List.not_mem_nil
  | cons j r ih =>
    have hrest := (left_final_le stable moves (stable s j h) r).2
    rw [Machine.final_cons]
    by_cases hij : i = j
    · rw [hij] at hi
      omega
    · rcases moves s j h with heq | hlt
      · rw [heq]
        exact ih h hi (List.mem_of_ne_of_mem hij hmem)
      · omega

/-- **Calls of which one can always move are finished after enough rounds**, in each of which every
call has a turn: every round takes at least one of the steps that are left. -/
theorem final_of_rounds {S : Set ι}
    (live : ∀ s, I s → 0 < left s → ∃ i ∈ S, left (M.step s i).2 < left s) {s : σ} (h : I s)
    (rounds : List (List ι)) (hall : ∀ r ∈ rounds, ∀ i ∈ S, i ∈ r)
    (henough : left s ≤ rounds.length) : left (M.final s rounds.flatten) = 0 := by
  induction rounds generalizing s with
  | nil => exact Nat.le_zero.1 henough
  | cons r rounds ih =>
    rw [List.length_cons] at henough
    obtain ⟨hI, hle⟩ := left_final_le stable moves h r
    rw [List.flatten_cons, Machine.final_append]
    refine ih hI (fun r' hr' => hall r' (List.mem_cons_of_mem _ hr')) ?_
    by_cases hpos : 0 < left s
    · obtain ⟨i, hi, hlt⟩ := live s h hpos
      have hround := left_final_lt stable moves h hlt (hall r List.mem_cons_self i hi)
      omega
    · omega

end Progress

/-! ### Taking effect -/

/-- Every call takes effect at one of its own steps, as an operation of `N` that gives the result
which the call returns in the end. -/
structure Linearization (step : ℕ → γ → σ → γ × σ) (N : Machine τ κ π) where
  /-- The calls and their shared state that represent a state of `N`. -/
  rel : σ → List γ → τ → Prop
  /-- The operation and the result of a call, once it has taken effect. -/
  outcome : γ → Option (κ × π)
  effect : ∀ s cs t i c, rel s cs t → cs[i]? = some c →
    (outcome (step i c s).1 = outcome c ∧ rel (step i c s).2 (cs.set i (step i c s).1) t) ∨
    (outcome c = none ∧ ∃ k, outcome (step i c s).1 = some (k, (N.step t k).1) ∧
      rel (step i c s).2 (cs.set i (step i c s).1) (N.step t k).2)

namespace Linearization

variable {step : ℕ → γ → σ → γ × σ} {N : Machine τ κ π} (L : Linearization step N)

/-- The operation and the result of call `i`, once it has taken effect. -/
def outcomeAt (cs : List γ) (i : ℕ) : Option (κ × π) := cs[i]?.bind L.outcome

/-- The call that takes effect at an event. -/
def takes (e : Event (σ × List γ) ℕ Unit) : Option ℕ :=
  if (L.outcomeAt e.pre.2 e.op).isNone &&
      (L.outcomeAt ((calls step).step e.pre e.op).2.2 e.op).isSome then some e.op
  else none

/-- The calls that have taken effect, in their order. -/
def order (tr : List (Event (σ × List γ) ℕ Unit)) : List ℕ := (tr.filterMap L.takes).reverse

/-- The operations of calls that have taken effect. -/
def opsOf (cs : List γ) (is : List ℕ) : List κ :=
  is.filterMap fun i => (L.outcomeAt cs i).map Prod.fst

/-- The calls that have taken effect are a run of `N`, which gives their results. -/
structure Linear (t : τ) (tr : List (Event (σ × List γ) ℕ Unit)) (s : σ × List γ) : Prop where
  state : L.rel s.1 s.2 (N.final t (L.opsOf s.2 (L.order tr)))
  results : ∀ before i after, L.order tr = before ++ i :: after → ∃ k, L.outcomeAt s.2 i =
    some (k, (N.step (N.final t (L.opsOf s.2 before)) k).1)
  once : (L.order tr).Nodup
  mem_order : ∀ i, i ∈ L.order tr ↔ (L.outcomeAt s.2 i).isSome = true

variable {L} {t : τ} {tr : List (Event (σ × List γ) ℕ Unit)} {s : σ × List γ} {i : ℕ} {c : γ}

theorem order_cons_of_none {e : Event (σ × List γ) ℕ Unit} (h : L.takes e = none) :
    L.order (e :: tr) = L.order tr := by
  rw [order, List.filterMap_cons_none h, order]

theorem order_cons_of_some {e : Event (σ × List γ) ℕ Unit} (h : L.takes e = some i) :
    L.order (e :: tr) = L.order tr ++ [i] := by
  rw [order, List.filterMap_cons_some h, List.reverse_cons, order]

theorem order_append (later : List (Event (σ × List γ) ℕ Unit)) :
    L.order (later ++ tr) = L.order tr ++ L.order later := by
  rw [order, List.filterMap_append, List.reverse_append, order, order]

theorem mem_of_mem_order {schedule : List ℕ} (h : i ∈ L.order ((calls step).trace s schedule)) :
    i ∈ schedule := by
  obtain ⟨e, he, htakes⟩ := List.mem_filterMap.1 (List.mem_reverse.1 h)
  obtain ⟨-, rfl⟩ := Option.ite_none_right_eq_some.1 htakes |>.imp_right Option.some.inj
  exact Machine.op_mem_of_mem_trace he

theorem outcomeAt_set_self {cs : List γ} (hc : cs[i]? = some c) (c' : γ) :
    L.outcomeAt (cs.set i c') i = L.outcome c' := by
  obtain ⟨hi, -⟩ := List.getElem?_eq_some_iff.1 hc
  rw [outcomeAt, List.getElem?_set_self hi, Option.bind_some]

theorem outcomeAt_set_of_ne {j : ℕ} (hji : j ≠ i) (cs : List γ) (c' : γ) :
    L.outcomeAt (cs.set i c') j = L.outcomeAt cs j := by
  rw [outcomeAt, List.getElem?_set_ne (Ne.symm hji), outcomeAt]

theorem opsOf_congr {cs cs' : List γ} {is : List ℕ}
    (h : ∀ i ∈ is, L.outcomeAt cs' i = L.outcomeAt cs i) : L.opsOf cs' is = L.opsOf cs is :=
  List.filterMap_congr fun i hi => by rw [h i hi]

/-- The run of `N` gives the results of the calls, event by event.  By induction on the calls. -/
theorem Linear.trace_eq (h : L.Linear t tr s) {before after : List ℕ}
    (hsplit : L.order tr = before ++ after) :
    (N.trace t (L.opsOf s.2 before)).map (fun e => some (e.op, e.out)) =
      before.reverse.map (L.outcomeAt s.2) := by
  induction before using List.reverseRecOn generalizing after with
  | nil => rfl
  | append_singleton before i ih =>
    rw [List.append_assoc] at hsplit
    obtain ⟨k, hk⟩ := h.results before i after hsplit
    have hops : L.opsOf s.2 (before ++ [i]) = L.opsOf s.2 before ++ [k] := by
      rw [opsOf, List.filterMap_append, ← opsOf]
      simp [hk]
    rw [hops, Machine.trace_concat, List.map_cons, ih hsplit, List.reverse_append,
      List.reverse_singleton, List.singleton_append, List.map_cons, hk]
    rfl

theorem Linear.stutter (h : L.Linear t tr s) {s' : σ × List γ} {e : Event (σ × List γ) ℕ Unit}
    (htakes : L.takes e = none) (hat : ∀ j, L.outcomeAt s'.2 j = L.outcomeAt s.2 j)
    (hrel : L.rel s'.1 s'.2 (N.final t (L.opsOf s.2 (L.order tr)))) :
    L.Linear t (e :: tr) s' := by
  have hops : ∀ is, L.opsOf s'.2 is = L.opsOf s.2 is := fun is => opsOf_congr fun j _ => hat j
  have horder : L.order (e :: tr) = L.order tr := order_cons_of_none htakes
  refine ⟨?_, fun before i after heq => ?_, ?_, fun i => ?_⟩
  · rwa [horder, hops]
  · rw [horder] at heq
    rw [hat, hops]
    exact h.results before i after heq
  · rw [horder]
    exact h.once
  · rw [horder, hat]
    exact h.mem_order i

theorem Linear.effect (h : L.Linear t tr s) {s' : σ × List γ} {e : Event (σ × List γ) ℕ Unit}
    (htakes : L.takes e = some i) (hbefore : L.outcomeAt s.2 i = none) {k : κ}
    (hself : L.outcomeAt s'.2 i =
      some (k, (N.step (N.final t (L.opsOf s.2 (L.order tr))) k).1))
    (hother : ∀ j ≠ i, L.outcomeAt s'.2 j = L.outcomeAt s.2 j)
    (hrel : L.rel s'.1 s'.2 (N.step (N.final t (L.opsOf s.2 (L.order tr))) k).2) :
    L.Linear t (e :: tr) s' := by
  have hnotMem : i ∉ L.order tr := by
    rw [h.mem_order, hbefore]
    exact Bool.false_ne_true
  have hops : ∀ is, (∀ j ∈ is, j ∈ L.order tr) → L.opsOf s'.2 is = L.opsOf s.2 is := by
    intro is his
    refine opsOf_congr fun j hj => hother j ?_
    rintro rfl
    exact hnotMem (his j hj)
  have horder : L.order (e :: tr) = L.order tr ++ [i] := order_cons_of_some htakes
  have hall : L.opsOf s'.2 (L.order tr ++ [i]) = L.opsOf s.2 (L.order tr) ++ [k] := by
    rw [opsOf, List.filterMap_append, ← opsOf, hops _ fun j hj => hj]
    simp [hself]
  refine ⟨?_, fun before j after heq => ?_, ?_, fun j => ?_⟩
  · rw [horder, hall, Machine.final_concat]
    exact hrel
  · rw [horder] at heq
    rcases List.eq_nil_or_concat after with rfl | ⟨after, l, rfl⟩
    · obtain ⟨rfl, hij⟩ := List.append_inj' heq rfl
      obtain rfl := List.singleton_injective hij
      rw [hops _ fun j hj => hj]
      exact ⟨k, hself⟩
    · rw [List.concat_eq_append, ← List.cons_append, ← List.append_assoc] at heq
      obtain ⟨heq, -⟩ := List.append_inj' heq rfl
      have hmem : ∀ j ∈ before, j ∈ L.order tr := by
        intro j hj
        rw [heq]
        exact List.mem_append_left _ hj
      have hj : j ∈ L.order tr := by
        rw [heq]
        simp
      rw [hops _ hmem, hother j (by rintro rfl; exact hnotMem hj)]
      exact h.results before j after heq
  · rw [horder]
    refine List.nodup_append.2 ⟨h.once, List.pairwise_singleton _ i, ?_⟩
    rintro a ha b hb rfl
    obtain rfl := List.mem_singleton.1 hb
    exact hnotMem ha
  · rw [horder, List.mem_append, List.mem_singleton]
    by_cases hji : j = i
    · subst hji
      rw [hself]
      exact iff_of_true (.inr rfl) rfl
    · rw [or_iff_left hji, hother j hji, h.mem_order]

/-- **The calls that have taken effect are a run of `N`**, in the order in which they did, whatever
the schedule. -/
theorem run (h : L.rel s.1 s.2 t) (hstart : ∀ c ∈ s.2, L.outcome c = none) (schedule : List ℕ) :
    L.Linear t ((calls step).trace s schedule) ((calls step).final s schedule) := by
  refine Machine.run_induction' (M := calls step) (motive := fun tr s' => L.Linear t tr s') ?_ ?_
    schedule
  · have hnone : ∀ i, L.outcomeAt s.2 i = none := fun i =>
      Option.bind_eq_none_iff.2 fun c hc => hstart c (List.mem_of_getElem? hc)
    exact ⟨h, by simp [order], List.nodup_nil, fun i => by simp [order, hnone]⟩
  · rintro tr s' i hlin
    cases hc : s'.2[i]? with
    | none =>
      have hstep : (calls step).step s' i = ((), s') := calls_step_of_none hc
      rw [hstep]
      exact hlin.stutter (by simp [takes, hstep]) (fun _ => rfl) hlin.state
    | some c =>
      have hat : L.outcomeAt s'.2 i = L.outcome c := by rw [outcomeAt, hc, Option.bind_some]
      have hself := outcomeAt_set_self (L := L) hc (step i c s'.1).1
      have htakes : L.takes ((calls step).event s' i) =
          if (L.outcome c).isNone && (L.outcome (step i c s'.1).1).isSome then some i
          else none := by
        simp only [takes, Machine.event_pre, Machine.event_op, calls_step_of_some hc, hat, hself]
      rw [calls_step_of_some hc]
      rcases L.effect s'.1 s'.2 _ i c hlin.state hc with ⟨hsame, hrel⟩ | ⟨hnone, k, hout, hrel⟩
      · refine hlin.stutter ?_ (fun j => ?_) hrel
        · rw [htakes, hsame]
          cases L.outcome c <;> rfl
        · by_cases hji : j = i
          · rw [hji, hself, hsame, hat]
          · exact outcomeAt_set_of_ne hji _ _
      · refine hlin.effect ?_ (hat.trans hnone) (hself.trans hout)
          (fun j hji => outcomeAt_set_of_ne hji _ _) hrel
        rw [htakes, hnone, hout]
        rfl

end Linearization

end Systems
