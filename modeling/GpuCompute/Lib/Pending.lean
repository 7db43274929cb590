import GpuCompute.Lib.Machine
import Mathlib.Logic.Function.Basic

/-!
# Causes that arrive while they are acknowledged

Units raise causes at any time.  A cause is pending from its arrival to its acknowledgement, and
causes keep arriving while a handler acknowledges one unit after the other: the schedule of the
arrivals is a parameter, and every access takes one unit of time.

* `Pending U κ` : the pending causes of units `U` and the time.
* `Pending.arrive`, `Pending.clear` : the arrivals at an access, and an acknowledgement.
* `ArrivedIn arrives a b u c` : the cause arrives at the unit at a time from `a` on and before `b`.
* `Pending.Evolves` : from one state to a later one, with the last acknowledgement in between.
* `Acknowledging M arrives` : a machine some of whose events acknowledge causes.
* `Acknowledging.Due` : the cause arrived after its last acknowledgement.
* `Pending.Evolves.trans` : one step after the other.
* `Acknowledging.pending_iff_due` : after a run the causes that are due are pending, and no others.
-/

namespace Systems

variable {U κ σ ι ο : Type*}

/-- The pending causes of each unit. -/
structure Pending (U κ : Type*) where
  /-- The cause is pending at the unit. -/
  pending : U → κ → Bool
  /-- The accesses so far. -/
  time : ℕ

/-- The cause arrives at the unit at a time from `a` on and before `b`. -/
def ArrivedIn (arrives : ℕ → U → κ → Bool) (a b : ℕ) (u : U) (c : κ) : Prop :=
  ∃ t, a ≤ t ∧ t < b ∧ arrives t u c = true

section ArrivedIn

variable {arrives : ℕ → U → κ → Bool} {a b : ℕ} {u : U} {c : κ}

theorem not_arrivedIn_self : ¬ ArrivedIn arrives a a u c := by
  rintro ⟨t, hat, hta, -⟩
  omega

theorem arrivedIn_succ_iff : ArrivedIn arrives a (a + 1) u c ↔ arrives a u c = true := by
  constructor
  · rintro ⟨t, hat, hta, ht⟩
    obtain rfl : t = a := by omega
    exact ht
  · exact fun h => ⟨a, Nat.le_refl a, Nat.lt_succ_self a, h⟩

theorem arrivedIn_iff_or {m : ℕ} (ha : a ≤ m) (hb : m ≤ b) :
    ArrivedIn arrives a b u c ↔ ArrivedIn arrives a m u c ∨ ArrivedIn arrives m b u c := by
  constructor
  · rintro ⟨t, hat, htb, ht⟩
    by_cases htm : t < m
    · exact .inl ⟨t, hat, htm, ht⟩
    · exact .inr ⟨t, by omega, htb, ht⟩
  · rintro (⟨t, hat, htm, ht⟩ | ⟨t, hmt, htb, ht⟩)
    · exact ⟨t, hat, by omega, ht⟩
    · exact ⟨t, by omega, htb, ht⟩

end ArrivedIn

namespace Pending

variable (arrives : ℕ → U → κ → Bool)

/-- The causes that arrive at an access. -/
def arrive (s : Pending U κ) : Pending U κ :=
  ⟨fun u c => s.pending u c || arrives s.time u c, s.time + 1⟩

@[simp] theorem time_arrive (s : Pending U κ) : (s.arrive arrives).time = s.time + 1 := rfl

/-- The causes of a set are acknowledged at a unit. -/
def clear [DecidableEq U] (s : Pending U κ) (u : U) (cs : κ → Bool) : Pending U κ :=
  ⟨Function.update s.pending u fun c => s.pending u c && !cs c, s.time⟩

/-- An access that acknowledges all causes of a unit. -/
def ack [DecidableEq U] (s : Pending U κ) (u : U) : Pending U κ :=
  (s.arrive arrives).clear u fun _ => true

/-! ### From one state to a later one -/

/-- The cause in a state `s` and in a later state `s'`: it was last acknowledged in between at the
time `a`, or it was not, and it may have arrived meanwhile. -/
def Evolves (s s' : Pending U κ) (u : U) (c : κ) : Option ℕ → Prop
  | none => s.time ≤ s'.time ∧
    (s'.pending u c = true ↔ s.pending u c = true ∨ ArrivedIn arrives s.time s'.time u c)
  | some a => s.time ≤ a ∧ a < s'.time ∧
    (s'.pending u c = true ↔ ArrivedIn arrives (a + 1) s'.time u c)

section Evolves

variable {arrives} {s s' s'' : Pending U κ} {u v : U} {c : κ} {last last' : Option ℕ}

theorem Evolves.time_le (h : Evolves arrives s s' u c last) : s.time ≤ s'.time := by
  cases last with
  | none => exact h.1
  | some a =>
    obtain ⟨hlow, hhigh, -⟩ := h
    omega

/-- **One step after the other**: the later acknowledgement counts. -/
theorem Evolves.trans (h : Evolves arrives s s' u c last) (h' : Evolves arrives s' s'' u c last') :
    Evolves arrives s s'' u c (last' <|> last) := by
  have hle := h.time_le
  have hle' := h'.time_le
  cases last' with
  | some b =>
    obtain ⟨hlow, hhigh, hiff⟩ := h'
    exact ⟨Nat.le_trans hle hlow, hhigh, hiff⟩
  | none =>
    cases last with
    | none =>
      refine ⟨Nat.le_trans hle hle', ?_⟩
      rw [h'.2, h.2, arrivedIn_iff_or hle hle', or_assoc]
    | some a =>
      obtain ⟨hlow, hhigh, hiff⟩ := h
      refine ⟨hlow, Nat.lt_of_lt_of_le hhigh hle', ?_⟩
      rw [h'.2, hiff, arrivedIn_iff_or hhigh hle']

variable (arrives)

theorem evolves_refl (s : Pending U κ) (u : U) (c : κ) : Evolves arrives s s u c none := by
  refine ⟨Nat.le_refl _, ?_⟩
  rw [or_iff_left not_arrivedIn_self]

theorem evolves_arrive (s : Pending U κ) (u : U) (c : κ) :
    Evolves arrives s (s.arrive arrives) u c none := by
  refine ⟨Nat.le_succ _, ?_⟩
  rw [time_arrive, arrivedIn_succ_iff, arrive, Bool.or_eq_true]

variable [DecidableEq U]

theorem evolves_ack_self (s : Pending U κ) (u : U) (c : κ) :
    Evolves arrives s (s.ack arrives u) u c (some s.time) := by
  have hclear : (s.ack arrives u).pending u c = false := by simp [ack, clear]
  refine ⟨Nat.le_refl _, Nat.lt_succ_self _, ?_⟩
  rw [hclear]
  exact iff_of_false Bool.false_ne_true not_arrivedIn_self

theorem evolves_ack_of_ne (s : Pending U κ) (h : u ≠ v) (c : κ) :
    Evolves arrives s (s.ack arrives v) u c none := by
  have hkeep : (s.ack arrives v).pending u = (s.arrive arrives).pending u :=
    Function.update_of_ne h _ _
  refine ⟨Nat.le_succ _, ?_⟩
  rw [hkeep]
  exact (evolves_arrive arrives s u c).2

theorem evolves_foldl_ack_of_notMem (s : Pending U κ) {us : List U} (hu : u ∉ us) (c : κ) :
    Evolves arrives s (us.foldl (ack arrives) s) u c none := by
  induction us generalizing s with
  | nil => exact evolves_refl arrives s u c
  | cons v us ih =>
    obtain ⟨hne, hu⟩ := List.ne_and_not_mem_of_not_mem_cons hu
    exact (evolves_ack_of_ne arrives s hne c).trans (ih _ hu)

/-- Units that are acknowledged one after the other, one of them.  By induction on the units, each
of which is acknowledged once. -/
theorem evolves_foldl_ack_of_mem (s : Pending U κ) {us : List U} (hus : us.Nodup) (hu : u ∈ us)
    (c : κ) : Evolves arrives s (us.foldl (ack arrives) s) u c (some (s.time + us.idxOf u)) := by
  induction us generalizing s with
  | nil => exact absurd hu List.not_mem_nil
  | cons v us ih =>
    obtain ⟨hv, hus⟩ := List.nodup_cons.1 hus
    by_cases huv : u = v
    · subst huv
      rw [List.idxOf_cons_self]
      exact (evolves_ack_self arrives s u c).trans (evolves_foldl_ack_of_notMem arrives _ hv c)
    · have hidx : (v :: us).idxOf u = us.idxOf u + 1 := List.idxOf_cons_ne _ (Ne.symm huv)
      have htime : s.time + (us.idxOf u + 1) = s.time + 1 + us.idxOf u := by omega
      have hrest := ih (s.ack arrives v) hus (List.mem_of_ne_of_mem huv hu)
      rw [hidx, htime]
      exact (evolves_ack_of_ne arrives s huv c).trans hrest

end Evolves

end Pending

/-! ### Runs -/

/-- Some events of a machine acknowledge causes, each at a time of its own. -/
structure Acknowledging (M : Machine σ ι ο) (arrives : ℕ → U → κ → Bool) where
  /-- The pending causes in a state. -/
  units : σ → Pending U κ
  /-- When an event acknowledges the cause at the unit. -/
  acks : Event σ ι ο → U → κ → Option ℕ
  step : ∀ s i u c,
    (units s).Evolves arrives (units (M.step s i).2) u c (acks (M.event s i) u c)

namespace Acknowledging

variable {M : Machine σ ι ο} {arrives : ℕ → U → κ → Bool} (A : Acknowledging M arrives)

/-- The cause was pending at the start or arrived since, and has not been acknowledged after it. -/
def Due (s : σ) (tr : List (Event σ ι ο)) (now : ℕ) (u : U) (c : κ) : Prop :=
  ((A.units s).pending u c = true ∧ ∀ e ∈ tr, A.acks e u c = none) ∨
    ∃ t, (A.units s).time ≤ t ∧ t < now ∧ arrives t u c = true ∧
      ∀ e ∈ tr, ∀ a, A.acks e u c = some a → a < t

variable {A} {s : σ} {tr : List (Event σ ι ο)} {e : Event σ ι ο} {now now' a : ℕ} {u : U} {c : κ}

theorem due_cons_of_none (hnone : A.acks e u c = none) (hstart : (A.units s).time ≤ now)
    (hacks : ∀ e ∈ tr, ∀ a, A.acks e u c = some a → a < now) (hnow : now ≤ now') :
    A.Due s (e :: tr) now' u c ↔ A.Due s tr now u c ∨ ArrivedIn arrives now now' u c := by
  constructor
  · rintro (⟨hpre, hno⟩ | ⟨t, hst, htn, hat, hlast⟩)
    · exact .inl (.inl ⟨hpre, fun e he => hno e (List.mem_cons_of_mem _ he)⟩)
    · by_cases ht : t < now
      · exact .inl (.inr ⟨t, hst, ht, hat, fun e he => hlast e (List.mem_cons_of_mem _ he)⟩)
      · exact .inr ⟨t, by omega, htn, hat⟩
  · rintro ((⟨hpre, hno⟩ | ⟨t, hst, htn, hat, hlast⟩) | ⟨t, hnt, htn, hat⟩)
    · exact .inl ⟨hpre, List.forall_mem_cons.2 ⟨hnone, hno⟩⟩
    · refine .inr ⟨t, hst, by omega, hat, List.forall_mem_cons.2 ⟨fun a ha => ?_, hlast⟩⟩
      simp [hnone] at ha
    · refine .inr ⟨t, by omega, htn, hat, List.forall_mem_cons.2 ⟨fun a ha => ?_, ?_⟩⟩
      · simp [hnone] at ha
      · intro e he a ha
        have hlt := hacks e he a ha
        omega

theorem due_cons_of_some (hsome : A.acks e u c = some a) (hstart : (A.units s).time ≤ a)
    (hacks : ∀ e ∈ tr, ∀ b, A.acks e u c = some b → b < now) (hnow : now ≤ a) :
    A.Due s (e :: tr) now' u c ↔ ArrivedIn arrives (a + 1) now' u c := by
  constructor
  · rintro (⟨-, hno⟩ | ⟨t, -, htn, hat, hlast⟩)
    · have hnone := hno e List.mem_cons_self
      simp [hsome] at hnone
    · exact ⟨t, hlast e List.mem_cons_self a hsome, htn, hat⟩
  · rintro ⟨t, hlt, htn, hat⟩
    refine .inr ⟨t, by omega, htn, hat, List.forall_mem_cons.2 ⟨fun b hb => ?_, ?_⟩⟩
    · rw [hsome] at hb
      cases hb
      exact hlt
    · intro e he b hb
      have hbt := hacks e he b hb
      omega

/-- **After a run the causes that are due are pending, and no others.**  By induction on the run,
with the times of the acknowledgements as the invariant. -/
theorem pending_iff_due (s : σ) (is : List ι) (u : U) (c : κ) :
    (A.units (M.final s is)).pending u c = true ↔
      A.Due s (M.trace s is) (A.units (M.final s is)).time u c := by
  have key := Machine.run_induction' (M := M) (s := s) (motive := fun tr s' =>
    ((A.units s').pending u c = true ↔ A.Due s tr (A.units s').time u c) ∧
      (A.units s).time ≤ (A.units s').time ∧
      ∀ e ∈ tr, ∀ a, A.acks e u c = some a → a < (A.units s').time) ?_ ?_ is
  · exact key.1
  · refine ⟨⟨fun h => .inl ⟨h, by simp⟩, ?_⟩, Nat.le_refl _, by simp⟩
    rintro (⟨hpre, -⟩ | ⟨t, hle, hlt, -⟩)
    · exact hpre
    · omega
  · rintro tr s' i ⟨hiff, hstart, hacks⟩
    have hstep := A.step s' i u c
    have hle := hstep.time_le
    have hlater : ∀ e ∈ tr, ∀ a, A.acks e u c = some a → a < (A.units (M.step s' i).2).time :=
      fun e he a ha => Nat.lt_of_lt_of_le (hacks e he a ha) hle
    cases hack : A.acks (M.event s' i) u c with
    | none =>
      rw [hack] at hstep
      refine ⟨?_, by omega, List.forall_mem_cons.2 ⟨fun a ha => by simp [hack] at ha, hlater⟩⟩
      rw [hstep.2, hiff, due_cons_of_none hack hstart hacks hle]
    | some a =>
      rw [hack] at hstep
      obtain ⟨hlow, hhigh, hpending⟩ := hstep
      refine ⟨?_, by omega, List.forall_mem_cons.2 ⟨fun b hb => ?_, hlater⟩⟩
      · rw [hpending, due_cons_of_some hack (by omega) hacks hlow]
      · rw [hack] at hb
        cases hb
        exact hhigh

end Acknowledging

end Systems
