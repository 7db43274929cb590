import Mathlib.Algebra.GroupWithZero.Nat
import Mathlib.Data.List.Basic

/-!
# Systems of components

A system that consists of a list of components, of which one at a time takes a step: the list after
the step is `l.set i b`.

A component after the step is the one that took it or was there before (`getElem?_set_cases`), and a
count or a sum changes by what the component counts before and after (`countP_set_add`,
`sum_map_set_add`).
-/

namespace Systems

variable {α β : Type*} {l : List α} {i : ℕ} {a : α}

theorem getElem?_set_cases {j : ℕ} {b c : α} (h : (l.set i b)[j]? = some c) :
    j = i ∧ c = b ∨ j ≠ i ∧ l[j]? = some c := by
  by_cases hij : i = j
  · subst hij
    obtain ⟨hi, -⟩ := List.getElem?_eq_some_iff.1 h
    rw [List.length_set] at hi
    rw [List.getElem?_set_self hi] at h
    exact .inl ⟨rfl, (Option.some.inj h).symm⟩
  · rw [List.getElem?_set_ne hij] at h
    exact .inr ⟨Ne.symm hij, h⟩

theorem map_set_eq (f : α → β) (h : l[i]? = some a) {b : α} (hf : f b = f a) :
    (l.set i b).map f = l.map f := by
  obtain ⟨hi, rfl⟩ := List.getElem?_eq_some_iff.1 h
  rw [List.map_set, hf, ← List.getElem_map f (h := by simpa using hi), List.set_getElem_self]

theorem countP_cons_eq_add (p : α → Bool) (a : α) (l : List α) :
    (a :: l).countP p = l.countP p + (p a).toNat := by
  rw [List.countP_cons]
  cases p a <;> rfl

theorem countP_set_add (p : α → Bool) (h : l[i]? = some a) (b : α) :
    (l.set i b).countP p + (p a).toNat = l.countP p + (p b).toNat := by
  induction l generalizing i with
  | nil => simp at h
  | cons x l ih =>
    cases i with
    | zero =>
      obtain rfl : x = a := by simpa using h
      rw [List.set_cons_zero, countP_cons_eq_add, countP_cons_eq_add]
      exact Nat.add_right_comm _ _ _
    | succ i =>
      have hl := ih (by simpa using h)
      rw [List.set_cons_succ, countP_cons_eq_add, countP_cons_eq_add]
      omega

theorem sum_map_set_add (f : α → ℕ) (h : l[i]? = some a) (b : α) :
    ((l.set i b).map f).sum + f a = (l.map f).sum + f b := by
  induction l generalizing i with
  | nil => simp at h
  | cons x l ih =>
    cases i with
    | zero =>
      obtain rfl : x = a := by simpa using h
      rw [List.set_cons_zero, List.map_cons, List.map_cons, List.sum_cons, List.sum_cons]
      omega
    | succ i =>
      have hl := ih (by simpa using h)
      rw [List.set_cons_succ, List.map_cons, List.map_cons, List.sum_cons, List.sum_cons]
      omega

end Systems
