import Mathlib.Data.UInt

/-!
# GPU families

The families of NVIDIA GPUs that the driver tells apart, and how it tells them from the PCI device
ID.  The match on the device ID is a list of arms here, the first one that contains the ID counts.
Some arms overlap: the later one is the more specific one, and it is never reached.

* `GpuFamily` : the families.
* `familyArms`, `deviceIdToFamily` : the match on the device ID.
* `listedFamily` : the family that the most specific arm lists for a device ID.
* `deviceIdToName` : the name of a device.
* `listedFamily_eq`, `listedFamily_cases` : the two agree except where an earlier arm hides a later
  one.
* `hidden_volta`, `hidden_ada` : the device IDs where it does.
-/

namespace GpuCompute

/-- The GPU families. -/
inductive GpuFamily where
  | kepler
  | maxwell
  | pascal
  | volta
  | turing
  | ampere
  | ada
  | unknown
  deriving DecidableEq

/-! ### Families from device IDs -/

/-- An arm of the match: a range of device IDs without their last digit. -/
structure FamilyArm where
  /-- First value. -/
  lo : UInt16
  /-- Last value. -/
  hi : UInt16
  /-- The family. -/
  family : GpuFamily
  deriving DecidableEq

/-- The value lies in the range of the arm. -/
def FamilyArm.contains (arm : FamilyArm) (key : UInt16) : Bool := arm.lo ≤ key && key ≤ arm.hi

/-- The arms, in the order of the match. -/
def familyArms : List FamilyArm :=
  [⟨0x0E0, 0x0EF, .kepler⟩, ⟨0x0F0, 0x0FF, .kepler⟩, ⟨0x100, 0x10F, .kepler⟩,
    ⟨0x118, 0x11F, .kepler⟩,
    ⟨0x130, 0x13F, .maxwell⟩, ⟨0x140, 0x14F, .maxwell⟩, ⟨0x170, 0x17F, .maxwell⟩,
    ⟨0x150, 0x15F, .pascal⟩, ⟨0x1B0, 0x1BF, .pascal⟩, ⟨0x1C0, 0x1CF, .pascal⟩,
    ⟨0x1D0, 0x1DF, .pascal⟩,
    ⟨0x1D8, 0x1DF, .volta⟩,
    ⟨0x1E0, 0x1EF, .turing⟩, ⟨0x1F0, 0x1FF, .turing⟩, ⟨0x218, 0x21F, .turing⟩,
    ⟨0x220, 0x22F, .ampere⟩, ⟨0x230, 0x23F, .ampere⟩, ⟨0x240, 0x24F, .ampere⟩,
    ⟨0x250, 0x25F, .ampere⟩, ⟨0x260, 0x27F, .ampere⟩,
    ⟨0x260, 0x26F, .ada⟩, ⟨0x270, 0x27F, .ada⟩, ⟨0x280, 0x28F, .ada⟩]

/-- The family of the first arm that contains a value. -/
def familyOf (arms : List FamilyArm) (key : UInt16) : GpuFamily :=
  match arms.find? (·.contains key) with
  | some arm => arm.family
  | none => .unknown

/-- The family of a device ID: the first arm counts. -/
def deviceIdToFamily (deviceId : UInt16) : GpuFamily := familyOf familyArms (deviceId >>> 4)

/-- The family that is listed for a device ID, where a later and more specific arm counts before an
earlier one. -/
def listedFamily (deviceId : UInt16) : GpuFamily :=
  familyOf familyArms.reverse (deviceId >>> 4)

/-! ### Names -/

/-- Four hexadecimal digits, upper case. -/
def upperHex4 (n : UInt16) : String :=
  let digits := (Nat.toDigits 16 n.toNat).map Char.toUpper
  String.ofList (List.replicate (4 - digits.length) '0' ++ digits)

/-- The name of a device. -/
def deviceIdToName (deviceId : UInt16) : String :=
  if deviceId = 0x2482 then "NVIDIA GeForce RTX 3070 Ti"
  else if deviceId = 0x2484 then "NVIDIA GeForce RTX 3070 Ti"
  else if deviceId = 0x2486 then "NVIDIA GeForce RTX 3070 Ti Mobile"
  else if deviceId = 0x2488 then "NVIDIA GeForce RTX 3070 Ti Laptop GPU"
  else if deviceId = 0x2204 then "NVIDIA GeForce RTX 3090"
  else if deviceId = 0x2206 then "NVIDIA GeForce RTX 3080"
  else if deviceId = 0x2208 then "NVIDIA GeForce RTX 3080 Ti"
  else if deviceId = 0x2503 then "NVIDIA GeForce RTX 3060"
  else if deviceId = 0x2504 then "NVIDIA GeForce RTX 3060 Ti"
  else if deviceId = 0x1E04 then "NVIDIA GeForce RTX 2080 Ti"
  else if deviceId = 0x1E07 then "NVIDIA GeForce RTX 2080"
  else if deviceId = 0x1F02 then "NVIDIA GeForce RTX 2070"
  else if deviceId = 0x1F08 then "NVIDIA GeForce RTX 2060"
  else if deviceId = 0x2684 then "NVIDIA GeForce RTX 4090"
  else if deviceId = 0x2704 then "NVIDIA GeForce RTX 4080"
  else if deviceId = 0x2782 then "NVIDIA GeForce RTX 4070 Ti"
  else "NVIDIA GPU (device_id=0x" ++ upperHex4 deviceId ++ ")"

/-! ### Hidden arms -/

theorem familyOf_reverse {arms : List FamilyArm} {key : UInt16}
    (h : ∀ a ∈ arms, ∀ b ∈ arms, a.contains key → b.contains key → a.family = b.family) :
    familyOf arms.reverse key = familyOf arms key := by
  unfold familyOf
  cases hfirst : arms.find? (·.contains key) with
  | none =>
    have hnone : arms.reverse.find? (·.contains key) = none := by
      simpa only [List.find?_eq_none, List.mem_reverse] using hfirst
    rw [hnone]
  | some a =>
    cases hlast : arms.reverse.find? (·.contains key) with
    | none =>
      have hnone : arms.find? (·.contains key) = none := by
        simpa only [List.find?_eq_none, List.mem_reverse] using hlast
      rw [hnone] at hfirst
      cases hfirst
    | some b =>
      have hb : b.contains key = true := by simpa using List.find?_some hlast
      have ha : a.contains key = true := by simpa using List.find?_some hfirst
      exact h b (List.mem_reverse.1 (List.mem_of_find?_eq_some hlast)) a
        (List.mem_of_find?_eq_some hfirst) hb ha

/-- The first arm that meets a range decides about it if it covers the range. -/
theorem familyOf_of_covers (arms : List FamilyArm) (n : ℕ) {arm : FamilyArm}
    {lo hi key : UInt16} (harm : arms[n]? = some arm)
    (hbefore : ((arms.take n).all fun a => decide (a.hi < lo) || decide (hi < a.lo)) = true)
    (hcovers : arm.lo ≤ lo ∧ hi ≤ arm.hi) (hkey : lo ≤ key ∧ key ≤ hi) :
    familyOf arms key = arm.family := by
  simp only [UInt16.le_iff_toNat_le] at hcovers hkey
  have hnone : (arms.take n).find? (·.contains key) = none := by
    refine List.find?_eq_none.2 fun a ha hc => ?_
    have hapart := List.all_eq_true.1 hbefore a ha
    simp only [FamilyArm.contains, Bool.and_eq_true, decide_eq_true_eq, Bool.or_eq_true,
      UInt16.le_iff_toNat_le, UInt16.lt_iff_toNat_lt] at hc hapart
    omega
  have hsome : arm.contains key = true := by
    simp only [FamilyArm.contains, Bool.and_eq_true, decide_eq_true_eq, UInt16.le_iff_toNat_le]
    omega
  obtain ⟨hn, rfl⟩ := List.getElem?_eq_some_iff.1 harm
  have hfind : (arms.take n ++ arms.drop n).find? (·.contains key) = some arms[n] := by
    rw [List.find?_append, hnone, Option.none_or, List.drop_eq_getElem_cons hn,
      List.find?_cons, hsome]
  rw [List.take_append_drop] at hfind
  rw [familyOf, hfind]

/-- The arm for Volta is hidden by one for Pascal. -/
theorem hidden_volta {deviceId : UInt16} (hlo : (0x1D8 : UInt16) ≤ deviceId >>> 4)
    (hhi : deviceId >>> 4 ≤ 0x1DF) :
    listedFamily deviceId = .volta ∧ deviceIdToFamily deviceId = .pascal :=
  ⟨familyOf_of_covers familyArms.reverse 11 rfl (by decide) (by decide) ⟨hlo, hhi⟩,
    familyOf_of_covers familyArms 10 rfl (by decide) (by decide) ⟨hlo, hhi⟩⟩

/-- The arms for Ada are hidden by one for Ampere. -/
theorem hidden_ada {deviceId : UInt16} (hlo : (0x260 : UInt16) ≤ deviceId >>> 4)
    (hhi : deviceId >>> 4 ≤ 0x27F) :
    listedFamily deviceId = .ada ∧ deviceIdToFamily deviceId = .ampere := by
  refine ⟨?_, familyOf_of_covers familyArms 19 rfl (by decide) (by decide) ⟨hlo, hhi⟩⟩
  by_cases hmid : deviceId >>> 4 ≤ 0x26F
  · exact familyOf_of_covers familyArms.reverse 2 rfl (by decide) (by decide) ⟨hlo, hmid⟩
  · have hmid' : (0x270 : UInt16) ≤ deviceId >>> 4 := by
      simp only [UInt16.le_iff_toNat_le, UInt16.reduceToNat] at hmid ⊢
      omega
    exact familyOf_of_covers familyArms.reverse 1 rfl (by decide) (by decide) ⟨hmid', hhi⟩

/-- Everywhere else the arms agree. -/
theorem listedFamily_eq {deviceId : UInt16}
    (hvolta : ¬ ((0x1D8 : UInt16) ≤ deviceId >>> 4 ∧ deviceId >>> 4 ≤ 0x1DF))
    (hada : ¬ ((0x260 : UInt16) ≤ deviceId >>> 4 ∧ deviceId >>> 4 ≤ 0x27F)) :
    listedFamily deviceId = deviceIdToFamily deviceId := by
  refine familyOf_reverse fun a ha b hb hac hbc => ?_
  have hall : (familyArms.all fun a => familyArms.all fun b =>
      decide (a.family = b.family) || decide (a.hi < b.lo) || decide (b.hi < a.lo) ||
        decide ((0x1D8 ≤ a.lo ∨ 0x1D8 ≤ b.lo) ∧ (a.hi ≤ 0x1DF ∨ b.hi ≤ 0x1DF)) ||
        decide ((0x260 ≤ a.lo ∨ 0x260 ≤ b.lo) ∧ (a.hi ≤ 0x27F ∨ b.hi ≤ 0x27F))) = true := by
    decide
  have hab := List.all_eq_true.1 (List.all_eq_true.1 hall a ha) b hb
  by_contra hne
  simp only [FamilyArm.contains, Bool.and_eq_true, decide_eq_true_eq, Bool.or_eq_true, hne,
    decide_false, Bool.false_eq_true, false_or, UInt16.le_iff_toNat_le, UInt16.lt_iff_toNat_lt,
    UInt16.reduceToNat] at hab hac hbc hvolta hada
  omega

theorem range_of_listedFamily_volta {deviceId : UInt16} (h : listedFamily deviceId = .volta) :
    (0x1D8 : UInt16) ≤ deviceId >>> 4 ∧ deviceId >>> 4 ≤ 0x1DF := by
  unfold listedFamily familyOf at h
  cases hfind : familyArms.reverse.find? (·.contains (deviceId >>> 4)) with
  | none =>
    rw [hfind] at h
    cases h
  | some arm =>
    rw [hfind] at h
    have hall : (familyArms.all fun a => decide (a.family ≠ .volta) ||
        decide (a = ⟨0x1D8, 0x1DF, .volta⟩)) = true := by decide
    have harm := List.all_eq_true.1 hall arm
      (List.mem_reverse.1 (List.mem_of_find?_eq_some hfind))
    obtain rfl : arm = ⟨0x1D8, 0x1DF, .volta⟩ := by simpa [h] using harm
    simpa [FamilyArm.contains] using List.find?_some hfind

/-- **Where the order of the arms matters**: IDs listed for Volta count as Pascal, some listed for
Ada count as Ampere, and all others count as they are listed. -/
theorem listedFamily_cases (deviceId : UInt16) :
    (listedFamily deviceId = .volta ∧ deviceIdToFamily deviceId = .pascal) ∨
    (listedFamily deviceId = .ada ∧ deviceIdToFamily deviceId = .ampere) ∨
    (listedFamily deviceId ≠ .volta ∧ deviceIdToFamily deviceId = listedFamily deviceId) := by
  by_cases hvolta : (0x1D8 : UInt16) ≤ deviceId >>> 4 ∧ deviceId >>> 4 ≤ 0x1DF
  · exact .inl (hidden_volta hvolta.1 hvolta.2)
  by_cases hada : (0x260 : UInt16) ≤ deviceId >>> 4 ∧ deviceId >>> 4 ≤ 0x27F
  · exact .inr (.inl (hidden_ada hada.1 hada.2))
  · exact .inr (.inr ⟨fun h => hvolta (range_of_listedFamily_volta h),
      (listedFamily_eq hvolta hada).symm⟩)

end GpuCompute
