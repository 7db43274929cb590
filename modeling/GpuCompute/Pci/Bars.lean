import GpuCompute.Pci.Scan

/-!
# The BARs of a GPU

A 64-bit BAR takes two registers, so that the number of the BAR after BAR0 depends on the width of
BAR0.  The scan takes that BAR to be the one at `0x18` whatever the width: behind a 32-bit BAR0 it
skips the BAR at `0x14`.

`RightBars` compares the addresses that the scan returns with the addresses that BAR0 and the BAR
after it hold (`barAddress`), and `FindsRightBars` asks for it whenever a GPU is found.  By
`findsRightBars_iff` the BARs are right exactly when BAR0 is a 64-bit BAR, or the BARs at `0x14` and
`0x18` hold the same address.
-/

namespace GpuCompute

open Systems

/-- The address in a BAR, given its register and the next one: the type bits `[2:1]` say whether
the next register is its upper half. -/
def barAddress (lo hi : UInt32) : ℕ :=
  if lo.toNat / 2 % 4 = 2 then hi.toNat * 2 ^ 32 + lo.toNat / 16 * 16 else lo.toNat / 16 * 16

theorem and_six (n : ℕ) : n &&& 6 = n / 2 % 4 * 2 := by
  have hhigh : (n &&& 6) / 2 = n / 2 % 4 := by
    rw [Nat.and_div_two, show 6 / 2 = 2 ^ 2 - 1 from rfl, Nat.and_two_pow_sub_one_eq_mod]
  have hlow : (n &&& 6) % 2 ^ 1 = 0 := by
    rw [Nat.and_mod_two_pow, show 6 % 2 ^ 1 = 0 from rfl, Nat.and_zero]
  omega

theorem is64bit_iff (lo : UInt32) : lo &&& 0x06 = 0x04 ↔ lo.toNat / 2 % 4 = 2 := by
  rw [← UInt32.toNat_inj, UInt32.toNat_and]
  simp only [UInt32.reduceToNat, and_six]
  omega

theorem toNat_base (lo : UInt32) : (lo.toUInt64 &&& ~~~0xF).toNat = lo.toNat / 16 * 16 := by
  have h := toNat_and_not_mask 4 lo.toUInt64
  rw [UInt32.toNat_toUInt64] at h
  exact h

/-- **A BAR is decoded to the address it holds.** -/
theorem toNat_decodeBar64 (lo hi : UInt32) : (decodeBar64 lo hi).1.toNat = barAddress lo hi := by
  have hlo := lo.toNat_lt
  have hhi := hi.toNat_lt
  unfold decodeBar64 barAddress
  simp only [is64bit_iff]
  split_ifs with h
  · rw [UInt64.toNat_or, UInt64.toNat_shiftLeft, toNat_base, UInt32.toNat_toUInt64]
    simp only [UInt64.reduceToNat, Nat.reduceMod]
    rw [shiftLeft_mod_of_lt (by omega), shiftLeft_or_eq_add (by omega)]
  · exact toNat_base lo

/-- The addresses returned for a GPU are those of BAR0, at `0x10`, and of the BAR after it. -/
structure RightBars (c : ConfigSpace) (gpu : GpuPciDevice) : Prop where
  bar0 : gpu.bar0Base.toNat = barAddress (c 4).value (c 5).value
  bar1 : gpu.bar1Base.toNat =
    if (c 4).value.toNat / 2 % 4 = 2 then barAddress (c 6).value (c 7).value
    else barAddress (c 5).value (c 6).value

/-- The scan returns no GPU with other BARs than its own. -/
def FindsRightBars (hb : HostBridge) : Prop :=
  ∀ gpu, (scanForNvidiaGpu hb).1 = some gpu → RightBars (hb.functions gpu.bdf) gpu

/-- **The BARs of the GPU are the right ones exactly when its BAR0 is a 64-bit BAR**, or the BAR
that is skipped and the one that is taken hold the same address. -/
theorem findsRightBars_iff (hb : HostBridge) :
    FindsRightBars hb ↔ ∀ p, FirstOnZero hb.functions p →
      let c := hb.functions p
      ConfigSpace.Bar0Is64bit c ∨
        barAddress (c 6).value (c 7).value = barAddress (c 5).value (c 6).value := by
  have hbars : ∀ gpu, (scanForNvidiaGpu hb).1 = some gpu →
      let c := hb.functions gpu.bdf
      RightBars c gpu ↔ (c 4).value.toNat / 2 % 4 = 2 ∨
        barAddress (c 6).value (c 7).value = barAddress (c 5).value (c 6).value := by
    intro gpu h
    obtain ⟨-, hreads⟩ := scanForNvidiaGpu_some h
    have hbar0 := congrArg UInt64.toNat hreads.bar0Base
    have hbar1 := congrArg UInt64.toNat hreads.bar1Base
    rw [toNat_decodeBar64] at hbar0 hbar1
    show RightBars (hb.functions gpu.bdf) gpu ↔ _
    constructor
    · rintro ⟨-, hright⟩
      rw [hbar1] at hright
      split_ifs at hright with h64
      · exact .inl h64
      · exact .inr hright
    · intro hcond
      refine ⟨hbar0, ?_⟩
      rw [hbar1]
      split_ifs with h64
      · rfl
      · exact hcond.resolve_left h64
  simp only [ConfigSpace.Bar0Is64bit, is64bit_iff]
  constructor
  · intro h p hp
    obtain ⟨gpu, hgpu, rfl⟩ := hp.found
    exact (hbars gpu hgpu).1 (h gpu hgpu)
  · intro h gpu hgpu
    exact (hbars gpu hgpu).2 (h gpu.bdf (scanForNvidiaGpu_some hgpu).1)

/-- A GPU whose BAR0 is a 32-bit BAR. -/
def narrowBridge : HostBridge := HostBridge.of [(⟨0, 0, 0⟩, ampereSpace)]

/-- Behind a 32-bit BAR0 the scan skips the BAR at `0x14`: it returns `0` for an aperture at
`0xD0000000`. -/
theorem not_findsRightBars_narrow :
    (scanForNvidiaGpu narrowBridge).1.map GpuPciDevice.bar1Base = some 0 ∧
      ¬ FindsRightBars narrowBridge := by
  have hscan : (scanForNvidiaGpu narrowBridge).1.map (fun gpu => (gpu.bdf, gpu.bar1Base)) =
      some (⟨0, 0, 0⟩, 0) := by decide
  obtain ⟨gpu, hgpu, hfields⟩ := Option.map_eq_some_iff.1 hscan
  obtain ⟨hbdf, hbase⟩ := Prod.mk.inj hfields
  refine ⟨by rw [hgpu, Option.map_some, hbase], fun h => ?_⟩
  have hbar1 := (h gpu hgpu).bar1
  rw [hbdf, hbase] at hbar1
  exact absurd hbar1 (by decide)

end GpuCompute
