import GpuCompute.Lib.Word

/-!
# Page table entries

An entry of a GPU page table is a word with a valid bit, an aperture in bits `[4:1]` and the address
of a page in bits `[63:12]`.  The entries are made by setting these fields with an `or`, which loses
nothing because the fields are apart and the constants of the apertures are in place already.

`Page` is what an entry stands for, and `Page.pte` makes the entry of one.  `GpuPte.page_pte` reads
it back, and `pte_lossless` concludes that two entries are the same exactly when they are made for
the same page of the same memory, or for none.  Nothing writes such an entry yet.
-/

namespace GpuCompute

open Systems

/-! ### Entries -/

/-- A GPU page table entry. -/
structure GpuPte where
  /-- Bit `0`: valid, bits `[4:1]`: aperture, bits `[63:12]`: physical address. -/
  raw : UInt64
  deriving DecidableEq

namespace GpuPte

/-- Aperture: VRAM. -/
def APERTURE_VRAM : UInt64 := 0x0

/-- Aperture: system memory, accessed via PCIe. -/
def APERTURE_SYS_MEM_COHERENT : UInt64 := 0x2

/-- Aperture: system memory, non-coherent. -/
def APERTURE_SYS_MEM_NONCOHERENT : UInt64 := 0x4

/-- A valid entry that points to a VRAM physical address. -/
def vram (physAddr : UInt64) : GpuPte := ⟨1 ||| APERTURE_VRAM ||| (physAddr &&& ~~~0xFFF)⟩

/-- A valid entry that points to a system memory address. -/
def systemMemory (physAddr : UInt64) : GpuPte :=
  ⟨1 ||| APERTURE_SYS_MEM_COHERENT ||| (physAddr &&& ~~~0xFFF)⟩

/-- An invalid (unmapped) entry. -/
def invalid : GpuPte := ⟨0⟩

/-- The entry is valid. -/
def isValid (pte : GpuPte) : Bool := (pte.raw &&& 1) != 0

end GpuPte

/-! ### The documented fields -/

/-- The memories that an entry can point to. -/
inductive Aperture where
  | vram
  | sysMemCoherent
  | sysMemNoncoherent
  deriving DecidableEq

namespace GpuPte

/-- The aperture, if the bits `[4:1]` are those of one. -/
def aperture (pte : GpuPte) : Option Aperture :=
  let bits := pte.raw &&& 0x1E
  if bits = APERTURE_VRAM then some .vram
  else if bits = APERTURE_SYS_MEM_COHERENT then some .sysMemCoherent
  else if bits = APERTURE_SYS_MEM_NONCOHERENT then some .sysMemNoncoherent
  else none

/-- The page that an entry points to, by its memory and its number in it. -/
def page (pte : GpuPte) : Option (Aperture × ℕ) :=
  if pte.isValid then pte.aperture.map fun a => (a, (pte.raw >>> 12).toNat) else none

end GpuPte

/-- What an entry is made for. -/
inductive Page where
  | vram (physAddr : UInt64)
  | systemMemory (physAddr : UInt64)
  | unmapped

namespace Page

/-- The entry. -/
def pte : Page → GpuPte
  | .vram physAddr => .vram physAddr
  | .systemMemory physAddr => .systemMemory physAddr
  | .unmapped => .invalid

/-- The page that is meant. -/
def target : Page → Option (Aperture × ℕ)
  | .vram physAddr => some (.vram, physAddr.toNat / 4096)
  | .systemMemory physAddr => some (.sysMemCoherent, physAddr.toNat / 4096)
  | .unmapped => none

end Page

/-! ### Nothing is lost -/

/-- The bits of a page address are apart from a mask of the low bits. -/
theorem or_page_and (flags physAddr : UInt64) {mask : UInt64} (hmask : ~~~0xFFF &&& mask = 0) :
    (flags ||| (physAddr &&& ~~~0xFFF)) &&& mask = flags &&& mask := by
  have hdistrib : (flags ||| (physAddr &&& ~~~0xFFF)) &&& mask =
      (flags &&& mask) ||| ((physAddr &&& ~~~0xFFF) &&& mask) :=
    UInt64.toBitVec_inj.1 BitVec.and_or_distrib_right
  rw [hdistrib, UInt64.and_assoc, hmask, UInt64.and_zero, UInt64.or_zero]

/-- The flags are shifted out. -/
theorem or_page_shiftRight {flags : UInt64} (hflags : flags.toNat < 2 ^ 12) (physAddr : UInt64) :
    ((flags ||| (physAddr &&& ~~~0xFFF)) >>> 12).toNat = physAddr.toNat / 4096 := by
  have hpage : (physAddr &&& ~~~0xFFF).toNat = physAddr.toNat / 4096 * 2 ^ 12 :=
    toNat_and_not_mask 12 physAddr
  have hor : (flags ||| (physAddr &&& ~~~0xFFF)).toNat =
      physAddr.toNat / 4096 * 2 ^ 12 + flags.toNat := by
    rw [UInt64.toNat_or, hpage, Nat.or_comm, ← shiftLeft_or_eq_add hflags, Nat.shiftLeft_eq]
  rw [UInt64.toNat_shiftRight, hor]
  simp only [UInt64.reduceToNat, Nat.reduceMod, Nat.shiftRight_eq_div_pow]
  omega

/-- An entry is valid when it is made for a page. -/
theorem GpuPte.isValid_pte (p : Page) : p.pte.isValid = p.target.isSome := by
  have hvalid : (~~~0xFFF &&& 1 : UInt64) = 0 := by decide
  cases p with
  | vram physAddr =>
    rw [Page.pte, vram, isValid, or_page_and _ _ hvalid]
    rfl
  | systemMemory physAddr =>
    rw [Page.pte, systemMemory, isValid, or_page_and _ _ hvalid]
    rfl
  | unmapped => rfl

/-- **An entry points to the page it was made for.** -/
theorem GpuPte.page_pte (p : Page) : p.pte.page = p.target := by
  have haperture : (~~~0xFFF &&& 0x1E : UInt64) = 0 := by decide
  rw [page, isValid_pte]
  cases p with
  | vram physAddr =>
    rw [aperture, Page.pte, vram, or_page_and _ _ haperture, or_page_shiftRight (by decide)]
    rfl
  | systemMemory physAddr =>
    rw [aperture, Page.pte, systemMemory, or_page_and _ _ haperture,
      or_page_shiftRight (by decide)]
    rfl
  | unmapped => rfl

/-- Addresses in one page have the same entry. -/
theorem page_and_eq {a b : UInt64} (h : a.toNat / 4096 = b.toNat / 4096) :
    a &&& ~~~0xFFF = b &&& ~~~0xFFF := by
  have ha : (a &&& ~~~0xFFF).toNat = a.toNat / 4096 * 4096 := toNat_and_not_mask 12 a
  have hb : (b &&& ~~~0xFFF).toNat = b.toNat / 4096 * 4096 := toNat_and_not_mask 12 b
  exact UInt64.toNat_inj.1 (by rw [ha, hb, h])

theorem Page.pte_eq_of_target_eq {p q : Page} (h : p.target = q.target) : p.pte = q.pte := by
  cases p with
  | vram a =>
    cases q with
    | vram b =>
      have hpage : a.toNat / 4096 = b.toNat / 4096 := congrArg Prod.snd (Option.some.inj h)
      rw [pte, pte, GpuPte.vram, GpuPte.vram, page_and_eq hpage]
    | systemMemory b => cases congrArg Prod.fst (Option.some.inj h)
    | unmapped => cases h
  | systemMemory a =>
    cases q with
    | vram b => cases congrArg Prod.fst (Option.some.inj h)
    | systemMemory b =>
      have hpage : a.toNat / 4096 = b.toNat / 4096 := congrArg Prod.snd (Option.some.inj h)
      rw [pte, pte, GpuPte.systemMemory, GpuPte.systemMemory, page_and_eq hpage]
    | unmapped => cases h
  | unmapped =>
    cases q with
    | vram b | systemMemory b => cases h
    | unmapped => rfl

/-- **Entries lose nothing but the offset in a page**: an entry points to the page it was made for,
and two entries are the same exactly when they were made for the same page, or for none. -/
theorem pte_lossless (p q : Page) :
    p.pte.page = p.target ∧ (p.pte = q.pte ↔ p.target = q.target) := by
  refine ⟨GpuPte.page_pte p, fun h => ?_, Page.pte_eq_of_target_eq⟩
  rw [← GpuPte.page_pte, ← GpuPte.page_pte, h]

end GpuCompute
