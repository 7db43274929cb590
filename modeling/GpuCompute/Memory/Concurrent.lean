import GpuCompute.Lib.Calls
import GpuCompute.Memory.Virtual
import Mathlib.Data.List.Pairwise

/-!
# Concurrent calls of the allocator

The methods of the allocator take a shared reference, and its free list and its address counter are
behind two locks.  `allocate` holds the free list while it takes the counter, and gives both back
when it returns; `map_system_memory` takes the counter only.  A call is a program counter over its
accesses here, a call that waits for a lock stays where it is, and a schedule says which call takes
the next step.

* `MemCall`, `MemCall.step` : a call and its next step.
* `memCalls` : calls on one allocator, as a machine.
* `MemCall.outcome` : what a call has done to the allocator and will return.
* `MemInv` : what holds between the calls, the locks and the allocator.
* `linearizable_memCalls` : the calls are a sequential run of the allocator.
* `memCalls_finish` : all calls return, whatever the order in which they have their turns.
-/

namespace GpuCompute

open Systems VramAllocator

/-- An allocator and who holds its locks. -/
structure SharedMemory where
  /-- The allocator. -/
  allocator : VramAllocator
  /-- The call that holds the free list. -/
  listLock : Option ℕ
  /-- The call that holds the address counter. -/
  vaLock : Option ℕ
  deriving DecidableEq

/-- Where a call of `allocate` is. -/
inductive AllocPc where
  /-- Not started. -/
  | start
  /-- Holds the free list. -/
  | listed
  /-- Has cut a block off a region. -/
  | cut (physAddr : UInt64)
  /-- Holds the address counter, too. -/
  | counted (physAddr : UInt64)
  /-- Has read the counter. -/
  | loaded (physAddr gpuVa : UInt64)
  /-- Has moved the counter. -/
  | stored (alloc : GpuAllocation)
  /-- Holds the free list only, and will return. -/
  | leaving (alloc : Option GpuAllocation)
  /-- Returned. -/
  | returned (alloc : Option GpuAllocation)
  deriving DecidableEq

/-- Where a call of `map_system_memory` is. -/
inductive DmaPc where
  /-- Not started. -/
  | start
  /-- Holds the address counter. -/
  | counted
  /-- Has read the counter. -/
  | loaded (gpuVa : UInt64)
  /-- Has moved the counter. -/
  | stored (gpuVa : UInt64)
  /-- Returned. -/
  | returned (gpuVa : UInt64)
  deriving DecidableEq

/-- A call of the allocator.  `free` and `map_to_cpu` take no lock. -/
inductive MemCall where
  | allocate (size : UInt64) (pc : AllocPc)
  | mapSystemMemory (systemPhysAddr size : UInt64) (pc : DmaPc)
  | free (alloc : GpuAllocation) (returned : Bool)
  | mapToCpu (alloc : GpuAllocation) (returned : Option (Option UInt64 × GpuAllocation))
  deriving DecidableEq

/-- The next step of a call of `allocate`. -/
def AllocPc.step (i : ℕ) (size : UInt64) (m : SharedMemory) : AllocPc → AllocPc × SharedMemory
  | .start =>
    if m.listLock = none then (.listed, { m with listLock := some i }) else (.start, m)
  | .listed =>
    match firstFit (alignedSize size) m.allocator.freeList with
    | some (physAddr, freeList) => (.cut physAddr, { m with allocator.freeList := freeList })
    | none => (.leaving none, m)
  | .cut physAddr =>
    if m.vaLock = none then (.counted physAddr, { m with vaLock := some i }) else (.cut physAddr, m)
  | .counted physAddr => (.loaded physAddr m.allocator.nextGpuVa, m)
  | .loaded physAddr gpuVa =>
    (.stored { gpuVa, physAddr, size := alignedSize size, cpuMapped := false, cpuVa := 0 },
      { m with allocator.nextGpuVa := m.allocator.nextGpuVa + alignedSize size })
  | .stored alloc => (.leaving (some alloc), { m with vaLock := none })
  | .leaving alloc => (.returned alloc, { m with listLock := none })
  | .returned alloc => (.returned alloc, m)

/-- The next step of a call of `map_system_memory`. -/
def DmaPc.step (i : ℕ) (size : UInt64) (m : SharedMemory) : DmaPc → DmaPc × SharedMemory
  | .start => if m.vaLock = none then (.counted, { m with vaLock := some i }) else (.start, m)
  | .counted => (.loaded m.allocator.nextGpuVa, m)
  | .loaded gpuVa =>
    (.stored gpuVa, { m with allocator.nextGpuVa := m.allocator.nextGpuVa + alignedSize size })
  | .stored gpuVa => (.returned gpuVa, { m with vaLock := none })
  | .returned gpuVa => (.returned gpuVa, m)

namespace MemCall

/-- The next step of a call. -/
def step (i : ℕ) (c : MemCall) (m : SharedMemory) : MemCall × SharedMemory :=
  match c with
  | .allocate size pc => (.allocate size (pc.step i size m).1, (pc.step i size m).2)
  | .mapSystemMemory systemPhysAddr size pc =>
    (.mapSystemMemory systemPhysAddr size (pc.step i size m).1, (pc.step i size m).2)
  | .free alloc _ => (.free alloc true, { m with allocator := m.allocator.free alloc })
  | .mapToCpu alloc none => (.mapToCpu alloc (some (m.allocator.mapToCpu alloc)), m)
  | .mapToCpu alloc (some result) => (.mapToCpu alloc (some result), m)

/-- A call that has not started. -/
def new : VramOp → MemCall
  | .allocate size => .allocate size .start
  | .free alloc => .free alloc false
  | .mapToCpu alloc => .mapToCpu alloc none
  | .mapSystemMemory systemPhysAddr size => .mapSystemMemory systemPhysAddr size .start

/-- The method that the call is of. -/
def op : MemCall → VramOp
  | .allocate size _ => .allocate size
  | .free alloc _ => .free alloc
  | .mapToCpu alloc _ => .mapToCpu alloc
  | .mapSystemMemory systemPhysAddr size _ => .mapSystemMemory systemPhysAddr size

/-- What the call has done to the allocator and will return. -/
def outcome : MemCall → Option (VramOp × VramOut)
  | .allocate size (.stored alloc) => some (.allocate size, .allocated (some alloc))
  | .allocate size (.leaving alloc) | .allocate size (.returned alloc) =>
    some (.allocate size, .allocated alloc)
  | .allocate _ _ => none
  | .mapSystemMemory systemPhysAddr size (.stored gpuVa)
  | .mapSystemMemory systemPhysAddr size (.returned gpuVa) =>
    some (.mapSystemMemory systemPhysAddr size, .dma (some gpuVa))
  | .mapSystemMemory _ _ _ => none
  | .free alloc returned => if returned then some (.free alloc, .freed) else none
  | .mapToCpu alloc returned => returned.map fun r => (.mapToCpu alloc, .mapped r.1 r.2)

/-- What the call returned. -/
def returned : MemCall → Option VramOut
  | .allocate _ (.returned alloc) => some (.allocated alloc)
  | .allocate _ _ => none
  | .mapSystemMemory _ _ (.returned gpuVa) => some (.dma (some gpuVa))
  | .mapSystemMemory _ _ _ => none
  | .free _ returned => if returned then some .freed else none
  | .mapToCpu _ returned => returned.map fun r => .mapped r.1 r.2

/-- The call holds the free list. -/
def holdsList : MemCall → Bool
  | .allocate _ .start | .allocate _ (.returned _) => false
  | .allocate _ _ => true
  | _ => false

/-- The call holds the address counter. -/
def holdsVa : MemCall → Bool
  | .allocate _ (.counted _) | .allocate _ (.loaded _ _) | .allocate _ (.stored _) => true
  | .mapSystemMemory _ _ .counted | .mapSystemMemory _ _ (.loaded _)
  | .mapSystemMemory _ _ (.stored _) => true
  | _ => false

/-- The rounded size and the address of a block that the call has cut off and that has no GPU
virtual address yet. -/
def cutBlock : MemCall → Option (UInt64 × UInt64)
  | .allocate size (.cut physAddr) | .allocate size (.counted physAddr)
  | .allocate size (.loaded physAddr _) => some (alignedSize size, physAddr)
  | _ => none

/-- The value of the counter that the call has read and not moved yet. -/
def readVa : MemCall → Option UInt64
  | .allocate _ (.loaded _ gpuVa) | .mapSystemMemory _ _ (.loaded gpuVa) => some gpuVa
  | _ => none

end MemCall

/-- Calls on one allocator. -/
def memCalls : Machine (SharedMemory × List MemCall) ℕ Unit := calls MemCall.step

/-- Nobody holds a lock, and no call has started. -/
def memStart (a : VramAllocator) (ops : List VramOp) : SharedMemory × List MemCall :=
  (⟨a, none, none⟩, ops.map MemCall.new)

/-! ### The invariant -/

/-- What holds between a call, the free list and the counter, the calls that have taken effect
having led to the allocator `a`. -/
structure CallInv (m : SharedMemory) (a : VramAllocator) (c : MemCall) : Prop where
  cut : ∀ size physAddr, c.cutBlock = some (size, physAddr) →
    firstFit size a.freeList = some (physAddr, m.allocator.freeList)
  readVa : ∀ gpuVa, c.readVa = some gpuVa → gpuVa = m.allocator.nextGpuVa

theorem CallInv.of_eq_none {m : SharedMemory} {a : VramAllocator} {c : MemCall}
    (hcut : c.cutBlock = none) (hread : c.readVa = none) : CallInv m a c :=
  ⟨by simp [hcut], by simp [hread]⟩

/-- The calls that have taken effect have led to `a`. -/
structure MemInv (m : SharedMemory) (cs : List MemCall) (a : VramAllocator) : Prop where
  listLock : HeldBy m.listLock cs MemCall.holdsList
  vaLock : HeldBy m.vaLock cs MemCall.holdsVa
  same : m.allocator = { a with freeList := m.allocator.freeList }
  call : ∀ (i : ℕ) (c : MemCall), cs[i]? = some c → CallInv m a c
  uncut : (∀ c ∈ cs, c.cutBlock = none) → m.allocator.freeList = a.freeList

namespace MemInv

variable {m m' : SharedMemory} {cs : List MemCall} {a a' : VramAllocator} {i : ℕ} {c c' : MemCall}

theorem holdsList_of_cutBlock {b : UInt64 × UInt64} (h : c.cutBlock = some b) :
    c.holdsList = true := by
  unfold MemCall.cutBlock at h
  split at h <;> first | rfl | cases h

theorem holdsVa_of_readVa {gpuVa : UInt64} (h : c.readVa = some gpuVa) : c.holdsVa = true := by
  unfold MemCall.readVa at h
  split at h <;> first | rfl | cases h

/-- A step of a call: the other calls stay right if it changes the free list and the counter only
while it holds them. -/
theorem set (hinv : MemInv m cs a) (hc : cs[i]? = some c)
    (hlist : HeldBy m'.listLock (cs.set i c') MemCall.holdsList)
    (hva : HeldBy m'.vaLock (cs.set i c') MemCall.holdsVa)
    (hsame : m'.allocator = { a' with freeList := m'.allocator.freeList })
    (hcall : CallInv m' a' c')
    (hlists : c.holdsList = true ∨
      m'.allocator.freeList = m.allocator.freeList ∧ a'.freeList = a.freeList)
    (hcounter : c.holdsVa = true ∨ m'.allocator.nextGpuVa = m.allocator.nextGpuVa)
    (huncut : c'.cutBlock = none → m'.allocator.freeList = a'.freeList ∨
      c.cutBlock = none ∧ m'.allocator.freeList = m.allocator.freeList ∧ a'.freeList = a.freeList) :
    MemInv m' (cs.set i c') a' := by
  obtain ⟨hi, -⟩ := List.getElem?_eq_some_iff.1 hc
  refine ⟨hlist, hva, hsame, fun j d hd => ?_, fun hno => ?_⟩
  · rcases getElem?_set_cases hd with ⟨rfl, rfl⟩ | ⟨hji, hd⟩
    · exact hcall
    · obtain ⟨hcut, hread⟩ := hinv.call j d hd
      refine ⟨fun size physAddr h => ?_, fun gpuVa h => ?_⟩
      · rcases hlists with hholds | ⟨hm, ha⟩
        · exact absurd (hinv.listLock.unique hd hc (holdsList_of_cutBlock h) hholds) hji
        · rw [hm, ha]
          exact hcut size physAddr h
      · rcases hcounter with hholds | hm
        · exact absurd (hinv.vaLock.unique hd hc (holdsVa_of_readVa h) hholds) hji
        · rw [hm]
          exact hread gpuVa h
  · have hself : c'.cutBlock = none := hno c' (List.mem_of_getElem? (List.getElem?_set_self hi))
    rcases huncut hself with heq | ⟨hnone, hm, ha⟩
    · exact heq
    · rw [hm, ha]
      refine hinv.uncut fun d hd => ?_
      obtain ⟨j, hj⟩ := List.getElem?_of_mem hd
      by_cases hji : j = i
      · subst hji
        rw [hc] at hj
        cases hj
        exact hnone
      · have hset : (cs.set i c')[j]? = some d := by rwa [List.getElem?_set_ne (Ne.symm hji)]
        exact hno d (List.mem_of_getElem? hset)

theorem keep (hinv : MemInv m cs a) (hc : cs[i]? = some c) (halloc : m'.allocator = m.allocator)
    (hlist : HeldBy m'.listLock (cs.set i c') MemCall.holdsList)
    (hva : HeldBy m'.vaLock (cs.set i c') MemCall.holdsVa)
    (hcut : c'.cutBlock = c.cutBlock)
    (hread : ∀ gpuVa, c'.readVa = some gpuVa → gpuVa = m.allocator.nextGpuVa) :
    MemInv m' (cs.set i c') a := by
  refine hinv.set hc hlist hva ?_ ⟨fun size physAddr h => ?_, fun gpuVa h => ?_⟩ ?_ ?_ fun h => ?_
  · rw [halloc]
    exact hinv.same
  · rw [halloc]
    exact (hinv.call i c hc).cut size physAddr (hcut ▸ h)
  · rw [halloc]
    exact hread gpuVa h
  · exact .inr ⟨by rw [halloc], rfl⟩
  · exact .inr (by rw [halloc])
  · exact .inr ⟨hcut ▸ h, by rw [halloc], rfl⟩

theorem pass (hinv : MemInv m cs a) (hc : cs[i]? = some c) (halloc : m'.allocator = m.allocator)
    (hlist : HeldBy m'.listLock (cs.set i c') MemCall.holdsList)
    (hva : HeldBy m'.vaLock (cs.set i c') MemCall.holdsVa)
    (hcut : c'.cutBlock = c.cutBlock) (hread : c'.readVa = none) : MemInv m' (cs.set i c') a :=
  hinv.keep hc halloc hlist hva hcut (by simp [hread])

theorem stay (hinv : MemInv m cs a) (hc : cs[i]? = some c) : MemInv m (cs.set i c) a :=
  hinv.keep hc rfl (hinv.listLock.keep hc rfl) (hinv.vaLock.keep hc rfl) rfl
    (hinv.call i c hc).readVa

theorem freeList_eq (hinv : MemInv m cs a) (hc : cs[i]? = some c) (hholds : c.holdsList = true)
    (hcut : c.cutBlock = none) : m.allocator.freeList = a.freeList := by
  refine hinv.uncut fun d hd => ?_
  obtain ⟨j, hj⟩ := List.getElem?_of_mem hd
  cases hb : d.cutBlock with
  | none => rfl
  | some b =>
    obtain rfl := hinv.listLock.unique hj hc (holdsList_of_cutBlock hb) hholds
    rw [hc] at hj
    cases hj
    rw [hcut] at hb
    cases hb

theorem eq_of_freeList (hinv : MemInv m cs a) (h : m.allocator.freeList = a.freeList) :
    m.allocator = a := by
  rw [hinv.same, h]

theorem nextGpuVa_eq (hinv : MemInv m cs a) : m.allocator.nextGpuVa = a.nextGpuVa := by
  rw [hinv.same]

end MemInv

/-- What a step of a call does: the call takes effect, or nothing happens for the allocator. -/
def StepSpec (m : SharedMemory) (cs : List MemCall) (a : VramAllocator) (i : ℕ) (c : MemCall) :
    Prop :=
  (c.step i m).1.outcome = c.outcome ∧ MemInv (c.step i m).2 (cs.set i (c.step i m).1) a ∨
    c.outcome = none ∧ ∃ op, (c.step i m).1.outcome = some (op, (vram.step a op).1) ∧
      MemInv (c.step i m).2 (cs.set i (c.step i m).1) (vram.step a op).2

section StepSpec

variable {m n : SharedMemory} {cs : List MemCall} {a : VramAllocator} {i : ℕ} {c d : MemCall}
  {size : UInt64}

theorem stepSpec_of_stutter (hstep : c.step i m = (d, n)) (hout : d.outcome = c.outcome)
    (hinv : MemInv n (cs.set i d) a) : StepSpec m cs a i c := by
  left
  rw [hstep]
  exact ⟨hout, hinv⟩

theorem stepSpec_of_effect (hstep : c.step i m = (d, n)) {o : VramOp} (hnone : c.outcome = none)
    (hout : d.outcome = some (o, (vram.step a o).1))
    (hinv : MemInv n (cs.set i d) (vram.step a o).2) : StepSpec m cs a i c := by
  right
  rw [hstep]
  exact ⟨hnone, o, hout, hinv⟩

theorem stepSpec_allocate_start (hinv : MemInv m cs a)
    (hc : cs[i]? = some (.allocate size .start)) : StepSpec m cs a i (.allocate size .start) := by
  by_cases hfree : m.listLock = none
  · have hlist := hinv.listLock
    rw [hfree] at hlist
    refine stepSpec_of_stutter (d := .allocate size .listed) (n := { m with listLock := some i })
      (by simp only [MemCall.step, AllocPc.step, if_pos hfree]) rfl ?_
    exact hinv.pass hc rfl (hlist.acquire hc rfl) (hinv.vaLock.keep hc rfl) rfl rfl
  · exact stepSpec_of_stutter (by simp only [MemCall.step, AllocPc.step, if_neg hfree]) rfl
      (hinv.stay hc)

/-- The scan of the free list: an allocation that fails takes effect here. -/
theorem stepSpec_allocate_listed (hinv : MemInv m cs a)
    (hc : cs[i]? = some (.allocate size .listed)) : StepSpec m cs a i (.allocate size .listed) := by
  have hlist := hinv.freeList_eq hc rfl rfl
  cases hfit : firstFit (alignedSize size) m.allocator.freeList with
  | none =>
    have hnone : vram.step a (.allocate size) = (.allocated none, a) := by
      rw [hlist] at hfit
      simp only [vram, VramAllocator.allocate, hfit]
    refine stepSpec_of_effect (d := .allocate size (.leaving none)) (n := m)
      (o := .allocate size) (by simp only [MemCall.step, AllocPc.step, hfit]) rfl ?_ ?_
    · rw [hnone]
      rfl
    · rw [hnone]
      exact hinv.pass hc rfl (hinv.listLock.keep hc rfl) (hinv.vaLock.keep hc rfl) rfl rfl
  | some p =>
    obtain ⟨physAddr, freeList⟩ := p
    refine stepSpec_of_stutter (d := .allocate size (.cut physAddr))
      (n := { m with allocator.freeList := freeList })
      (by simp only [MemCall.step, AllocPc.step, hfit]) rfl ?_
    refine hinv.set hc (hinv.listLock.keep hc rfl) (hinv.vaLock.keep hc rfl) ?_
      ⟨?_, by simp [MemCall.readVa]⟩ (.inl rfl) (.inr rfl) (by simp [MemCall.cutBlock])
    · rw [hinv.same]
    · rintro _ _ ⟨⟩
      rw [← hlist]
      exact hfit

theorem stepSpec_allocate_cut {physAddr : UInt64} (hinv : MemInv m cs a)
    (hc : cs[i]? = some (.allocate size (.cut physAddr))) :
    StepSpec m cs a i (.allocate size (.cut physAddr)) := by
  by_cases hfree : m.vaLock = none
  · have hva := hinv.vaLock
    rw [hfree] at hva
    refine stepSpec_of_stutter (d := .allocate size (.counted physAddr))
      (n := { m with vaLock := some i })
      (by simp only [MemCall.step, AllocPc.step, if_pos hfree]) rfl ?_
    exact hinv.pass hc rfl (hinv.listLock.keep hc rfl) (hva.acquire hc rfl) rfl rfl
  · exact stepSpec_of_stutter (by simp only [MemCall.step, AllocPc.step, if_neg hfree]) rfl
      (hinv.stay hc)

/-- Moving the counter: an allocation that succeeds takes effect here. -/
theorem stepSpec_allocate_loaded {physAddr gpuVa : UInt64} (hinv : MemInv m cs a)
    (hc : cs[i]? = some (.allocate size (.loaded physAddr gpuVa))) :
    StepSpec m cs a i (.allocate size (.loaded physAddr gpuVa)) := by
  obtain ⟨hcut, hread⟩ := hinv.call i _ hc
  have hfit := hcut (alignedSize size) physAddr rfl
  have hva : gpuVa = a.nextGpuVa := (hread gpuVa rfl).trans hinv.nextGpuVa_eq
  have heffect : vram.step a (.allocate size) =
      (.allocated (some ⟨gpuVa, physAddr, alignedSize size, false, 0⟩),
        { a with
          freeList := m.allocator.freeList
          nextGpuVa := a.nextGpuVa + alignedSize size }) := by
    simp only [vram, VramAllocator.allocate, hfit, hva]
  refine stepSpec_of_effect
    (d := .allocate size (.stored ⟨gpuVa, physAddr, alignedSize size, false, 0⟩))
    (n := { m with allocator.nextGpuVa := m.allocator.nextGpuVa + alignedSize size })
    (o := .allocate size) rfl rfl ?_ ?_
  · rw [heffect]
    rfl
  · rw [heffect]
    refine hinv.set hc (hinv.listLock.keep hc rfl) (hinv.vaLock.keep hc rfl) ?_
      (.of_eq_none rfl rfl) (.inl rfl) (.inl rfl) fun _ => .inl rfl
    rw [hinv.same]

theorem stepSpec_allocate (hinv : MemInv m cs a) {pc : AllocPc}
    (hc : cs[i]? = some (.allocate size pc)) : StepSpec m cs a i (.allocate size pc) := by
  cases pc with
  | start => exact stepSpec_allocate_start hinv hc
  | listed => exact stepSpec_allocate_listed hinv hc
  | cut physAddr => exact stepSpec_allocate_cut hinv hc
  | counted physAddr =>
    refine stepSpec_of_stutter (d := .allocate size (.loaded physAddr m.allocator.nextGpuVa))
      (n := m) rfl rfl ?_
    refine hinv.keep hc rfl (hinv.listLock.keep hc rfl) (hinv.vaLock.keep hc rfl) rfl ?_
    rintro _ ⟨⟩
    rfl
  | loaded physAddr gpuVa => exact stepSpec_allocate_loaded hinv hc
  | stored alloc =>
    refine stepSpec_of_stutter (d := .allocate size (.leaving (some alloc)))
      (n := { m with vaLock := none }) rfl rfl ?_
    exact hinv.pass hc rfl (hinv.listLock.keep hc rfl) (hinv.vaLock.release hc rfl rfl) rfl rfl
  | leaving alloc =>
    refine stepSpec_of_stutter (d := .allocate size (.returned alloc))
      (n := { m with listLock := none }) rfl rfl ?_
    exact hinv.pass hc rfl (hinv.listLock.release hc rfl rfl) (hinv.vaLock.keep hc rfl) rfl rfl
  | returned alloc => exact stepSpec_of_stutter rfl rfl (hinv.stay hc)

theorem stepSpec_mapSystemMemory (hinv : MemInv m cs a) {systemPhysAddr : UInt64} {pc : DmaPc}
    (hc : cs[i]? = some (.mapSystemMemory systemPhysAddr size pc)) :
    StepSpec m cs a i (.mapSystemMemory systemPhysAddr size pc) := by
  cases pc with
  | start =>
    by_cases hfree : m.vaLock = none
    · have hva := hinv.vaLock
      rw [hfree] at hva
      refine stepSpec_of_stutter (d := .mapSystemMemory systemPhysAddr size .counted)
        (n := { m with vaLock := some i })
        (by simp only [MemCall.step, DmaPc.step, if_pos hfree]) rfl ?_
      exact hinv.pass hc rfl (hinv.listLock.keep hc rfl) (hva.acquire hc rfl) rfl rfl
    · exact stepSpec_of_stutter (by simp only [MemCall.step, DmaPc.step, if_neg hfree]) rfl
        (hinv.stay hc)
  | counted =>
    refine stepSpec_of_stutter
      (d := .mapSystemMemory systemPhysAddr size (.loaded m.allocator.nextGpuVa))
      (n := m) rfl rfl ?_
    refine hinv.keep hc rfl (hinv.listLock.keep hc rfl) (hinv.vaLock.keep hc rfl) rfl ?_
    rintro _ ⟨⟩
    rfl
  | loaded gpuVa =>
    have hva : gpuVa = a.nextGpuVa :=
      ((hinv.call i _ hc).readVa gpuVa rfl).trans hinv.nextGpuVa_eq
    refine stepSpec_of_effect (d := .mapSystemMemory systemPhysAddr size (.stored gpuVa))
      (n := { m with allocator.nextGpuVa := m.allocator.nextGpuVa + alignedSize size })
      (o := .mapSystemMemory systemPhysAddr size) rfl rfl ?_ ?_
    · rw [hva]
      rfl
    · refine hinv.set hc (hinv.listLock.keep hc rfl) (hinv.vaLock.keep hc rfl) ?_
        (.of_eq_none rfl rfl) (.inr ⟨rfl, rfl⟩) (.inl rfl) fun _ => .inr ⟨rfl, rfl, rfl⟩
      rw [hinv.same]
      rfl
  | stored gpuVa =>
    refine stepSpec_of_stutter (d := .mapSystemMemory systemPhysAddr size (.returned gpuVa))
      (n := { m with vaLock := none }) rfl rfl ?_
    exact hinv.pass hc rfl (hinv.listLock.keep hc rfl) (hinv.vaLock.release hc rfl rfl) rfl rfl
  | returned gpuVa => exact stepSpec_of_stutter rfl rfl (hinv.stay hc)

/-- A call that takes no lock takes effect at its only step. -/
theorem stepSpec_free (hinv : MemInv m cs a) {alloc : GpuAllocation} {returned : Bool}
    (hc : cs[i]? = some (.free alloc returned)) : StepSpec m cs a i (.free alloc returned) := by
  cases returned with
  | false =>
    refine stepSpec_of_effect (d := .free alloc true) (n := m) (o := .free alloc) rfl rfl rfl ?_
    exact hinv.pass hc rfl (hinv.listLock.keep hc rfl) (hinv.vaLock.keep hc rfl) rfl rfl
  | true => exact stepSpec_of_stutter rfl rfl (hinv.stay hc)

theorem stepSpec_mapToCpu (hinv : MemInv m cs a) {alloc : GpuAllocation}
    {returned : Option (Option UInt64 × GpuAllocation)}
    (hc : cs[i]? = some (.mapToCpu alloc returned)) :
    StepSpec m cs a i (.mapToCpu alloc returned) := by
  cases returned with
  | none =>
    have hmap : m.allocator.mapToCpu alloc = a.mapToCpu alloc := by
      rw [hinv.same]
      rfl
    refine stepSpec_of_effect (d := .mapToCpu alloc (some (a.mapToCpu alloc))) (n := m)
      (o := .mapToCpu alloc) (by simp only [MemCall.step, hmap]) rfl rfl ?_
    exact hinv.pass hc rfl (hinv.listLock.keep hc rfl) (hinv.vaLock.keep hc rfl) rfl rfl
  | some result => exact stepSpec_of_stutter rfl rfl (hinv.stay hc)

/-- **What a step of a call does.** -/
theorem MemInv.stepSpec (hinv : MemInv m cs a) (hc : cs[i]? = some c) : StepSpec m cs a i c := by
  cases c with
  | allocate size pc => exact stepSpec_allocate hinv hc
  | mapSystemMemory systemPhysAddr size pc => exact stepSpec_mapSystemMemory hinv hc
  | free alloc returned => exact stepSpec_free hinv hc
  | mapToCpu alloc returned => exact stepSpec_mapToCpu hinv hc

end StepSpec

/-- The calls take effect as operations of the sequential allocator. -/
def memLinearization : Linearization MemCall.step vram where
  rel := MemInv
  outcome := MemCall.outcome
  effect _ _ _ _ _ hinv hc := hinv.stepSpec hc

/-! ### Linearizability -/

theorem MemCall.new_mem {ops : List VramOp} {c : MemCall} (hc : c ∈ ops.map MemCall.new) :
    c.outcome = none ∧ c.holdsList = false ∧ c.holdsVa = false ∧ c.cutBlock = none ∧
      c.readVa = none := by
  obtain ⟨op, -, rfl⟩ := List.mem_map.1 hc
  cases op <;> exact ⟨rfl, rfl, rfl, rfl, rfl⟩

theorem MemInv.init (a : VramAllocator) (ops : List VramOp) :
    MemInv (memStart a ops).1 (memStart a ops).2 a := by
  have hnew : ∀ (i : ℕ) (c : MemCall), (ops.map MemCall.new)[i]? = some c → _ := fun i c hc =>
    MemCall.new_mem (List.mem_of_getElem? hc)
  refine ⟨⟨fun i c hc => ?_, by simp [memStart]⟩, ⟨fun i c hc => ?_, by simp [memStart]⟩, rfl,
    fun i c hc => ?_, fun _ => rfl⟩
  · obtain ⟨-, hlist, -⟩ := hnew i c hc
    simp [hlist, memStart]
  · obtain ⟨-, -, hva, -⟩ := hnew i c hc
    simp [hva, memStart]
  · obtain ⟨-, -, -, hcut, hread⟩ := hnew i c hc
    exact .of_eq_none hcut hread

theorem MemCall.op_step (i : ℕ) (c : MemCall) (m : SharedMemory) : (c.step i m).1.op = c.op := by
  cases c with
  | mapToCpu alloc returned => cases returned <;> rfl
  | _ => rfl

theorem map_op_memCalls (a : VramAllocator) (ops : List VramOp) (schedule : List ℕ) :
    (memCalls.final (memStart a ops) schedule).2.map MemCall.op = ops := by
  refine Machine.run_induction' (M := memCalls)
    (motive := fun _ s => (Prod.snd s).map MemCall.op = ops) ?_ ?_ schedule
  · rw [memStart, List.map_map]
    refine List.map_congr_left (fun op _ => ?_) |>.trans (List.map_id ops)
    cases op <;> rfl
  · rintro _ ⟨m, cs⟩ i hops
    cases hc : cs[i]? with
    | none => rwa [memCalls, calls_step_of_none hc]
    | some c =>
      rw [memCalls, calls_step_of_some hc]
      exact (map_set_eq MemCall.op hc (c.op_step i m)).trans hops

theorem MemCall.op_of_outcome {c : MemCall} {op : VramOp} {out : VramOut}
    (h : c.outcome = some (op, out)) : c.op = op := by
  cases c with
  | allocate _ pc => cases pc <;> cases h <;> rfl
  | mapSystemMemory _ _ pc => cases pc <;> cases h <;> rfl
  | free _ returned => cases returned <;> cases h; rfl
  | mapToCpu _ returned => cases returned <;> cases h; rfl

theorem MemCall.outcome_of_returned {c : MemCall} {out : VramOut} (h : c.returned = some out) :
    c.outcome = some (c.op, out) := by
  cases c with
  | allocate _ pc => cases pc <;> cases h; rfl
  | mapSystemMemory _ _ pc => cases pc <;> cases h; rfl
  | free _ returned => cases returned <;> cases h; rfl
  | mapToCpu _ returned => cases returned <;> cases h; rfl

/-- `order` explains what the calls have returned: taken one after the other in this order, they
return the same. -/
structure Linearizable (a : VramAllocator) (ops : List VramOp) (schedule order : List ℕ) :
    Prop where
  once : order.Nodup
  /-- A call takes its place at a step of its own. -/
  own : ∀ i ∈ order, i ∈ schedule
  /-- A call that has returned is in the order, and returned what it returns after those before. -/
  results : ∀ (i : ℕ) (c : MemCall) (out : VramOut),
    (memCalls.final (memStart a ops) schedule).2[i]? = some c → c.returned = some out →
    ∃ before op after, order = before ++ i :: after ∧ ops[i]? = some op ∧
      (vram.step (vram.final a (before.filterMap (ops[·]?))) op).1 = out
  /-- While nobody holds the free list, the allocator is the one after the order. -/
  allocator : (memCalls.final (memStart a ops) schedule).1.listLock = none →
    (memCalls.final (memStart a ops) schedule).1.allocator =
      vram.final a (order.filterMap (ops[·]?))

section Linearizable

variable {a : VramAllocator} {ops : List VramOp} {schedule : List ℕ}

theorem memLinear (a : VramAllocator) (ops : List VramOp) (schedule : List ℕ) :
    memLinearization.Linear a (memCalls.trace (memStart a ops) schedule)
      (memCalls.final (memStart a ops) schedule) :=
  memLinearization.run (MemInv.init a ops) (fun _ hc => (MemCall.new_mem hc).1) schedule

theorem getElem?_of_outcomeAt {i : ℕ} {op : VramOp} {out : VramOut}
    (h : memLinearization.outcomeAt (memCalls.final (memStart a ops) schedule).2 i =
      some (op, out)) : ops[i]? = some op := by
  obtain ⟨c, hc, hout⟩ := Option.bind_eq_some_iff.1 h
  rw [← map_op_memCalls a ops schedule, List.getElem?_map, hc, Option.map_some,
    MemCall.op_of_outcome hout]

theorem opsOf_memCalls {is : List ℕ}
    (his : ∀ i ∈ is, i ∈ memLinearization.order (memCalls.trace (memStart a ops) schedule)) :
    memLinearization.opsOf (memCalls.final (memStart a ops) schedule).2 is =
      is.filterMap (ops[·]?) := by
  refine List.filterMap_congr fun i hi => ?_
  have hsome := ((memLinear a ops schedule).mem_order i).1 (his i hi)
  obtain ⟨⟨op, out⟩, hout⟩ := Option.isSome_iff_exists.1 hsome
  rw [hout, getElem?_of_outcomeAt hout]
  rfl

/-- **Concurrent calls are linearizable**: whatever the schedule, what they return is what they
return one after the other, in an order that only grows with the schedule. -/
theorem linearizable_memCalls (a : VramAllocator) (ops : List VramOp) :
    ∃ order : List ℕ → List ℕ, (∀ schedule, Linearizable a ops schedule (order schedule)) ∧
      ∀ schedule later, order schedule <+: order (schedule ++ later) := by
  refine ⟨fun schedule => memLinearization.order (memCalls.trace (memStart a ops) schedule),
    fun schedule => ?_, fun schedule later => ?_⟩
  · have hlin := memLinear a ops schedule
    refine ⟨hlin.once, fun i hi => Linearization.mem_of_mem_order hi, ?_, fun hfree => ?_⟩
    · intro i c out hc hreturned
      have hout : memLinearization.outcomeAt (memCalls.final (memStart a ops) schedule).2 i =
          some (c.op, out) := by
        rw [Linearization.outcomeAt, hc, Option.bind_some]
        exact MemCall.outcome_of_returned hreturned
      obtain ⟨before, after, hsplit⟩ := List.append_of_mem ((hlin.mem_order i).2 (by simp [hout]))
      obtain ⟨op, hresult⟩ := hlin.results before i after hsplit
      rw [hout] at hresult
      obtain ⟨rfl, hresult⟩ := Prod.ext_iff.1 (Option.some.inj hresult)
      refine ⟨before, c.op, after, hsplit, getElem?_of_outcomeAt hout, ?_⟩
      rw [← opsOf_memCalls fun j hj => hsplit ▸ List.mem_append_left _ hj]
      exact hresult.symm
    · have hinv : MemInv _ _ _ := hlin.state
      rw [← opsOf_memCalls fun j hj => hj]
      refine hinv.eq_of_freeList (hinv.uncut fun c hc => ?_)
      obtain ⟨i, hi⟩ := List.getElem?_of_mem hc
      cases hcut : c.cutBlock with
      | none => rfl
      | some b =>
        have hholds := (hinv.listLock.iff i c hi).1 (MemInv.holdsList_of_cutBlock hcut)
        rw [hfree] at hholds
        cases hholds
  · simp only [Machine.trace_append, Linearization.order_append]
    exact List.prefix_append _ _

/-! ### What concurrent allocations get -/

/-- What a call of `allocate` got, with the requested size. -/
def MemCall.allocation (c : MemCall) : Option (UInt64 × GpuAllocation) :=
  match c with
  | .allocate size (.returned (some g)) => some (size, g)
  | _ => none

/-- What an operation of the allocator got. -/
def allocationOf (p : VramOp × VramOut) : Option (UInt64 × GpuAllocation) :=
  match p with
  | (.allocate size, .allocated (some g)) => some (size, g)
  | _ => none

theorem VramEvent.allocation_eq (e : VramEvent) : e.allocation = allocationOf (e.op, e.out) := by
  obtain ⟨_, op, out⟩ := e
  cases op <;> cases out <;> try rfl
  rename_i g
  cases g <;> rfl

/-- The allocations that concurrent calls returned, `total` being the size of VRAM in bytes. -/
structure ConcurrentlySafe (total : ℕ) (cs : List MemCall) : Prop where
  /-- An allocation is at least as large as requested. -/
  requested : ∀ p ∈ cs.filterMap MemCall.allocation, p.1.toNat ≤ p.2.size.toNat
  /-- Allocations are page aligned. -/
  aligned : ∀ p ∈ cs.filterMap MemCall.allocation, 4096 ∣ p.2.physAddr.toNat ∧ 4096 ∣ p.2.size.toNat
  /-- Allocations lie in VRAM and leave the first MiB alone. -/
  within : ∀ p ∈ cs.filterMap MemCall.allocation,
    p.2.physBlock.Within (2 ^ 20) (max total (2 ^ 20))
  /-- No two allocations overlap. -/
  disjoint : ((cs.filterMap MemCall.allocation).map fun p => p.2.physBlock).Pairwise Block.Sep

theorem allocations_memCalls (a : VramAllocator) (ops : List VramOp) (schedule : List ℕ) :
    let cs := (memCalls.final (memStart a ops) schedule).2
    let order := memLinearization.order (memCalls.trace (memStart a ops) schedule)
    allocations (vram.trace a (memLinearization.opsOf cs order)) =
      order.reverse.filterMap fun i => (memLinearization.outcomeAt cs i).bind allocationOf := by
  intro cs order
  have htrace := (memLinear a ops schedule).trace_eq (List.append_nil order).symm
  have hevents : allocations (vram.trace a (memLinearization.opsOf cs order)) =
      ((vram.trace a (memLinearization.opsOf cs order)).map
        fun e => some (e.op, e.out)).filterMap fun o => o.bind allocationOf := by
    rw [List.filterMap_map, allocations]
    exact List.filterMap_congr fun e _ => e.allocation_eq
  rw [hevents, htrace, List.filterMap_map]
  rfl

theorem mem_order_of_allocation {i : ℕ} {c : MemCall} {p : UInt64 × GpuAllocation}
    (hc : (memCalls.final (memStart a ops) schedule).2[i]? = some c) (hp : c.allocation = some p) :
    i ∈ (memLinearization.order (memCalls.trace (memStart a ops) schedule)).reverse ∧
      (memLinearization.outcomeAt (memCalls.final (memStart a ops) schedule).2 i).bind
        allocationOf = some p := by
  have hout : c.outcome = some (.allocate p.1, .allocated (some p.2)) := by
    unfold MemCall.allocation at hp
    split at hp <;> cases hp
    rfl
  have hat : memLinearization.outcomeAt (memCalls.final (memStart a ops) schedule).2 i =
      some (.allocate p.1, .allocated (some p.2)) := by
    rw [Linearization.outcomeAt, hc, Option.bind_some]
    exact hout
  refine ⟨List.mem_reverse.2 (((memLinear a ops schedule).mem_order i).2 (by simp [hat])), ?_⟩
  rw [hat]
  rfl

/-- **Concurrent allocations are safe**: whatever is called concurrently on a detected allocator,
and whatever the schedule, the allocations that have been returned lie in VRAM and do not
overlap. -/
theorem concurrentlySafe_run {δ : Type*} (regs : GpuRegs δ) (dev : δ)
    (bar1CpuBase bar1Size : UInt64) (ops : List VramOp)
    (hops : ∀ size, .allocate size ∈ ops → size.toNat + 0xFFF < 2 ^ 64) (schedule : List ℕ) :
    let a := (detectAndInit regs bar1CpuBase bar1Size dev).1
    ConcurrentlySafe a.info.totalBytes.toNat (memCalls.final (memStart a ops) schedule).2 := by
  intro a
  have hallocations := allocations_memCalls a ops schedule
  have hsub : ∀ op ∈ memLinearization.opsOf (memCalls.final (memStart a ops) schedule).2
      (memLinearization.order (memCalls.trace (memStart a ops) schedule)), op ∈ ops := by
    intro op hop
    rw [opsOf_memCalls fun i hi => hi] at hop
    obtain ⟨i, -, hi⟩ := List.mem_filterMap.1 hop
    exact List.mem_of_getElem? hi
  have hrep : a.RepresentsArena (physicalMemory a.info) := ofInfo_representsArena _ _ _
  have hsafe := physicalSafe_of_representsArena hrep fun size hsize => hops size (hsub _ hsize)
  have hmem : ∀ p ∈ (memCalls.final (memStart a ops) schedule).2.filterMap MemCall.allocation,
      p ∈ allocations (vram.trace a (memLinearization.opsOf
        (memCalls.final (memStart a ops) schedule).2
        (memLinearization.order (memCalls.trace (memStart a ops) schedule)))) := by
    intro p hp
    obtain ⟨c, hc, hp⟩ := List.mem_filterMap.1 hp
    obtain ⟨i, hi⟩ := List.getElem?_of_mem hc
    obtain ⟨horder, hat⟩ := mem_order_of_allocation hi hp
    rw [hallocations]
    exact List.mem_filterMap.2 ⟨i, horder, hat⟩
  refine ⟨fun p hp => hsafe.requested p (hmem p hp), fun p hp => hsafe.aligned p (hmem p hp),
    fun p hp => hsafe.within p (hmem p hp), ?_⟩
  have hdisjoint := hsafe.disjoint
  rw [hallocations, List.pairwise_map, List.pairwise_filterMap] at hdisjoint
  rw [List.pairwise_map, List.pairwise_filterMap, List.pairwise_iff_getElem]
  intro i j hi hj hij p hp q hq
  obtain ⟨hiorder, hiat⟩ := mem_order_of_allocation (List.getElem?_eq_getElem hi) hp
  obtain ⟨hjorder, hjat⟩ := mem_order_of_allocation (List.getElem?_eq_getElem hj) hq
  have hsymm : Std.Symm fun i j : ℕ => ∀ p : UInt64 × GpuAllocation,
      (memLinearization.outcomeAt (memCalls.final (memStart a ops) schedule).2 i).bind
        allocationOf = some p → ∀ q : UInt64 × GpuAllocation,
      (memLinearization.outcomeAt (memCalls.final (memStart a ops) schedule).2 j).bind
        allocationOf = some q → p.2.physBlock.Sep q.2.physBlock :=
    ⟨fun _ _ h p hp q hq => (h q hq p hp).symm⟩
  exact hdisjoint.forall hiorder hjorder hij.ne p hiat q hjat

end Linearizable

/-- Two allocations and a DMA mapping that take turns. -/
theorem concurrentlySafe_run_taking_turns :
    let a := (detectAndInit GpuRegs.plain 0 0 fun _ => 3).1
    ConcurrentlySafe a.info.totalBytes.toNat (memCalls.final (memStart a
      [.allocate 5000, .mapSystemMemory 0 1, .allocate 0x1000])
      [0, 1, 2, 0, 1, 2, 0, 1, 2, 0, 1, 0, 0, 0, 0, 0, 2, 2, 2, 2, 2, 2, 2]).2 :=
  concurrentlySafe_run GpuRegs.plain _ 0 0 _ (by simp) _

/-! ### Progress -/

/-- The steps that a call has left. -/
def MemCall.left : MemCall → ℕ
  | .allocate _ .start => 7
  | .allocate _ .listed => 6
  | .allocate _ (.cut _) => 5
  | .allocate _ (.counted _) => 4
  | .allocate _ (.loaded _ _) => 3
  | .allocate _ (.stored _) => 2
  | .allocate _ (.leaving _) => 1
  | .allocate _ (.returned _) => 0
  | .mapSystemMemory _ _ .start => 4
  | .mapSystemMemory _ _ .counted => 3
  | .mapSystemMemory _ _ (.loaded _) => 2
  | .mapSystemMemory _ _ (.stored _) => 1
  | .mapSystemMemory _ _ (.returned _) => 0
  | .free _ returned => if returned then 0 else 1
  | .mapToCpu _ returned => if returned.isSome then 0 else 1

theorem MemCall.isSome_returned_iff (c : MemCall) : c.returned.isSome = true ↔ c.left = 0 := by
  cases c with
  | allocate _ pc => cases pc <;> simp [returned, left]
  | mapSystemMemory _ _ pc => cases pc <;> simp [returned, left]
  | free _ returned => cases returned <;> simp [MemCall.returned, left]
  | mapToCpu _ returned => cases returned <;> simp [MemCall.returned, left]

theorem MemCall.holds_of_left_eq_zero {c : MemCall} (h : c.left = 0) :
    c.holdsList = false ∧ c.holdsVa = false := by
  cases c with
  | allocate _ pc => cases pc <;> first | exact ⟨rfl, rfl⟩ | cases h
  | mapSystemMemory _ _ pc => cases pc <;> first | exact ⟨rfl, rfl⟩ | cases h
  | free _ returned => exact ⟨rfl, rfl⟩
  | mapToCpu _ returned => exact ⟨rfl, rfl⟩

/-- A step takes one of the steps that are left, or the call has returned or waits for a lock that
it does not hold. -/
theorem MemCall.step_cases (i : ℕ) (c : MemCall) (m : SharedMemory) :
    (c.step i m).1.left < c.left ∨ c.step i m = (c, m) ∧
      (c.left = 0 ∨ m.listLock ≠ none ∧ c.holdsList = false ∧ c.holdsVa = false ∨
        m.vaLock ≠ none ∧ c.holdsVa = false) := by
  cases c with
  | allocate size pc =>
    cases pc with
    | start =>
      by_cases hfree : m.listLock = none
      · simp [step, AllocPc.step, hfree, left]
      · exact .inr ⟨by simp only [step, AllocPc.step, if_neg hfree], .inr (.inl ⟨hfree, rfl, rfl⟩)⟩
    | listed =>
      cases hfit : firstFit (alignedSize size) m.allocator.freeList <;>
        simp [step, AllocPc.step, hfit, left]
    | cut physAddr =>
      by_cases hfree : m.vaLock = none
      · simp [step, AllocPc.step, hfree, left]
      · exact .inr ⟨by simp only [step, AllocPc.step, if_neg hfree], .inr (.inr ⟨hfree, rfl⟩)⟩
    | returned alloc => exact .inr ⟨rfl, .inl rfl⟩
    | _ => exact .inl (Nat.lt_succ_self _)
  | mapSystemMemory systemPhysAddr size pc =>
    cases pc with
    | start =>
      by_cases hfree : m.vaLock = none
      · simp [step, DmaPc.step, hfree, left]
      · exact .inr ⟨by simp only [step, DmaPc.step, if_neg hfree], .inr (.inr ⟨hfree, rfl⟩)⟩
    | returned gpuVa => exact .inr ⟨rfl, .inl rfl⟩
    | _ => exact .inl (Nat.lt_succ_self _)
  | free alloc returned =>
    cases returned with
    | false => exact .inl Nat.zero_lt_one
    | true => exact .inr ⟨rfl, .inl rfl⟩
  | mapToCpu alloc returned =>
    cases returned with
    | none => exact .inl Nat.zero_lt_one
    | some result => exact .inr ⟨rfl, .inl rfl⟩

/-- The steps that all calls have left. -/
def memLeft (s : SharedMemory × List MemCall) : ℕ := (s.2.map MemCall.left).sum

/-- The calls are as the locks say, and there are `n` of them. -/
def Working (n : ℕ) (s : SharedMemory × List MemCall) : Prop :=
  (∃ a, MemInv s.1 s.2 a) ∧ s.2.length = n

theorem memLeft_eq_zero_iff {s : SharedMemory × List MemCall} :
    memLeft s = 0 ↔ ∀ c ∈ s.2, c.left = 0 := by
  rw [memLeft, List.sum_eq_zero_iff_forall_eq_nat]
  exact List.forall_mem_map

theorem memLeft_memStart_le (a : VramAllocator) (ops : List VramOp) :
    memLeft (memStart a ops) ≤ 7 * ops.length := by
  induction ops with
  | nil => exact Nat.le_refl 0
  | cons op ops ih =>
    have hop : (MemCall.new op).left ≤ 7 := by
      cases op <;> exact Nat.le_of_ble_eq_true rfl
    simp only [memLeft, memStart, List.map_cons, List.sum_cons, List.length_cons] at ih ⊢
    omega

section Progress

variable {n : ℕ} {s : SharedMemory × List MemCall} {i : ℕ} {c : MemCall}

theorem memLeft_step (hc : s.2[i]? = some c) :
    memLeft (memCalls.step s i).2 + c.left = memLeft s + (c.step i s.1).1.left := by
  rw [memCalls, calls_step_of_some hc]
  exact sum_map_set_add MemCall.left hc _

theorem working_step (h : Working n s) (i : ℕ) : Working n (memCalls.step s i).2 := by
  obtain ⟨⟨a, hinv⟩, hlength⟩ := h
  cases hc : s.2[i]? with
  | none =>
    have hstep : memCalls.step s i = ((), s) := calls_step_of_none hc
    rw [hstep]
    exact ⟨⟨a, hinv⟩, hlength⟩
  | some c =>
    rw [memCalls, calls_step_of_some hc]
    refine ⟨?_, by rw [List.length_set, hlength]⟩
    rcases hinv.stepSpec hc with ⟨-, hinv'⟩ | ⟨-, op, -, hinv'⟩
    · exact ⟨a, hinv'⟩
    · exact ⟨_, hinv'⟩

theorem memCalls_moves (i : ℕ) :
    (memCalls.step s i).2 = s ∨ memLeft (memCalls.step s i).2 < memLeft s := by
  cases hc : s.2[i]? with
  | none =>
    have hstep : memCalls.step s i = ((), s) := calls_step_of_none hc
    exact .inl (by rw [hstep])
  | some c =>
    have hleft := memLeft_step hc
    rcases c.step_cases i s.1 with hlt | ⟨hstay, -⟩
    · exact .inr (by omega)
    · left
      rw [memCalls, calls_step_of_some hc, hstay]
      obtain ⟨hi, rfl⟩ := List.getElem?_eq_some_iff.1 hc
      rw [List.set_getElem_self]

/-- **No deadlock**: while a call has not returned, one can move.  The locks are taken in one order,
so the call that holds the counter can move, or the one that holds the free list, or any. -/
theorem memCalls_live (h : Working n s) (hpos : 0 < memLeft s) :
    ∃ i ∈ {i | i < n}, memLeft (memCalls.step s i).2 < memLeft s := by
  obtain ⟨⟨a, hinv⟩, rfl⟩ := h
  have hmove : ∀ (i : ℕ) (c : MemCall), s.2[i]? = some c → (c.step i s.1).1.left < c.left →
      ∃ i ∈ {i | i < s.2.length}, memLeft (memCalls.step s i).2 < memLeft s := by
    intro i c hc hlt
    have hleft := memLeft_step hc
    exact ⟨i, (List.getElem?_eq_some_iff.1 hc).1, by omega⟩
  cases hva : s.1.vaLock with
  | some i =>
    obtain ⟨c, hc⟩ := hinv.vaLock.isCall i hva
    have hholds := (hinv.vaLock.iff i c hc).2 hva
    refine hmove i c hc ((c.step_cases i s.1).resolve_right ?_)
    rintro ⟨-, hzero | ⟨-, -, hno⟩ | ⟨-, hno⟩⟩
    · simp [(MemCall.holds_of_left_eq_zero hzero).2] at hholds
    · simp [hno] at hholds
    · simp [hno] at hholds
  | none =>
    cases hlist : s.1.listLock with
    | some i =>
      obtain ⟨c, hc⟩ := hinv.listLock.isCall i hlist
      have hholds := (hinv.listLock.iff i c hc).2 hlist
      refine hmove i c hc ((c.step_cases i s.1).resolve_right ?_)
      rintro ⟨-, hzero | ⟨-, hno, -⟩ | ⟨hlocked, -⟩⟩
      · simp [(MemCall.holds_of_left_eq_zero hzero).1] at hholds
      · simp [hno] at hholds
      · exact hlocked hva
    | none =>
      obtain ⟨c, hc, hcpos⟩ : ∃ c ∈ s.2, c.left ≠ 0 := by
        by_contra hno
        push Not at hno
        exact hpos.ne' (memLeft_eq_zero_iff.2 hno)
      obtain ⟨i, hi⟩ := List.getElem?_of_mem hc
      refine hmove i c hi ((c.step_cases i s.1).resolve_right ?_)
      rintro ⟨-, hzero | ⟨hlocked, -⟩ | ⟨hlocked, -⟩⟩
      · omega
      · exact hlocked hlist
      · exact hlocked hva

end Progress

/-- **All calls return**, whatever the order in which they have their turns, after seven rounds for
each call. -/
theorem memCalls_finish (a : VramAllocator) (ops : List VramOp) (rounds : List (List ℕ))
    (hall : ∀ r ∈ rounds, ∀ i < ops.length, i ∈ r) (henough : 7 * ops.length ≤ rounds.length) :
    ∀ c ∈ (memCalls.final (memStart a ops) rounds.flatten).2, c.returned.isSome = true := by
  have hworking : Working ops.length (memStart a ops) :=
    ⟨⟨a, MemInv.init a ops⟩, List.length_map _⟩
  have hfinish : memLeft (memCalls.final (memStart a ops) rounds.flatten) = 0 :=
    final_of_rounds (fun _ i h => working_step h i) (fun _ i _ => memCalls_moves i)
      (fun _ h hpos => memCalls_live h hpos) hworking rounds hall
      ((memLeft_memStart_le a ops).trans henough)
  exact fun c hc => c.isSome_returned_iff.2 (memLeft_eq_zero_iff.1 hfinish c hc)

/-- Two calls in turns. -/
theorem memCalls_finish_two_calls :
    (memCalls.final (memStart (detectAndInit GpuRegs.plain 0 0 fun _ => 3).1
      [.allocate 5000, .mapSystemMemory 0 1]) (List.replicate 14 [1, 0]).flatten).2.all
      fun c => c.returned.isSome :=
  List.all_eq_true.2 (memCalls_finish _ _ _ (by simp; omega) (by simp))

end GpuCompute
