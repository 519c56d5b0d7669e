/-
# VhalClient.Emulator.Mapping — the system calls of a `Copy`.

`Copy` maps the object, writes its rows and unmaps it again; four system calls can fail on the way.  There are
three cases: no offset to map at (`copy_noOffset`), a failed `mmap` (`copy_mmapFails`) and a mapping
(`openAfter_copy_mapped`).  Two of them are not what they should be.  When `mmap` fails, the status that is
tested is still the one of the ioctl before it, so the rows may go through a null pointer and `GFX_OK` be
returned; and a mapping that was obtained is forgotten, but nothing unmaps it.  What is left is a `Copy` that
stops before it has a mapping (`copied_iff`).
-/
import VhalClient.Emulator.GfxHandler
import VhalClient.Lib.Holdings

namespace VhalClient.Emulator

open VhalClient.Lib

/-! ## What a `Copy` should do -/

/-- What a call does to the mappings of the process. -/
def GfxCall.mapping : GfxCall → Option (Use ℕ)
  | .mmap addr _ => some (.acquire addr)
  | .munmap addr _ => some (.release addr)
  | _ => none

/-- Each row was written through an address that was mapped at that moment. -/
def WritesMapped : List GfxCall → Prop
  | [] => True
  | .writeRow addr _ _ :: past =>
    (∃ a ∈ openAfter GfxCall.mapping past, addr = some a) ∧ WritesMapped past
  | _ :: past => WritesMapped past

namespace GfxHandler

/-- The calls of this `Copy`. -/
def during (k : Kernel) (remote : UInt64) (bo : BoData) (srcBuf : List UInt8) (g : GfxHandler) :
    List GfxCall :=
  (copy k remote bo srcBuf { g with calls := [] }).2.calls

/-- One of the steps of `MmapBo` failed. -/
def MappingFails (k : Kernel) (g : GfxHandler) : Prop :=
  g.hasMMAPoffset = false ∨ k.gemMmapOffset = false ∨ k.mmap = none ∨ k.gemSetDomain = false

structure Copied (k : Kernel) (remote : UInt64) (bo : BoData) (srcBuf : List UInt8) (g : GfxHandler) :
    Prop where
  rows : WritesMapped (g.during k remote bo srcBuf)
  reports : MappingFails k g → (g.copy k remote bo srcBuf).1 = .fail
  unmapped : openAfter GfxCall.mapping (g.during k remote bo srcBuf) = 0
  forgotten : ∀ bo', (g.copy k remote bo srcBuf).2.boList.find remote = some bo' → bo'.mmapAddr = none

/-! ## What it does -/

variable {k : Kernel} {remote : UInt64} {bo : BoData} {srcBuf : List UInt8} {g : GfxHandler}

/-- The rows leave every account alone that does not count them. -/
theorem filterMap_writeRows {β : Type} {f : GfxCall → Option β}
    (hf : ∀ addr offset row, f (.writeRow addr offset row) = none) (bo : BoData) (srcBuf : List UInt8)
    (g : GfxHandler) : (g.writeRows bo srcBuf).calls.filterMap f = g.calls.filterMap f := by
  unfold writeRows
  dsimp only
  generalize List.range bo.surf.height.toNat = rows
  induction rows generalizing g with
  | nil => rfl
  | cons i rows ih =>
    rw [List.foldl_cons, ih, call, List.filterMap_cons_none (hf _ _ _)]

/-- The object as `Copy` leaves it in the list. -/
def store (remote : UInt64) (bo : BoData) (g : GfxHandler) : GfxHandler :=
  { g with boList := (g.boList.erase remote).insert remote bo }

theorem find_store (remote : UInt64) (bo : BoData) (g : GfxHandler) :
    (g.store remote bo).boList.find remote = some bo := by
  have hnew : remote ∉ (g.boList.erase remote).keys := by simp [OrdMap.mem_keys_erase]
  rw [store, OrdMap.find_insert _ hnew, if_pos rfl]

/-- A `Copy` that gets no offset to map at. -/
theorem copy_noOffset (h : g.hasMMAPoffset = false ∨ k.gemMmapOffset = false) :
    g.copy k remote bo srcBuf = (.fail, g.store remote bo) := by
  unfold copy mmapBo
  rcases h with h | h
  · simp [h, store]
  · by_cases hprop : g.hasMMAPoffset = false <;> simp [h, hprop, store]

/-- A `Copy` behind a failed `mmap`: what decides is the ioctl that follows. -/
theorem copy_mmapFails (remote : UInt64) (bo : BoData) (srcBuf : List UInt8) (hprop : g.hasMMAPoffset = true)
    (hoffset : k.gemMmapOffset = true) (hmmap : k.mmap = none) :
    g.copy k remote bo srcBuf =
      if k.gemSetDomain = false then (.fail, g.store remote { bo with mmapAddr := none })
      else (.ok, (g.writeRows { bo with mmapAddr := none } srcBuf).store remote { bo with mmapAddr := none }) := by
  unfold copy mmapBo
  cases hdomain : k.gemSetDomain <;> simp [hprop, hoffset, hmmap, store, unmapBo]

/-- A `Copy` that has its mapping: whatever follows, it is still there at the end. -/
theorem openAfter_copy_mapped (hprop : g.hasMMAPoffset = true) (hoffset : k.gemMmapOffset = true) {addr : ℕ}
    (hmmap : k.mmap = some addr) :
    openAfter GfxCall.mapping (g.copy k remote bo srcBuf).2.calls =
      addr ::ₘ openAfter GfxCall.mapping g.calls := by
  have hmapped (bo : BoData) (length : UInt32) :
      openAfter GfxCall.mapping ((g.call (.mmap addr length)).writeRows bo srcBuf).calls =
        addr ::ₘ openAfter GfxCall.mapping g.calls := by
    rw [openAfter, filterMap_writeRows (fun _ _ _ => rfl)]
    exact openAfter_cons_acquire rfl
  unfold copy mmapBo
  cases hdomain : k.gemSetDomain with
  | false =>
    simp only [hprop, hoffset, hmmap, Bool.true_eq_false, if_false, if_true]
    exact openAfter_cons_acquire rfl
  | true =>
    simp only [hprop, hoffset, hmmap, Bool.true_eq_false, if_false]
    unfold unmapBo
    cases hfinish : k.gemSwFinish with
    | false =>
      simp only [reduceCtorEq, if_false, if_true]
      exact hmapped _ _
    | true =>
      simp only [reduceCtorEq, if_false, Bool.true_eq_false]
      rw [call, openAfter_cons_none rfl]
      exact hmapped _ _

/-- A `Copy` that makes no system call, fails, and leaves an address of null does what it should. -/
theorem copied_of_nothing (hcalls : (copy k remote bo srcBuf { g with calls := [] }).2.calls = []) {bo' : BoData}
    (hcopy : g.copy k remote bo srcBuf = (.fail, g.store remote bo')) (hnull : bo'.mmapAddr = none) :
    Copied k remote bo srcBuf g := by
  have hduring : g.during k remote bo srcBuf = [] := hcalls
  refine ⟨?_, ?_, ?_, ?_⟩
  · rw [hduring]
    trivial
  · intro _
    rw [hcopy]
  · rw [hduring, openAfter_nil]
  · intro found hfind
    rw [hcopy, find_store, Option.some.injEq] at hfind
    rw [← hfind, hnull]

/-- **A `Copy` does what it should exactly when it stops before it has a mapping**: with no offset to map at,
for an object whose address is null; or with `mmap` and the ioctl behind it both failed. -/
theorem copied_iff :
    Copied k remote bo srcBuf g ↔
      ((g.hasMMAPoffset = false ∨ k.gemMmapOffset = false) ∧ bo.mmapAddr = none) ∨
      (g.hasMMAPoffset = true ∧ k.gemMmapOffset = true ∧ k.mmap = none ∧ k.gemSetDomain = false) := by
  constructor
  · intro h
    by_cases hno : g.hasMMAPoffset = false ∨ k.gemMmapOffset = false
    · left
      have hforgotten := h.forgotten bo
      rw [copy_noOffset hno, find_store] at hforgotten
      exact ⟨hno, hforgotten rfl⟩
    · right
      rw [not_or, Bool.not_eq_false, Bool.not_eq_false] at hno
      cases hmmap : k.mmap with
      | some addr =>
        have hunmapped := h.unmapped
        rw [during, openAfter_copy_mapped (g := { g with calls := [] }) hno.1 hno.2 hmmap] at hunmapped
        exact absurd hunmapped (Multiset.cons_ne_zero)
      | none =>
        refine ⟨hno.1, hno.2, rfl, ?_⟩
        by_contra hdomain
        -- The call reports success although a step failed.
        have hreports := h.reports (Or.inr (Or.inr (Or.inl hmmap)))
        rw [copy_mmapFails remote bo srcBuf hno.1 hno.2 hmmap, if_neg hdomain] at hreports
        cases hreports
  · rintro (⟨hno, hnull⟩ | ⟨hprop, hoffset, hmmap, hdomain⟩)
    · apply copied_of_nothing _ (copy_noOffset hno) hnull
      rw [copy_noOffset (g := { g with calls := [] }) hno]
      rfl
    · have hcopy := copy_mmapFails remote bo srcBuf hprop hoffset hmmap
      rw [if_pos hdomain] at hcopy
      apply copied_of_nothing _ hcopy rfl
      rw [copy_mmapFails (g := { g with calls := [] }) remote bo srcBuf hprop hoffset hmmap, if_pos hdomain]
      rfl

/-- An object of one pixel, as it was allocated. -/
def pixelBo : BoData := ⟨⟨1, 1, 4, 1, 0, 0, 0, 4, 16⟩, 9, 3, none⟩

/-- A handler that has allocated it. -/
def pixelHandler : GfxHandler := ⟨true, OrdMap.empty.insert 7 pixelBo, 128, []⟩

/-- A kernel on which everything succeeds but, perhaps, `mmap`. -/
def kernelWith (mmap : Option ℕ) : Kernel := ⟨some 3, some 9, true, true, mmap, true, true⟩

/-- With `mmap` failed, the row is written through a null pointer and success reported; without a failure, the
mapping stays. -/
theorem not_copied_pixel :
    ¬ Copied (kernelWith none) 7 pixelBo [1, 2, 3, 4] pixelHandler ∧
    ¬ Copied (kernelWith (some 4096)) 7 pixelBo [1, 2, 3, 4] pixelHandler := by
  constructor
  · intro h
    have hreports := h.reports (Or.inr (Or.inr (Or.inl rfl)))
    exact absurd hreports (by decide)
  · intro h
    exact absurd h.unmapped (by decide)

end GfxHandler

end VhalClient.Emulator
