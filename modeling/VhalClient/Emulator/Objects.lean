/-
# VhalClient.Emulator.Objects — the accounts of the buffer objects.

A buffer object is two things to the kernel, a GEM handle and an exported descriptor, and `m_boList` has the
number of each.  The accounts are balanced when what was acquired and not released is what is listed.
`balanced_step_iff` says which calls keep them so: an allocation that fails before it has a handle or goes
through for a new key, and a `ClearBo` that does nothing.  An allocation that fails half way or meets a key
that is taken leaves behind what it acquired; a `ClearBo` that goes through keeps the descriptor, and without
`erase` keeps the entry.

The descriptors are closed nowhere, so at the end everything is released only if nothing was ever created:
`accounts_iff`.
-/
import VhalClient.Emulator.GfxHandler
import VhalClient.Lib.Holdings
import VhalClient.Lib.Run

namespace VhalClient.Emulator

open VhalClient.Lib

/-! ## Runs -/

/-- What a call does to the GEM handles of the device. -/
def GfxCall.gemHandle : GfxCall → Option (Use UInt32)
  | .gemCreate _ handle => some (.acquire handle)
  | .gemClose handle => some (.release handle)
  | _ => none

/-- What a call does to the exported descriptors. -/
def GfxCall.primeFd : GfxCall → Option (Use Int32)
  | .primeHandleToFd _ fd => some (.acquire fd)
  | .close fd => some (.release fd)
  | _ => none

/-- A call of the handler, with the answers of the kernel. -/
inductive BoCall where
  | allocate (k : Kernel) (surf : SurfaceParams) (remote : UInt64)
  | clear (k : Kernel) (remote : UInt64) (erase : Bool)

/-- The allocation gets past the creation of the object. -/
def BoCall.Creates : BoCall → Prop
  | .allocate k surf _ => surf.tilingFormat = tilingNone ∧ k.gemCreate.isSome
  | .clear _ _ _ => False

namespace GfxHandler

/-- A handler as it is after `GfxInit`. -/
def constructed (hasMMAPoffset : Bool) (renderNode : Int32) : GfxHandler :=
  ⟨hasMMAPoffset, .empty, renderNode, []⟩

def boStep (g : GfxHandler) : BoCall → GfxHandler
  | .allocate k surf remote => (g.allocateBo k surf remote).2
  | .clear k remote erase => (g.clearBo k remote erase).2

/-- The loop of the destructor: each object is cleared and then erased, whether it could be cleared or not. -/
def destroy (k : Kernel) (g : GfxHandler) : GfxHandler :=
  g.boList.keys.foldl
    (fun g remote => { (g.clearBo k remote false).2 with
      boList := (g.clearBo k remote false).2.boList.erase remote }) g

/-- The handles of the listed objects. -/
def storedHandles (g : GfxHandler) : Multiset UInt32 := (g.boList.entries.map fun e => e.2.handle : List UInt32)

/-- Their descriptors. -/
def storedFds (g : GfxHandler) : Multiset Int32 := (g.boList.entries.map fun e => e.2.fd : List Int32)

def openHandles (g : GfxHandler) : Multiset UInt32 := openAfter GfxCall.gemHandle g.calls

def openFds (g : GfxHandler) : Multiset Int32 := openAfter GfxCall.primeFd g.calls

/-- What is open is what is listed. -/
structure Balanced (g : GfxHandler) : Prop where
  handles : g.openHandles = g.storedHandles
  fds : g.openFds = g.storedFds

/-- The accounts of a run: balanced in every state, and nothing open behind a destructor whose ioctls
succeed. -/
structure Accounts (g : GfxHandler) (calls : List BoCall) : Prop where
  balanced : ∀ t ∈ calls.scanl boStep g, t.Balanced
  handles : ∀ k, k.gemClose = true → ((calls.foldl boStep g).destroy k).openHandles = 0
  fds : ∀ k, k.gemClose = true → ((calls.foldl boStep g).destroy k).openFds = 0

/-! ## One call -/

/-- An allocation that is refused, or whose object is not created. -/
theorem allocateBo_refused {k : Kernel} {surf : SurfaceParams}
    (h : surf.tilingFormat ≠ tilingNone ∨ k.gemCreate = none) (remote : UInt64) (g : GfxHandler) :
    (g.allocateBo k surf remote).2 = g := by
  unfold allocateBo
  split
  · rfl
  · rename_i htiling
    rw [h.resolve_left (not_not.mpr (not_not.mp htiling))]

/-- An allocation whose object is created. -/
theorem allocateBo_created {k : Kernel} {surf : SurfaceParams} (htiling : surf.tilingFormat = tilingNone)
    {handle : UInt32} (hcreate : k.gemCreate = some handle) (remote : UInt64) (g : GfxHandler) :
    (g.allocateBo k surf remote).2 =
      match k.primeHandleToFd with
      | none => g.call (.gemCreate surf.totalSize handle)
      | some fd =>
        { (g.call (.gemCreate surf.totalSize handle)).call (.primeHandleToFd handle fd) with
          boList := g.boList.insert remote ⟨surf, fd, handle, none⟩ } := by
  unfold allocateBo
  rw [if_neg (not_not.mpr htiling), hcreate]
  dsimp only
  cases k.primeHandleToFd <;> rfl

/-- A `ClearBo` that finds no object, or whose ioctl fails. -/
theorem clearBo_nothing {k : Kernel} {remote : UInt64} {g : GfxHandler}
    (h : remote ∉ g.boList.keys ∨ k.gemClose = false) (erase : Bool) : (g.clearBo k remote erase).2 = g := by
  unfold clearBo
  cases hfind : g.boList.find remote with
  | none => rfl
  | some bo =>
    have hkey : remote ∈ g.boList.keys := OrdMap.mem_keys_iff.mpr ⟨bo, hfind⟩
    dsimp only
    rw [if_pos (h.resolve_left (not_not.mpr hkey))]

/-- A `ClearBo` that goes through. -/
theorem clearBo_closed {k : Kernel} {remote : UInt64} {g : GfxHandler} {bo : BoData}
    (hfind : g.boList.find remote = some bo) (hclose : k.gemClose = true) (erase : Bool) :
    (g.clearBo k remote erase).2 =
      if erase then { g.call (.gemClose bo.handle) with boList := g.boList.erase remote }
      else g.call (.gemClose bo.handle) := by
  unfold clearBo
  rw [hfind]
  dsimp only
  rw [if_neg (by simp [hclose])]
  cases erase <;> rfl

/-! ### The accounts of a call -/

variable {g : GfxHandler}

theorem card_storedHandles (g : GfxHandler) : g.storedHandles.card = g.boList.entries.length := by
  simp [storedHandles]

theorem card_storedFds (g : GfxHandler) : g.storedFds.card = g.boList.entries.length := by
  simp [storedFds]

/-- Balanced accounts have as many of each as objects. -/
theorem Balanced.cards (h : g.Balanced) :
    g.openHandles.card = g.boList.entries.length ∧ g.openFds.card = g.boList.entries.length := by
  rw [h.handles, h.fds, card_storedHandles, card_storedFds]
  exact ⟨rfl, rfl⟩

theorem openHandles_gemCreate (size handle : UInt32) (g : GfxHandler) :
    (g.call (.gemCreate size handle)).openHandles = handle ::ₘ g.openHandles := openAfter_cons_acquire rfl

theorem openHandles_gemClose (handle : UInt32) (g : GfxHandler) :
    (g.call (.gemClose handle)).openHandles = g.openHandles.erase handle := openAfter_cons_release rfl

/-- An export leaves the handles alone. -/
theorem openHandles_primeHandleToFd (handle : UInt32) (fd : Int32) (g : GfxHandler) :
    (g.call (.primeHandleToFd handle fd)).openHandles = g.openHandles := openAfter_cons_none rfl

theorem openFds_exported (size handle : UInt32) (fd : Int32) (g : GfxHandler) :
    ((g.call (.gemCreate size handle)).call (.primeHandleToFd handle fd)).openFds = fd ::ₘ g.openFds :=
  openAfter_cons_acquire rfl

theorem balanced_constructed (hasMMAPoffset : Bool) (renderNode : Int32) :
    (constructed hasMMAPoffset renderNode).Balanced := ⟨rfl, rfl⟩

/-- The call keeps what it acquires in the list, and releases nothing. -/
def Keeps (g : GfxHandler) : BoCall → Prop
  | .allocate k surf remote =>
    (surf.tilingFormat ≠ tilingNone ∨ k.gemCreate = none) ∨
      (k.primeHandleToFd.isSome ∧ remote ∉ g.boList.keys)
  | .clear k remote _ => remote ∉ g.boList.keys ∨ k.gemClose = false

theorem balanced_allocate_iff (h : g.Balanced) (k : Kernel) (surf : SurfaceParams) (remote : UInt64) :
    (g.allocateBo k surf remote).2.Balanced ↔ g.Keeps (.allocate k surf remote) := by
  obtain ⟨hhandles, hfds⟩ := h.cards
  by_cases hrefused : surf.tilingFormat ≠ tilingNone ∨ k.gemCreate = none
  · rw [allocateBo_refused hrefused]
    exact ⟨fun _ => Or.inl hrefused, fun _ => h⟩
  · rw [not_or, not_not, ← ne_eq, Option.ne_none_iff_exists'] at hrefused
    obtain ⟨htiling, handle, hcreate⟩ := hrefused
    have hkeeps : g.Keeps (.allocate k surf remote) ↔ k.primeHandleToFd.isSome ∧ remote ∉ g.boList.keys := by
      simp [Keeps, htiling, hcreate]
    rw [allocateBo_created htiling hcreate, hkeeps]
    cases hprime : k.primeHandleToFd with
    | none =>
      constructor
      · intro hbal
        have hcards : (g.call (.gemCreate surf.totalSize handle)).openHandles.card = g.boList.entries.length :=
          hbal.cards.1
        rw [openHandles_gemCreate, Multiset.card_cons, hhandles] at hcards
        exact absurd hcards (Nat.succ_ne_self _)
      · simp
    | some fd =>
      by_cases hkey : remote ∈ g.boList.keys
      · -- The object is not listed, but its handle is open.
        constructor
        · intro hbal
          have hcards := hbal.cards.1
          dsimp only at hcards
          rw [OrdMap.insert_of_mem _ hkey] at hcards
          have hopen : openHandles { (g.call (.gemCreate surf.totalSize handle)).call
              (.primeHandleToFd handle fd) with boList := g.boList } = handle ::ₘ g.openHandles :=
            (openHandles_primeHandleToFd handle fd _).trans (openHandles_gemCreate surf.totalSize handle g)
          rw [hopen, Multiset.card_cons, hhandles] at hcards
          exact absurd hcards (Nat.succ_ne_self _)
        · rintro ⟨-, hnew⟩
          exact absurd hkey hnew
      · have hperm := OrdMap.insert_perm (v := (⟨surf, fd, handle, none⟩ : BoData)) hkey
        constructor
        · intro _
          exact ⟨rfl, hkey⟩
        · intro _
          refine ⟨?_, ?_⟩
          · apply ((openHandles_primeHandleToFd handle fd _).trans (openHandles_gemCreate _ handle g)).trans
            rw [h.handles, storedHandles, storedHandles, Multiset.cons_coe]
            exact (Multiset.coe_eq_coe.mpr (hperm.map fun e => e.2.handle)).symm
          · apply (openFds_exported surf.totalSize handle fd g).trans
            rw [h.fds, storedFds, storedFds, Multiset.cons_coe]
            exact (Multiset.coe_eq_coe.mpr (hperm.map fun e => e.2.fd)).symm

theorem balanced_clear_iff (h : g.Balanced) (k : Kernel) (remote : UInt64) (erase : Bool) :
    (g.clearBo k remote erase).2.Balanced ↔ g.Keeps (.clear k remote erase) := by
  obtain ⟨hhandles, hfds⟩ := h.cards
  by_cases hnothing : remote ∉ g.boList.keys ∨ k.gemClose = false
  · rw [clearBo_nothing hnothing]
    exact ⟨fun _ => hnothing, fun _ => h⟩
  · have hkeeps : ¬ g.Keeps (.clear k remote erase) := hnothing
    rw [not_or, not_not, Bool.not_eq_false] at hnothing
    obtain ⟨hkey, hclose⟩ := hnothing
    obtain ⟨bo, hfind⟩ := OrdMap.mem_keys_iff.mp hkey
    have hmem : (remote, bo) ∈ g.boList.entries := OrdMap.find_eq_some_iff.mp hfind
    refine ⟨fun hbal => ?_, fun hk => absurd hk hkeeps⟩
    exfalso
    rw [clearBo_closed hfind hclose] at hbal
    cases erase with
    | true =>
      -- The entry is gone, its descriptor is not.
      have hcards := hbal.cards.2
      have hlen := (OrdMap.erase_perm hmem).length_eq
      rw [List.length_cons] at hlen
      have hcards' : g.openFds.card = (g.boList.erase remote).entries.length := hcards
      omega
    | false =>
      -- The handle is gone, its entry is not.
      have hcards : (g.call (.gemClose bo.handle)).openHandles.card = g.boList.entries.length := hbal.cards.1
      rw [openHandles_gemClose] at hcards
      have hopen : bo.handle ∈ g.openHandles := by
        rw [h.handles, storedHandles, Multiset.mem_coe]
        exact List.mem_map_of_mem (f := fun e : UInt64 × BoData => e.2.handle) hmem
      have hless := Multiset.card_erase_lt_of_mem hopen
      omega

/-- **One call**: from balanced accounts, the calls that keep them. -/
theorem balanced_step_iff (g : GfxHandler) (c : BoCall) (h : g.Balanced) :
    (g.boStep c).Balanced ↔ g.Keeps c := by
  cases c with
  | allocate k surf remote => exact balanced_allocate_iff h k surf remote
  | clear k remote erase => exact balanced_clear_iff h k remote erase

/-- **A run**: the accounts are balanced in every state exactly when every call keeps them. -/
theorem balanced_iff_along (hasMMAPoffset : Bool) (renderNode : Int32) (calls : List BoCall) :
    (∀ t ∈ calls.scanl boStep (constructed hasMMAPoffset renderNode), t.Balanced) ↔
      Along boStep Keeps (constructed hasMMAPoffset renderNode) calls :=
  forall_scanl_iff_along balanced_step_iff (balanced_constructed hasMMAPoffset renderNode)

/-! ## The end -/

theorem openFds_clearBo (k : Kernel) (remote : UInt64) (erase : Bool) (g : GfxHandler) :
    (g.clearBo k remote erase).2.openFds = g.openFds := by
  by_cases hnothing : remote ∉ g.boList.keys ∨ k.gemClose = false
  · rw [clearBo_nothing hnothing]
  · rw [not_or, not_not, Bool.not_eq_false] at hnothing
    obtain ⟨bo, hfind⟩ := OrdMap.mem_keys_iff.mp hnothing.1
    rw [clearBo_closed hfind hnothing.2]
    cases erase <;> exact openAfter_cons_none rfl

/-- The destructor closes no descriptor. -/
theorem openFds_destroy (k : Kernel) (g : GfxHandler) : (g.destroy k).openFds = g.openFds := by
  unfold destroy
  generalize g.boList.keys = keys
  induction keys generalizing g with
  | nil => rfl
  | cons remote keys ih =>
    rw [List.foldl_cons, ih]
    exact openFds_clearBo k remote false g

/-- A call that keeps the accounts lists one object more if it creates one, and otherwise changes nothing. -/
theorem length_boStep {c : BoCall} (h : g.Keeps c) :
    g.boList.entries.length ≤ (g.boStep c).boList.entries.length ∧
      (c.Creates → g.boList.entries.length < (g.boStep c).boList.entries.length) := by
  cases c with
  | clear k remote erase =>
    rw [boStep, clearBo_nothing h]
    exact ⟨le_rfl, fun hcreates => hcreates.elim⟩
  | allocate k surf remote =>
    rw [boStep]
    by_cases hrefused : surf.tilingFormat ≠ tilingNone ∨ k.gemCreate = none
    · rw [allocateBo_refused hrefused]
      refine ⟨le_rfl, ?_⟩
      rintro ⟨htiling, hcreate⟩
      rw [hrefused.resolve_left (not_not.mpr htiling)] at hcreate
      cases hcreate
    · obtain ⟨hprime, hkey⟩ := h.resolve_left hrefused
      rw [not_or, not_not, ← ne_eq, Option.ne_none_iff_exists'] at hrefused
      obtain ⟨htiling, handle, hcreate⟩ := hrefused
      obtain ⟨fd, hfd⟩ := Option.isSome_iff_exists.mp hprime
      rw [allocateBo_created htiling hcreate, hfd]
      have hlen := (OrdMap.insert_perm (v := (⟨surf, fd, handle, none⟩ : BoData)) hkey).length_eq
      rw [List.length_cons] at hlen
      dsimp only
      exact ⟨by omega, fun _ => by omega⟩

/-- The list only grows, so where it ends empty nothing was created. -/
theorem not_creates_of_empty {calls : List BoCall} (h : Along boStep Keeps g calls)
    (hempty : (calls.foldl boStep g).boList.entries.length = 0) : ∀ c ∈ calls, ¬ c.Creates := by
  have hgrows : ∀ (calls : List BoCall) (g : GfxHandler), Along boStep Keeps g calls →
      g.boList.entries.length ≤ (calls.foldl boStep g).boList.entries.length := by
    intro calls
    induction calls with
    | nil => exact fun g _ => le_rfl
    | cons c calls ih => exact fun g h => (length_boStep h.1).1.trans (ih _ h.2)
  induction calls generalizing g with
  | nil => simp
  | cons c calls ih =>
    intro c' hc'
    rcases List.mem_cons.mp hc' with rfl | hc'
    · intro hcreates
      have hmore := (length_boStep h.1).2 hcreates
      have hrest := hgrows calls _ h.2
      rw [List.foldl_cons] at hempty
      omega
    · exact ih h.2 hempty c' hc'

/-- Without a creation nothing happens at all. -/
theorem foldl_boStep_idle (hasMMAPoffset : Bool) (renderNode : Int32) {calls : List BoCall}
    (h : ∀ c ∈ calls, ¬ c.Creates) :
    Along boStep Keeps (constructed hasMMAPoffset renderNode) calls ∧
      calls.foldl boStep (constructed hasMMAPoffset renderNode) = constructed hasMMAPoffset renderNode := by
  induction calls with
  | nil => exact ⟨along_nil _, rfl⟩
  | cons c calls ih =>
    have hidle : (constructed hasMMAPoffset renderNode).Keeps c ∧
        (constructed hasMMAPoffset renderNode).boStep c = constructed hasMMAPoffset renderNode := by
      cases c with
      | clear k remote erase =>
        have hnone : remote ∉ (constructed hasMMAPoffset renderNode).boList.keys := by
          intro hkey
          cases hkey
        exact ⟨Or.inl hnone, clearBo_nothing (Or.inl hnone) erase⟩
      | allocate k surf remote =>
        have hrefused : surf.tilingFormat ≠ tilingNone ∨ k.gemCreate = none := by
          by_cases htiling : surf.tilingFormat = tilingNone
          · right
            cases hcreate : k.gemCreate with
            | none => rfl
            | some handle => exact absurd ⟨htiling, by simp [hcreate]⟩ (h _ List.mem_cons_self)
          · exact Or.inl htiling
        exact ⟨Or.inl hrefused, allocateBo_refused hrefused remote _⟩
    obtain ⟨hrest, hsame⟩ := ih fun c' hc' => h c' (List.mem_cons_of_mem c hc')
    rw [along_cons, List.foldl_cons, hidle.2]
    exact ⟨⟨hidle.1, hrest⟩, hsame⟩

/-- **The accounts are balanced in every state of a run exactly when each call keeps them; and they are in
order to the end, behind the destructor, exactly when no allocation gets past the creation of the object.** -/
theorem accounts_iff (hasMMAPoffset : Bool) (renderNode : Int32) (calls : List BoCall) :
    ((∀ t ∈ calls.scanl boStep (constructed hasMMAPoffset renderNode), t.Balanced) ↔
      Along boStep Keeps (constructed hasMMAPoffset renderNode) calls) ∧
    (Accounts (constructed hasMMAPoffset renderNode) calls ↔ ∀ c ∈ calls, ¬ c.Creates) := by
  refine ⟨balanced_iff_along hasMMAPoffset renderNode calls, ?_, ?_⟩
  · intro h
    have halong := (balanced_iff_along hasMMAPoffset renderNode calls).mp h.balanced
    have hfinal := h.balanced _ (foldl_mem_scanl _ calls)
    have hfds := h.fds ⟨none, none, true, true, none, true, true⟩ rfl
    rw [openFds_destroy, hfinal.fds] at hfds
    have hcard := card_storedFds (calls.foldl boStep (constructed hasMMAPoffset renderNode))
    rw [hfds, Multiset.card_zero] at hcard
    exact not_creates_of_empty halong hcard.symm
  · intro h
    obtain ⟨halong, hsame⟩ := foldl_boStep_idle hasMMAPoffset renderNode h
    refine ⟨(balanced_iff_along hasMMAPoffset renderNode calls).mpr halong, ?_, ?_⟩
    · intro k _
      rw [hsame]
      rfl
    · intro k _
      rw [hsame]
      rfl

/-- The allocation of an object of one pixel for the key 7, on a kernel that gives out these numbers. -/
def allocateOne (handle : UInt32) (fd : Int32) : BoCall :=
  .allocate ⟨some handle, some fd, true, true, none, true, true⟩ ⟨1, 1, 4, 1, 0, 0, 0, 4, 16⟩ 7

/-- Allocated once, the object leaves its descriptor open behind the destructor; allocated twice, the second
object is not listed. -/
theorem not_accounts_allocateOne :
    ¬ Accounts (constructed true 128) [allocateOne 3 9] ∧
    ¬ Accounts (constructed true 128) [allocateOne 3 9, allocateOne 4 10] := by
  constructor
  · intro h
    exact absurd (h.fds ⟨none, none, true, true, none, true, true⟩ rfl) (by decide)
  · intro h
    have hfinal := h.balanced _ (foldl_mem_scanl _ [allocateOne 3 9, allocateOne 4 10])
    exact absurd hfinal.handles (by decide)

end GfxHandler

end VhalClient.Emulator
