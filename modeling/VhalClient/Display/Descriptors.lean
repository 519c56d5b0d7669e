/-
# VhalClient.Display.Descriptors — what becomes of the descriptors that come with a buffer.

`recvFds` stores as many descriptors in a handle as the peer announced in `numFds`; `RemoveBuffer` and `stop`
close the first element of the array and no other.  The account of the descriptors is kept in multisets:
a number that is handed out again after it was closed counts again.  At every moment, what was closed and
what live handles hold came in (`Ledger.Books.spares`); how many are neither, and never will be, is the
number the books are kept with, and it only grows: by the descriptors behind the first of a new handle,
by all of them when the remote handle was taken.  So a run disposes of every descriptor exactly when none
of its steps adds to that number: `disposed_iff_createsOne`.
-/
import Mathlib.Algebra.BigOperators.Group.List.Basic
import Mathlib.Algebra.Order.Group.Multiset
import VhalClient.Display.Lifetimes

namespace VhalClient.Display

open VhalClient.Lib

/-! ## Descriptors in a history -/

/-- What `recvFds` stored in a handle. -/
def CrosGrallocHandle.descriptors (handle : CrosGrallocHandle) : Multiset Int32 :=
  (handle.fds.toList.take (sizeT handle.numFds) : List Int32)

/-- The first of the array, which is the one that is closed. -/
def CrosGrallocHandle.firstDescriptor (handle : CrosGrallocHandle) : Multiset Int32 :=
  (handle.fds.toList.take 1 : List Int32)

/-- The descriptors that came in.  A `CreateBuffer` whose `recvFds` succeeded calls the handler. -/
def Output.received : Output → Multiset Int32
  | .handler .frameCreate _ handle _ => handle.gralloc.descriptors
  | _ => 0

def Output.closed : Output → Multiset Int32
  | .closeFd fd => {fd}
  | _ => 0

/-- The descriptor that goes with a handle at its end. -/
def Output.ended : Output → Multiset Int32
  | .handler .frameRemove _ handle _ => handle.gralloc.firstDescriptor
  | _ => 0

/-- The descriptors that came in with the handles.  `numFds` bounds what of them counts: the kernel delivers as many as
the `CMSG_SPACE` of the buffer has room for, and that is rounded up, so that one more than was announced may come
into the process, of which `recvFds` stores nothing. -/
def receivedFds (history : List Output) : Multiset Int32 := (history.map Output.received).sum

def closedFds (history : List Output) : Multiset Int32 := (history.map Output.closed).sum

def endedFds (history : List Output) : Multiset Int32 := (history.map Output.ended).sum

/-- The descriptors of the handles in a map. -/
def heldFds (live : OrdMap UInt64 Handle) : Multiset Int32 :=
  (live.entries.map fun e => e.2.gralloc.descriptors).sum

@[simp] theorem receivedFds_cons (o : Output) (past : List Output) :
    receivedFds (o :: past) = o.received + receivedFds past := by simp [receivedFds]

@[simp] theorem closedFds_cons (o : Output) (past : List Output) :
    closedFds (o :: past) = o.closed + closedFds past := by simp [closedFds]

@[simp] theorem endedFds_cons (o : Output) (past : List Output) :
    endedFds (o :: past) = o.ended + endedFds past := by simp [endedFds]

theorem receivedFds_filter (history : List Output) :
    receivedFds (history.filter Output.aboutHandles) = receivedFds history := by
  induction history with
  | nil => rfl
  | cons o past ih =>
    cases h : o.aboutHandles with
    | true => rw [List.filter_cons_of_pos h, receivedFds_cons, receivedFds_cons, ih]
    | false =>
      rw [List.filter_cons_of_neg (by simp [h]), receivedFds_cons, ih]
      cases o <;> simp_all [Output.aboutHandles, Output.received]

theorem endedFds_filter (history : List Output) :
    endedFds (history.filter Output.aboutHandles) = endedFds history := by
  induction history with
  | nil => rfl
  | cons o past ih =>
    cases h : o.aboutHandles with
    | true => rw [List.filter_cons_of_pos h, endedFds_cons, endedFds_cons, ih]
    | false =>
      rw [List.filter_cons_of_neg (by simp [h]), endedFds_cons, ih]
      cases o <;> simp_all [Output.aboutHandles, Output.ended]

theorem heldFds_insert {live : OrdMap UInt64 Handle} {remote : UInt64} {handle : Handle}
    (h : remote ∉ live.keys) :
    heldFds (live.insert remote handle) = handle.gralloc.descriptors + heldFds live := by
  rw [heldFds, ((OrdMap.insert_perm h).map _).sum_eq]
  simp [heldFds]

theorem heldFds_erase {live : OrdMap UInt64 Handle} {remote : UInt64} {handle : Handle}
    (h : (remote, handle) ∈ live.entries) :
    heldFds live = handle.gralloc.descriptors + heldFds (live.erase remote) := by
  rw [heldFds, ((OrdMap.erase_perm h).map _).sum_eq]
  simp [heldFds]

/-! ### The descriptors of one handle -/

namespace CrosGrallocHandle

/-- `recvFds` accepted the number of descriptors. -/
def Carries (handle : CrosGrallocHandle) : Prop :=
  1 ≤ sizeT handle.numFds ∧ sizeT handle.numFds ≤ drvMaxPlanes

variable {handle : CrosGrallocHandle}

theorem card_descriptors (h : handle.Carries) : handle.descriptors.card = sizeT handle.numFds := by
  have hmax : sizeT handle.numFds ≤ 4 := h.2
  simp [descriptors, hmax]

theorem card_firstDescriptor (handle : CrosGrallocHandle) : handle.firstDescriptor.card = 1 := by
  simp [firstDescriptor]

/-- The one descriptor that will be closed is one of those that came. -/
theorem first_le_descriptors (h : handle.Carries) : handle.firstDescriptor ≤ handle.descriptors := by
  rw [firstDescriptor, descriptors, Multiset.coe_le]
  exact (List.take_sublist_take_left h.1).subperm

end CrosGrallocHandle

/-! ## The books -/

/-- What `recvFds` guarantees of an operation. -/
def Op.Carries : Op → Prop
  | .create _ gralloc => gralloc.Carries
  | _ => True

namespace Ledger

/-- The books of the descriptors, with how many of them nobody will ever close. -/
structure Books (l : Ledger) (lost : ℕ) : Prop where
  carries : ∀ e ∈ l.live.entries, e.2.gralloc.Carries
  spares : endedFds l.past + heldFds l.live ≤ receivedFds l.past
  balance : (receivedFds l.past).card = (endedFds l.past).card + l.live.entries.length + lost

theorem books_initial : Books initial 0 where
  carries e he := by cases he
  spares := le_rfl
  balance := rfl

/-- How many descriptors an operation loses. -/
def cost (l : Ledger) : Op → ℕ
  | .create remote gralloc =>
    if remote ∈ l.live.keys then sizeT gralloc.numFds else sizeT gralloc.numFds - 1
  | _ => 0

variable {l : Ledger} {lost : ℕ}

theorem books_fail (h : Books l lost) : Books (l.apply .fail) lost where
  carries := h.carries
  spares := by simpa [apply, Output.ended, Output.received] using h.spares
  balance := by simpa [apply, Output.ended, Output.received] using h.balance

theorem books_create (h : Books l lost) {remote : UInt64} {gralloc : CrosGrallocHandle}
    (hop : gralloc.Carries) :
    Books (l.apply (.create remote gralloc)) (lost + l.cost (.create remote gralloc)) := by
  have hcard := gralloc.card_descriptors hop
  simp only [apply, cost]
  split
  · -- The new handle is in nobody's hands: all its descriptors are lost.
    refine ⟨h.carries, ?_, ?_⟩
    · simp only [endedFds_cons, receivedFds_cons, Output.ended, Output.received, zero_add]
      exact h.spares.trans (Multiset.le_add_left _ _)
    · simp only [endedFds_cons, receivedFds_cons, Output.ended, Output.received, zero_add,
        Multiset.card_add, hcard, h.balance]
      omega
  · rename_i hkey
    refine ⟨?_, ?_, ?_⟩
    · intro e he
      rcases (OrdMap.mem_insert_iff hkey).mp he with rfl | he
      · exact hop
      · exact h.carries e he
    · simp only [endedFds_cons, receivedFds_cons, Output.ended, Output.received, zero_add,
        heldFds_insert hkey]
      rw [add_left_comm]
      exact add_le_add_right h.spares _
    · -- One of its descriptors will be closed.
      have hlen := (OrdMap.insert_perm (v := (⟨l.next, gralloc⟩ : Handle)) hkey).length_eq
      have hmin := hop.1
      simp only [endedFds_cons, receivedFds_cons, Output.ended, Output.received, zero_add,
        Multiset.card_add, hcard, h.balance, hlen, List.length_cons]
      omega

theorem books_remove (h : Books l lost) (remote : UInt64) : Books (l.apply (.remove remote)) lost := by
  simp only [apply]
  split
  · exact h
  · rename_i handle hfind
    have hlive : (remote, handle) ∈ l.live.entries := OrdMap.find_eq_some_iff.mp hfind
    have hcarries : handle.gralloc.Carries := h.carries (remote, handle) hlive
    refine ⟨?_, ?_, ?_⟩
    · intro e he
      exact h.carries e (OrdMap.mem_erase_iff.mp he).1
    · have hspares := h.spares
      rw [heldFds_erase hlive, ← add_assoc] at hspares
      have hfirst := CrosGrallocHandle.first_le_descriptors hcarries
      simp only [endedFds_cons, receivedFds_cons, Output.ended, Output.received, zero_add]
      -- The first descriptor leaves with the handle and is closed: no more was there before.
      have hclosed := add_le_add_left (add_le_add_left hfirst (endedFds l.past)) (heldFds (l.live.erase remote))
      rw [add_comm handle.gralloc.descriptors] at hclosed
      exact hclosed.trans hspares
    · have hlen := (OrdMap.erase_perm hlive).length_eq
      simp only [endedFds_cons, receivedFds_cons, Output.ended, Output.received, zero_add,
        Multiset.card_add, CrosGrallocHandle.card_firstDescriptor, h.balance, hlen, List.length_cons]
      omega

theorem books_display (h : Books l lost) (remote : UInt64) (ctrl : Option DisplayControl) :
    Books (l.apply (.display remote ctrl)) lost := by
  simp only [apply]
  split
  · exact h
  · refine ⟨h.carries, ?_, ?_⟩
    · simpa [Output.ended, Output.received] using h.spares
    · simpa [Output.ended, Output.received] using h.balance

/-- **Every operation keeps the books, at its cost.** -/
theorem books_apply (h : Books l lost) {op : Op} (hop : op.Carries) :
    Books (l.apply op) (lost + l.cost op) := by
  cases op with
  | fail => exact books_fail h
  | create remote gralloc => exact books_create h hop
  | remove remote => exact books_remove h remote
  | display remote ctrl => exact books_display h remote ctrl

theorem books_removes (keys : List UInt64) (h : Books l lost) :
    Books ((keys.map Op.remove).foldl apply l) lost := by
  induction keys generalizing l with
  | nil => exact h
  | cons k keys ih => exact ih (books_remove h k)

/-- When nothing is live any more, what was not ended is lost. -/
theorem ended_eq_received_iff (h : Books l lost) (hempty : l.live = .empty) :
    endedFds l.past = receivedFds l.past ↔ lost = 0 := by
  have hspares := h.spares
  have hbalance := h.balance
  rw [hempty] at hspares hbalance
  rw [show heldFds OrdMap.empty = 0 from rfl, add_zero] at hspares
  rw [show (OrdMap.empty : OrdMap UInt64 Handle).entries.length = 0 from rfl, add_zero] at hbalance
  constructor
  · intro heq
    rw [heq] at hbalance
    omega
  · rintro rfl
    exact Multiset.eq_of_le_of_card_le hspares (by omega)

end Ledger

namespace Impl

/-! ### What a receiver closes is what it ends

A descriptor is closed where a handle ends and nowhere else. -/

def Paired (s : Impl) : Prop := closedFds s.history = endedFds s.history

theorem paired_initial : initial.Paired := rfl

theorem paired_emit {o : Output} (h : o.closed = o.ended) (s : Impl) : (s.emit o).Paired ↔ s.Paired := by
  simp [Paired, emit, h]

@[simp] theorem paired_rest (s : Impl) (f : Feed WireByte) : (s.rest f).Paired ↔ s.Paired := Iff.rfl

@[simp] theorem paired_log (s : Impl) (calls : List LogCall) : (s.log calls).Paired ↔ s.Paired := by
  induction calls generalizing s with
  | nil => rfl
  | cons c calls ih =>
    show ((s.emit (.log c)).log calls).Paired ↔ s.Paired
    rw [ih, paired_emit rfl]

@[simp] theorem paired_send (s : Impl) (env : Env) (bytes : List UInt8) :
    (s.send env bytes).2.Paired ↔ s.Paired := by
  unfold send
  split
  · rfl
  · exact paired_emit rfl s

@[simp] theorem paired_sendLogged (s : Impl) (env : Env) (bytes : List UInt8) (calls : List LogCall) :
    (s.sendLogged env bytes calls).Paired ↔ s.Paired := by
  unfold sendLogged
  rcases hsend : s.send env bytes with ⟨_ | _, s'⟩
  · rw [← paired_send s env bytes, hsend]
  · rw [← paired_send s env bytes, hsend]
    exact paired_log s' calls

@[simp] theorem paired_allocate (s : Impl) : s.allocate.Paired ↔ s.Paired := by
  simp [Paired, allocate, Output.closed, Output.ended]

@[simp] theorem paired_insertHandle (s : Impl) (remote : UInt64) (handle : Handle) :
    (s.insertHandle remote handle).Paired ↔ s.Paired := by
  unfold insertHandle
  split
  · rfl
  · simp [Paired, Output.closed, Output.ended]

@[simp] theorem paired_eraseHandle (s : Impl) (remote : UInt64) :
    (s.eraseHandle remote).Paired ↔ s.Paired := Iff.rfl

theorem paired_releaseHandle {s : Impl} (h : s.Paired) (remote : UInt64) (handle : Handle) :
    (s.releaseHandle remote handle).Paired := by
  have hfirst : handle.gralloc.firstDescriptor = {handle.gralloc.fds[0]} := by
    rw [CrosGrallocHandle.firstDescriptor, List.take_one, List.head?_eq_getElem?]
    simp
  unfold Paired at h ⊢
  simp [releaseHandle, emit, Output.closed, Output.ended, h, hfirst]

theorem paired_foldl_release (es : List (UInt64 × Handle)) {s : Impl} (h : s.Paired) :
    (es.foldl (fun s e => s.releaseHandle e.1 e.2) s).Paired := by
  induction es generalizing s with
  | nil => exact h
  | cons e es ih => exact ih (paired_releaseHandle h e.1 e.2)

theorem paired_createBuffer (env : Env) (s : Impl) : (s.createBuffer env).Paired ↔ s.Paired := by
  unfold createBuffer
  cases env.block with
  | none => rfl
  | some block =>
    dsimp only
    rcases receiveBuffer env block s.allocate.feed with ⟨_ | ⟨remote, gralloc⟩, calls, f⟩
    · rw [paired_emit rfl, paired_log, paired_rest, paired_allocate]
    · rw [paired_emit rfl, paired_insertHandle, paired_log, paired_rest, paired_allocate]

theorem paired_removeBuffer {s : Impl} (h : s.Paired) : s.removeBuffer.Paired := by
  unfold removeBuffer
  rcases recvBytes sizeofBufferInfo s.feed with ⟨_ | bytes, f⟩
  · exact h
  · dsimp only
    split
    · simpa using h
    · rw [paired_eraseHandle]
      apply paired_releaseHandle
      simpa using h

theorem paired_displayFrame (env : Env) (info : BufferInfo) (ctrl : Option DisplayControl) (s : Impl) :
    (s.displayFrame env info ctrl).Paired ↔ s.Paired := by
  unfold displayFrame
  split
  · rfl
  · rw [paired_sendLogged, paired_emit rfl]

theorem paired_displayRequest (env : Env) (size : Int32) (s : Impl) :
    (s.displayRequest env size).Paired ↔ s.Paired := by
  unfold displayRequest
  split
  · rfl
  · rcases recvBytes sizeofBufferInfo s.feed with ⟨_ | bytes, f⟩
    · rfl
    · dsimp only
      split
      · split
        · simp
        · simp [paired_displayFrame]
      · simp [paired_displayFrame]

theorem paired_dispatch (cfg : Config) (env : Env) (ev : DisplayEvent) {s : Impl} (h : s.Paired) :
    (s.dispatch cfg env ev).Paired := by
  unfold dispatch
  split
  · split
    · exact h
    · simpa [updateDispConfig] using h
  · split
    · simpa [updateDispPort] using h
    · split
      · split
        · exact (paired_createBuffer env s).mpr h
        · exact h
      · split
        · exact paired_removeBuffer h
        · split
          · exact (paired_displayRequest env _ s).mpr h
          · exact h

theorem paired_onReady (cfg : Config) (env : Env) {s : Impl} (h : s.Paired) :
    (s.onReady cfg env).Paired := by
  unfold onReady
  rcases recvBytes sizeofDisplayEvent s.feed with ⟨_ | bytes, f⟩
  · exact h
  · apply paired_dispatch
    simpa using h

theorem paired_step (cfg : Config) (s : Impl) (i : Input) (h : s.Paired) : (s.step cfg i).Paired := by
  cases i with
  | start =>
    show s.start.2.Paired
    unfold start
    split <;> exact h
  | stop =>
    show s.stop.2.Paired
    unfold stop
    split
    · exact h
    · exact paired_foldl_release s.mHandles.entries (s := { s.leave with shouldContinue := false }) h
  | setMode env width height =>
    show (s.setMode env width height).Paired
    unfold setMode
    split
    · exact h
    · exact (paired_sendLogged s env _ _).mpr h
  | setVideoAlpha env action =>
    show (s.setVideoAlpha env action).Paired
    unfold setVideoAlpha
    split
    · exact h
    · exact (paired_sendLogged s env _ _).mpr h
  | connect connection =>
    simp only [step]
    split
    · cases connection <;> exact h
    · exact h
  | poll result =>
    simp only [step]
    split
    · cases result with
      | failed => exact h
      | timeout => exact h
      | ready env => exact paired_onReady cfg env h
    · exact h

/-! ### What arrives whole carries what it announces -/

theorem numFds_unifyFormat (handle : CrosGrallocHandle) : handle.unifyFormat.numFds = handle.numFds := by
  unfold CrosGrallocHandle.unifyFormat
  split <;> rfl

theorem fdlen_of_recvFds {env : Env} {fdlen : ℕ} {f f' : Feed WireByte} {fds : List Int32}
    (h : recvFds env fdlen f = (some fds, f')) : 1 ≤ fdlen ∧ fdlen ≤ drvMaxPlanes := by
  unfold recvFds at h
  split at h
  · simp at h
  · rename_i hlen
    rw [not_or] at hlen
    omega

theorem carries_of_receiveBuffer {env : Env} {block : List UInt8} {f : Feed WireByte} {remote : UInt64}
    {gralloc : CrosGrallocHandle} (h : (receiveBuffer env block f).1 = some (remote, gralloc)) :
    gralloc.Carries := by
  unfold receiveBuffer at h
  split at h
  · cases h
  · dsimp only at h
    split at h
    · cases h
    · split at h
      · cases h
      · rename_i fds f' hfds
        obtain ⟨-, rfl⟩ := Prod.mk.inj (Option.some.inj h)
        have hlen := fdlen_of_recvFds hfds
        unfold CrosGrallocHandle.Carries
        rw [numFds_unifyFormat]
        exact hlen

theorem carries_of_mem_createOps {env : Env} {f : Feed WireByte} {op : Op} (h : op ∈ createOps env f) :
    op.Carries := by
  unfold createOps at h
  split at h
  · cases h
  · split at h
    · rw [List.mem_singleton] at h
      subst h
      trivial
    · rename_i hrec
      rw [List.mem_singleton] at h
      subst h
      exact carries_of_receiveBuffer hrec

theorem carries_of_mem_removeOps {f : Feed WireByte} {op : Op} (h : op ∈ removeOps f) : op.Carries := by
  unfold removeOps at h
  split at h
  · cases h
  · rw [List.mem_singleton] at h
    subst h
    trivial

theorem carries_of_mem_displayOps {size : Int32} {f : Feed WireByte} {op : Op}
    (h : op ∈ displayOps size f) : op.Carries := by
  cases op with
  | create remote gralloc =>
    unfold displayOps at h
    split at h
    · cases h
    · split at h
      · cases h
      · dsimp only at h
        split at h
        · split at h <;> simp at h
        · simp at h
  | _ => trivial

theorem carries_of_mem_received {env : Env} {f : Feed WireByte} {op : Op} (h : op ∈ received env f) :
    op.Carries := by
  unfold received at h
  split at h
  · cases h
  · dsimp only at h
    split at h
    · split at h
      · exact carries_of_mem_createOps h
      · cases h
    · split at h
      · exact carries_of_mem_removeOps h
      · split at h
        · exact carries_of_mem_displayOps h
        · cases h

theorem carries_of_mem_opsOf {s : Impl} {i : Input} {op : Op} (h : op ∈ s.opsOf i) : op.Carries := by
  unfold opsOf at h
  split at h
  · split at h
    · obtain ⟨remote, -, rfl⟩ := List.mem_map.mp h
      trivial
    · simp at h
  · split at h
    · exact carries_of_mem_received h
    · simp at h
  · simp at h

/-! ## Runs -/

/-- How many descriptors a step loses: a step is one operation at most, or removes what is there. -/
def cost (s : Impl) (i : Input) : ℕ := ((s.opsOf i).map s.ledger.cost).sum

theorem books_step (cfg : Config) (s : Impl) (i : Input) {lost : ℕ} (h : s.ledger.Books lost) :
    (s.step cfg i).ledger.Books (lost + s.cost i) := by
  rw [ledger_step, cost]
  rcases s.opsOf_cases i with hnone | ⟨op, hone⟩ | hall
  · rw [hnone]
    exact h
  · have hop : op.Carries := carries_of_mem_opsOf (i := i) (hone ▸ List.mem_singleton_self op)
    rw [hone]
    simpa using Ledger.books_apply h hop
  · have hfree : (s.mHandles.keys.map Op.remove).map s.ledger.cost = s.mHandles.keys.map fun _ => 0 := by
      rw [List.map_map]
      rfl
    rw [hall, hfree, List.map_const', List.sum_replicate_nat, Nat.mul_zero, Nat.add_zero]
    exact Ledger.books_removes s.mHandles.keys h

/-- A `CREATE_BUFFER` that arrives whole is for a remote handle that `mHandles` does not hold, and brings one
descriptor. -/
def CreatesOne (s : Impl) (i : Input) : Prop :=
  ∀ remote gralloc, .create remote gralloc ∈ s.opsOf i →
    remote ∉ s.mHandles.keys ∧ sizeT gralloc.numFds = 1

theorem cost_create {l : Ledger} {remote : UInt64} {gralloc : CrosGrallocHandle} (h : gralloc.Carries) :
    l.cost (.create remote gralloc) = 0 ↔ remote ∉ l.live.keys ∧ sizeT gralloc.numFds = 1 := by
  have hmin := h.1
  simp only [Ledger.cost]
  split
  · rename_i hkey
    constructor
    · intro hzero
      omega
    · rintro ⟨hnew, -⟩
      exact absurd hkey hnew
  · rename_i hkey
    constructor
    · intro hzero
      exact ⟨hkey, by omega⟩
    · rintro ⟨-, hone⟩
      omega

/-- A step loses nothing exactly when it creates no more than it will close. -/
theorem cost_eq_zero_iff (s : Impl) (i : Input) : s.cost i = 0 ↔ s.CreatesOne i := by
  rw [cost, List.sum_eq_zero_iff_forall_eq_nat]
  simp only [List.mem_map, forall_exists_index, and_imp, forall_apply_eq_imp_iff₂]
  constructor
  · intro h remote gralloc hop
    exact (cost_create (carries_of_mem_opsOf hop)).mp (h _ hop)
  · intro h op hop
    cases op with
    | create remote gralloc => exact (cost_create (carries_of_mem_opsOf hop)).mpr (h remote gralloc hop)
    | _ => rfl

theorem createsOne_stop (s : Impl) : s.CreatesOne .stop := by
  intro remote gralloc hop
  simp only [opsOf] at hop
  split at hop <;> simp at hop

/-- At every moment of a run, a descriptor of a live handle is one that came in and was not closed; and
when the run has ended with `stop`, every descriptor that came in was closed, as often as it came in. -/
structure Disposes (cfg : Config) (inputs : List Input) : Prop where
  spares : ∀ s ∈ (inputs ++ [Input.stop]).scanl (step cfg) initial,
    closedFds s.history + heldFds s.mHandles ≤ receivedFds s.history
  closes : closedFds ((inputs ++ [Input.stop]).foldl (step cfg) initial).history =
    receivedFds ((inputs ++ [Input.stop]).foldl (step cfg) initial).history

theorem spares_of_books {s : Impl} (hpaired : s.Paired) {lost : ℕ} (h : s.ledger.Books lost) :
    closedFds s.history + heldFds s.mHandles ≤ receivedFds s.history := by
  rw [hpaired, ← endedFds_filter, ← receivedFds_filter]
  exact h.spares

/-- **A run that ends in `stop` disposes of every descriptor, once and in time, exactly when every
`CREATE_BUFFER` of it is for a new remote handle and brings one descriptor.** -/
theorem disposes_iff_createsOne (cfg : Config) (inputs : List Input) :
    Disposes cfg inputs ↔ Along (step cfg) CreatesOne initial inputs := by
  have hall : Along (step cfg) (fun _ _ => True) initial (inputs ++ [Input.stop]) :=
    along_of_forall (fun _ _ => trivial) initial _
  -- Two invariants, one of the code and one of the books, hold along every run.
  have hinv : ∀ s ∈ (inputs ++ [Input.stop]).scanl (step cfg) initial,
      s.Paired ∧ ∃ lost, s.ledger.Books lost := by
    apply hall.invariant (I := fun s => s.Paired ∧ ∃ lost, s.ledger.Books lost)
    · rintro s i ⟨hpaired, lost, hbooks⟩ -
      exact ⟨paired_step cfg s i hpaired, _, books_step cfg s i hbooks⟩
    · exact ⟨paired_initial, 0, Ledger.books_initial⟩
  have hspares : ∀ s ∈ (inputs ++ [Input.stop]).scanl (step cfg) initial,
      closedFds s.history + heldFds s.mHandles ≤ receivedFds s.history := by
    intro s hs
    obtain ⟨hpaired, lost, hbooks⟩ := hinv s hs
    exact spares_of_books hpaired hbooks
  obtain ⟨hpaired, -⟩ := hinv _ (foldl_mem_scanl _ _)
  obtain ⟨total, hbooks, hfree⟩ := exists_total_iff_along
    (J := fun (s : Impl) lost => s.ledger.Books lost) (fun s i _ h => books_step cfg s i h)
    (s := initial) Ledger.books_initial (inputs ++ [Input.stop])
  have hempty : ((inputs ++ [Input.stop]).foldl (step cfg) initial).mHandles = .empty := by
    rw [List.foldl_append]
    exact live_stop _ (settled_foldl cfg inputs)
  have hcloses := Ledger.ended_eq_received_iff hbooks hempty
  rw [show ∀ s : Impl, s.ledger.past = s.history.filter Output.aboutHandles from fun _ => rfl,
    endedFds_filter, receivedFds_filter, ← hpaired, zero_add, hfree] at hcloses
  simp only [cost_eq_zero_iff, along_append] at hcloses
  constructor
  · intro h
    exact (hcloses.mp h.closes).1
  · intro h
    exact ⟨hspares, hcloses.mpr ⟨h, createsOne_stop _, trivial⟩⟩

/-- A session in which one buffer is created, whose two planes come as two descriptors. -/
def createdWithTwo : List Input :=
  let create : Message :=
    { event := ⟨evCreateBuffer, 228, 0, 0⟩
      body := .createBuffer ⟨7⟩ { Layout.crosGrallocHandle.read [] with numFds := 2 } [5, 6] }
  [.start, .connect (some (Feed.whole create.wire)), .poll (.ready calmEnv)]

/-- Of the two descriptors of that buffer, `stop` closes the first. -/
theorem not_disposes_createdWithTwo : ¬ Disposes anySession createdWithTwo := by
  intro h
  have hclosed : closedFds ((createdWithTwo ++ [Input.stop]).foldl (step anySession) initial).history = {5} := by
    decide +kernel
  have hreceived : receivedFds ((createdWithTwo ++ [Input.stop]).foldl (step anySession) initial).history =
      {5, 6} := by decide +kernel
  have hcloses := h.closes
  rw [hclosed, hreceived] at hcloses
  exact absurd hcloses (by decide)

end Impl

end VhalClient.Display
