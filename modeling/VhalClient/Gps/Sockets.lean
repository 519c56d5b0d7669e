/-
# VhalClient.Gps.Sockets — the sockets of the GPS receiver, between its two threads.

The worker and the destructor both use `mSockGps`, and nothing keeps them apart: each of them looks at the
descriptor anew for every call, and the other one may have closed it or stored another since.  Here every load,
store and system call that opens or closes is a move of its own, `Disconnect` with its five among them, and the
moves of the two threads fall in any order.  Every run of `GpsReceiver` is one of these (`agrees_run`).

What can go wrong is bounded, whatever the order (`sockets_bounded`): one close at most, of all that are ever
made, is of a descriptor that is not open, and one socket at most is ever open.  The first is an account: the
closes that went wrong, what the worker takes for open and is not, and the one close the destructor has in it
come to one at most.
-/
import Mathlib.Algebra.Order.Group.Multiset
import Mathlib.Algebra.Order.Sub.Basic
import Mathlib.Data.Multiset.OrderedMonoid
import VhalClient.Lib.Holdings
import VhalClient.Gps.GpsReceiver

namespace VhalClient.Gps

open VhalClient.Lib

/-! ## The descriptors -/

/-- The system calls that open and close. -/
inductive SockCall where
  | socket (result : ℤ)
  | close (fd : ℤ)
  deriving DecidableEq, Repr

/-- What a call does to the descriptors of the process; `close(-1)` does nothing. -/
def SockCall.use : SockCall → Option (Use ℤ)
  | socket result => if 0 ≤ result then some (.acquire result) else none
  | close fd => if 0 ≤ fd then some (.release fd) else none

/-- What an `int` stands for, as a descriptor. -/
def held (fd : ℤ) : Multiset ℤ := if 0 ≤ fd then {fd} else 0

/-- The closes of a descriptor that was not open, newest first as the calls are. -/
def strays : List SockCall → ℕ
  | [] => 0
  | .socket _ :: past => strays past
  | .close fd :: past => strays past + if 0 ≤ fd ∧ fd ∉ openAfter SockCall.use past then 1 else 0

theorem card_held_le (fd : ℤ) : (held fd).card ≤ 1 := by
  unfold held
  split
  · exact le_rfl
  · exact Nat.zero_le 1

theorem held_of_neg {fd : ℤ} (h : fd < 0) : held fd = 0 := if_neg (not_le.mpr h)

/-- What is not there is not taken away. -/
theorem sub_held_of_not_le {fd : ℤ} {fds : Multiset ℤ} (h : ¬held fd ≤ fds) : fds - held fd = fds := by
  unfold held at h ⊢
  by_cases hfd : 0 ≤ fd
  · rw [if_pos hfd, Multiset.singleton_le] at h
    rw [if_pos hfd, Multiset.sub_singleton, Multiset.erase_of_notMem h]
  · rw [if_neg hfd, tsub_zero]

theorem openAfter_socket (result : ℤ) (past : List SockCall) :
    openAfter SockCall.use (.socket result :: past) = held result + openAfter SockCall.use past := by
  by_cases hresult : 0 ≤ result
  · have huse : (SockCall.socket result).use = some (.acquire result) := if_pos hresult
    rw [openAfter_cons_acquire huse, held, if_pos hresult, Multiset.singleton_add]
  · have huse : (SockCall.socket result).use = none := if_neg hresult
    rw [openAfter_cons_none huse, held, if_neg hresult, zero_add]

theorem openAfter_close (fd : ℤ) (past : List SockCall) :
    openAfter SockCall.use (.close fd :: past) = openAfter SockCall.use past - held fd := by
  by_cases hfd : 0 ≤ fd
  · have huse : (SockCall.close fd).use = some (.release fd) := if_pos hfd
    rw [openAfter_cons_release huse, held, if_pos hfd, Multiset.sub_singleton]
  · have huse : (SockCall.close fd).use = none := if_neg hfd
    rw [openAfter_cons_none huse, held, if_neg hfd, tsub_zero]

/-- A close goes wrong by as much as is missing of what it closes. -/
theorem strays_close (fd : ℤ) (past : List SockCall) :
    strays (.close fd :: past) = strays past + (held fd - openAfter SockCall.use past).card := by
  rw [strays, held]
  by_cases hfd : 0 ≤ fd
  · by_cases hopen : fd ∈ openAfter SockCall.use past
    · rw [if_neg fun h => h.2 hopen, if_pos hfd,
        tsub_eq_zero_iff_le.mpr (Multiset.singleton_le.mpr hopen), Multiset.card_zero]
    · have hnone : ({fd} : Multiset ℤ) ∩ openAfter SockCall.use past = 0 :=
        (Multiset.cons_inter_of_neg 0 hopen).trans (Multiset.zero_inter _)
      have hmissing : ({fd} : Multiset ℤ) - openAfter SockCall.use past = {fd} := by
        have hparts := Multiset.sub_add_inter {fd} (openAfter SockCall.use past)
        rwa [hnone, add_zero] at hparts
      rw [if_pos ⟨hfd, hopen⟩, if_pos hfd, hmissing, Multiset.card_singleton]
  · rw [if_neg fun h => hfd h.1, if_neg hfd, zero_tsub, Multiset.card_zero]

/-! ## The two threads -/

/-- Where a thread is in `Disconnect`; the last three are also the end of a `Connect` that fails. -/
inductive Hang where
  /-- Before the test of `mSockGps`. -/
  | test
  | shutdown
  /-- Before the argument of `close` is loaded. -/
  | load
  | close (fd : ℤ)
  /-- Before the store of -1. -/
  | forget
  deriving DecidableEq, Repr

/-- What comes behind a close: the `socket` of a `Connect`, the top of the loop or its end. -/
inductive Behind where
  | socket
  | loop
  | exited
  deriving DecidableEq, Repr

/-- Where the worker is. -/
inductive Worker where
  /-- Before the test of `mStop`. -/
  | loop
  /-- Before `Connected`. -/
  | test
  | connect
  | hang (p : Hang) (behind : Behind)
  | socket
  /-- Before the store of what `socket` returned. -/
  | store (fd : ℤ)
  /-- Before the test of what was stored. -/
  | check
  | dial
  | read
  | exited
  deriving DecidableEq, Repr

/-- Where the destructor is. -/
inductive Destructor where
  | store
  | test
  | hang (p : Hang)
  | join
  deriving DecidableEq, Repr

/-- What the two threads share, where they are, and the calls so far, newest first. -/
structure Threads where
  mSockGps : ℤ
  mStop : Bool
  worker : Worker
  destructor : Destructor
  calls : List SockCall
  deriving DecidableEq, Repr

namespace Threads

def initial : Threads := ⟨-1, false, .loop, .store, []⟩

def opened (t : Threads) : Multiset ℤ := openAfter SockCall.use t.calls

def call (t : Threads) (c : SockCall) : Threads := { t with calls := c :: t.calls }

def goto (t : Threads) (w : Worker) : Threads := { t with worker := w }

/-- One move of `Disconnect`, and the place behind it if it does not return. -/
def hang (p : Hang) (t : Threads) : Option Hang × Threads :=
  match p with
  | .test => (if t.mSockGps < 0 then none else some .shutdown, t)
  | .shutdown => (some .load, t)
  | .load => (some (.close t.mSockGps), t)
  | .close fd => (some .forget, t.call (.close fd))
  | .forget => (none, { t with mSockGps := -1 })

/-- The worker's place behind a close. -/
def returned : Behind → Worker
  | .socket => .socket
  | .loop => .loop
  | .exited => .exited

/-- One move of `workThreadProc` from its place. -/
def work (a : Receiver.Answer) (t : Threads) : Threads :=
  match t.worker with
  | .loop => t.goto (if t.mStop then .exited else .test)
  | .test => t.goto (if 0 < t.mSockGps then .read else .connect)
  | .connect => t.goto (if 0 ≤ t.mSockGps then .hang .test .socket else .socket)
  | .hang p behind =>
    match t.hang p with
    | (some q, t) => t.goto (.hang q behind)
    | (none, t) => t.goto (returned behind)
  | .socket => (t.call (.socket a.dial.socket)).goto (.store a.dial.socket)
  | .store fd => { t with mSockGps := fd, worker := .check }
  | .check => t.goto (if t.mSockGps < 0 then .loop else .dial)
  -- A `Connect` that fails closes without a test and without `shutdown`.
  | .dial => t.goto (if a.dial.res < 0 then .hang .load .loop else .read)
  | .read =>
    match Receiver.firstRead a.calls with
    | .closed _ => t.goto (.hang .test .exited)
    | _ => t.goto .loop
  | .exited => t

/-- One move of the destructor from its place. -/
def tearDown (t : Threads) : Threads :=
  match t.destructor with
  | .store => { t with mStop := true, destructor := .test }
  | .test => { t with destructor := if 0 ≤ t.mSockGps then .hang .test else .join }
  | .hang p =>
    match t.hang p with
    | (some q, t) => { t with destructor := .hang q }
    | (none, t) => { t with destructor := .join }
  | .join => t

def step (t : Threads) : Receiver.Move → Threads
  | .worker a => t.work a
  | .destructor => t.tearDown

/-- There is a run from one to the other. -/
def Reaches (t u : Threads) : Prop := ∃ ms : List Receiver.Move, ms.foldl step t = u

variable {t u : Threads}

theorem Reaches.refl (t : Threads) : Reaches t t := ⟨[], rfl⟩

theorem Reaches.trans {v : Threads} (hfirst : Reaches t v) (h : Reaches v u) : Reaches t u := by
  obtain ⟨ms, rfl⟩ := hfirst
  obtain ⟨ns, rfl⟩ := h
  exact ⟨ms ++ ns, List.foldl_append⟩

theorem Reaches.work (a : Receiver.Answer) {v : Threads} (hmove : t.work a = v) (h : Reaches v u) : Reaches t u :=
  .trans ⟨[.worker a], hmove⟩ h

theorem Reaches.tearDown {v : Threads} (hmove : t.tearDown = v) (h : Reaches v u) : Reaches t u :=
  .trans ⟨[.destructor], hmove⟩ h

/-! ### The moves of `Disconnect`, and the destructor's -/

theorem work_hangTest {behind : Behind} (hpc : t.worker = .hang .test behind) (a : Receiver.Answer) :
    t.work a = t.goto (if t.mSockGps < 0 then returned behind else .hang .shutdown behind) := by
  rw [work, hpc]
  by_cases hsock : t.mSockGps < 0
  · simp only [hang, if_pos hsock]
  · simp only [hang, if_neg hsock]

theorem work_hangShutdown {behind : Behind} (hpc : t.worker = .hang .shutdown behind) (a : Receiver.Answer) :
    t.work a = t.goto (.hang .load behind) := by
  rw [work, hpc]
  rfl

theorem work_hangLoad {behind : Behind} (hpc : t.worker = .hang .load behind) (a : Receiver.Answer) :
    t.work a = t.goto (.hang (.close t.mSockGps) behind) := by
  rw [work, hpc]
  rfl

theorem work_hangClose {fd : ℤ} {behind : Behind} (hpc : t.worker = .hang (.close fd) behind)
    (a : Receiver.Answer) : t.work a = (t.call (.close fd)).goto (.hang .forget behind) := by
  rw [work, hpc]
  rfl

theorem work_hangForget {behind : Behind} (hpc : t.worker = .hang .forget behind) (a : Receiver.Answer) :
    t.work a = ({ t with mSockGps := -1 } : Threads).goto (returned behind) := by
  rw [work, hpc]
  rfl

theorem tearDown_store (hpc : t.destructor = .store) :
    t.tearDown = { t with mStop := true, destructor := .test } := by
  rw [tearDown, hpc]

theorem tearDown_test (hpc : t.destructor = .test) :
    t.tearDown = { t with destructor := if 0 ≤ t.mSockGps then .hang .test else .join } := by
  rw [tearDown, hpc]

theorem tearDown_hangTest (hpc : t.destructor = .hang .test) :
    t.tearDown = { t with destructor := if t.mSockGps < 0 then .join else .hang .shutdown } := by
  rw [tearDown, hpc]
  by_cases hsock : t.mSockGps < 0
  · simp only [hang, if_pos hsock]
  · simp only [hang, if_neg hsock]

theorem tearDown_hangShutdown (hpc : t.destructor = .hang .shutdown) :
    t.tearDown = { t with destructor := .hang .load } := by
  rw [tearDown, hpc]
  rfl

theorem tearDown_hangLoad (hpc : t.destructor = .hang .load) :
    t.tearDown = { t with destructor := .hang (.close t.mSockGps) } := by
  rw [tearDown, hpc]
  rfl

theorem tearDown_hangClose {fd : ℤ} (hpc : t.destructor = .hang (.close fd)) :
    t.tearDown = { t.call (.close fd) with destructor := .hang .forget } := by
  rw [tearDown, hpc]
  rfl

theorem tearDown_hangForget (hpc : t.destructor = .hang .forget) :
    t.tearDown = { t with mSockGps := -1, destructor := .join } := by
  rw [tearDown, hpc]
  rfl

/-! ## What goes wrong, and what is left -/

/-- What a worker at its place takes for open. -/
def takes (mSockGps : ℤ) : Worker → Multiset ℤ
  | .hang (.close fd) _ => held fd
  | .hang .forget _ => 0
  | .socket => 0
  | .store fd => held fd
  | _ => held mSockGps

def has (t : Threads) : Multiset ℤ := takes t.mSockGps t.worker

/-- The worker can open a socket before it comes round to its test of `mStop`. -/
def Front : Worker → Prop
  | .test => True
  | .connect => True
  | .hang _ .socket => True
  | .socket => True
  | _ => False

/-- The worker can do so, and goes by what is in `mSockGps` until then. -/
def Looks : Worker → Prop
  | .test => True
  | .connect => True
  | .hang .test .socket => True
  | .hang .shutdown .socket => True
  | .hang .load .socket => True
  | _ => False

/-- The closes the destructor has in it. -/
def closesLeft : Destructor → ℕ
  | .hang .forget => 0
  | .join => 0
  | _ => 1

/-- What holds at any moment.  The account is in `books`; the other fields are about what is open: the worker knows
of it as long as it can open another one, and the destructor, when it is about to store -1 over what the worker
goes by, has closed it. -/
structure Inv (t : Threads) : Prop where
  idle : t.mStop = false → t.destructor = .store
  books : strays t.calls + (t.has - t.opened).card + closesLeft t.destructor ≤ 1
  known : t.mStop = false ∨ Front t.worker → t.opened ≤ t.has
  loaded : Looks t.worker → ∀ fd, t.destructor = .hang (.close fd) → fd = t.mSockGps
  taken : Looks t.worker → t.destructor = .hang .forget → t.opened = 0
  one : t.opened.card ≤ 1

theorem inv_initial : initial.Inv := by
  refine ⟨fun _ => rfl, ?_, fun _ => le_rfl, fun h => h.elim, fun h => h.elim, Nat.zero_le 1⟩
  decide

theorem has_of {w : Worker} (hpc : t.worker = w) : t.has = takes t.mSockGps w := by rw [has, hpc]

/-! ### The worker's moves -/

/-- A move that changes nothing but the worker's place, and not what it takes for open. -/
theorem Inv.goto (h : t.Inv) {w : Worker} (htakes : takes t.mSockGps w = t.has)
    (hfront : Front w → t.mStop = false ∨ Front t.worker) (hlooks : Looks w → t.mStop = false ∨ Looks t.worker) :
    (t.goto w).Inv := by
  have hhas : (t.goto w).has = t.has := htakes
  have hrunning {d : Destructor} (hd : d ≠ .store) (hat : t.destructor = d) : t.mStop ≠ false := fun hstop =>
    hd (hat.symm.trans (h.idle hstop))
  refine ⟨h.idle, ?_, ?_, ?_, ?_, h.one⟩
  · rw [hhas]
    exact h.books
  · intro hplace
    rw [hhas]
    exact h.known (hplace.elim .inl hfront)
  · intro hw fd hat
    exact h.loaded ((hlooks hw).resolve_left (hrunning (by simp) hat)) fd hat
  · intro hw hat
    exact h.taken ((hlooks hw).resolve_left (hrunning (by simp) hat)) hat

theorem Inv.close (h : t.Inv) {fd : ℤ} {behind : Behind} (hpc : t.worker = .hang (.close fd) behind) :
    ((t.call (.close fd)).goto (.hang .forget behind)).Inv := by
  have hhas : t.has = held fd := has_of hpc
  have hopened : ((t.call (.close fd)).goto (.hang .forget behind)).opened = t.opened - held fd :=
    openAfter_close fd t.calls
  refine ⟨h.idle, ?_, ?_, ?_, ?_, ?_⟩
  · have hbooks := h.books
    rw [hhas] at hbooks
    show strays (.close fd :: t.calls) + (0 - _ : Multiset ℤ).card + closesLeft t.destructor ≤ 1
    rw [strays_close, Multiset.zero_sub, Multiset.card_zero]
    exact hbooks
  · intro hplace
    have hknown : t.opened ≤ held fd := by
      rw [← hhas]
      refine h.known (hplace.imp_right ?_)
      rw [hpc]
      cases behind <;> exact fun hfront => hfront
    rw [hopened]
    exact (tsub_eq_zero_iff_le.mpr hknown).le
  · intro hw
    cases behind <;> exact hw.elim
  · intro hw
    cases behind <;> exact hw.elim
  · rw [hopened]
    exact (Multiset.card_le_card tsub_le_self).trans h.one

theorem Inv.forget (h : t.Inv) {behind : Behind} (hpc : t.worker = .hang .forget behind) :
    (({ t with mSockGps := -1 } : Threads).goto (returned behind)).Inv := by
  have hhas : t.has = 0 := has_of hpc
  have hnone : (({ t with mSockGps := -1 } : Threads).goto (returned behind)).has = 0 := by
    cases behind <;> rfl
  refine ⟨h.idle, ?_, ?_, ?_, ?_, h.one⟩
  · have hbooks := h.books
    rw [hhas] at hbooks
    rw [hnone]
    exact hbooks
  · intro hplace
    rw [hnone, ← hhas]
    refine h.known (hplace.imp_right ?_)
    rw [hpc]
    cases behind <;> exact fun hfront => hfront
  · intro hw
    cases behind <;> exact hw.elim
  · intro hw
    cases behind <;> exact hw.elim

theorem Inv.socket (h : t.Inv) (hpc : t.worker = .socket) (result : ℤ) :
    ((t.call (.socket result)).goto (.store result)).Inv := by
  have hhas : t.has = 0 := has_of hpc
  have hnone : t.opened = 0 := by
    rw [← nonpos_iff_eq_zero, ← hhas]
    exact h.known (.inr (by rw [hpc]; trivial))
  have hopened : ((t.call (.socket result)).goto (.store result)).opened = held result := by
    show openAfter SockCall.use (.socket result :: t.calls) = _
    rw [openAfter_socket, show openAfter SockCall.use t.calls = 0 from hnone, add_zero]
  refine ⟨h.idle, ?_, ?_, fun hw => hw.elim, fun hw => hw.elim, ?_⟩
  · have hbooks := h.books
    rw [hhas, Multiset.zero_sub, Multiset.card_zero] at hbooks
    rw [hopened]
    show strays t.calls + (held result - held result).card + closesLeft t.destructor ≤ 1
    rw [tsub_self, Multiset.card_zero]
    exact hbooks
  · intro _
    exact hopened.le
  · rw [hopened]
    exact card_held_le result

theorem Inv.store (h : t.Inv) {fd : ℤ} (hpc : t.worker = .store fd) :
    ({ t with mSockGps := fd, worker := .check } : Threads).Inv := by
  have hhas : ({ t with mSockGps := fd, worker := .check } : Threads).has = t.has := by
    rw [has, has, hpc]
    rfl
  refine ⟨h.idle, ?_, ?_, fun hw => hw.elim, fun hw => hw.elim, h.one⟩
  · rw [hhas]
    exact h.books
  · intro hplace
    rw [hhas]
    exact h.known (hplace.imp_right fun hw => hw.elim)

theorem Inv.hang (h : t.Inv) {p : Hang} {behind : Behind} (hpc : t.worker = .hang p behind)
    (a : Receiver.Answer) : (t.work a).Inv := by
  cases p with
  | test =>
    have hhas : t.has = held t.mSockGps := has_of hpc
    rw [work_hangTest hpc]
    by_cases hsock : t.mSockGps < 0
    · rw [if_pos hsock]
      refine h.goto ?_ ?_ ?_
      · rw [hhas]
        cases behind
        · exact (held_of_neg hsock).symm
        · rfl
        · rfl
      · rw [hpc]
        cases behind <;> exact .inr
      · cases behind <;> exact fun hw => hw.elim
    · rw [if_neg hsock]
      refine h.goto hhas.symm ?_ ?_
      · rw [hpc]
        cases behind <;> exact .inr
      · rw [hpc]
        cases behind <;> exact .inr
  | shutdown =>
    rw [work_hangShutdown hpc]
    refine h.goto (has_of hpc).symm ?_ ?_
    · rw [hpc]
      cases behind <;> exact .inr
    · rw [hpc]
      cases behind <;> exact .inr
  | load =>
    rw [work_hangLoad hpc]
    refine h.goto (has_of hpc).symm ?_ ?_
    · rw [hpc]
      cases behind <;> exact .inr
    · cases behind <;> exact fun hw => hw.elim
  | close fd =>
    rw [work_hangClose hpc]
    exact h.close hpc
  | forget =>
    rw [work_hangForget hpc]
    exact h.forget hpc

theorem inv_work (h : t.Inv) (a : Receiver.Answer) : (t.work a).Inv := by
  cases hpc : t.worker with
  | loop =>
    have hhas : t.has = held t.mSockGps := has_of hpc
    rw [work, hpc]
    dsimp only
    split
    · exact h.goto hhas.symm (fun hw => hw.elim) fun hw => hw.elim
    · rename_i hstop
      have hrunning : t.mStop = false := Bool.eq_false_of_not_eq_true hstop
      exact h.goto hhas.symm (fun _ => .inl hrunning) fun _ => .inl hrunning
  | test =>
    have hhas : t.has = held t.mSockGps := has_of hpc
    rw [work, hpc]
    dsimp only
    split
    · exact h.goto hhas.symm (fun hw => hw.elim) fun hw => hw.elim
    · exact h.goto hhas.symm (fun _ => .inr (hpc ▸ trivial)) fun _ => .inr (hpc ▸ trivial)
  | connect =>
    have hhas : t.has = held t.mSockGps := has_of hpc
    rw [work, hpc]
    dsimp only
    split
    · exact h.goto hhas.symm (fun _ => .inr (hpc ▸ trivial)) fun _ => .inr (hpc ▸ trivial)
    · rename_i hsock
      have hnone : t.has = 0 := hhas.trans (held_of_neg (not_le.mp hsock))
      exact h.goto hnone.symm (fun _ => .inr (hpc ▸ trivial)) fun hw => hw.elim
  | hang p behind => exact h.hang hpc a
  | socket =>
    rw [work, hpc]
    exact h.socket hpc a.dial.socket
  | store fd =>
    rw [work, hpc]
    exact h.store hpc
  | check =>
    have hhas : t.has = held t.mSockGps := has_of hpc
    rw [work, hpc]
    dsimp only
    split
    · exact h.goto hhas.symm (fun hw => hw.elim) fun hw => hw.elim
    · exact h.goto hhas.symm (fun hw => hw.elim) fun hw => hw.elim
  | dial =>
    have hhas : t.has = held t.mSockGps := has_of hpc
    rw [work, hpc]
    dsimp only
    split
    · exact h.goto hhas.symm (fun hw => hw.elim) fun hw => hw.elim
    · exact h.goto hhas.symm (fun hw => hw.elim) fun hw => hw.elim
  | read =>
    have hhas : t.has = held t.mSockGps := has_of hpc
    rw [work, hpc]
    dsimp only
    split
    · exact h.goto hhas.symm (fun hw => hw.elim) fun hw => hw.elim
    · exact h.goto hhas.symm (fun hw => hw.elim) fun hw => hw.elim
  | exited =>
    rw [work, hpc]
    exact h

/-! ### The destructor's moves -/

/-- The destructor is behind its store. -/
theorem Inv.stopped (h : t.Inv) (hplace : t.destructor ≠ .store) : t.mStop ≠ false := fun hrunning =>
  hplace (h.idle hrunning)

/-- A move that changes nothing but the destructor's place. -/
theorem Inv.turn (h : t.Inv) (hplace : t.destructor ≠ .store) {d : Destructor}
    (hleft : closesLeft d ≤ closesLeft t.destructor) (hclose : ∀ fd, d = .hang (.close fd) → fd = t.mSockGps)
    (hforget : d ≠ .hang .forget) : ({ t with destructor := d } : Threads).Inv := by
  have hstop := h.stopped hplace
  refine ⟨?_, ?_, h.known, ?_, ?_, h.one⟩
  · intro hrunning
    exact absurd hrunning hstop
  · have hbooks := h.books
    show strays t.calls + (t.has - t.opened).card + closesLeft d ≤ 1
    omega
  · intro _ fd hd
    exact hclose fd hd
  · intro _ hd
    exact absurd hd hforget

theorem Inv.stop (h : t.Inv) (hpc : t.destructor = .store) :
    ({ t with mStop := true, destructor := .test } : Threads).Inv := by
  have hbooks := h.books
  rw [hpc] at hbooks
  refine ⟨fun hrunning => ?_, hbooks, ?_, ?_, ?_, h.one⟩
  · cases hrunning
  · intro hplace
    exact h.known (hplace.imp_left fun hrunning => by cases hrunning)
  · intro _ fd hd
    cases hd
  · intro _ hd
    cases hd

/-- What the worker goes by is what it takes for open, and it is in front of a `socket`. -/
theorem takes_of_looks {w : Worker} (hw : Looks w) (mSockGps : ℤ) :
    takes mSockGps w = held mSockGps ∧ Front w := by
  cases w with
  | hang p behind =>
    cases p <;> cases behind <;> first | exact hw.elim | exact ⟨rfl, trivial⟩
  | test => exact ⟨rfl, trivial⟩
  | connect => exact ⟨rfl, trivial⟩
  | loop | socket | store _ | check | dial | read | exited => exact hw.elim

/-- The other places in front of a `socket` have nothing to do with `mSockGps` any more. -/
theorem takes_of_front {w : Worker} (hw : Front w) (hlooks : ¬Looks w) (x y : ℤ) : takes x w = takes y w := by
  cases w with
  | hang p behind =>
    cases p <;> cases behind <;> first | rfl | exact hw.elim | exact absurd trivial hlooks
  | test => exact absurd trivial hlooks
  | connect => exact absurd trivial hlooks
  | socket => rfl
  | loop | store _ | check | dial | read | exited => exact hw.elim

theorem takes_forget_le (mSockGps : ℤ) (w : Worker) : takes (-1) w ≤ takes mSockGps w := by
  have hnone : held (-1) ≤ held mSockGps := by
    rw [held_of_neg (by decide)]
    exact Multiset.zero_le _
  unfold takes
  split
  · exact le_rfl
  · exact le_rfl
  · exact le_rfl
  · exact le_rfl
  · exact hnone

theorem Inv.destructorClose (h : t.Inv) {fd : ℤ} (hpc : t.destructor = .hang (.close fd)) :
    ({ t.call (.close fd) with destructor := .hang .forget } : Threads).Inv := by
  have hstop := h.stopped (by rw [hpc]; simp)
  have hopened : ({ t.call (.close fd) with destructor := .hang .forget } : Threads).opened = t.opened - held fd :=
    openAfter_close fd t.calls
  have hless : t.opened - held fd ≤ t.opened := tsub_le_self
  refine ⟨fun hrunning => ?_, ?_, ?_, ?_, ?_, ?_⟩
  · exact absurd hrunning hstop
  · -- What the close takes away the worker may miss; what it does not find is one close more that went wrong.
    have hbooks := h.books
    rw [hpc] at hbooks
    rw [hopened]
    show strays (.close fd :: t.calls) + (t.has - (t.opened - held fd)).card + 0 ≤ 1
    rw [strays_close]
    show strays t.calls + (held fd - t.opened).card + (t.has - (t.opened - held fd)).card + 0 ≤ 1
    have hclosesLeft : closesLeft (.hang (.close fd)) = 1 := rfl
    by_cases hfound : held fd ≤ t.opened
    · have hmissed : (t.has - (t.opened - held fd)).card ≤ (t.has - t.opened).card + (held fd).card := by
        rw [← Multiset.card_add]
        exact Multiset.card_le_card tsub_tsub_le_tsub_add
      have hone := card_held_le fd
      rw [tsub_eq_zero_iff_le.mpr hfound, Multiset.card_zero]
      omega
    · have hkept : t.opened - held fd = t.opened := sub_held_of_not_le hfound
      have hone : (held fd - t.opened).card ≤ 1 := (Multiset.card_le_card tsub_le_self).trans (card_held_le fd)
      rw [hkept]
      omega
  · intro hplace
    rw [hopened]
    exact hless.trans (h.known (hplace.imp_left fun hrunning => hrunning))
  · intro _ _ hd
    cases hd
  · intro hlooks _
    obtain ⟨htakes, hfront⟩ := takes_of_looks hlooks t.mSockGps
    have hknown : t.opened ≤ held t.mSockGps := by
      rw [← htakes]
      exact h.known (.inr hfront)
    rw [hopened, h.loaded hlooks fd hpc]
    exact tsub_eq_zero_iff_le.mpr hknown
  · rw [hopened]
    exact (Multiset.card_le_card hless).trans h.one

theorem Inv.destructorForget (h : t.Inv) (hpc : t.destructor = .hang .forget) :
    ({ t with mSockGps := -1, destructor := .join } : Threads).Inv := by
  have hstop := h.stopped (by rw [hpc]; simp)
  have hless : ({ t with mSockGps := -1, destructor := .join } : Threads).has ≤ t.has :=
    takes_forget_le t.mSockGps t.worker
  refine ⟨fun hrunning => ?_, ?_, ?_, ?_, ?_, h.one⟩
  · exact absurd hrunning hstop
  · have hbooks := h.books
    have hmissed := Multiset.card_le_card (tsub_le_tsub_right hless t.opened)
    show strays t.calls + (({ t with mSockGps := -1, destructor := .join } : Threads).has - t.opened).card + 0 ≤ 1
    omega
  · intro hplace
    have hfront : Front t.worker := hplace.resolve_left hstop
    by_cases hlooks : Looks t.worker
    · have hnone : ({ t with mSockGps := -1, destructor := .join } : Threads).opened = 0 := h.taken hlooks hpc
      rw [hnone]
      exact Multiset.zero_le _
    · show t.opened ≤ takes (-1) t.worker
      rw [takes_of_front hfront hlooks (-1) t.mSockGps]
      exact h.known (.inr hfront)
  · intro _ _ hd
    cases hd
  · intro _ hd
    cases hd

theorem inv_tearDown (h : t.Inv) : t.tearDown.Inv := by
  cases hpc : t.destructor with
  | store =>
    rw [tearDown_store hpc]
    exact h.stop hpc
  | test =>
    rw [tearDown_test hpc]
    refine h.turn (by rw [hpc]; simp) ?_ ?_ ?_
    · rw [hpc]
      split
      · exact le_rfl
      · exact Nat.zero_le 1
    · intro fd hd
      split at hd <;> cases hd
    · split <;> simp
  | join =>
    rw [tearDown, hpc]
    exact h
  | hang p =>
    have hplace : t.destructor ≠ .store := by rw [hpc]; simp
    cases p with
    | test =>
      rw [tearDown_hangTest hpc]
      split
      · exact h.turn hplace (Nat.zero_le _) (fun _ hd => by cases hd) (by simp)
      · exact h.turn hplace (by rw [hpc]; exact le_rfl) (fun _ hd => by cases hd) (by simp)
    | shutdown =>
      rw [tearDown_hangShutdown hpc]
      exact h.turn hplace (by rw [hpc]; exact le_rfl) (fun _ hd => by cases hd) (by simp)
    | load =>
      rw [tearDown_hangLoad hpc]
      refine h.turn hplace (by rw [hpc]; exact le_rfl) ?_ (by simp)
      intro fd hd
      cases hd
      rfl
    | close fd =>
      rw [tearDown_hangClose hpc]
      exact h.destructorClose hpc
    | forget =>
      rw [tearDown_hangForget hpc]
      exact h.destructorForget hpc

theorem inv_of_reaches (h : Reaches initial t) : t.Inv := by
  obtain ⟨ms, rfl⟩ := h
  have halong : Along step (fun _ _ => True) initial ms := along_of_forall (fun _ _ => trivial) _ ms
  refine halong.invariant_foldl (I := Inv) ?_ inv_initial
  intro t m h _
  cases m with
  | worker a => exact inv_work h a
  | destructor => exact inv_tearDown h

/-! ## The end of the worker -/

/-- The moves of a `Disconnect` that are still to come. -/
def hangLeft : Hang → ℕ
  | .test => 5
  | .shutdown => 4
  | .load => 3
  | .close _ => 2
  | .forget => 1

/-- The moves a worker has left at most, if `mStop` is true. -/
def movesLeft : Worker → ℕ
  | .test => 17
  | .connect => 16
  | .hang p .socket => hangLeft p + 10
  | .socket => 10
  | .store _ => 9
  | .check => 8
  | .dial => 7
  | .read => 6
  | .hang p .exited => hangLeft p
  | .hang p .loop => hangLeft p + 1
  | .loop => 1
  | .exited => 0

theorem exited_of_movesLeft {w : Worker} (h : movesLeft w = 0) : w = .exited := by
  cases w with
  | exited => rfl
  | hang p behind => cases p <;> cases behind <;> simp [movesLeft, hangLeft] at h
  | loop | test | connect | socket | store _ | check | dial | read => cases h

theorem movesLeft_le (w : Worker) : movesLeft w ≤ 17 := by
  cases w with
  | hang p behind => cases p <;> cases behind <;> simp [movesLeft, hangLeft]
  | loop | test | connect | socket | store _ | check | dial | read | exited => simp [movesLeft]

/-- A stopped worker has one move less behind each. -/
theorem movesLeft_work (hstop : t.mStop = true) (a : Receiver.Answer) :
    movesLeft (t.work a).worker ≤ movesLeft t.worker - 1 := by
  cases hpc : t.worker with
  | loop =>
    rw [work, hpc, hstop]
    exact le_rfl
  | hang p behind =>
    cases p with
    | test =>
      rw [work_hangTest hpc]
      split
      · cases behind <;> exact of_decide_eq_true rfl
      · cases behind <;> exact le_rfl
    | shutdown =>
      rw [work_hangShutdown hpc]
      cases behind <;> exact le_rfl
    | load =>
      rw [work_hangLoad hpc]
      cases behind <;> exact le_rfl
    | close fd =>
      rw [work_hangClose hpc]
      cases behind <;> exact le_rfl
    | forget =>
      rw [work_hangForget hpc]
      cases behind <;> exact of_decide_eq_true rfl
  | test =>
    rw [work, hpc]
    dsimp only
    split <;> exact of_decide_eq_true rfl
  | connect =>
    rw [work, hpc]
    dsimp only
    split <;> exact of_decide_eq_true rfl
  | socket =>
    rw [work, hpc]
    exact le_rfl
  | store fd =>
    rw [work, hpc]
    exact le_rfl
  | check =>
    rw [work, hpc]
    dsimp only
    split <;> exact of_decide_eq_true rfl
  | dial =>
    rw [work, hpc]
    dsimp only
    split <;> exact of_decide_eq_true rfl
  | read =>
    rw [work, hpc]
    dsimp only
    split <;> exact of_decide_eq_true rfl
  | exited =>
    rw [work, hpc, hpc]
    exact le_rfl

theorem hang_frame (p : Hang) (t : Threads) :
    (t.hang p).2.mStop = t.mStop ∧ (t.hang p).2.worker = t.worker := by
  cases p <;> exact ⟨rfl, rfl⟩

theorem mStop_work (a : Receiver.Answer) (t : Threads) : (t.work a).mStop = t.mStop := by
  cases hpc : t.worker with
  | hang p behind =>
    have hframe := (hang_frame p t).1
    rw [work, hpc]
    dsimp only
    generalize t.hang p = r at hframe ⊢
    rcases r with ⟨_ | q, u⟩
    · exact hframe
    · exact hframe
  | read =>
    rw [work, hpc]
    dsimp only
    split <;> rfl
  | loop | test | connect | socket | check | dial =>
    rw [work, hpc]
    rfl
  | store _ | exited => rw [work, hpc]

/-- The destructor sets `mStop` and never clears it, and does not move the worker. -/
theorem tearDown_frame (t : Threads) :
    (t.mStop = true → t.tearDown.mStop = true) ∧ t.tearDown.worker = t.worker := by
  cases hpc : t.destructor with
  | store =>
    rw [tearDown, hpc]
    exact ⟨fun _ => rfl, rfl⟩
  | hang p =>
    have hframe := hang_frame p t
    rw [tearDown, hpc]
    dsimp only
    generalize t.hang p = r at hframe ⊢
    rcases r with ⟨_ | q, u⟩
    · exact ⟨hframe.1.trans, hframe.2⟩
    · exact ⟨hframe.1.trans, hframe.2⟩
  | test | join =>
    rw [tearDown, hpc]
    exact ⟨id, rfl⟩

/-- A move of the worker. -/
def isWorker : Receiver.Move → Bool
  | .worker _ => true
  | .destructor => false

/-- The worker is out of its loop seventeen of its moves behind the destructor's store. -/
theorem exited_of_stopped (hstop : t.mStop = true) {after : List Receiver.Move}
    (hmoves : 17 ≤ after.countP isWorker) : (after.foldl step t).worker = .exited := by
  apply exited_of_movesLeft
  have hleft : movesLeft t.worker ≤ 17 := movesLeft_le t.worker
  suffices hcount : movesLeft (after.foldl step t).worker ≤ movesLeft t.worker - after.countP isWorker by omega
  refine measure_foldl_le (fun t : Threads => movesLeft t.worker) isWorker (I := fun t => t.mStop = true)
    ?_ ?_ ?_ hstop after
  · intro t m h
    cases m with
    | worker a => exact (mStop_work a t).trans h
    | destructor => exact t.tearDown_frame.1 h
  · intro t m h hworker
    cases m with
    | worker a => exact movesLeft_work h a
    | destructor => cases hworker
  · intro t m h hidle
    cases m with
    | worker a => cases hidle
    | destructor => exact (congrArg movesLeft t.tearDown_frame.2).le

/-! ## The moves of `GpsReceiver` -/

/-- The place of the worker, when it is between two moves of `GpsReceiver`. -/
def placeOf : Pc → Worker
  | .loop => .loop
  | .connect => .connect
  | .read => .read
  | .exited => .exited

/-- The place of the destructor. -/
def teardownOf : Teardown → Destructor
  | .store => .store
  | .test => .test
  | .disconnect => .hang .test
  | .shutdown => .hang .shutdown
  | .close => .hang .load
  | .forget => .hang .forget
  | .join => .join

def closes (calls : List SockCall) : List ℤ :=
  calls.filterMap fun
    | .socket _ => none
    | .close fd => some fd

/-- The two models are at the same places, with the same socket, flag and closes. -/
structure Agrees (s : Receiver) (t : Threads) : Prop where
  sock : t.mSockGps = s.mSockGps
  stop : t.mStop = s.mStop
  place : t.worker = placeOf s.pc
  teardown : t.destructor = teardownOf s.teardown
  closed : closes t.calls = s.closed

/-- `Disconnect` of a socket that is there. -/
theorem reaches_hang (a : Receiver.Answer) {behind : Behind} (hpc : t.worker = .hang .test behind)
    (hsock : 0 ≤ t.mSockGps)
    (h : Reaches ⟨-1, t.mStop, returned behind, t.destructor, .close t.mSockGps :: t.calls⟩ u) :
    Reaches t u := by
  have htest : t.work a = t.goto (.hang .shutdown behind) := by
    rw [work_hangTest hpc, if_neg (not_lt.mpr hsock)]
  exact .work a htest (.work a (work_hangShutdown rfl a) (.work a (work_hangLoad rfl a)
    (.work a (work_hangClose rfl a) (.work a (work_hangForget rfl a) h))))

/-- A `Connect` from its `socket` on. -/
theorem reaches_socket (hpc : t.worker = .socket) (a : Receiver.Answer) :
    Reaches t
      (if a.dial.socket < 0 then
        ⟨a.dial.socket, t.mStop, .loop, t.destructor, .socket a.dial.socket :: t.calls⟩
      else if a.dial.res < 0 then
        ⟨-1, t.mStop, .loop, t.destructor, .close a.dial.socket :: .socket a.dial.socket :: t.calls⟩
      else ⟨a.dial.socket, t.mStop, .read, t.destructor, .socket a.dial.socket :: t.calls⟩) := by
  obtain ⟨sock, stop, worker, destructor, calls⟩ := t
  obtain rfl : worker = .socket := hpc
  set fd := a.dial.socket with hfd
  refine Reaches.work a (v := ⟨sock, stop, .store fd, destructor, .socket fd :: calls⟩) rfl ?_
  refine Reaches.work a (v := ⟨fd, stop, .check, destructor, .socket fd :: calls⟩) rfl ?_
  by_cases hsocket : fd < 0
  · rw [if_pos hsocket]
    refine Reaches.work a ?_ (Reaches.refl _)
    simp only [work, if_pos hsocket]
    rfl
  rw [if_neg hsocket]
  refine Reaches.work a (v := ⟨fd, stop, .dial, destructor, .socket fd :: calls⟩) ?_ ?_
  · simp only [work, if_neg hsocket]
    rfl
  by_cases hres : a.dial.res < 0
  · rw [if_pos hres]
    refine Reaches.work a (v := ⟨fd, stop, .hang .load .loop, destructor, .socket fd :: calls⟩) ?_ ?_
    · simp only [work, if_pos hres]
      rfl
    refine Reaches.work a (v := ⟨fd, stop, .hang (.close fd) .loop, destructor, .socket fd :: calls⟩) rfl ?_
    refine Reaches.work a
      (v := ⟨fd, stop, .hang .forget .loop, destructor, .close fd :: .socket fd :: calls⟩) rfl ?_
    exact Reaches.work a rfl (Reaches.refl _)
  · rw [if_neg hres]
    refine Reaches.work a ?_ (Reaches.refl _)
    simp only [work, if_neg hres]
    rfl

/-- The closes behind the first test of `Connect`. -/
def freed (s : Receiver) : List ℤ := if 0 ≤ s.mSockGps then s.mSockGps :: s.closed else s.closed

theorem connect_eq (s : Receiver) (d : Dial) :
    ∃ port, s.connect d =
      if d.socket < 0 then
        ((false, d.strerror), { s with mPort := port, mSockGps := d.socket, closed := freed s })
      else if d.res < 0 then
        ((false, d.strerror), { s with mPort := port, mSockGps := -1, closed := d.socket :: freed s })
      else ((true, ""), { s with mPort := port, mSockGps := d.socket, closed := freed s }) := by
  have hfirst : ∃ sock, (if 0 ≤ s.mSockGps then s.disconnect.2 else s) =
      { s with mSockGps := sock, closed := freed s } := by
    by_cases hsock : 0 ≤ s.mSockGps
    · refine ⟨-1, ?_⟩
      rw [if_pos hsock, Receiver.disconnect, if_neg (not_lt.mpr hsock), freed, if_pos hsock]
      rfl
    · refine ⟨s.mSockGps, ?_⟩
      rw [if_neg hsock, freed, if_neg hsock]
  obtain ⟨sock, hsock⟩ := hfirst
  unfold Receiver.connect
  simp only [hsock]
  by_cases hport : s.tciPort ≠ 0
  · refine ⟨s.tciPort, ?_⟩
    simp only [if_pos hport]
    rfl
  · refine ⟨s.mPort, ?_⟩
    simp only [if_neg hport]
    rfl

/-- What is noted of a call, and what a command leads to, is not about the socket. -/
theorem Agrees.record {s : Receiver} (h : Agrees s t) (op : Op) : Agrees (s.record op) t := by
  unfold Receiver.record
  split
  · exact h
  · exact ⟨h.sock, h.stop, h.place, h.teardown, h.closed⟩

theorem Agrees.onCommand {s : Receiver} (h : Agrees s t) (cmd : UInt8) : Agrees (s.onCommand cmd) t := by
  unfold Receiver.onCommand
  split
  · exact h
  split
  · exact ⟨h.sock, h.stop, h.place, h.teardown, h.closed⟩
  · exact h

theorem Agrees.goto {s : Receiver} (h : Agrees s t) (pc : Pc) : Agrees { s with pc := pc } (t.goto (placeOf pc)) :=
  ⟨h.sock, h.stop, rfl, h.teardown, h.closed⟩

theorem agrees_connect {s : Receiver} (h : Agrees s t) (hpc : s.pc = .connect) (a : Receiver.Answer) :
    ∃ u, Reaches t u ∧ Agrees (s.work a) u := by
  have hplace : t.worker = .connect := by rw [h.place, hpc]; rfl
  -- up to the `socket`
  have hfront : ∃ v, v.worker = .socket ∧ v.mStop = s.mStop ∧ v.destructor = teardownOf s.teardown ∧
      closes v.calls = freed s ∧ ∀ u, Reaches v u → Reaches t u := by
    by_cases hsock : 0 ≤ t.mSockGps
    · refine ⟨⟨-1, t.mStop, .socket, t.destructor, .close t.mSockGps :: t.calls⟩, rfl, h.stop, h.teardown, ?_, ?_⟩
      · rw [freed, if_pos (h.sock ▸ hsock), ← h.sock, ← h.closed]
        rfl
      · intro u hu
        refine Reaches.work a (v := t.goto (.hang .test .socket)) ?_ (reaches_hang a rfl hsock hu)
        rw [work, hplace]
        dsimp only
        rw [if_pos hsock]
    · refine ⟨t.goto .socket, rfl, h.stop, h.teardown, ?_, ?_⟩
      · rw [freed, if_neg (h.sock ▸ hsock), ← h.closed]
        rfl
      · intro u hu
        refine Reaches.work a ?_ hu
        rw [work, hplace]
        dsimp only
        rw [if_neg hsock]
  obtain ⟨v, hsocket, hstop, hteardown, hfreed, hreaches⟩ := hfront
  refine ⟨_, hreaches _ (reaches_socket hsocket a), ?_⟩
  obtain ⟨port, hconnect⟩ := connect_eq s a.dial
  have hagrees (sock : ℤ) (fds : List ℤ) (calls : List SockCall) (hcalls : closes calls = fds) :
      Agrees { s with mPort := port, mSockGps := sock, closed := fds }
        ⟨sock, v.mStop, .connect, v.destructor, calls⟩ :=
    ⟨rfl, hstop, by rw [hpc]; rfl, hteardown, hcalls⟩
  rw [Receiver.work, hpc]
  dsimp only
  rw [hconnect]
  by_cases hfails : a.dial.socket < 0
  · simp only [if_pos hfails]
    exact ((hagrees a.dial.socket (freed s) (.socket a.dial.socket :: v.calls) hfreed).record _).goto .loop
  simp only [if_neg hfails]
  by_cases hres : a.dial.res < 0
  · simp only [if_pos hres]
    exact ((hagrees (-1) (a.dial.socket :: freed s) (.close a.dial.socket :: .socket a.dial.socket :: v.calls)
      (congrArg (a.dial.socket :: ·) hfreed)).record _).goto .loop
  · simp only [if_neg hres]
    exact ((hagrees a.dial.socket (freed s) (.socket a.dial.socket :: v.calls) hfreed).record _).goto .read

theorem agrees_loop {s : Receiver} (h : Agrees s t) (hpc : s.pc = .loop) (a : Receiver.Answer) :
    ∃ u, Reaches t u ∧ Agrees (s.work a) u := by
  have hplace : t.worker = .loop := by rw [h.place, hpc]; rfl
  by_cases hstop : s.mStop = true
  · have hwork : t.work a = t.goto .exited := by
      rw [work, hplace]
      dsimp only
      rw [h.stop, if_pos hstop]
    refine ⟨t.goto .exited, Reaches.work a hwork (Reaches.refl _), ?_⟩
    rw [Receiver.work, hpc]
    dsimp only
    rw [if_pos hstop]
    exact h.goto .exited
  have hwork : t.work a = t.goto .test := by
    rw [work, hplace]
    dsimp only
    rw [h.stop, if_neg hstop]
  rw [Receiver.work, hpc]
  dsimp only
  rw [if_neg hstop]
  by_cases hsock : 0 < s.mSockGps
  · have htest : (t.goto .test).work a = t.goto .read := by
      show t.goto (if 0 < t.mSockGps then .read else .connect) = _
      rw [h.sock, if_pos hsock]
    refine ⟨t.goto .read, Reaches.work a hwork (Reaches.work a htest (Reaches.refl _)), ?_⟩
    rw [if_neg (by simpa [Receiver.connected] using hsock)]
    exact h.goto .read
  · have htest : (t.goto .test).work a = t.goto .connect := by
      show t.goto (if 0 < t.mSockGps then .read else .connect) = _
      rw [h.sock, if_neg hsock]
    refine ⟨t.goto .connect, Reaches.work a hwork (Reaches.work a htest (Reaches.refl _)), ?_⟩
    rw [if_pos (by simpa [Receiver.connected] using hsock)]
    exact h.goto .connect

theorem agrees_read {s : Receiver} (h : Agrees s t) (hpc : s.pc = .read) (a : Receiver.Answer) :
    ∃ u, Reaches t u ∧ Agrees (s.work a) u := by
  have hplace : t.worker = .read := by rw [h.place, hpc]; rfl
  rw [Receiver.work, hpc]
  dsimp only
  rw [Receiver.read_one]
  have hback (sys : Sys) (hsys : Receiver.firstRead a.calls = sys) (hopen : ∀ e, sys ≠ .closed e) :
      t.work a = t.goto .loop := by
    rw [work, hplace]
    dsimp only
    rw [hsys]
    cases sys with
    | closed e => exact absurd rfl (hopen e)
    | bytes b bs | eintr e | error e => rfl
  cases hread : Receiver.firstRead a.calls with
  | bytes b bs =>
    refine ⟨t.goto .loop, Reaches.work a (hback _ hread (by simp)) (Reaches.refl _), ?_⟩
    exact ((h.record _).onCommand b).goto .loop
  | eintr e =>
    refine ⟨t.goto .loop, Reaches.work a (hback _ hread (by simp)) (Reaches.refl _), ?_⟩
    exact (h.record _).goto .loop
  | error e =>
    refine ⟨t.goto .loop, Reaches.work a (hback _ hread (by simp)) (Reaches.refl _), ?_⟩
    exact (h.record _).goto .loop
  | closed e =>
    have hwork : t.work a = t.goto (.hang .test .exited) := by
      rw [work, hplace]
      dsimp only
      rw [hread]
    by_cases hsock : s.mSockGps < 0
    · have htest : (t.goto (.hang .test .exited)).work a = t.goto .exited := by
        rw [← h.sock] at hsock
        rw [work_hangTest rfl]
        exact congrArg t.goto (if_pos hsock)
      refine ⟨t.goto .exited, Reaches.work a hwork (Reaches.work a htest (Reaches.refl _)), ?_⟩
      dsimp only
      rw [Receiver.disconnect, if_pos hsock]
      exact (h.record _).goto .exited
    · have hopen : 0 ≤ t.mSockGps := h.sock ▸ not_lt.mp hsock
      refine ⟨⟨-1, t.mStop, .exited, t.destructor, .close t.mSockGps :: t.calls⟩,
        Reaches.work a hwork (reaches_hang a rfl hopen (Reaches.refl _)), ?_⟩
      dsimp only
      rw [Receiver.disconnect, if_neg hsock]
      have hclosed : Agrees s.closeSock ⟨-1, t.mStop, t.worker, t.destructor, .close t.mSockGps :: t.calls⟩ :=
        ⟨rfl, h.stop, h.place, h.teardown, by rw [Receiver.closeSock, ← h.sock, ← h.closed]; rfl⟩
      exact (hclosed.record _).goto .exited

theorem agrees_work {s : Receiver} (h : Agrees s t) (a : Receiver.Answer) :
    ∃ u, Reaches t u ∧ Agrees (s.work a) u := by
  cases hpc : s.pc with
  | loop => exact agrees_loop h hpc a
  | connect => exact agrees_connect h hpc a
  | read => exact agrees_read h hpc a
  | exited =>
    refine ⟨t, Reaches.refl t, ?_⟩
    rw [Receiver.work, hpc]
    exact h

theorem agrees_tearDown {s : Receiver} (h : Agrees s t) : ∃ u, Reaches t u ∧ Agrees s.tearDown u := by
  have hat {p : Teardown} (hpc : s.teardown = p) : t.destructor = teardownOf p := by rw [h.teardown, hpc]
  cases hpc : s.teardown with
  | store =>
    refine ⟨_, .tearDown (tearDown_store (hat hpc)) (.refl _), ?_⟩
    rw [Receiver.tearDown, hpc]
    exact ⟨h.sock, rfl, h.place, rfl, h.closed⟩
  | test =>
    refine ⟨_, .tearDown (tearDown_test (hat hpc)) (.refl _), ?_⟩
    rw [Receiver.tearDown, hpc]
    refine ⟨h.sock, h.stop, h.place, ?_, h.closed⟩
    dsimp only
    rw [h.sock]
    split <;> rfl
  | disconnect =>
    refine ⟨_, .tearDown (tearDown_hangTest (hat hpc)) (.refl _), ?_⟩
    rw [Receiver.tearDown, hpc]
    refine ⟨h.sock, h.stop, h.place, ?_, h.closed⟩
    dsimp only
    rw [h.sock]
    split <;> rfl
  | shutdown =>
    refine ⟨_, .tearDown (tearDown_hangShutdown (hat hpc)) (.refl _), ?_⟩
    rw [Receiver.tearDown, hpc]
    exact ⟨h.sock, h.stop, h.place, rfl, h.closed⟩
  | close =>
    -- The load of the argument and the call.
    refine ⟨_, .tearDown (tearDown_hangLoad (hat hpc)) (.tearDown (tearDown_hangClose rfl) (.refl _)), ?_⟩
    rw [Receiver.tearDown, hpc]
    have hclosed : t.mSockGps :: closes t.calls = s.mSockGps :: s.closed := by rw [h.sock, h.closed]
    exact ⟨h.sock, h.stop, h.place, rfl, hclosed⟩
  | forget =>
    refine ⟨_, .tearDown (tearDown_hangForget (hat hpc)) (.refl _), ?_⟩
    rw [Receiver.tearDown, hpc]
    exact ⟨rfl, h.stop, h.place, rfl, h.closed⟩
  | join =>
    refine ⟨t, .refl t, ?_⟩
    rw [Receiver.tearDown, hpc]
    exact h

theorem agrees_initial (tciPort : UInt16) (hasHandler : Bool) :
    Agrees (Receiver.initial tciPort hasHandler) initial :=
  ⟨rfl, rfl, rfl, rfl, rfl⟩

/-- Every run of `GpsReceiver` is a run of these threads. -/
theorem agrees_run (tciPort : UInt16) (hasHandler : Bool) (ms : List Receiver.Move) :
    ∃ t, Reaches initial t ∧ Agrees (ms.foldl Receiver.step (.initial tciPort hasHandler)) t := by
  have halong : Along Receiver.step (fun _ _ => True) (.initial tciPort hasHandler) ms :=
    along_of_forall (fun _ _ => trivial) _ ms
  refine halong.invariant_foldl (I := fun s => ∃ t, Reaches initial t ∧ Agrees s t) ?_
    ⟨initial, .refl initial, agrees_initial tciPort hasHandler⟩
  rintro s m ⟨t, hpast, h⟩ _
  have hstep : ∃ u, Reaches t u ∧ Agrees (s.step m) u := by
    cases m with
    | worker a => exact agrees_work h a
    | destructor => exact agrees_tearDown h
  obtain ⟨u, hmoves, hu⟩ := hstep
  exact ⟨u, hpast.trans hmoves, hu⟩

/-! ## The bounds -/

/-- The worker is out of its loop, and the destructor waits for it at most. -/
def Ended (t : Threads) : Prop := t.worker = .exited ∧ t.destructor = .join

/-- A server that is there, and what the worker's `read` returns. -/
def dialled (sys : Sys) : Receiver.Answer := ⟨⟨5, 0, ""⟩, Stream'.const sys⟩

theorem firstRead_dialled (sys : Sys) (h : ∀ e, sys ≠ .eintr e) :
    Receiver.firstRead (dialled sys).calls = sys := by
  rw [Receiver.firstRead, Receiver.retry]
  cases sys with
  | eintr e => exact absurd rfl (h e)
  | bytes _ _ | closed _ | error _ => rfl

/-- The destructor's `shutdown` ends the worker's `read`, and both close the socket. -/
theorem reaches_stray : Reaches initial ⟨-1, true, .exited, .join, [.close 5, .close 5, .socket 5]⟩ := by
  have hconnected : Reaches initial ⟨5, false, .read, .store, [.socket 5]⟩ :=
    ⟨List.replicate 7 (.worker (dialled (.closed ""))), rfl⟩
  have hloaded : Reaches ⟨5, false, .read, .store, [.socket 5]⟩ ⟨5, true, .read, .hang (.close 5), [.socket 5]⟩ :=
    ⟨List.replicate 5 .destructor, rfl⟩
  have hread : work (dialled (.closed "")) ⟨5, true, .read, .hang (.close 5), [.socket 5]⟩ =
      ⟨5, true, .hang .test .exited, .hang (.close 5), [.socket 5]⟩ := by
    simp only [work, firstRead_dialled (.closed "") (by simp)]
    rfl
  have hclosed : Reaches ⟨5, true, .hang .test .exited, .hang (.close 5), [.socket 5]⟩
      ⟨-1, true, .exited, .hang (.close 5), [.close 5, .socket 5]⟩ :=
    ⟨List.replicate 5 (.worker (dialled (.closed ""))), rfl⟩
  have hended : Reaches ⟨-1, true, .exited, .hang (.close 5), [.close 5, .socket 5]⟩
      ⟨-1, true, .exited, .join, [.close 5, .close 5, .socket 5]⟩ :=
    ⟨[.destructor, .destructor], rfl⟩
  exact hconnected.trans (hloaded.trans (.work _ hread (hclosed.trans hended)))

/-- The destructor looks at the socket before the worker has one. -/
theorem reaches_open : Reaches initial ⟨5, true, .exited, .join, [.socket 5]⟩ := by
  have hpast : Reaches initial ⟨-1, true, .connect, .join, []⟩ :=
    ⟨List.replicate 2 (.worker (dialled (.error ""))) ++ List.replicate 2 .destructor, rfl⟩
  have hconnected : Reaches ⟨-1, true, .connect, .join, []⟩ ⟨5, true, .read, .join, [.socket 5]⟩ :=
    ⟨List.replicate 5 (.worker (dialled (.error ""))), rfl⟩
  have hread : work (dialled (.error "")) ⟨5, true, .read, .join, [.socket 5]⟩ =
      ⟨5, true, .loop, .join, [.socket 5]⟩ := by
    simp only [work, firstRead_dialled (.error "") (by simp)]
    rfl
  exact hpast.trans (hconnected.trans (.work _ hread (.work (dialled (.error "")) rfl (.refl _))))

/-- Two threads and one descriptor, and all that goes wrong with it. -/
theorem sockets_bounded :
    (∀ t : Threads, Reaches initial t → t.opened.card ≤ 1 ∧ strays t.calls ≤ 1) ∧
      (∀ (t : Threads) (after : List Receiver.Move), t.mStop = true → 17 ≤ after.countP isWorker →
        (after.foldl step t).worker = .exited) ∧
      (∃ t : Threads, Reaches initial t ∧ t.Ended ∧ strays t.calls = 1) ∧
      ∃ t : Threads, Reaches initial t ∧ t.Ended ∧ t.opened.card = 1 := by
  refine ⟨fun t h => ?_, fun t after hstop => exited_of_stopped hstop,
    ⟨_, reaches_stray, ?_⟩, ⟨_, reaches_open, ?_⟩⟩
  · have hinv := inv_of_reaches h
    refine ⟨hinv.one, ?_⟩
    have hbooks := hinv.books
    omega
  · exact ⟨⟨rfl, rfl⟩, by decide⟩
  · exact ⟨⟨rfl, rfl⟩, by decide⟩

end Threads

end VhalClient.Gps
