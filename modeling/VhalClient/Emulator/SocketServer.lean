/-
# VhalClient.Emulator.SocketServer — `UnixServerSocket`, the emulator's end of the connection.

The server has two descriptors, one it listens on and one for the connection it accepted.  `AwaitConnection` makes
six system calls, five of which end it with an exception when they fail; what was opened until then stays open
in the members, for the next call or the destructor to close.  The system calls are kept, newest first.

`server_lifetime` is about every order of `AwaitConnection` and `Close`, with any outcomes, up to the destructor:
no call is made on a descriptor that is not open, a socket is only asked for when nothing is open and a
connection only accepted when nothing but the listener is, and in the end everything is closed.  What carries
it is `Tidy`: the open descriptors are the ones in the members.

The path goes two ways: `unlink` and `chmod` take the string as it is, `bind` and the client's `connect` what
`strncpy` made of it.  `one_path_iff` says when these are the same file in every run of the two.
-/
import Mathlib.Algebra.Order.Group.Multiset
import VhalClient.Lib.Holdings
import VhalClient.Lib.Run
import VhalClient.Socket.Clients

namespace VhalClient.Emulator

open VhalClient.Lib
open VhalClient.Socket (Address Client Dial Impl afUnix shutRdwr strncpySunPath strlen)

/-! ## The system calls -/

inductive ServerSyscall where
  | socket (domain : ℤ) (result : ℤ)
  | unlink (path : List UInt8)
  /-- `address` are the bytes of `sun_path` that count. -/
  | bind (fd : ℤ) (address : List UInt8)
  | chmod (path : List UInt8)
  | listen (fd : ℤ) (backlog : ℕ)
  | accept (fd : ℤ) (result : ℤ)
  | shutdown (fd : ℤ) (how : ℤ)
  | close (fd : ℤ)
  deriving DecidableEq, Repr

namespace ServerSyscall

/-- What a call does to the descriptors of the process. -/
def use : ServerSyscall → Option (Use ℤ)
  | socket _ result => if 0 ≤ result then some (.acquire result) else none
  | accept _ result => if 0 ≤ result then some (.acquire result) else none
  | close fd => some (.release fd)
  | _ => none

theorem use_socket {result : ℤ} (domain : ℤ) (h : 0 ≤ result) :
    (socket domain result).use = some (.acquire result) := if_pos h

theorem use_socket_failed {result : ℤ} (domain : ℤ) (h : ¬0 ≤ result) : (socket domain result).use = none :=
  if_neg h

theorem use_accept {result : ℤ} (fd : ℤ) (h : 0 ≤ result) :
    (accept fd result).use = some (.acquire result) := if_pos h

theorem use_accept_failed {result : ℤ} (fd : ℤ) (h : ¬0 ≤ result) : (accept fd result).use = none :=
  if_neg h

/-- What has to be open for a call. -/
def Proper : ServerSyscall → Multiset ℤ → Prop
  | socket _ _, held => held = 0
  | unlink _, _ => True
  | bind fd _, held => fd ∈ held
  | chmod _, _ => True
  | listen fd _, held => fd ∈ held
  | accept fd _, held => held = {fd}
  | shutdown fd _, held => fd ∈ held
  | close fd, held => fd ∈ held

end ServerSyscall

/-! ## The class -/

/-- The members, and the system calls made so far. -/
structure UnixServerSocket where
  fd : ℤ
  serverFd : ℤ
  connected : Bool
  sunPath : List UInt8
  /-- What stands in memory behind the bytes that `strncpy` wrote. -/
  behind : List UInt8
  serverSocketPath : List UInt8
  calls : List ServerSyscall

/-- The results of the system calls during one `AwaitConnection`; that of `unlink` is only printed. -/
structure Attempt where
  socket : ℤ
  bind : ℤ
  chmod : ℤ
  listen : ℤ
  accept : ℤ

/-- None of the five results is an error. -/
structure Attempt.Succeeds (a : Attempt) : Prop where
  socket : 0 ≤ a.socket
  bind : 0 ≤ a.bind
  chmod : 0 ≤ a.chmod
  listen : 0 ≤ a.listen
  accept : 0 ≤ a.accept

/-- `MAX_CONNECTIONS` -/
def maxConnections : ℕ := 1

/-- The bytes of a string that count, here also those of `sun_path` as `SUN_LEN` counts them. -/
def cString (bytes : List UInt8) : List UInt8 := bytes.takeWhile (· ≠ 0)

namespace UnixServerSocket

def construct (serverSocketPath behind : List UInt8) : UnixServerSocket :=
  ⟨-1, -1, false, strncpySunPath serverSocketPath, behind, serverSocketPath, []⟩

def call (s : UnixServerSocket) (c : ServerSyscall) : UnixServerSocket := { s with calls := c :: s.calls }

/-- `shutdown` and `close` of the connection. -/
def closeConnection (s : UnixServerSocket) : UnixServerSocket :=
  if 0 ≤ s.fd then { (s.call (.shutdown s.fd shutRdwr)).call (.close s.fd) with fd := -1 } else s

/-- `shutdown` and `close` of the listener. -/
def closeListener (s : UnixServerSocket) : UnixServerSocket :=
  if 0 ≤ s.serverFd then
    { (s.call (.shutdown s.serverFd shutRdwr)).call (.close s.serverFd) with serverFd := -1 }
  else s

def close (s : UnixServerSocket) : UnixServerSocket :=
  ({ s with connected := false } : UnixServerSocket).closeConnection.closeListener

/-- `server_fd_ = ::socket(…)` -/
def openListener (result : ℤ) (s : UnixServerSocket) : UnixServerSocket :=
  { s.call (.socket afUnix result) with serverFd := result }

/-- `fd_ = accept(…)` -/
def openConnection (result : ℤ) (s : UnixServerSocket) : UnixServerSocket :=
  { s.call (.accept s.serverFd result) with fd := result }

/-- `AwaitConnection`: what it returns, or nothing if it throws. -/
def awaitConnection (a : Attempt) (s : UnixServerSocket) : Option Bool × UnixServerSocket :=
  let s := if 0 ≤ s.serverFd ∨ 0 ≤ s.fd then s.close else s
  let s := s.openListener a.socket
  if s.serverFd < 0 then (none, s)
  else
    let s := s.call (.unlink (cString s.serverSocketPath))
    let s := s.call (.bind s.serverFd (cString (s.sunPath ++ s.behind)))
    if a.bind < 0 then (none, s)
    else
      let s := s.call (.chmod (cString s.serverSocketPath))
      if a.chmod < 0 then (none, s)
      else
        let s := s.call (.listen s.serverFd maxConnections)
        if a.listen < 0 then (none, s)
        else
          let s := s.openConnection a.accept
          if s.fd < 0 then (none, s)
          else
            let s := { s with connected := true }
            (some s.connected, s)

/-- `~UnixServerSocket` -/
def destroy (s : UnixServerSocket) : UnixServerSocket := s.close

/-- A call of the server's user. -/
inductive Call where
  | awaitConnection (a : Attempt)
  | close

def step (s : UnixServerSocket) : Call → UnixServerSocket
  | .awaitConnection a => (s.awaitConnection a).2
  | .close => s.close

def run (serverSocketPath behind : List UInt8) (calls : List Call) : UnixServerSocket :=
  calls.foldl step (construct serverSocketPath behind)

theorem run_append_singleton (serverSocketPath behind : List UInt8) (calls : List Call) (c : Call) :
    run serverSocketPath behind (calls ++ [c]) = step (run serverSocketPath behind calls) c := by
  rw [run, List.foldl_append, List.foldl_cons, List.foldl_nil, ← run]

/-! ## The open descriptors are the ones in the members -/

def held (s : UnixServerSocket) : Multiset ℤ :=
  (if 0 ≤ s.fd then {s.fd} else 0) + (if 0 ≤ s.serverFd then {s.serverFd} else 0)

structure Tidy (s : UnixServerSocket) : Prop where
  open_eq : openAfter ServerSyscall.use s.calls = s.held
  proper : Obeys ServerSyscall.use ServerSyscall.Proper s.calls
  open_of_connected : s.connected = true → 0 ≤ s.fd

variable {s : UnixServerSocket}

theorem held_of_fd_neg (h : s.fd < 0) : s.held = if 0 ≤ s.serverFd then {s.serverFd} else 0 := by
  rw [held, if_neg (by omega), zero_add]

theorem held_of_serverFd_neg (h : s.serverFd < 0) : s.held = if 0 ≤ s.fd then {s.fd} else 0 := by
  have hneg : ¬0 ≤ s.serverFd := by omega
  rw [held, if_neg hneg, add_zero]

theorem tidy_construct (serverSocketPath behind : List UInt8) : (construct serverSocketPath behind).Tidy :=
  ⟨rfl, obeys_nil, fun h => absurd h Bool.false_ne_true⟩

/-- A call that opens and closes nothing. -/
theorem Tidy.call (h : s.Tidy) {c : ServerSyscall} (hquiet : c.use = none) (hproper : c.Proper s.held) :
    (s.call c).Tidy := by
  refine ⟨?_, ?_, h.open_of_connected⟩
  · exact (openAfter_cons_none hquiet).trans h.open_eq
  · exact ⟨h.open_eq ▸ hproper, h.proper⟩

theorem openAfter_shutdown_close (fd : ℤ) (calls : List ServerSyscall) :
    openAfter ServerSyscall.use (.close fd :: .shutdown fd shutRdwr :: calls) =
      (openAfter ServerSyscall.use calls).erase fd := by
  have hquiet : (ServerSyscall.shutdown fd shutRdwr).use = none := rfl
  have hrelease : (ServerSyscall.close fd).use = some (.release fd) := rfl
  rw [openAfter_cons_release hrelease, openAfter_cons_none hquiet]

/-- `shutdown` and `close` of a descriptor that is open. -/
theorem obeys_shutdown_close {fd : ℤ} {calls : List ServerSyscall}
    (h : Obeys ServerSyscall.use ServerSyscall.Proper calls) (hmem : fd ∈ openAfter ServerSyscall.use calls) :
    Obeys ServerSyscall.use ServerSyscall.Proper (.close fd :: .shutdown fd shutRdwr :: calls) := by
  have hquiet : (ServerSyscall.shutdown fd shutRdwr).use = none := rfl
  refine ⟨?_, hmem, h⟩
  show fd ∈ openAfter ServerSyscall.use (.shutdown fd shutRdwr :: calls)
  rw [openAfter_cons_none hquiet]
  exact hmem

theorem Tidy.closeConnection (h : s.Tidy) (hoff : s.connected = false) : s.closeConnection.Tidy := by
  unfold UnixServerSocket.closeConnection
  split
  · rename_i hfd
    have hheld : s.held = s.fd ::ₘ (if 0 ≤ s.serverFd then {s.serverFd} else 0) := by
      rw [held, if_pos hfd, Multiset.singleton_add]
    refine ⟨?_, ?_, ?_⟩
    · show openAfter ServerSyscall.use (.close s.fd :: .shutdown s.fd shutRdwr :: s.calls) = _
      rw [openAfter_shutdown_close, h.open_eq, hheld, Multiset.erase_cons_head]
      exact (held_of_fd_neg (s := { s with fd := -1 }) (Int.negSucc_lt_zero 0)).symm
    · refine obeys_shutdown_close h.proper ?_
      rw [h.open_eq, hheld]
      exact Multiset.mem_cons_self _ _
    · intro hon
      exact absurd (hoff.symm.trans hon) Bool.false_ne_true
  · exact h

theorem Tidy.closeListener (h : s.Tidy) : s.closeListener.Tidy := by
  unfold UnixServerSocket.closeListener
  split
  · rename_i hserver
    have hheld : s.held = s.serverFd ::ₘ (if 0 ≤ s.fd then {s.fd} else 0) := by
      rw [held, if_pos hserver, add_comm, Multiset.singleton_add]
    refine ⟨?_, ?_, h.open_of_connected⟩
    · show openAfter ServerSyscall.use (.close s.serverFd :: .shutdown s.serverFd shutRdwr :: s.calls) = _
      rw [openAfter_shutdown_close, h.open_eq, hheld, Multiset.erase_cons_head]
      exact (held_of_serverFd_neg (s := { s with serverFd := -1 }) (Int.negSucc_lt_zero 0)).symm
    · refine obeys_shutdown_close h.proper ?_
      rw [h.open_eq, hheld]
      exact Multiset.mem_cons_self _ _
  · exact h

theorem closeConnection_fd_neg (s : UnixServerSocket) : s.closeConnection.fd < 0 := by
  unfold closeConnection
  split
  · exact Int.negSucc_lt_zero 0
  · omega

theorem closeListener_serverFd_neg (s : UnixServerSocket) : s.closeListener.serverFd < 0 := by
  unfold closeListener
  split
  · exact Int.negSucc_lt_zero 0
  · omega

theorem closeListener_fd (s : UnixServerSocket) : s.closeListener.fd = s.fd := by
  unfold closeListener
  split <;> rfl

theorem closeConnection_connected (s : UnixServerSocket) : s.closeConnection.connected = s.connected := by
  unfold closeConnection
  split <;> rfl

theorem closeListener_connected (s : UnixServerSocket) : s.closeListener.connected = s.connected := by
  unfold closeListener
  split <;> rfl

theorem close_fd_neg (s : UnixServerSocket) : s.close.fd < 0 := by
  rw [close, closeListener_fd]
  exact closeConnection_fd_neg _

theorem close_serverFd_neg (s : UnixServerSocket) : s.close.serverFd < 0 := closeListener_serverFd_neg _

theorem close_connected (s : UnixServerSocket) : s.close.connected = false := by
  rw [close, closeListener_connected, closeConnection_connected]

theorem Tidy.close (h : s.Tidy) : s.close.Tidy := by
  have hoff : ({ s with connected := false } : UnixServerSocket).Tidy :=
    ⟨h.open_eq, h.proper, fun hon => absurd hon Bool.false_ne_true⟩
  exact (hoff.closeConnection rfl).closeListener

/-- Behind `Close` nothing is open. -/
theorem Tidy.open_close (h : s.Tidy) : openAfter ServerSyscall.use s.close.calls = 0 := by
  rw [h.close.open_eq, held_of_fd_neg s.close_fd_neg, if_neg]
  have hserver := s.close_serverFd_neg
  omega

/-- The conditional `Close` that `AwaitConnection` begins with may as well be a plain one for what it leaves. -/
theorem Tidy.close_if (h : s.Tidy) :
    (if 0 ≤ s.serverFd ∨ 0 ≤ s.fd then s.close else s).Tidy ∧
      (if 0 ≤ s.serverFd ∨ 0 ≤ s.fd then s.close else s).fd < 0 ∧
      (if 0 ≤ s.serverFd ∨ 0 ≤ s.fd then s.close else s).serverFd < 0 := by
  split
  · exact ⟨h.close, s.close_fd_neg, s.close_serverFd_neg⟩
  · exact ⟨h, by omega, by omega⟩

theorem Tidy.openListener (h : s.Tidy) (hfd : s.fd < 0) (hserver : s.serverFd < 0) (result : ℤ) :
    (s.openListener result).Tidy := by
  have hnone : s.held = 0 := by rw [held_of_fd_neg hfd, if_neg (by omega)]
  refine ⟨?_, ⟨h.open_eq.trans hnone, h.proper⟩, h.open_of_connected⟩
  rw [held_of_fd_neg (s := s.openListener result) hfd]
  show openAfter ServerSyscall.use (.socket afUnix result :: s.calls) = if 0 ≤ result then {result} else 0
  by_cases hresult : 0 ≤ result
  · rw [openAfter_cons_acquire (ServerSyscall.use_socket afUnix hresult), h.open_eq, hnone, if_pos hresult,
      Multiset.cons_zero]
  · rw [openAfter_cons_none (ServerSyscall.use_socket_failed afUnix hresult), h.open_eq, hnone,
      if_neg hresult]

theorem Tidy.openConnection (h : s.Tidy) (hfd : s.fd < 0) (hserver : 0 ≤ s.serverFd) (result : ℤ) :
    (s.openConnection result).Tidy := by
  have hlistener : s.held = {s.serverFd} := by rw [held_of_fd_neg hfd, if_pos hserver]
  refine ⟨?_, ⟨h.open_eq.trans hlistener, h.proper⟩, ?_⟩
  · show openAfter ServerSyscall.use (.accept s.serverFd result :: s.calls) =
      (if 0 ≤ result then {result} else 0) + if 0 ≤ s.serverFd then {s.serverFd} else 0
    rw [if_pos hserver]
    by_cases hresult : 0 ≤ result
    · rw [openAfter_cons_acquire (ServerSyscall.use_accept s.serverFd hresult), h.open_eq, hlistener,
        if_pos hresult, Multiset.singleton_add]
    · rw [openAfter_cons_none (ServerSyscall.use_accept_failed s.serverFd hresult), h.open_eq, hlistener,
        if_neg hresult, zero_add]
  · intro hon
    have hopen : 0 ≤ s.fd := h.open_of_connected hon
    omega

/-- `AwaitConnection` leaves the server tidy wherever it ends. -/
theorem Tidy.awaitConnection (h : s.Tidy) (a : Attempt) : (s.awaitConnection a).2.Tidy := by
  obtain ⟨htidy, hfd, hserver⟩ := h.close_if
  unfold UnixServerSocket.awaitConnection
  generalize (if 0 ≤ s.serverFd ∨ 0 ≤ s.fd then s.close else s) = t at htidy hfd hserver ⊢
  have hlistener : (t.openListener a.socket).Tidy := htidy.openListener hfd hserver a.socket
  dsimp only
  split
  · exact hlistener
  rename_i hsocket
  have hopen : 0 ≤ a.socket := not_lt.mp hsocket
  have hheld : (t.openListener a.socket).held = {a.socket} := by
    rw [held_of_fd_neg (s := t.openListener a.socket) hfd]
    exact if_pos hopen
  have hmem : a.socket ∈ (t.openListener a.socket).held := hheld ▸ Multiset.mem_singleton_self _
  have hbind := (hlistener.call (c := .unlink (cString t.serverSocketPath)) rfl trivial).call
    (c := .bind a.socket (cString (t.sunPath ++ t.behind))) rfl hmem
  split
  · exact hbind
  have hchmod := hbind.call (c := .chmod (cString t.serverSocketPath)) rfl trivial
  split
  · exact hchmod
  have hlisten := hchmod.call (c := .listen a.socket maxConnections) rfl hmem
  split
  · exact hlisten
  have haccept := hlisten.openConnection hfd hopen a.accept
  split
  · exact haccept
  rename_i hconnection
  exact ⟨haccept.open_eq, haccept.proper, fun _ => not_lt.mp hconnection⟩

/-- It returns `true`, and the server is connected, if all five calls succeed; otherwise it throws. -/
theorem Tidy.awaitConnection_cases (h : s.Tidy) (a : Attempt) :
    a.Succeeds ∧ (s.awaitConnection a).1 = some true ∧ (s.awaitConnection a).2.connected = true ∧
        (s.awaitConnection a).2.held = {a.accept, a.socket} ∨
      ¬a.Succeeds ∧ (s.awaitConnection a).1 = none ∧ (s.awaitConnection a).2.connected = false := by
  obtain ⟨htidy, hfd, hserver⟩ := h.close_if
  unfold UnixServerSocket.awaitConnection
  generalize (if 0 ≤ s.serverFd ∨ 0 ≤ s.fd then s.close else s) = t at htidy hfd hserver ⊢
  have hoff : t.connected = false := Bool.eq_false_iff.mpr fun hon => by
    have := htidy.open_of_connected hon
    omega
  dsimp only
  split
  · rename_i hfails
    exact .inr ⟨fun ha => absurd ha.socket (not_le.mpr hfails), rfl, hoff⟩
  rename_i hsocket
  split
  · rename_i hfails
    exact .inr ⟨fun ha => absurd ha.bind (not_le.mpr hfails), rfl, hoff⟩
  rename_i hbind
  split
  · rename_i hfails
    exact .inr ⟨fun ha => absurd ha.chmod (not_le.mpr hfails), rfl, hoff⟩
  rename_i hchmod
  split
  · rename_i hfails
    exact .inr ⟨fun ha => absurd ha.listen (not_le.mpr hfails), rfl, hoff⟩
  rename_i hlisten
  split
  · rename_i hfails
    exact .inr ⟨fun ha => absurd ha.accept (not_le.mpr hfails), rfl, hoff⟩
  rename_i haccept
  have hlistener : 0 ≤ a.socket := not_lt.mp hsocket
  have hconnection : 0 ≤ a.accept := not_lt.mp haccept
  refine .inl ⟨⟨hlistener, not_lt.mp hbind, not_lt.mp hchmod, not_lt.mp hlisten, hconnection⟩, rfl, rfl, ?_⟩
  show (if 0 ≤ a.accept then {a.accept} else 0) + (if 0 ≤ a.socket then {a.socket} else 0) =
    ({a.accept, a.socket} : Multiset ℤ)
  rw [if_pos hconnection, if_pos hlistener]
  rfl

theorem Tidy.step (h : s.Tidy) (c : Call) : (s.step c).Tidy := by
  cases c with
  | awaitConnection a => exact h.awaitConnection a
  | close => exact h.close

theorem tidy_run (serverSocketPath behind : List UInt8) (calls : List Call) :
    (run serverSocketPath behind calls).Tidy := by
  have halong : Along UnixServerSocket.step (fun _ _ => True) (construct serverSocketPath behind) calls :=
    along_of_forall (fun _ _ => trivial) _ calls
  exact halong.invariant_foldl (I := Tidy) (fun _ c h _ => h.step c) (tidy_construct serverSocketPath behind)

/-- What a proper call leaves open is two descriptors at most. -/
theorem card_openAfter_le {c : ServerSyscall} {calls : List ServerSyscall}
    (hproper : c.Proper (openAfter ServerSyscall.use calls))
    (h : (openAfter ServerSyscall.use calls).card ≤ 2) :
    (openAfter ServerSyscall.use (c :: calls)).card ≤ 2 := by
  match hc : c.use with
  | none => rwa [openAfter_cons_none hc]
  | some (.release fd) =>
    rw [openAfter_cons_release hc]
    exact (Multiset.card_le_card (Multiset.erase_le fd _)).trans h
  | some (.acquire fd) =>
    rw [openAfter_cons_acquire hc, Multiset.card_cons]
    -- only `socket` and `accept` open anything, and neither is proper with two descriptors open
    cases c with
    | socket domain result =>
      rw [show openAfter ServerSyscall.use calls = 0 from hproper]
      exact Nat.le_succ 1
    | accept listener result =>
      rw [show openAfter ServerSyscall.use calls = {listener} from hproper]
      exact le_refl 2
    | _ => cases hc

/-- `connected_` is about the last call, and about nothing before it. -/
theorem connected_run_iff (serverSocketPath behind : List UInt8) (calls : List Call) :
    (run serverSocketPath behind calls).connected = true ↔
      ∃ before a, calls = before ++ [.awaitConnection a] ∧ a.Succeeds := by
  cases calls using List.reverseRecOn with
  | nil =>
    constructor
    · intro hfalse
      cases hfalse
    · rintro ⟨before, a, hsplit, -⟩
      exact absurd hsplit.symm (List.append_ne_nil_of_right_ne_nil before (List.cons_ne_nil _ _))
  | append_singleton calls c =>
    rw [run_append_singleton]
    constructor
    · intro hon
      cases c with
      | awaitConnection a =>
        rcases (tidy_run serverSocketPath behind calls).awaitConnection_cases a with
          ⟨ha, -⟩ | ⟨-, -, hoff⟩
        · exact ⟨calls, a, rfl, ha⟩
        · exact absurd (hoff.symm.trans hon) Bool.false_ne_true
      | close => exact absurd ((close_connected _).symm.trans hon) Bool.false_ne_true
    · rintro ⟨before, a, hsplit, ha⟩
      obtain ⟨-, hlast⟩ := List.append_inj' hsplit rfl
      cases hlast
      rcases (tidy_run serverSocketPath behind calls).awaitConnection_cases a with
        ⟨-, -, hon, -⟩ | ⟨hfails, -⟩
      · exact hon
      · exact absurd ha hfails

/-- **The server's descriptors.** After any calls with any outcomes the server is connected exactly when the
last call was an `AwaitConnection` none of whose five calls failed (`unlink` may fail), and the connection and its
listener are then what is open.  No system call up to the end of the destructor is made on a descriptor that is not open, or
opens one over another that would be lost; there are never more than two open, and none in the end. -/
theorem server_lifetime (serverSocketPath behind : List UInt8) (calls : List Call) :
    ((run serverSocketPath behind calls).connected = true ↔
        ∃ before a, calls = before ++ [.awaitConnection a] ∧ a.Succeeds) ∧
      (∀ before a, calls = before ++ [.awaitConnection a] → a.Succeeds →
        openAfter ServerSyscall.use (run serverSocketPath behind calls).calls = {a.accept, a.socket}) ∧
      (∀ past, past <:+ (run serverSocketPath behind calls).destroy.calls →
        Obeys ServerSyscall.use ServerSyscall.Proper past ∧ (openAfter ServerSyscall.use past).card ≤ 2) ∧
      openAfter ServerSyscall.use (run serverSocketPath behind calls).destroy.calls = 0 := by
  have htidy : (run serverSocketPath behind calls).Tidy := tidy_run serverSocketPath behind calls
  refine ⟨connected_run_iff serverSocketPath behind calls, ?_, ?_, htidy.open_close⟩
  · rintro before a rfl ha
    have hbefore : (run serverSocketPath behind before).Tidy := tidy_run serverSocketPath behind before
    rw [run_append_singleton] at htidy ⊢
    rcases hbefore.awaitConnection_cases a with ⟨-, -, -, hheld⟩ | ⟨hfails, -⟩
    · exact htidy.open_eq.trans hheld
    · exact absurd ha hfails
  · intro past hpast
    have hobeys : Obeys ServerSyscall.use ServerSyscall.Proper past := htidy.close.proper.of_suffix hpast
    exact ⟨hobeys, hobeys.card_le fun _ _ => card_openAfter_le⟩

end UnixServerSocket

/-! ## One path -/

/-- The file a call of the server names. -/
def ServerSyscall.path : ServerSyscall → Option (List UInt8)
  | .unlink path => some path
  | .bind _ address => some address
  | .chmod path => some path
  | _ => none

/-- The file a call of the client names, in the bytes that the length it passes covers. -/
def dialled : VhalClient.Socket.Syscall → Option (List UInt8)
  | .connect _ (Address.un sunPath behind) len _ => some ((sunPath ++ behind).take (len - 2))
  | _ => none

/-- All the files that a server and a client have named. -/
def paths (server : UnixServerSocket) (client : Impl) : List (List UInt8) :=
  server.calls.filterMap ServerSyscall.path ++ client.calls.filterMap dialled

theorem take_strlen (bytes : List UInt8) : bytes.take (strlen bytes) = cString bytes :=
  (List.prefix_iff_eq_take.mp (List.takeWhile_prefix _)).symm

theorem cString_append {bytes : List UInt8} (h : ∀ b ∈ bytes, b ≠ 0) (more : List UInt8) :
    cString (bytes ++ more) = bytes ++ cString more :=
  List.takeWhile_append_of_pos fun b hb => decide_eq_true (h b hb)

theorem ne_zero_of_mem_cString {path : List UInt8} {b : UInt8} (h : b ∈ cString path) : b ≠ 0 := by
  have hall : (cString path).all (· ≠ 0) = true := List.all_takeWhile
  exact of_decide_eq_true (List.all_eq_true.mp hall b h)

/-- What the array holds of a path that leaves room for its end. -/
theorem cString_strncpySunPath_of_lt {path : List UInt8} (h : (cString path).length < 107)
    (behind : List UInt8) : cString (strncpySunPath path ++ behind) = cString path := by
  obtain ⟨n, hn⟩ : ∃ n, 107 - (cString path).length = n + 1 := ⟨106 - (cString path).length, by omega⟩
  have hcopy : strncpySunPath path = cString path ++ 0 :: List.replicate n 0 := by
    show (cString path).take 107 ++ List.replicate (107 - ((cString path).take 107).length) 0 = _
    rw [List.take_of_length_le h.le, hn, List.replicate_succ]
  rw [hcopy, List.append_assoc, cString_append fun _ => ne_zero_of_mem_cString]
  exact List.append_nil _

/-- A path that fills the array has no end there. -/
theorem cString_strncpySunPath_of_le {path : List UInt8} (h : 107 ≤ (cString path).length)
    (behind : List UInt8) :
    cString (strncpySunPath path ++ behind) = (cString path).take 107 ++ cString behind := by
  have hcopy : strncpySunPath path = (cString path).take 107 := by
    show (cString path).take 107 ++ List.replicate (107 - ((cString path).take 107).length) 0 = _
    rw [List.length_take, min_eq_left h, Nat.sub_self, List.replicate_zero, List.append_nil]
  rw [hcopy, cString_append fun _ hb => ne_zero_of_mem_cString (List.mem_of_mem_take hb)]

namespace UnixServerSocket

/-- The path is still the constructor's, and each file named so far is it or what the array holds of it. -/
structure Addressed (serverSocketPath behind : List UInt8) (s : UnixServerSocket) : Prop where
  sunPath_eq : s.sunPath = strncpySunPath serverSocketPath
  behind_eq : s.behind = behind
  path_eq : s.serverSocketPath = serverSocketPath
  named : ∀ p ∈ s.calls.filterMap ServerSyscall.path,
    p = cString serverSocketPath ∨ p = cString (strncpySunPath serverSocketPath ++ behind)

variable {serverSocketPath behind : List UInt8} {s : UnixServerSocket}

theorem addressed_construct : (construct serverSocketPath behind).Addressed serverSocketPath behind :=
  ⟨rfl, rfl, rfl, fun _ h => absurd h List.not_mem_nil⟩

theorem Addressed.call (h : s.Addressed serverSocketPath behind) {c : ServerSyscall}
    (hc : ∀ p, c.path = some p →
      p = cString serverSocketPath ∨ p = cString (strncpySunPath serverSocketPath ++ behind)) :
    (s.call c).Addressed serverSocketPath behind := by
  refine ⟨h.sunPath_eq, h.behind_eq, h.path_eq, ?_⟩
  intro p hp
  obtain ⟨c', hmem, hpath⟩ := List.mem_filterMap.mp hp
  rcases List.mem_cons.mp hmem with rfl | hmem
  · exact hc p hpath
  · exact h.named p (List.mem_filterMap.mpr ⟨c', hmem, hpath⟩)

/-- A call that names no file. -/
theorem Addressed.call_none (h : s.Addressed serverSocketPath behind) {c : ServerSyscall} (hc : c.path = none) :
    (s.call c).Addressed serverSocketPath behind :=
  h.call fun _ hp => absurd (hc.symm.trans hp) (Option.some_ne_none _).symm

/-- Nothing else is read of the state. -/
theorem Addressed.of_eq (h : s.Addressed serverSocketPath behind) {t : UnixServerSocket}
    (hsun : t.sunPath = s.sunPath) (hbehind : t.behind = s.behind)
    (hpath : t.serverSocketPath = s.serverSocketPath) (hcalls : t.calls = s.calls) :
    t.Addressed serverSocketPath behind :=
  ⟨hsun.trans h.sunPath_eq, hbehind.trans h.behind_eq, hpath.trans h.path_eq, hcalls ▸ h.named⟩

theorem Addressed.close (h : s.Addressed serverSocketPath behind) :
    s.close.Addressed serverSocketPath behind := by
  have hoff : ({ s with connected := false } : UnixServerSocket).Addressed serverSocketPath behind :=
    h.of_eq rfl rfl rfl rfl
  have hconnection : ({ s with connected := false } : UnixServerSocket).closeConnection.Addressed
      serverSocketPath behind := by
    unfold UnixServerSocket.closeConnection
    split
    · exact ((hoff.call_none (c := .shutdown s.fd shutRdwr) rfl).call_none
        (c := .close s.fd) rfl).of_eq rfl rfl rfl rfl
    · exact hoff
  unfold UnixServerSocket.close UnixServerSocket.closeListener
  split
  · exact ((hconnection.call_none (c := .shutdown _ shutRdwr) rfl).call_none
      (c := .close _) rfl).of_eq rfl rfl rfl rfl
  · exact hconnection

theorem Addressed.openListener (h : s.Addressed serverSocketPath behind) (result : ℤ) :
    (s.openListener result).Addressed serverSocketPath behind :=
  (h.call_none (c := .socket afUnix result) rfl).of_eq rfl rfl rfl rfl

theorem Addressed.openConnection (h : s.Addressed serverSocketPath behind) (result : ℤ) :
    (s.openConnection result).Addressed serverSocketPath behind :=
  (h.call_none (c := .accept s.serverFd result) rfl).of_eq rfl rfl rfl rfl

theorem Addressed.awaitConnection (h : s.Addressed serverSocketPath behind) (a : Attempt) :
    (s.awaitConnection a).2.Addressed serverSocketPath behind := by
  have hclose : (if 0 ≤ s.serverFd ∨ 0 ≤ s.fd then s.close else s).Addressed serverSocketPath behind := by
    split
    · exact h.close
    · exact h
  unfold UnixServerSocket.awaitConnection
  generalize (if 0 ≤ s.serverFd ∨ 0 ≤ s.fd then s.close else s) = t at hclose ⊢
  have hlistener := hclose.openListener a.socket
  dsimp only
  split
  · exact hlistener
  have hunlink := hlistener.call (c := .unlink (cString t.serverSocketPath)) fun p hp =>
    .inl (by cases hp; rw [hclose.path_eq])
  have hbind := hunlink.call (c := .bind a.socket (cString (t.sunPath ++ t.behind))) fun p hp =>
    .inr (by cases hp; rw [hclose.sunPath_eq, hclose.behind_eq])
  split
  · exact hbind
  have hchmod := hbind.call (c := .chmod (cString t.serverSocketPath)) fun p hp =>
    .inl (by cases hp; rw [hclose.path_eq])
  split
  · exact hchmod
  have hlisten := hchmod.call_none (c := .listen a.socket maxConnections) rfl
  split
  · exact hlisten
  have haccept := hlisten.openConnection a.accept
  split
  · exact haccept
  · exact haccept.of_eq rfl rfl rfl rfl

theorem addressed_run (serverSocketPath behind : List UInt8) (calls : List Call) :
    (run serverSocketPath behind calls).Addressed serverSocketPath behind := by
  have halong : Along UnixServerSocket.step (fun _ _ => True) (construct serverSocketPath behind) calls :=
    along_of_forall (fun _ _ => trivial) _ calls
  refine halong.invariant_foldl (I := Addressed serverSocketPath behind) ?_ addressed_construct
  intro t c h _
  cases c with
  | awaitConnection a => exact h.awaitConnection a
  | close => exact h.close

end UnixServerSocket

/-- The client's address is still the constructor's, and the file it dials is what the array holds of the path. -/
structure Dials (remoteServerSocketPath behind : List UInt8) (c : Impl) : Prop where
  address_eq : c.address = .un (strncpySunPath remoteServerSocketPath) behind
  named : ∀ p ∈ c.calls.filterMap dialled, p = cString (strncpySunPath remoteServerSocketPath ++ behind)

section

variable {remoteServerSocketPath behind : List UInt8} {c : Impl}

theorem Dials.close (h : Dials remoteServerSocketPath behind c) :
    Dials remoteServerSocketPath behind c.close := by
  unfold Impl.close
  split
  · exact ⟨h.address_eq, h.named⟩
  · exact ⟨h.address_eq, h.named⟩

theorem Dials.connect (h : Dials remoteServerSocketPath behind c) (d : Dial) :
    Dials remoteServerSocketPath behind (Socket.UnixStreamSocketClient.connect d c).2 := by
  have hclose : Dials remoteServerSocketPath behind (if 0 ≤ c.fd then c.close else c) := by
    split
    · exact h.close
    · exact h
  unfold Socket.UnixStreamSocketClient.connect Impl.connect
  rw [h.address_eq]
  generalize (if 0 ≤ c.fd then c.close else c) = t at hclose ⊢
  dsimp only
  split
  · exact ⟨hclose.address_eq, hclose.named⟩
  refine ⟨hclose.address_eq, ?_⟩
  intro p hp
  have hdialled : dialled (.connect d.socket t.address
      (Socket.UnixStreamSocketClient.len (.un (strncpySunPath remoteServerSocketPath) behind)) d.connect) =
      some (cString (strncpySunPath remoteServerSocketPath ++ behind)) := by
    rw [hclose.address_eq, ← take_strlen]
    rfl
  rw [List.filterMap_cons_some hdialled, List.mem_cons] at hp
  exact hp.elim id fun hp => hclose.named p hp

theorem dials_run (calls : List Socket.Call) : Dials remoteServerSocketPath behind
    ((Client.unix remoteServerSocketPath behind).run calls) := by
  have halong : Along (Client.unix remoteServerSocketPath behind).step (fun _ _ => True)
      (Client.unix remoteServerSocketPath behind).construct calls :=
    along_of_forall (fun _ _ => trivial) _ calls
  refine halong.invariant_foldl (I := Dials remoteServerSocketPath behind) ?_
    ⟨rfl, fun _ h => absurd h List.not_mem_nil⟩
  intro t call h _
  cases call with
  | connect d => exact h.connect d
  | close => exact h.close

end

/-- **One path for both.** A server and a client are made with the same path.  Whatever calls they make and
whatever stands in memory behind the 107 bytes that are written of their address arrays, the last byte of the arrays
included, the file named to `unlink`, `bind`, `chmod` and `connect` is the one of that path, if and only if the path
has fewer than 107 bytes.  An empty path is named, too, though it cannot be bound. -/
theorem one_path_iff (path : List UInt8) :
    (∀ behind behind' calls calls', ∀ p ∈ paths (UnixServerSocket.run path behind calls)
        ((Client.unix path behind').run calls'), p = cString path) ↔
      (cString path).length < 107 := by
  constructor
  · intro h
    by_contra hfull
    -- one `AwaitConnection`, with nothing and with a byte behind the array
    have hbound : ∀ behind, (cString path).take 107 ++ cString behind = cString path := by
      intro behind
      rw [← cString_strncpySunPath_of_le (not_lt.mp hfull)]
      refine h behind [] [.awaitConnection ⟨3, 0, 0, 0, 4⟩] [] _ ?_
      show _ ∈ [cString path, cString (strncpySunPath path ++ behind), cString path]
      exact List.mem_cons_of_mem _ List.mem_cons_self
    have hnothing := congrArg List.length (hbound [])
    have hbyte := congrArg List.length (hbound [1])
    rw [List.length_append] at hnothing hbyte
    have hone : (cString [1]).length = 1 := rfl
    have hzero : (cString []).length = 0 := rfl
    omega
  · intro hroom behind behind' calls calls' p hp
    rcases List.mem_append.mp hp with hserver | hclient
    · rcases (UnixServerSocket.addressed_run path behind calls).named p hserver with heq | heq
      · exact heq
      · exact heq.trans (cString_strncpySunPath_of_lt hroom behind)
    · exact ((dials_run calls').named p hclient).trans (cString_strncpySunPath_of_lt hroom behind')

end VhalClient.Emulator
