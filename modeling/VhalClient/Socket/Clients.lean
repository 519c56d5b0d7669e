/-
# VhalClient.Socket.Clients — the descriptors of the three stream clients.

`UnixStreamSocketClient`, `TcpStreamSocketClient` and `VsockStreamSocketClient` are three copies of one class:
what each `Impl` has of its own is the address its constructor fills in, the domain it asks a socket of and the
length it passes to `::connect`.  Here the system calls a client makes are kept, newest first, so that the
descriptors it was given and gave up are read off the calls and not off the member `fd_`.

`descriptors_of_lifetime` is about every client and every order of `Connect` and `Close`, with any results of
`::socket` and `::connect`, up to the destructor.  A `Connect` that fails leaves an open descriptor behind and
`connected_` false, a `Connect` that throws leaves the value of `connected_` that was there: what carries the
proof is that a client which is connected has a descriptor.  `toStreamClient_connect` and `toStreamClient_close`
say that a talker, which sees only the two members, may use `StreamClient` in the place of any of the three.
-/
import VhalClient.Lib.Run
import VhalClient.Lib.Lease
import VhalClient.Socket.StreamClient

namespace VhalClient.Socket

open VhalClient.Lib

/-! ## `<sys/socket.h>` -/

def afUnix : ℤ := 1

def afInet : ℤ := 2

def afVsock : ℤ := 40

def shutRdwr : ℤ := 2

/-- `sockaddr_un`, `sockaddr_in` and `sockaddr_vm`; the family is the constructor's. -/
inductive Address where
  /-- `behind` is what stands in memory behind the bytes that `strncpy` wrote. -/
  | un (sunPath : List UInt8) (behind : List UInt8)
  | inet (sinPort : UInt16) (sinAddr : UInt32)
  | vm (svmCid : UInt32) (svmPort : UInt32)
  deriving DecidableEq, Repr

inductive Syscall where
  | socket (domain : ℤ) (result : ℤ)
  | connect (fd : ℤ) (address : Address) (len : ℕ) (result : ℤ)
  | shutdown (fd : ℤ) (how : ℤ)
  | close (fd : ℤ)
  deriving DecidableEq, Repr

/-! ## The class -/

/-- The members, and the system calls made so far, newest first. -/
structure Impl where
  address : Address
  fd : ℤ
  connected : Bool
  calls : List Syscall
  deriving DecidableEq, Repr

namespace Impl

def construct (address : Address) : Impl := ⟨address, -1, false, []⟩

def close (c : Impl) : Impl :=
  if c.fd < 0 then { c with connected := false }
  else { c with connected := false, fd := -1, calls := .close c.fd :: .shutdown c.fd shutRdwr :: c.calls }

/-- `Connect`, for the domain and the length of the address that the client has of its own. -/
def connect (domain : ℤ) (len : ℕ) (d : Dial) (c : Impl) : Connection × Impl :=
  let c := if 0 ≤ c.fd then c.close else c
  let c := { c with fd := d.socket, calls := .socket domain d.socket :: c.calls }
  if c.fd < 0 then (.threw, c)
  else
    let connected : Bool := d.connect = 0
    (.returned connected (if connected then "" else d.strerror),
      { c with connected := connected, calls := .connect c.fd c.address len d.connect :: c.calls })

/-- `~Impl` -/
def destroy (c : Impl) : Impl := c.close

end Impl

/-! ## The three clients -/

/-- `strncpy(sun_path, path, sizeof(sun_path) - 1)`: 107 bytes, filled up with zeros. -/
def strncpySunPath (path : List UInt8) : List UInt8 :=
  let copied := (path.takeWhile (· ≠ 0)).take 107
  copied ++ List.replicate (107 - copied.length) 0

def strlen (bytes : List UInt8) : ℕ := (bytes.takeWhile (· ≠ 0)).length

namespace UnixStreamSocketClient

def construct (remoteServerSocketPath behind : List UInt8) : Impl :=
  .construct (.un (strncpySunPath remoteServerSocketPath) behind)

/-- `strlen(remote_.sun_path) + sizeof(remote_.sun_family)` -/
def len : Address → ℕ
  | .un sunPath behind => strlen (sunPath ++ behind) + 2
  | _ => 0

def connect (d : Dial) (c : Impl) : Connection × Impl := c.connect afUnix (len c.address) d

end UnixStreamSocketClient

namespace TcpStreamSocketClient

def htons (port : UInt16) : UInt16 := port <<< 8 ||| port >>> 8

/-- `sinAddr` is what `inet_pton` leaves in the member. -/
def construct (sinAddr : UInt32) (port : ℤ) : Impl :=
  .construct (.inet (htons (UInt16.ofInt port)) sinAddr)

def connect (d : Dial) (c : Impl) : Connection × Impl := c.connect afInet 16 d

end TcpStreamSocketClient

namespace VsockStreamSocketClient

def defaultPortCamera : UInt32 := 1982

def construct (androidVmCid : ℤ) : Impl := .construct (.vm (UInt32.ofInt androidVmCid) defaultPortCamera)

def connect (d : Dial) (c : Impl) : Connection × Impl := c.connect afVsock 16 d

end VsockStreamSocketClient

/-- Which client is made, and the arguments of its constructor. -/
inductive Client where
  | unix (remoteServerSocketPath behind : List UInt8)
  | tcp (sinAddr : UInt32) (port : ℤ)
  | vsock (androidVmCid : ℤ)
  deriving DecidableEq, Repr

/-- A call of the client's user. -/
inductive Call where
  | connect (d : Dial)
  | close

namespace Client

def construct : Client → Impl
  | unix path behind => UnixStreamSocketClient.construct path behind
  | tcp sinAddr port => TcpStreamSocketClient.construct sinAddr port
  | vsock cid => VsockStreamSocketClient.construct cid

def connect : Client → Dial → Impl → Connection × Impl
  | unix _ _ => UnixStreamSocketClient.connect
  | tcp _ _ => TcpStreamSocketClient.connect
  | vsock _ => VsockStreamSocketClient.connect

def step (client : Client) (c : Impl) : Call → Impl
  | .connect d => (client.connect d c).2
  | .close => c.close

def run (client : Client) (calls : List Call) : Impl := calls.foldl client.step client.construct

/-- Each client's `Connect` is the shared one, for a domain and a length of its own. -/
theorem connect_eq (client : Client) (c : Impl) :
    ∃ domain len, ∀ d, client.connect d c = c.connect domain len d := by
  cases client with
  | unix path behind => exact ⟨afUnix, UnixStreamSocketClient.len c.address, fun _ => rfl⟩
  | tcp sinAddr port => exact ⟨afInet, 16, fun _ => rfl⟩
  | vsock cid => exact ⟨afVsock, 16, fun _ => rfl⟩

theorem construct_eq (client : Client) : ∃ address, client.construct = .construct address := by
  cases client <;> exact ⟨_, rfl⟩

end Client

/-! ## What the calls say -/

def Syscall.use : Syscall → Option (Use ℤ)
  | .socket _ result => if 0 ≤ result then some (.acquire result) else none
  | .close fd => some (.release fd)
  | _ => none

def uses (calls : List Syscall) : List (Use ℤ) := calls.filterMap Syscall.use

/-- The descriptor that `::socket` gave a call. -/
def Call.descriptor : Call → Option ℤ
  | .connect d => if 0 ≤ d.socket then some d.socket else none
  | .close => none

def Dial.Succeeds (d : Dial) : Prop := 0 ≤ d.socket ∧ d.connect = 0

@[simp] theorem uses_nil : uses [] = [] := rfl

@[simp] theorem uses_close (fd : ℤ) (calls : List Syscall) :
    uses (.close fd :: calls) = .release fd :: uses calls := rfl

@[simp] theorem uses_shutdown (fd how : ℤ) (calls : List Syscall) :
    uses (.shutdown fd how :: calls) = uses calls := rfl

@[simp] theorem uses_connect (fd : ℤ) (address : Address) (len : ℕ) (result : ℤ) (calls : List Syscall) :
    uses (.connect fd address len result :: calls) = uses calls := rfl

theorem uses_socket {result : ℤ} (domain : ℤ) (calls : List Syscall) (h : 0 ≤ result) :
    uses (.socket domain result :: calls) = .acquire result :: uses calls := by
  rw [uses, List.filterMap_cons_some (by rw [Syscall.use, if_pos h])]
  rfl

theorem uses_socket_failed {result : ℤ} (domain : ℤ) (calls : List Syscall) (h : result < 0) :
    uses (.socket domain result :: calls) = uses calls := by
  rw [uses, List.filterMap_cons_none (by rw [Syscall.use, if_neg (by omega)])]
  rfl

/-! ## Two members in step -/

namespace Impl

/-- The descriptor in `fd_`. -/
def held (c : Impl) : Option ℤ := if 0 ≤ c.fd then some c.fd else none

/-- A client that is connected has a descriptor, and the descriptor in `fd_` is the one not yet closed. -/
structure Consistent (c : Impl) : Prop where
  open_of_connected : c.connected = true → 0 ≤ c.fd
  lease : Leased (uses c.calls) c.held

theorem held_of_nonneg {c : Impl} (h : 0 ≤ c.fd) : c.held = some c.fd := if_pos h

theorem held_of_neg {c : Impl} (h : c.fd < 0) : c.held = none := if_neg (by omega)

theorem consistent_construct (address : Address) : (construct address).Consistent := by
  refine ⟨?_, leased_nil⟩
  intro h
  cases h

theorem close_of_neg {c : Impl} (h : c.fd < 0) : c.close = { c with connected := false } := if_pos h

theorem close_of_nonneg {c : Impl} (h : 0 ≤ c.fd) :
    c.close = { c with
      connected := false
      fd := -1
      calls := .close c.fd :: .shutdown c.fd shutRdwr :: c.calls } := if_neg (by omega)

theorem connected_close (c : Impl) : c.close.connected = false := by
  unfold close
  split <;> rfl

theorem fd_close_neg (c : Impl) : c.close.fd < 0 := by
  unfold close
  split
  · assumption
  · exact Int.negSucc_lt_zero 0

/-- A second `Close` does nothing, and makes no system call. -/
theorem close_close (c : Impl) : c.close.close = c.close := by
  rw [close_of_neg c.fd_close_neg, ← c.connected_close]

theorem acquired_close (c : Impl) : acquired (uses c.close.calls) = acquired (uses c.calls) := by
  unfold close
  split <;> rfl

theorem Consistent.leased_close {c : Impl} (h : c.Consistent) : Leased (uses c.close.calls) none := by
  have hlease := h.lease
  by_cases hfd : 0 ≤ c.fd
  · rw [held_of_nonneg hfd] at hlease
    rw [close_of_nonneg hfd, uses_close, uses_shutdown]
    exact hlease.release
  · rw [held_of_neg (by omega)] at hlease
    rw [close_of_neg (by omega)]
    exact hlease

theorem Consistent.close {c : Impl} (h : c.Consistent) : c.close.Consistent := by
  refine ⟨?_, ?_⟩
  · intro hconnected
    rw [connected_close] at hconnected
    cases hconnected
  · rw [held_of_neg c.fd_close_neg]
    exact h.leased_close

/-- With the invariant, the conditional `Close` of `Connect` may as well be a plain one. -/
theorem Consistent.close_if {c : Impl} (h : c.Consistent) : (if 0 ≤ c.fd then c.close else c) = c.close := by
  split
  · rfl
  · rename_i hfd
    have hoff : c.connected = false := Bool.eq_false_iff.mpr fun hon => hfd (h.open_of_connected hon)
    rw [close_of_neg (by omega), ← hoff]

/-- `Connect` without a socket: it throws, and leaves what `Close` leaves. -/
theorem Consistent.connect_threw {c : Impl} (h : c.Consistent) (domain : ℤ) (len : ℕ) {d : Dial}
    (hsocket : d.socket < 0) :
    c.connect domain len d =
      (.threw, { c.close with fd := d.socket, calls := .socket domain d.socket :: c.close.calls }) := by
  unfold Impl.connect
  rw [h.close_if]
  exact if_pos hsocket

/-- `Connect` with a socket. -/
theorem Consistent.connect_returned {c : Impl} (h : c.Consistent) (domain : ℤ) (len : ℕ) {d : Dial}
    (hsocket : 0 ≤ d.socket) :
    (c.connect domain len d).2 =
      { c.close with
        fd := d.socket
        connected := d.connect = 0
        calls := .connect d.socket c.close.address len d.connect :: .socket domain d.socket ::
          c.close.calls } := by
  unfold Impl.connect
  rw [h.close_if]
  dsimp only
  rw [if_neg (by omega)]

theorem Consistent.connect {c : Impl} (h : c.Consistent) (domain : ℤ) (len : ℕ) (d : Dial) :
    (c.connect domain len d).2.Consistent := by
  by_cases hsocket : 0 ≤ d.socket
  · rw [h.connect_returned domain len hsocket]
    refine ⟨fun _ => hsocket, ?_⟩
    rw [held_of_nonneg hsocket, uses_connect, uses_socket _ _ hsocket]
    exact h.leased_close.acquire d.socket
  · rw [h.connect_threw domain len (by omega)]
    refine ⟨?_, ?_⟩
    · intro hconnected
      rw [connected_close] at hconnected
      cases hconnected
    · rw [held_of_neg (by dsimp only; omega), uses_socket_failed _ _ (by omega)]
      exact h.leased_close

/-- `connected_` after a `Connect`. -/
theorem Consistent.connected_connect {c : Impl} (h : c.Consistent) (domain : ℤ) (len : ℕ) (d : Dial) :
    (c.connect domain len d).2.connected = true ↔ d.Succeeds := by
  by_cases hsocket : 0 ≤ d.socket
  · rw [h.connect_returned domain len hsocket, decide_eq_true_iff, Dial.Succeeds]
    exact (and_iff_right hsocket).symm
  · rw [h.connect_threw domain len (by omega), connected_close]
    exact ⟨fun hfalse => absurd hfalse Bool.false_ne_true, fun hd => absurd hd.1 hsocket⟩

theorem fd_connect (c : Impl) (domain : ℤ) (len : ℕ) (d : Dial) :
    (c.connect domain len d).2.fd = d.socket := by
  unfold Impl.connect
  dsimp only
  split <;> rfl

/-- What a client has acquired grows by the descriptor of a `Connect`. -/
theorem Consistent.acquired_connect {c : Impl} (h : c.Consistent) (domain : ℤ) (len : ℕ) (d : Dial) :
    acquired (uses (c.connect domain len d).2.calls) =
      acquired (uses c.calls) ++ (Call.connect d).descriptor.toList := by
  rw [Call.descriptor]
  by_cases hsocket : 0 ≤ d.socket
  · rw [h.connect_returned domain len hsocket, uses_connect, uses_socket _ _ hsocket, acquired,
      c.acquired_close, if_pos hsocket, Option.toList_some]
  · rw [h.connect_threw domain len (by omega), uses_socket_failed _ _ (by omega), c.acquired_close,
      if_neg hsocket, Option.toList_none, List.append_nil]

end Impl

/-! ## A lifetime -/

namespace Client

variable (client : Client)

theorem run_append_singleton (calls : List Call) (call : Call) :
    client.run (calls ++ [call]) = client.step (client.run calls) call := by
  rw [run, List.foldl_append, List.foldl_cons, List.foldl_nil, ← run]

theorem consistent_step {c : Impl} (h : c.Consistent) (call : Call) : (client.step c call).Consistent := by
  cases call with
  | connect d =>
    obtain ⟨domain, len, heq⟩ := client.connect_eq c
    rw [step, heq]
    exact h.connect domain len d
  | close => exact h.close

theorem consistent_run (calls : List Call) : (client.run calls).Consistent := by
  obtain ⟨address, heq⟩ := client.construct_eq
  have hinit : client.construct.Consistent := heq ▸ Impl.consistent_construct address
  have halong : Along client.step (fun _ _ => True) client.construct calls :=
    along_of_forall (fun _ _ => trivial) _ calls
  exact halong.invariant_foldl (I := Impl.Consistent) (fun _ call h _ => client.consistent_step h call) hinit

/-- The descriptors a client has acquired are those that `::socket` gave its calls, in order. -/
theorem acquired_run (calls : List Call) :
    acquired (uses (client.run calls).calls) = calls.filterMap Call.descriptor := by
  induction calls using List.reverseRecOn with
  | nil =>
    obtain ⟨address, heq⟩ := client.construct_eq
    rw [run, List.foldl_nil, heq]
    rfl
  | append_singleton calls call ih =>
    rw [run_append_singleton, List.filterMap_append, ← ih]
    cases call with
    | connect d =>
      obtain ⟨domain, len, heq⟩ := client.connect_eq (client.run calls)
      rw [step, heq, (client.consistent_run calls).acquired_connect domain len d]
      rfl
    | close =>
      rw [step, Impl.acquired_close]
      exact (List.append_nil _).symm

/-- `connected_` is about the last call, and about nothing before it. -/
theorem connected_run_iff (calls : List Call) :
    (client.run calls).connected = true ↔ ∃ before d, calls = before ++ [.connect d] ∧ d.Succeeds := by
  cases calls using List.reverseRecOn with
  | nil =>
    obtain ⟨address, heq⟩ := client.construct_eq
    rw [run, List.foldl_nil, heq]
    simp [Impl.construct]
  | append_singleton calls call =>
    rw [run_append_singleton]
    cases call with
    | connect d =>
      obtain ⟨domain, len, heq⟩ := client.connect_eq (client.run calls)
      rw [step, heq, (client.consistent_run calls).connected_connect domain len d]
      constructor
      · intro hd
        exact ⟨calls, d, rfl, hd⟩
      · rintro ⟨before, d', hsplit, hd'⟩
        obtain ⟨-, hlast⟩ := List.append_inj' hsplit rfl
        cases hlast
        exact hd'
    | close =>
      rw [step, Impl.connected_close]
      constructor
      · intro hfalse
        cases hfalse
      · rintro ⟨before, d, hsplit, -⟩
        obtain ⟨-, hlast⟩ := List.append_inj' hsplit rfl
        cases hlast

theorem fd_run_connect (before : List Call) (d : Dial) :
    (client.run (before ++ [.connect d])).fd = d.socket := by
  rw [run_append_singleton]
  obtain ⟨domain, len, heq⟩ := client.connect_eq (client.run before)
  rw [step, heq, Impl.fd_connect]

/-- **A client's descriptors.** Each of the three clients, after any calls, is connected exactly when the last
of them was a `Connect` that succeeded, and `fd_` is then that connection's descriptor.  The descriptors that
`::socket` gave it are closed in order and once each when the destructor has run, with never two open on the
way, and a `Close` behind a `Close` does nothing. -/
theorem descriptors_of_lifetime (client : Client) (calls : List Call) :
    ((client.run calls).connected = true ↔ ∃ before d, calls = before ++ [.connect d] ∧ d.Succeeds) ∧
      (∀ before d, calls = before ++ [.connect d] → d.Succeeds → (client.run calls).fd = d.socket) ∧
      (∀ u, u <:+ uses (client.run calls).destroy.calls → AtMostOne u) ∧
      acquired (uses (client.run calls).destroy.calls) = calls.filterMap Call.descriptor ∧
      released (uses (client.run calls).destroy.calls) = calls.filterMap Call.descriptor ∧
      (client.run calls).close.close = (client.run calls).close := by
  have hlease : Leased (uses (client.run calls).destroy.calls) none :=
    (client.consistent_run calls).leased_close
  have hacquired : acquired (uses (client.run calls).destroy.calls) = calls.filterMap Call.descriptor := by
    rw [Impl.destroy, Impl.acquired_close, client.acquired_run]
  refine ⟨client.connected_run_iff calls, ?_, hlease.always, hacquired, ?_, (client.run calls).close_close⟩
  · rintro before d rfl -
    exact client.fd_run_connect before d
  · rw [hlease.settled, hacquired]

end Client

/-! ## What a talker sees -/

namespace Impl

def closedBy : List Syscall → List ℤ
  | [] => []
  | .close fd :: calls => fd :: closedBy calls
  | _ :: calls => closedBy calls

/-- The two members, and the descriptors closed so far. -/
def toStreamClient (c : Impl) : StreamClient := ⟨c.fd, c.connected, closedBy c.calls⟩

theorem toStreamClient_construct (address : Address) : (construct address).toStreamClient = .initial := rfl

theorem toStreamClient_close (c : Impl) : c.close.toStreamClient = c.toStreamClient.close := by
  by_cases hfd : c.fd < 0
  · rw [close_of_neg hfd]
    exact (if_pos hfd).symm
  · rw [close_of_nonneg (by omega)]
    exact (if_neg hfd).symm

theorem toStreamClient_connect (domain : ℤ) (len : ℕ) (d : Dial) (c : Impl) :
    ((c.connect domain len d).1, (c.connect domain len d).2.toStreamClient) = c.toStreamClient.connect d := by
  have hclose : (if 0 ≤ c.fd then c.close else c).toStreamClient =
      if 0 ≤ c.toStreamClient.fd then c.toStreamClient.close else c.toStreamClient := by
    rw [apply_ite toStreamClient, toStreamClient_close]
    rfl
  unfold StreamClient.connect Impl.connect
  rw [← hclose]
  dsimp only
  split <;> rfl

end Impl

end VhalClient.Socket
