/-
# VhalClient.Gps.GpsReceiver — `VirtualGpsReceiver` and its worker.

The worker of the GPS receiver alternates between a test of `mStop` and `Connected`, a `Connect` and a
`Read` of one command byte, and the moves of the destructor can fall between any two of these: it sets `mStop` and
takes the socket away step by step, with nothing that keeps the worker from the same descriptor meanwhile.  Every
`Connect` and `Read` the worker makes while `mStop` is false is kept, newest first, with what it returned.  A move
of the worker is one call here; `VhalClient.Gps.Sockets` takes it apart.

The recovery of a lost connection is spread over four functions: `Read` disconnects at the end of the
stream but not after an error, `Connected` looks at the descriptor only, and the worker goes round after
an error but leaves its loop at the end of the stream.  `recovers_iff_sound` is the sum: the worker
reconnects after every failed `Read` exactly in the runs without an end of stream and without an error on a
descriptor above 0.
-/
import VhalClient.Lib.Run
import Mathlib.Data.Stream.Defs
import Mathlib.Data.UInt

namespace VhalClient.Gps

open VhalClient.Lib

/-! ## The socket -/

/-- What one `read` returns: bytes, 0, or -1 with `errno`, which is `EINTR` or another.  The text is what
`strerror(errno)` gives behind the call. -/
inductive Sys where
  | bytes (b : UInt8) (bs : List UInt8)
  | closed (strerror : String)
  | eintr (strerror : String)
  | error (strerror : String)

/-- The answers to `socket` and `connect`, and the text behind a failure. -/
structure Dial where
  socket : ℤ
  res : ℤ
  strerror : String

/-- A call of the worker on the socket, with the number it returned. -/
inductive Op where
  | connect (connected : Bool)
  | read (res : ℤ)
  deriving DecidableEq, Repr

/-- `Read` returned no byte. -/
def Op.Fails : Op → Prop
  | .connect _ => False
  | .read res => res ≤ 0

/-- Where the worker is. -/
inductive Pc where
  /-- Before the test of `mStop`. -/
  | loop
  | connect
  | read
  /-- Behind the loop. -/
  | exited
  deriving DecidableEq, Repr

/-- Where the destructor is. -/
inductive Teardown where
  /-- Not called, or before the store to `mStop`. -/
  | store
  /-- Before its test of `mSockGps`. -/
  | test
  /-- In `Disconnect`: before its test of `mSockGps`, and before each of the three things it does. -/
  | disconnect
  | shutdown
  | close
  | forget
  | join
  deriving DecidableEq, Repr

/-- The members of `VirtualGpsReceiver`, its two threads, and what was done so far. -/
structure Receiver where
  /-- `mTci.port` -/
  tciPort : UInt16
  mPort : UInt16
  /-- `mGpsCmdHandler` is set. -/
  hasHandler : Bool
  mSockGps : ℤ
  mStop : Bool
  pc : Pc
  teardown : Teardown
  /-- The worker's calls on the socket while `mStop` was false, newest first. -/
  ops : List Op
  /-- The descriptors closed, newest first. -/
  closed : List ℤ
  /-- The commands the handler was called with, newest first. -/
  handled : List UInt32

namespace Receiver

/-- A constructed receiver. -/
def initial (tciPort : UInt16) (hasHandler : Bool) : Receiver where
  tciPort := tciPort
  mPort := 8766
  hasHandler := hasHandler
  mSockGps := -1
  mStop := false
  pc := .loop
  teardown := .store
  ops := []
  closed := []
  handled := []

/-- `close` of the socket, and `mSockGps = -1`, with nothing between them. -/
def closeSock (s : Receiver) : Receiver := { s with mSockGps := -1, closed := s.mSockGps :: s.closed }

def disconnect (s : Receiver) : (Bool × String) × Receiver :=
  if s.mSockGps < 0 then ((true, ""), s) else ((true, ""), s.closeSock)

def connected (s : Receiver) : Bool := 0 < s.mSockGps

def connect (d : Dial) (s : Receiver) : (Bool × String) × Receiver :=
  let s := if 0 ≤ s.mSockGps then s.disconnect.2 else s
  let s := if s.tciPort ≠ 0 then { s with mPort := s.tciPort } else s
  let s := { s with mSockGps := d.socket }
  if s.mSockGps < 0 then ((false, d.strerror), s)
  else if d.res < 0 then ((false, d.strerror), s.closeSock)
  else ((true, ""), s)

/-! ## `Read` -/

/-- `do ... while (size < 0 && errno == EINTR && (--attempt > 0))`: the last answer, what is left of the
attempts, and the answers to the calls that come later. -/
def retry (attempt : UInt32) (calls : Stream' Sys) : Sys × UInt32 × Stream' Sys :=
  match calls.head with
  | .eintr e =>
    if 0 < attempt - 1 then retry (attempt - 1) calls.tail else (.eintr e, attempt - 1, calls.tail)
  | r => (r, attempt, calls.tail)
termination_by (attempt - 1).toNat
decreasing_by
  have hpos : 0 < (attempt - 1).toNat := by simpa [UInt32.lt_iff_toNat_lt] using ‹0 < attempt - 1›
  have hle : 1 ≤ attempt - 1 := by
    rw [UInt32.le_iff_toNat_le]
    exact hpos
  rw [UInt32.toNat_sub_of_le _ _ hle]
  exact Nat.sub_lt hpos Nat.one_pos

/-- The loop of `Read`: `buf` is what is stored so far, `offset` its length. -/
def readLoop (left : ℕ) (size : ℤ) (attempt : UInt32) (calls : Stream' Sys) (buf : List UInt8)
    (s : Receiver) : ((ℤ × String) × List UInt8) × Receiver :=
  if left = 0 then ((((if 0 < buf.length then (buf.length : ℤ) else size), ""), buf), s)
  else
    match retry attempt calls with
    | (.closed e, _, _) => (((0, e), buf), s.disconnect.2)
    | (.eintr e, _, _) => (((-1, e), buf), s)
    | (.error e, _, _) => (((-1, e), buf), s)
    | (.bytes b bs, attempt, calls) =>
      let got := b :: bs.take (left - 1)
      readLoop (left - got.length) got.length attempt calls (buf ++ got) s
termination_by left
decreasing_by
  simp only [List.length_cons]
  omega

/-- `Read`: the result, and the bytes stored. -/
def read (len : ℕ) (calls : Stream' Sys) (s : Receiver) : ((ℤ × String) × List UInt8) × Receiver :=
  readLoop len 0 100 calls [] s

/-! ## The worker and the destructor -/

/-- `VirtualGpsReceiver::Command`. -/
def command (cmd : UInt8) : Option UInt32 :=
  if cmd = 0 then some 20
  else if cmd = 1 then some 21
  else if cmd = 2 then some 22
  else none

/-- The `switch` over the command byte. -/
def onCommand (cmd : UInt8) (s : Receiver) : Receiver :=
  match command cmd with
  | none => s
  | some c => if s.hasHandler then { s with handled := c :: s.handled } else s

/-- A call of the worker on the socket, kept while `mStop` is false. -/
def record (op : Op) (s : Receiver) : Receiver := if s.mStop then s else { s with ops := op :: s.ops }

/-- What the surroundings answer to one move of the worker. -/
structure Answer where
  dial : Dial
  calls : Stream' Sys

/-- One move of `workThreadProc` from its place. -/
def work (a : Answer) (s : Receiver) : Receiver :=
  match s.pc with
  | .loop =>
    if s.mStop then { s with pc := .exited }
    else if s.connected = false then { s with pc := .connect }
    else { s with pc := .read }
  | .connect =>
    let r := s.connect a.dial
    let s := r.2.record (.connect r.1.1)
    if r.1.1 = false then { s with pc := .loop } else { s with pc := .read }
  | .read =>
    let r := s.read 1 a.calls
    let res := r.1.1.1
    let s := r.2.record (.read res)
    if res < 0 then { s with pc := .loop }
    else if res = 1 then { s.onCommand (r.1.2.headD 0xFF) with pc := .loop }
    -- "GPS work thread, should not be here"
    else { s with pc := .exited }
  | .exited => s

/-- One move of `~VirtualGpsReceiver` from its place: it looks at the socket anew each time, and the worker may have
changed it or closed it since. -/
def tearDown (s : Receiver) : Receiver :=
  match s.teardown with
  | .store => { s with mStop := true, teardown := .test }
  | .test => { s with teardown := if 0 ≤ s.mSockGps then .disconnect else .join }
  | .disconnect => { s with teardown := if s.mSockGps < 0 then .join else .shutdown }
  | .shutdown => { s with teardown := .close }
  | .close => { s with closed := s.mSockGps :: s.closed, teardown := .forget }
  | .forget => { s with mSockGps := -1, teardown := .join }
  | .join => s

/-- What can happen next: a move of the worker, or one of the destructor. -/
inductive Move where
  | worker (a : Answer)
  | destructor

def step (s : Receiver) : Move → Receiver
  | .worker a => s.work a
  | .destructor => s.tearDown

/-! ## What comes back from `Read` -/

/-- The answer that ends the retries of a `Read`. -/
def firstRead (calls : Stream' Sys) : Sys := (retry 100 calls).1

theorem read_one (calls : Stream' Sys) (s : Receiver) :
    s.read 1 calls =
      match firstRead calls with
      | .closed e => (((0, e), []), s.disconnect.2)
      | .eintr e => (((-1, e), []), s)
      | .error e => (((-1, e), []), s)
      | .bytes b _ => (((1, ""), [b]), s) := by
  rw [read, readLoop, if_neg Nat.one_ne_zero, firstRead]
  rcases retry 100 calls with ⟨_ | _ | _ | _, attempt, later⟩
  · simp [readLoop]
  · rfl
  · rfl
  · rfl

/-- `Disconnect` touches the socket only. -/
theorem disconnect_frame (s : Receiver) :
    ∃ sock closed, s.disconnect.2 = { s with mSockGps := sock, closed := closed } := by
  unfold disconnect
  split
  · exact ⟨s.mSockGps, s.closed, rfl⟩
  · exact ⟨-1, s.mSockGps :: s.closed, rfl⟩

/-- `Connect` touches the socket and the port only. -/
theorem connect_frame (d : Dial) (s : Receiver) :
    ∃ port sock closed,
      (s.connect d).2 = { s with mPort := port, mSockGps := sock, closed := closed } := by
  obtain ⟨sock, closed, hfirst⟩ :
      ∃ sock closed, (if 0 ≤ s.mSockGps then s.disconnect.2 else s) =
        { s with mSockGps := sock, closed := closed } := by
    split
    · exact s.disconnect_frame
    · exact ⟨s.mSockGps, s.closed, rfl⟩
  obtain ⟨port, hport⟩ :
      ∃ port, (if s.tciPort ≠ 0 then { s with mSockGps := sock, closed := closed, mPort := s.tciPort }
        else { s with mSockGps := sock, closed := closed }) =
        { s with mSockGps := sock, closed := closed, mPort := port } := by
    split
    · exact ⟨s.tciPort, rfl⟩
    · exact ⟨s.mPort, rfl⟩
  unfold connect
  simp only [hfirst, hport]
  split
  · exact ⟨port, d.socket, closed, rfl⟩
  · split
    · exact ⟨port, -1, d.socket :: closed, rfl⟩
    · exact ⟨port, d.socket, closed, rfl⟩

@[simp] theorem mStop_disconnect (s : Receiver) : s.disconnect.2.mStop = s.mStop := by
  obtain ⟨sock, closed, h⟩ := s.disconnect_frame
  rw [h]

@[simp] theorem ops_disconnect (s : Receiver) : s.disconnect.2.ops = s.ops := by
  obtain ⟨sock, closed, h⟩ := s.disconnect_frame
  rw [h]

@[simp] theorem mStop_connect (d : Dial) (s : Receiver) : (s.connect d).2.mStop = s.mStop := by
  obtain ⟨port, sock, closed, h⟩ := s.connect_frame d
  rw [h]

@[simp] theorem ops_connect (d : Dial) (s : Receiver) : (s.connect d).2.ops = s.ops := by
  obtain ⟨port, sock, closed, h⟩ := s.connect_frame d
  rw [h]

@[simp] theorem mStop_record (op : Op) (s : Receiver) : (s.record op).mStop = s.mStop := by
  unfold record
  split <;> rfl

@[simp] theorem ops_onCommand (cmd : UInt8) (s : Receiver) : (s.onCommand cmd).ops = s.ops := by
  unfold onCommand
  split
  · rfl
  · split <;> rfl

@[simp] theorem mStop_onCommand (cmd : UInt8) (s : Receiver) : (s.onCommand cmd).mStop = s.mStop := by
  unfold onCommand
  split
  · rfl
  · split <;> rfl

/-! ## Does the worker come back? -/

/-- Whatever the surroundings answer, the worker's next call on the socket is a `Connect`: its next move
makes it, or the move behind a test. -/
def ConnectsNext (s : Receiver) : Prop :=
  ∀ a b, ∃ ok, (s.work a).ops = .connect ok :: s.ops ∨
    ((s.work a).ops = s.ops ∧ ((s.work a).work b).ops = .connect ok :: s.ops)

/-- What is expected of the worker: it is out of its loop only when `mStop` is true, and while `mStop` is
false, once its last call was a `Read` that failed, it is in its loop and its next call is a `Connect`. -/
structure Recovers (s : Receiver) : Prop where
  ends : s.pc = .exited → s.mStop = true
  reconnects : s.mStop = false → ∀ op, s.ops.head? = some op → op.Fails →
    s.pc ≠ .exited ∧ s.ConnectsNext

/-- The end of the stream does not come, and no `Read` fails on a descriptor above 0, while `mStop` is
false. -/
def Sound (s : Receiver) : Move → Prop
  | .worker a => s.mStop = false → s.pc = .read →
    match firstRead a.calls with
    | .bytes _ _ => True
    | .closed _ => False
    | .eintr _ => s.mSockGps ≤ 0
    | .error _ => s.mSockGps ≤ 0
  | _ => True

/-- The places from which the next call is a `Connect`. -/
def Unconnected (s : Receiver) : Prop := (s.pc = .loop ∧ s.mSockGps ≤ 0) ∨ s.pc = .connect

theorem record_of_not_stop {s : Receiver} (h : s.mStop = false) (op : Op) :
    s.record op = { s with ops := op :: s.ops } := by
  rw [record, if_neg (by simp [h])]

/-- A `Connect` made while `mStop` is false is kept. -/
theorem ops_work_connect {s : Receiver} (hstop : s.mStop = false) (hpc : s.pc = .connect) (a : Answer) :
    ∃ ok, (s.work a).ops = .connect ok :: s.ops := by
  refine ⟨(s.connect a.dial).1.1, ?_⟩
  have hkept := record_of_not_stop (s := (s.connect a.dial).2) (by simpa using hstop)
  simp only [work, hpc, hkept, ops_connect]
  split <;> rfl

/-- A `Read` made while `mStop` is false, by the answer that ended it. -/
theorem work_read {s : Receiver} (hstop : s.mStop = false) (hpc : s.pc = .read) (a : Answer) :
    s.work a =
      match firstRead a.calls with
      | .closed _ => { s.disconnect.2 with ops := .read 0 :: s.disconnect.2.ops, pc := .exited }
      | .eintr _ => { s with ops := .read (-1) :: s.ops, pc := .loop }
      | .error _ => { s with ops := .read (-1) :: s.ops, pc := .loop }
      | .bytes b _ => { { s with ops := .read 1 :: s.ops }.onCommand b with pc := .loop } := by
  have hkept := record_of_not_stop hstop
  have hkept' := record_of_not_stop (s := s.disconnect.2) (by simpa using hstop)
  simp only [work, hpc, read_one]
  cases firstRead a.calls with
  | bytes b bs => simp [hkept, hpc]
  | closed e => simp [hkept']
  | eintr e => simp [hkept]
  | error e => simp [hkept]

theorem ops_work_read {s : Receiver} (hstop : s.mStop = false) (hpc : s.pc = .read) (a : Answer) :
    ∃ res, (s.work a).ops = .read res :: s.ops := by
  rw [work_read hstop hpc]
  cases firstRead a.calls with
  | bytes b bs => exact ⟨1, by simp⟩
  | closed e => exact ⟨0, by simp⟩
  | eintr e => exact ⟨-1, rfl⟩
  | error e => exact ⟨-1, rfl⟩

/-- What the next call is can be read off the worker's place and the descriptor. -/
theorem connectsNext_iff {s : Receiver} (hstop : s.mStop = false) (hpc : s.pc ≠ .exited) :
    s.ConnectsNext ↔ s.Unconnected := by
  have a : Answer := ⟨⟨-1, 0, ""⟩, Stream'.const (.closed "")⟩
  unfold Unconnected
  cases hplace : s.pc with
  | exited => exact absurd hplace hpc
  | connect =>
    refine iff_of_true (fun a _ => ?_) (.inr rfl)
    obtain ⟨ok, hops⟩ := ops_work_connect hstop hplace a
    exact ⟨ok, .inl hops⟩
  | read =>
    refine iff_of_false (fun h => ?_) (by simp)
    obtain ⟨res, hops⟩ := ops_work_read hstop hplace a
    obtain ⟨ok, hnext | hnext⟩ := h a a
    · rw [hops] at hnext
      cases hnext
    · rw [hops] at hnext
      simp at hnext
  | loop =>
    by_cases hsock : s.mSockGps ≤ 0
    · -- The test sends the worker to `Connect`.
      have htest : ∀ a, s.work a = { s with pc := .connect } := by
        intro a
        simp [work, hplace, hstop, connected, hsock]
      refine iff_of_true (fun a b => ?_) (.inl ⟨rfl, hsock⟩)
      rw [htest]
      obtain ⟨ok, hops⟩ := ops_work_connect (s := { s with pc := .connect }) hstop rfl b
      exact ⟨ok, .inr ⟨rfl, hops⟩⟩
    · have htest : ∀ a, s.work a = { s with pc := .read } := by
        intro a
        simp [work, hplace, hstop, connected, hsock]
      refine iff_of_false (fun h => ?_) (by simp [hsock])
      obtain ⟨res, hops⟩ := ops_work_read (s := { s with pc := .read }) hstop rfl a
      obtain ⟨ok, hnext | hnext⟩ := h a a
      · rw [htest] at hnext
        simp at hnext
      · rw [htest, hops] at hnext
        cases hnext.2

/-- `Recovers` without the future. -/
def Poised (s : Receiver) : Prop :=
  (s.pc = .exited → s.mStop = true) ∧
    (s.mStop = false → ∀ op, s.ops.head? = some op → op.Fails → s.Unconnected)

theorem recovers_iff (s : Receiver) : s.Recovers ↔ s.Poised := by
  constructor
  · intro h
    refine ⟨h.ends, ?_⟩
    intro hstop op hop hfails
    obtain ⟨hpc, hnext⟩ := h.reconnects hstop op hop hfails
    exact (connectsNext_iff hstop hpc).mp hnext
  · intro h
    refine ⟨h.1, ?_⟩
    intro hstop op hop hfails
    have hpc : s.pc ≠ .exited := by
      intro hexit
      rw [h.1 hexit] at hstop
      cases hstop
    exact ⟨hpc, (connectsNext_iff hstop hpc).mpr (h.2 hstop op hop hfails)⟩

/-- With `mStop` true nothing more is asked. -/
theorem poised_of_stop {s : Receiver} (h : s.mStop = true) : s.Poised := by
  refine ⟨fun _ => h, ?_⟩
  intro hstop
  rw [h] at hstop
  cases hstop

@[simp] theorem mStop_read_one (calls : Stream' Sys) (s : Receiver) :
    (s.read 1 calls).2.mStop = s.mStop := by
  rw [read_one]
  split
  · exact mStop_disconnect s
  · rfl
  · rfl
  · rfl

theorem mStop_work (a : Answer) (s : Receiver) : (s.work a).mStop = s.mStop := by
  unfold work
  split
  · split
    · rfl
    · split <;> rfl
  · dsimp only
    split <;> simp
  · dsimp only
    split
    · simp
    · split <;> simp
  · rfl

theorem poised_work_read {s : Receiver} (hstop : s.mStop = false) (hpc : s.pc = .read) (a : Answer) :
    (s.work a).Poised ↔ s.Sound (.worker a) := by
  rw [work_read hstop hpc]
  simp only [Sound, hstop, hpc, true_imp_iff]
  cases firstRead a.calls with
  | bytes b bs => simp [Poised, Op.Fails]
  | closed e => simp [Poised, hstop]
  | eintr e => simp [Poised, Unconnected, Op.Fails]
  | error e => simp [Poised, Unconnected, Op.Fails]

/-- One move of the worker, from each of its places. -/
theorem poised_work {s : Receiver} (hstop : s.mStop = false) (h : s.Poised) (a : Answer) :
    (s.work a).Poised ↔ s.Sound (.worker a) := by
  cases hpc : s.pc with
  | read => exact poised_work_read hstop hpc a
  | exited =>
    rw [h.1 hpc] at hstop
    cases hstop
  | connect =>
    refine iff_of_true ⟨fun hexit => ?_, fun _ op hop hfails => ?_⟩ (by simp [Sound, hpc])
    · simp only [work, hpc] at hexit
      split at hexit <;> cases hexit
    · -- The last call is a `Connect` now.
      obtain ⟨ok, hops⟩ := ops_work_connect hstop hpc a
      rw [hops] at hop
      cases hop
      exact absurd hfails id
  | loop =>
    refine iff_of_true ?_ (by simp [Sound, hpc])
    simp only [work, hpc, hstop, Bool.false_eq_true, if_false]
    split
    · refine ⟨fun hexit => ?_, fun _ _ _ _ => .inr rfl⟩
      cases hexit
    · rename_i hconn
      refine ⟨fun hexit => (by cases hexit), ?_⟩
      intro _ op hop hfails
      -- A connected worker did not come here from a failed `Read`.
      rcases h.2 hstop op hop hfails with hloop | hconnect
      · simp [connected, hloop.2] at hconn
      · rw [hpc] at hconnect
        cases hconnect

/-- The destructor takes the socket away, and nothing else once it has stored to `mStop`. -/
theorem poised_tearDown {s : Receiver} (h : s.Poised) : s.tearDown.Poised := by
  obtain ⟨hends, hreconnects⟩ := h
  cases hplace : s.teardown with
  | store =>
    rw [tearDown, hplace]
    exact poised_of_stop rfl
  | forget =>
    rw [tearDown, hplace]
    refine ⟨hends, ?_⟩
    intro hstop op hop hfails
    refine (hreconnects hstop op hop hfails).imp_left ?_
    rintro ⟨hpc, -⟩
    exact ⟨hpc, (Int.negSucc_lt_zero 0).le⟩
  | test | disconnect | shutdown | close | join =>
    rw [tearDown, hplace]
    exact ⟨hends, hreconnects⟩

theorem poised_step (s : Receiver) (m : Move) (h : s.Poised) : (s.step m).Poised ↔ s.Sound m := by
  cases m with
  | worker a =>
    cases hstop : s.mStop with
    | false => exact poised_work hstop h a
    | true =>
      refine iff_of_true (poised_of_stop ?_) (by simp [Sound, hstop])
      rw [step, mStop_work, hstop]
  | destructor => exact iff_of_true (poised_tearDown h) trivial

/-- **Recovery over whole runs.** However the answers of the socket and the destructor fall, the worker
comes back from every failed `Read` exactly when, while `mStop` is false, no `Read` meets the end of the
stream and none fails on a descriptor above 0. -/
theorem recovers_iff_sound (tciPort : UInt16) (hasHandler : Bool) (ms : List Move) :
    (∀ s ∈ ms.scanl step (initial tciPort hasHandler), s.Recovers) ↔
      Along step Sound (initial tciPort hasHandler) ms := by
  simp only [recovers_iff]
  refine forall_scanl_iff_along poised_step ⟨?_, ?_⟩
  · intro hpc
    cases hpc
  · intro _ op hop
    cases hop

/-- The server closes the connection: the worker leaves its loop although `mStop` is false. -/
theorem not_recovers_closed :
    ¬ ∀ (tciPort : UInt16) (hasHandler : Bool) (ms : List Move),
      ∀ s ∈ ms.scanl step (initial tciPort hasHandler), s.Recovers := by
  intro h
  let a : Answer := ⟨⟨5, 0, ""⟩, Stream'.const (.closed "Success")⟩
  -- Test, connect to descriptor 5, read.
  let ms : List Move := [.worker a, .worker a, .worker a]
  have hlast := (h 0 true ms (ms.foldl step (initial 0 true)) (foldl_mem_scanl _ ms)).ends
  let s : Receiver := [Move.worker a, .worker a].foldl step (initial 0 true)
  have hclosed : firstRead a.calls = .closed "Success" := by
    rw [firstRead, retry]
    rfl
  have hread : ms.foldl step (initial 0 true) =
      { s.disconnect.2 with ops := .read 0 :: s.ops, pc := .exited } := by
    show s.work a = _
    rw [work_read rfl rfl, hclosed]
    rfl
  rw [hread] at hlast
  cases hlast rfl

end Receiver

end VhalClient.Gps
