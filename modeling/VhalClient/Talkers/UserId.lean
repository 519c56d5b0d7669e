/-
# VhalClient.Talkers.UserId — what the talkers say when they connect.

`SensorInterface`, `AudioSink`, `AudioSource` and `VideoSink` each run a talker: an outer loop that connects,
announces the user id and enters an inner loop of polls and receives.  The first three announce behind the
test for a connection, so that a turn of the outer loop with the connection still up would announce again;
`VideoSink` announces inside it, and goes on in its inner loop behind a `Close` of its own.

The talker moves from one test or call to the next, and the destructor can clear `should_continue_` between
any two moves.  What happens on the socket is kept newest first, and `sessions` splits it at the successful
connects.  `announced_once` is about every run: each connection carries the announcement, once and before
anything else the talker sends, and nothing is sent without a connection; and it connects whenever it comes round
and both system calls of a `Connect` are answered well.  The invariant behind it is that
the outer loop comes round connected only when it is about to end.
-/
import VhalClient.Lib.Run
import VhalClient.Socket.StreamClient
import VhalClient.Audio.AudioSource
import VhalClient.Camera.VideoSink

namespace VhalClient.Talkers

open VhalClient.Lib VhalClient.Socket

/-! ## The talker -/

/-- What happens on the talker's socket.  A send is kept with what `Connected()` says at the time. -/
inductive Event where
  | connected
  | sent (up : Bool) (bytes : List UInt8)
  | closed
  deriving DecidableEq, Repr

/-- Where the talker is. -/
inductive Pc where
  /-- `while (should_continue_)` -/
  | outer
  /-- `if (not socket_client_->Connected())` -/
  | connect
  /-- The sends of the announcement that are still to come. -/
  | announce (rest : List (List UInt8))
  | poll
  /-- `} while (should_continue_)` -/
  | inner
  | returned
  | threw
  deriving DecidableEq, Repr

structure Talker where
  shouldContinue : Bool
  client : StreamClient
  pc : Pc
  /-- Newest first. -/
  trace : List Event

/-- What the members hold that an announcement does not set. -/
structure Stack where
  timestampNs : UInt64
  asci : Audio.AudioSocketConfigurationInfo

/-- What the surroundings answer to one move: the two calls of `Connect`, the uninitialised members, the
result of `poll` with `revents`, and the counts the receives return.  A packet of the camera has a type and
a second receive. -/
structure Answer where
  dial : Dial
  stack : Stack
  ret : ℤ
  revents : UInt16
  received : ℤ
  type : UInt32
  body : ℤ

/-! `<poll.h>` -/

def pollIn : UInt16 := 0x001

def pollErr : UInt16 := 0x008

def pollHup : UInt16 := 0x010

def pollNval : UInt16 := 0x020

namespace Talker

def initial : Talker := ⟨true, .initial, .outer, []⟩

/-- `socket_client_->Close()` -/
def close (t : Talker) : Talker :=
  { t with client := t.client.close, trace := .closed :: t.trace }

def goto (t : Talker) (pc : Pc) : Talker := { t with pc := pc }

/-- `socket_client_->Connect()` and what follows each of its results; `next` is for success. -/
def dial (next : Talker → Talker) (d : Dial) (t : Talker) : Talker :=
  match t.client.connect d with
  | (.threw, c) => { t with client := c, pc := .threw }
  | (.returned false _, c) => { t with client := c, pc := .outer }
  | (.returned true _, c) => next { t with client := c, trace := .connected :: t.trace }

/-- The next send of the announcement. -/
def announce (rest : List (List UInt8)) (t : Talker) : Talker :=
  match rest with
  | [] => t.goto .poll
  | bytes :: rest => { t with trace := .sent t.client.connected bytes :: t.trace, pc := .announce rest }

/-- The inner loop of `SensorInterface`, `AudioSink` and `AudioSource`, up to its condition. -/
def poll (sizeofMessage : ℤ) (a : Answer) (t : Talker) : Talker :=
  if a.ret = -1 then t.goto .threw
  else if a.ret = 0 then t.goto .inner
  else if a.revents &&& pollIn ≠ 0 then
    if a.received ≠ sizeofMessage then t.close.goto .outer else t.goto .inner
  else if a.revents &&& (pollErr ||| pollHup) ≠ 0 then t.close.goto .outer
  else t.goto .inner

/-- The talker of `SensorInterface`, `AudioSink` and `AudioSource`. -/
def work (announcement : Bool → Stack → List (List UInt8)) (sizeofMessage : ℤ) (a : Answer)
    (t : Talker) : Talker :=
  let announcing (t : Talker) : Talker := t.goto (.announce (announcement t.client.connected a.stack))
  match t.pc with
  | .outer => if t.shouldContinue then t.goto .connect else t.goto .returned
  | .connect => if t.client.connected = false then t.dial announcing a.dial else announcing t
  | .announce rest => t.announce rest
  | .poll => t.poll sizeofMessage a
  | .inner => if t.shouldContinue then t.goto .poll else t.goto .outer
  | .returned => t
  | .threw => t

end Talker

/-! ## The four talkers -/

/-- `vhal_sensor_event_t` without its last member, a pointer that is not sent. -/
structure SensorEvent where
  type : UInt32
  /-- `userId`, or `fdataCount` -/
  userId : Int32
  timestampNs : UInt64
  deriving DecidableEq, Repr

namespace Layout

def sensorEvent : Lib.Layout SensorEvent :=
  (Lib.Layout.word32.prod (.prod .int32 .word64)).map (fun p => ⟨p.1, p.2.1, p.2.2⟩)
    (fun e => (e.type, e.userId, e.timestampNs)) fun _ => rfl

/-- `SensorInterface::CtrlPacket` -/
def ctrlPacket : Lib.Layout (UInt32 × Int32 × Int32) := .prod .word32 (.prod .int32 .int32)

end Layout

/-- `SENSOR_TYPE_ADDITIONAL_INFO` -/
def sensorTypeAdditionalInfo : UInt32 := 33

namespace SensorInterface

/-- The message of `sendStreamerUserId`. -/
def userIdMessage (userId : Int32) (stack : Stack) : List (List UInt8) :=
  [Layout.sensorEvent.write ⟨sensorTypeAdditionalInfo, userId, stack.timestampNs⟩]

def sendStreamerUserId (userId : Int32) (connected : Bool) (stack : Stack) : List (List UInt8) :=
  if connected = false then []
  else if 0 ≤ userId then userIdMessage userId stack
  else []

def work (userId : Int32) : Answer → Talker → Talker :=
  Talker.work (sendStreamerUserId userId) Layout.ctrlPacket.size

end SensorInterface

/-- The `CtrlMessage` with the user id; `data` lies in the union where `sample_rate` does. -/
def ctrlUserId (userId : Int32) (stack : Stack) : List (List UInt8) :=
  [Audio.Layout.ctrlMessage.write
    ⟨Audio.Command.kUserId.code, { stack.asci with sampleRate := userId.toUInt32 }⟩]

namespace AudioSink

def announcement (userId : Int32) (_connected : Bool) (stack : Stack) : List (List UInt8) :=
  if userId ≠ -1 then ctrlUserId userId stack else []

def work (userId : Int32) : Answer → Talker → Talker :=
  Talker.work (announcement userId) Audio.Layout.ctrlMessage.size

end AudioSink

namespace AudioSource

def announcement (userId : Int32) (_connected : Bool) (stack : Stack) : List (List UInt8) :=
  if userId ≠ -1 then ctrlUserId userId stack else []

def work (userId : Int32) : Answer → Talker → Talker :=
  Talker.work (announcement userId) Audio.Layout.ctrlMessage.size

end AudioSource

namespace VideoSink

/-- A header and the user id, in two sends. -/
def userIdPacket (userId : Int32) : List (List UInt8) :=
  [Camera.Layout.cameraHeader.write ⟨Camera.cameraUserId, UInt32.ofNat Lib.Layout.int32.size⟩,
    Lib.Layout.int32.write userId]

def announcement (userId : Int32) : List (List UInt8) :=
  if userId ≠ -1 then userIdPacket userId else []

/-- Whether the handler for a type returns `true`; there is none for most types. -/
def handled (type : UInt32) (body : ℤ) : Bool :=
  if type = Camera.capability then body = Camera.Layout.cameraCapability.size
  else if type = Camera.ack then body = Camera.Layout.cameraAck.size
  else if type = Camera.cameraConfig then body = Camera.Layout.cameraConfigCmd.size
  else true

/-- The inner loop up to its condition.  Behind a failed receive `continue` goes to the condition, with the
closed descriptor still in `fds`. -/
def poll (a : Answer) (t : Talker) : Talker :=
  if a.ret = -1 then t.goto .threw
  else if a.ret = 0 then t.goto .inner
  else if a.revents &&& pollIn = 0 then
    if a.revents &&& (pollErr ||| pollHup ||| pollNval) ≠ 0 then t.close.goto .outer else t.goto .inner
  else if a.received ≠ Camera.Layout.cameraHeader.size then t.close.goto .inner
  else if handled a.type a.body = false then t.close.goto .inner
  else t.goto .inner

def work (userId : Int32) (a : Answer) (t : Talker) : Talker :=
  match t.pc with
  | .outer => if t.shouldContinue then t.goto .connect else t.goto .returned
  | .connect =>
    if t.client.connected = false then
      t.dial (fun t => t.goto (.announce (announcement userId))) a.dial
    else t.goto .poll
  | .announce rest => t.announce rest
  | .poll => poll a t
  | .inner => if t.shouldContinue then t.goto .poll else t.goto .outer
  | .returned => t
  | .threw => t

end VideoSink

inductive Class where
  | sensorInterface
  | audioSink
  | audioSource
  | videoSink
  deriving DecidableEq, Repr

namespace Class

def work : Class → Int32 → Answer → Talker → Talker
  | sensorInterface => SensorInterface.work
  | audioSink => AudioSink.work
  | audioSource => AudioSource.work
  | videoSink => VideoSink.work

/-- The user ids that are announced. -/
def Announces : Class → Int32 → Prop
  | sensorInterface, userId => 0 ≤ userId
  | audioSink, userId => userId ≠ -1
  | audioSource, userId => userId ≠ -1
  | videoSink, userId => userId ≠ -1

/-- The sends of one announcement. -/
def userIdMessage : Class → Int32 → Stack → List (List UInt8)
  | sensorInterface, userId, stack => SensorInterface.userIdMessage userId stack
  | audioSink, userId, stack => ctrlUserId userId stack
  | audioSource, userId, stack => ctrlUserId userId stack
  | videoSink, userId, _ => VideoSink.userIdPacket userId

end Class

/-- What can happen next: a move of the talker, or the destructor's store. -/
inductive Move where
  | talker (a : Answer)
  | stop

def Class.step (cls : Class) (userId : Int32) (t : Talker) : Move → Talker
  | .talker a => cls.work userId a t
  | .stop => { t with shouldContinue := false }

/-! ## Connections and what is sent on them -/

/-- For each successful `Connect`, newest first, what the talker sent before the next one, oldest first. -/
def sessions : List Event → List (List (List UInt8))
  | [] => []
  | .connected :: trace => [] :: sessions trace
  | .closed :: trace => sessions trace
  | .sent _ bytes :: trace =>
    match sessions trace with
    | [] => [[bytes]]
    | c :: cs => (c ++ [bytes]) :: cs

/-- A message is on each connection and nothing else: as many connections as successful `Connect`s, every
send made while connected, and on each connection the sends of one message, of which the newest
connection may lack those the talker is about to make. -/
structure AnnouncedOnce (message : Stack → List (List UInt8)) (t : Talker) : Prop where
  connects : (sessions t.trace).length = t.trace.count .connected
  up : ∀ up bytes, .sent up bytes ∈ t.trace → up = true
  sends : (∀ rest, t.pc ≠ .announce rest) → ∀ c ∈ sessions t.trace, ∃ stack, c = message stack
  sending : ∀ rest, t.pc = .announce rest → ∃ c cs, sessions t.trace = c :: cs ∧
    (∃ stack, c ++ rest = message stack) ∧ ∀ c ∈ cs, ∃ stack, c = message stack

/-- Neither of the two system calls of a `Connect` failed. -/
def Connects (d : Dial) : Prop := 0 ≤ d.socket ∧ d.connect = 0

instance (d : Dial) : Decidable (Connects d) := inferInstanceAs (Decidable (_ ∧ _))

/-- The talker goes from the head of its loop to a `Connect`, and it connects there, exactly when the answers allow
it, and nowhere else. -/
structure Redials (work : Answer → Talker → Talker) (t : Talker) : Prop where
  goes : t.pc = .outer → t.shouldContinue = true → ∀ a, (work a t).pc = .connect
  counts : ∀ a, (work a t).trace.count .connected =
    t.trace.count .connected + if t.pc = .connect ∧ Connects a.dial then 1 else 0

/-- Every connection of the trace carries its message. -/
structure Quiet (message : Stack → List (List UInt8)) (trace : List Event) : Prop where
  connects : (sessions trace).length = trace.count .connected
  up : ∀ up bytes, .sent up bytes ∈ trace → up = true
  sends : ∀ c ∈ sessions trace, ∃ stack, c = message stack

/-- Every connection of the trace carries its message, but the newest one lacks `rest`. -/
structure Pending (message : Stack → List (List UInt8)) (trace : List Event) (rest : List (List UInt8)) :
    Prop where
  connects : (sessions trace).length = trace.count .connected
  up : ∀ up bytes, .sent up bytes ∈ trace → up = true
  sends : ∃ c cs, sessions trace = c :: cs ∧ (∃ stack, c ++ rest = message stack) ∧
    ∀ c ∈ cs, ∃ stack, c = message stack

section

variable {message : Stack → List (List UInt8)} {trace : List Event} {rest : List (List UInt8)}

theorem quiet_nil : Quiet message [] := ⟨rfl, by simp, by simp [sessions]⟩

theorem Quiet.closed (h : Quiet message trace) : Quiet message (.closed :: trace) := by
  refine ⟨?_, ?_, h.sends⟩
  · rw [sessions, h.connects, List.count_cons_of_ne (by simp)]
  · intro up bytes hmem
    exact h.up up bytes (by simpa using hmem)

theorem Quiet.connected (h : Quiet message trace) (stack : Stack) :
    Pending message (.connected :: trace) (message stack) := by
  refine ⟨?_, ?_, [], sessions trace, rfl, ⟨stack, rfl⟩, h.sends⟩
  · rw [sessions, List.length_cons, h.connects, List.count_cons_self]
  · intro up bytes hmem
    exact h.up up bytes (by simpa using hmem)

theorem Pending.sent {bytes : List UInt8} (h : Pending message trace (bytes :: rest)) :
    Pending message (.sent true bytes :: trace) rest := by
  obtain ⟨c, cs, hsessions, ⟨stack, hmessage⟩, hothers⟩ := h.sends
  have hnext : sessions (.sent true bytes :: trace) = (c ++ [bytes]) :: cs := by
    simp only [sessions, hsessions]
  refine ⟨?_, ?_, c ++ [bytes], cs, hnext, ⟨stack, ?_⟩, hothers⟩
  · rw [hnext, List.count_cons_of_ne (by simp), ← h.connects, hsessions]
    rfl
  · intro up b hmem
    rcases List.mem_cons.mp hmem with heq | hmem
    · injection heq
    · exact h.up up b hmem
  · rw [List.append_assoc, List.singleton_append, hmessage]

theorem Pending.quiet (h : Pending message trace []) : Quiet message trace := by
  obtain ⟨c, cs, hsessions, ⟨stack, hmessage⟩, hothers⟩ := h.sends
  refine ⟨h.connects, h.up, ?_⟩
  intro d hd
  rw [hsessions] at hd
  rcases List.mem_cons.mp hd with rfl | hd
  · exact ⟨stack, by rw [← hmessage, List.append_nil]⟩
  · exact hothers d hd

end

/-! ## One move -/

namespace Talker

/-- What holds at each place of a talker.  The outer loop comes round connected only to end. -/
def Inv (message : Stack → List (List UInt8)) (t : Talker) : Prop :=
  match t.pc with
  | .outer => Quiet message t.trace ∧ (t.shouldContinue = true → t.client.connected = false)
  | .connect => Quiet message t.trace ∧ t.client.connected = false
  | .announce rest => Pending message t.trace rest ∧ t.client.connected = true
  | _ => Quiet message t.trace

variable {message : Stack → List (List UInt8)} {t : Talker}

theorem announcedOnce_of_quiet (h : Quiet message t.trace) (hpc : ∀ rest, t.pc ≠ .announce rest) :
    AnnouncedOnce message t :=
  ⟨h.connects, h.up, fun _ => h.sends, fun rest hrest => absurd hrest (hpc rest)⟩

theorem Inv.announcedOnce (h : t.Inv message) : AnnouncedOnce message t := by
  obtain ⟨flag, client, pc, trace⟩ := t
  cases pc with
  | outer => exact announcedOnce_of_quiet h.1 (by simp)
  | connect => exact announcedOnce_of_quiet h.1 (by simp)
  | announce rest =>
    refine ⟨h.1.connects, h.1.up, fun hpc => absurd rfl (hpc rest), ?_⟩
    intro rest' hrest
    cases hrest
    exact h.1.sends
  | poll => exact announcedOnce_of_quiet h (by simp)
  | inner => exact announcedOnce_of_quiet h (by simp)
  | returned => exact announcedOnce_of_quiet h (by simp)
  | threw => exact announcedOnce_of_quiet h (by simp)

theorem inv_close_outer (h : Quiet message t.trace) : (t.close.goto .outer).Inv message :=
  ⟨h.closed, fun _ => StreamClient.connected_close t.client⟩

theorem inv_dial {next : Talker → Talker} {d : Dial} (stack : Stack) (h : Quiet message t.trace)
    (hnext : ∀ t : Talker, t.client.connected = true → next t = t.goto (.announce (message stack))) :
    (t.dial next d).Inv message := by
  have hresult : ∀ ok msg, (t.client.connect d).1 = .returned ok msg →
      (t.client.connect d).2.connected = ok := fun ok msg => StreamClient.connected_connect
  unfold dial
  rcases hconnect : t.client.connect d with ⟨result, c⟩
  rw [hconnect] at hresult
  match result with
  | .threw => exact h
  | .returned false msg => exact ⟨h, fun _ => hresult false msg rfl⟩
  | .returned true msg =>
    have hup : c.connected = true := hresult true msg rfl
    dsimp only
    rw [hnext _ hup]
    exact ⟨h.connected stack, hup⟩

theorem inv_announce {rest : List (List UInt8)} (h : Pending message t.trace rest)
    (hup : t.client.connected = true) : (t.announce rest).Inv message := by
  cases rest with
  | nil => exact h.quiet
  | cons bytes rest =>
    rw [announce, hup]
    exact ⟨h.sent, hup⟩

theorem inv_poll (h : Quiet message t.trace) (sizeofMessage : ℤ) (a : Answer) :
    (t.poll sizeofMessage a).Inv message := by
  unfold poll
  split
  · exact h
  · split
    · exact h
    · split
      · split
        · exact inv_close_outer h
        · exact h
      · split
        · exact inv_close_outer h
        · exact h

/-- The moves outside `connect` and `poll`, which all talkers have in common. -/
theorem inv_inner (h : Quiet message t.trace) :
    (if t.shouldContinue then t.goto .poll else t.goto .outer).Inv message := by
  split
  · exact h
  · rename_i hflag
    exact ⟨h, fun hset => absurd hset hflag⟩

theorem inv_outer (h : Quiet message t.trace)
    (hround : t.shouldContinue = true → t.client.connected = false) :
    (if t.shouldContinue then t.goto .connect else t.goto .returned).Inv message := by
  split
  · rename_i hflag
    exact ⟨h, hround hflag⟩
  · exact h

theorem inv_work {announcement : Bool → Stack → List (List UInt8)}
    (hann : ∀ stack, announcement true stack = message stack) (sizeofMessage : ℤ) (a : Answer)
    (h : t.Inv message) : (t.work announcement sizeofMessage a).Inv message := by
  obtain ⟨flag, client, pc, trace⟩ := t
  cases pc with
  | outer => exact inv_outer h.1 h.2
  | connect =>
    have hdown : client.connected = false := h.2
    simp only [work, hdown, if_true]
    refine inv_dial a.stack h.1 ?_
    intro t hup
    rw [hup, hann]
  | announce rest => exact inv_announce h.1 h.2
  | poll => exact inv_poll h sizeofMessage a
  | inner => exact inv_inner h
  | returned => exact h
  | threw => exact h

/-! ### The connects of a move -/

theorem count_dial {next : Talker → Talker} (hnext : ∀ t : Talker, (next t).trace = t.trace) (d : Dial)
    (t : Talker) :
    (t.dial next d).trace.count .connected = t.trace.count .connected + if Connects d then 1 else 0 := by
  unfold dial StreamClient.connect
  dsimp only
  by_cases hsocket : d.socket < 0
  · have hfails : ¬Connects d := fun h => absurd h.1 (not_le.mpr hsocket)
    rw [if_pos hsocket, if_neg hfails]
    rfl
  rw [if_neg hsocket]
  by_cases hconnect : d.connect = 0
  · have hconnects : Connects d := ⟨not_lt.mp hsocket, hconnect⟩
    rw [decide_eq_true hconnect, if_pos hconnects]
    dsimp only
    rw [hnext, List.count_cons_self]
  · have hfails : ¬Connects d := fun h => hconnect h.2
    rw [decide_eq_false hconnect, if_neg hfails]
    rfl

theorem count_close (t : Talker) : t.close.trace.count .connected = t.trace.count .connected :=
  List.count_cons_of_ne (by decide)

theorem count_announce (rest : List (List UInt8)) (t : Talker) :
    (t.announce rest).trace.count .connected = t.trace.count .connected := by
  cases rest with
  | nil => rfl
  | cons bytes rest => exact List.count_cons_of_ne (by simp)

theorem count_poll (sizeofMessage : ℤ) (a : Answer) (t : Talker) :
    (t.poll sizeofMessage a).trace.count .connected = t.trace.count .connected := by
  unfold poll
  split
  · rfl
  split
  · rfl
  split
  · split
    · exact t.count_close
    · rfl
  split
  · exact t.count_close
  · rfl

/-- A test moves the talker only. -/
theorem trace_goto_ite {c : Prop} [Decidable c] (p q : Pc) : (if c then t.goto p else t.goto q).trace = t.trace := by
  split
  · rfl
  · rfl

theorem redials_work {announcement : Bool → Stack → List (List UInt8)} {sizeofMessage : ℤ}
    (h : t.Inv message) : Redials (work announcement sizeofMessage) t := by
  obtain ⟨flag, client, pc, trace⟩ := t
  constructor
  · rintro ⟨⟩ hflag a
    simp only [work, show flag = true from hflag, if_true]
    rfl
  intro a
  cases pc with
  | connect =>
    have hdown : client.connected = false := h.2
    simp only [work, hdown, if_true, true_and]
    refine count_dial ?_ a.dial _
    intro t
    rfl
  | outer => exact congrArg (List.count Event.connected) (trace_goto_ite .connect .returned)
  | announce rest => exact count_announce rest _
  | poll => exact count_poll sizeofMessage a _
  | inner => exact congrArg (List.count Event.connected) (trace_goto_ite .poll .outer)
  | returned => rfl
  | threw => rfl

end Talker

namespace VideoSink

variable {message : Stack → List (List UInt8)} {t : Talker}

theorem inv_poll (h : Quiet message t.trace) (a : Answer) : (poll a t).Inv message := by
  unfold poll
  split
  · exact h
  · split
    · exact h
    · split
      · split
        · exact Talker.inv_close_outer h
        · exact h
      · split
        · exact h.closed
        · split
          · exact h.closed
          · exact h

theorem inv_work {userId : Int32} (hann : ∀ stack, announcement userId = message stack) (a : Answer)
    (h : t.Inv message) : (work userId a t).Inv message := by
  obtain ⟨flag, client, pc, trace⟩ := t
  cases pc with
  | outer => exact Talker.inv_outer h.1 h.2
  | connect =>
    have hdown : client.connected = false := h.2
    simp only [work, hdown, if_true]
    refine Talker.inv_dial a.stack h.1 ?_
    intro t _
    rw [hann]
  | announce rest => exact Talker.inv_announce h.1 h.2
  | poll => exact inv_poll h a
  | inner => exact Talker.inv_inner h
  | returned => exact h
  | threw => exact h

theorem count_poll (a : Answer) (t : Talker) :
    (poll a t).trace.count .connected = t.trace.count .connected := by
  unfold poll
  split
  · rfl
  split
  · rfl
  split
  · split
    · exact t.count_close
    · rfl
  split
  · exact t.count_close
  split
  · exact t.count_close
  · rfl

theorem redials_work {userId : Int32} (h : t.Inv message) : Redials (work userId) t := by
  obtain ⟨flag, client, pc, trace⟩ := t
  constructor
  · rintro ⟨⟩ hflag a
    simp only [work, show flag = true from hflag, if_true]
    rfl
  intro a
  cases pc with
  | connect =>
    have hdown : client.connected = false := h.2
    simp only [work, hdown, if_true, true_and]
    refine Talker.count_dial ?_ a.dial _
    intro t
    rfl
  | outer => exact congrArg (List.count Event.connected) (Talker.trace_goto_ite .connect .returned)
  | announce rest => exact Talker.count_announce rest _
  | poll => exact count_poll a _
  | inner => exact congrArg (List.count Event.connected) (Talker.trace_goto_ite .poll .outer)
  | returned => rfl
  | threw => rfl

end VideoSink

/-! ## Whole runs -/

theorem Class.inv_step {cls : Class} {userId : Int32} (hid : cls.Announces userId) {t : Talker} (m : Move)
    (h : t.Inv (cls.userIdMessage userId)) : (cls.step userId t m).Inv (cls.userIdMessage userId) := by
  cases m with
  | stop =>
    obtain ⟨flag, client, pc, trace⟩ := t
    cases pc with
    | outer => exact ⟨h.1, fun hset => by cases hset⟩
    | connect => exact h
    | announce rest => exact h
    | poll => exact h
    | inner => exact h
    | returned => exact h
    | threw => exact h
  | talker a =>
    cases cls with
    | sensorInterface =>
      refine Talker.inv_work (fun stack => ?_) _ a h
      rw [SensorInterface.sendStreamerUserId, if_neg (by simp)]
      exact if_pos hid
    | audioSink => exact Talker.inv_work (fun stack => if_pos hid) _ a h
    | audioSource => exact Talker.inv_work (fun stack => if_pos hid) _ a h
    | videoSink => exact VideoSink.inv_work (fun stack => if_pos hid) a h

theorem Class.redials {cls : Class} {userId : Int32} {t : Talker} (h : t.Inv (cls.userIdMessage userId)) :
    Redials (cls.work userId) t := by
  cases cls with
  | sensorInterface => exact Talker.redials_work h
  | audioSink => exact Talker.redials_work h
  | audioSource => exact Talker.redials_work h
  | videoSink => exact VideoSink.redials_work h

/-- **One announcement per connection.** In every run of each of the four talkers, with any answers of the
socket and the destructor at any place, each successful `Connect` is followed by exactly one announcement of
the user id, it is the first thing the talker sends on the connection, and none is sent without one.  As long as it
is not stopped the talker comes back to a `Connect`, which succeeds if the socket's answers do. -/
theorem announced_once (cls : Class) {userId : Int32} (hid : cls.Announces userId) (ms : List Move) :
    ∀ t ∈ ms.scanl (cls.step userId) .initial,
      AnnouncedOnce (cls.userIdMessage userId) t ∧ Redials (cls.work userId) t := by
  intro t ht
  have hinv : t.Inv (cls.userIdMessage userId) := by
    refine Along.invariant (I := fun t => t.Inv (cls.userIdMessage userId)) (P := fun _ _ => True)
      (fun t m h _ => Class.inv_step hid m h) ?_ (along_of_forall (fun _ _ => trivial) _ ms) t ht
    exact ⟨quiet_nil, fun _ => rfl⟩
  exact ⟨hinv.announcedOnce, Class.redials hinv⟩

/-- A service that accepts connections; a camera among them sends acknowledgements without a body. -/
def lively : Answer :=
  ⟨⟨5, 0, ""⟩, ⟨0, ⟨0, 0, 0, 0⟩⟩, 1, pollIn, Camera.Layout.cameraHeader.size, Camera.ack, 0⟩

/-- The moves of a talker that connects and announces, finds its first packet short, polls the closed
descriptor, and connects and announces again. -/
def reconnecting : List Move :=
  List.replicate 7 (.talker lively) ++ .talker { lively with revents := pollNval } ::
    List.replicate 5 (.talker lively)

/-- The moves of one that is refused once, and finds that the other end hung up behind the first announcement. -/
def refusedOnce : List Move :=
  .talker lively :: .talker { lively with dial := ⟨5, -1, "Connection refused"⟩ } ::
    List.replicate 4 (.talker lively) ++ .talker { lively with revents := pollHup } ::
    List.replicate 4 (.talker lively)

theorem announced_once_reconnecting :
    (sessions (reconnecting.foldl (Class.videoSink.step 7) .initial).trace =
        [VideoSink.userIdPacket 7, VideoSink.userIdPacket 7] ∧
      AnnouncedOnce (Class.videoSink.userIdMessage 7)
        (reconnecting.foldl (Class.videoSink.step 7) .initial)) ∧
    (sessions (refusedOnce.foldl (Class.sensorInterface.step 7) .initial).trace =
        [SensorInterface.userIdMessage 7 lively.stack, SensorInterface.userIdMessage 7 lively.stack] ∧
      AnnouncedOnce (Class.sensorInterface.userIdMessage 7)
        (refusedOnce.foldl (Class.sensorInterface.step 7) .initial)) := by
  have hcamera : Class.videoSink.Announces 7 := show (7 : Int32) ≠ -1 by decide
  have hsensor : Class.sensorInterface.Announces 7 := show (0 : Int32) ≤ 7 by decide
  have hfirst := (announced_once .videoSink hcamera reconnecting _ (foldl_mem_scanl _ reconnecting)).1
  have hsecond := (announced_once .sensorInterface hsensor refusedOnce _ (foldl_mem_scanl _ refusedOnce)).1
  exact ⟨⟨by decide, hfirst⟩, by decide, hsecond⟩

end VhalClient.Talkers
