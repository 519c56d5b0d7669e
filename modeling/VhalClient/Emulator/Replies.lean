/-
# VhalClient.Emulator.Replies — the emulator reads what the receiver sends.

The receiver sends five kinds of message (`Reply`); an entry of the log waits for one of them with a single
read of a struct the emulator names.  For two kinds the struct is the message.  For `DISPINFO_ACK` and
`SETUP_RESOLUTION` it is `display_info_t`, while the receiver sends `display_info_event_t`, so sixteen bytes of
the message stay on the socket; `DISPPORT_ACK` is not read at all.  `keepsPace_iff` says that the two sides
agree on a sequence of messages exactly when it has none of these.
-/
import VhalClient.Display.Journal
import VhalClient.Emulator.Agreement

namespace VhalClient.Display

/-- The struct the emulator reads for the message is the message. -/
def Reply.ReadAsSent : Reply → Prop
  | dispInfoAck _ => False
  | dispPortAck _ => False
  | displayAck _ => True
  | setupResolution _ _ => False
  | setVideoAlpha _ => True

end VhalClient.Display

namespace VhalClient.Emulator

open VhalClient.Lib VhalClient.Display

/-- An entry of the log that waits for a message of the receiver, with the payload the parser made of it. -/
structure Awaited where
  reply : Reply
  first : Struct
  more : List Struct
  surroundings : Surroundings

namespace Awaited

def bytes (e : Awaited) : List UInt8 := e.reply.bytes

def exchange (e : Awaited) : Command Unit :=
  CmdHandler.dataExchange e.surroundings (e.first :: e.more) ⟨e.reply.eventType, .receive⟩

end Awaited

namespace CmdHandler

/-- The messages of the entries are on the socket, and every `recv` returns all it asks for. -/
def awaiting (h : CmdHandler) (es : List Awaited) : CmdHandler :=
  { h with socket := some true, incoming := Feed.whole (es.flatMap Awaited.bytes) }

/-- After each entry the emulator has consumed its message and those before it, and the structs it read are
the ones that were sent. -/
def KeepsPace (h : CmdHandler) (es : List Awaited) : Prop :=
  ∀ done todo, es = done ++ todo →
    ∃ h', Checked.runAll Awaited.exchange done (h.awaiting es) = .ok () h' ∧
      h'.incoming = Feed.whole (todo.flatMap Awaited.bytes) ∧
      h'.received = (done.map Awaited.bytes).reverse ++ h.received

/-! ## One read -/

theorem readFromSocket_whole {h : CmdHandler} {l : List UInt8} {n : ℕ} (hsocket : h.socket = some true)
    (hincoming : h.incoming = Feed.whole l) (hpos : 0 < n) (hlen : n ≤ l.length) :
    readFromSocket n h =
      .ok () { h with incoming := Feed.whole (l.drop n), received := l.take n :: h.received } := by
  obtain ⟨b, bs, hrecv, hbytes⟩ := Feed.recv_of_le_front (f := h.incoming) hpos
    (by rw [hincoming, Feed.front_whole]; exact hlen)
  rw [hincoming, Feed.skip_whole hlen] at hrecv
  rw [hincoming, Feed.bytes_whole] at hbytes
  refine Checked.bind_eq_ok.mpr ⟨h, h, rfl, ?_⟩
  simp only [hsocket, hincoming, hrecv, ← hbytes]
  rfl

/-- A read that goes through returns at most what it asked for. -/
theorem length_of_readFromSocket_ok {h h' : CmdHandler} {n : ℕ} {u : Unit} (hpos : 0 < n)
    (hok : readFromSocket n h = .ok u h') : ∃ bs, h'.received = bs :: h.received ∧ bs.length ≤ n := by
  unfold readFromSocket at hok
  obtain ⟨_, _, hget, hok⟩ := Checked.bind_eq_ok.mp hok
  obtain ⟨rfl, rfl⟩ := Checked.get_eq_ok.mp hget
  rcases hsocket : h.socket with _ | _ | _
  · rw [hsocket] at hok
    exact absurd hok Checked.throw_ne_ok
  · rw [hsocket] at hok
    exact absurd hok Checked.throw_ne_ok
  rw [hsocket] at hok
  dsimp only at hok
  -- What is next on the socket: nothing, an error, a chunk.
  match hfeed : h.incoming with
  | [] =>
    rw [hfeed] at hok
    rw [← Checked.set_eq_ok.mp hok]
    exact ⟨[], rfl, Nat.zero_le n⟩
  | .error :: f =>
    rw [hfeed] at hok
    obtain ⟨_, _, _, hthrow⟩ := Checked.bind_eq_ok.mp hok
    exact absurd hthrow Checked.throw_ne_ok
  | .chunk b bs :: f =>
    rw [hfeed] at hok
    rw [← Checked.set_eq_ok.mp hok]
    refine ⟨b :: bs.take (n - 1), rfl, ?_⟩
    rw [List.length_cons, List.length_take]
    omega

end CmdHandler

/-! ## One entry -/

namespace Awaited

variable {e : Awaited} {h h' : CmdHandler}

/-- The entry of a message that is read as it was sent consumes that message. -/
theorem exchange_of_readAsSent {rest : List UInt8} (hread : e.reply.ReadAsSent) (hsocket : h.socket = some true)
    (hincoming : h.incoming = Feed.whole (e.bytes ++ rest)) :
    e.exchange h =
      .ok () { h with incoming := Feed.whole rest, received := e.bytes :: h.received } := by
  obtain ⟨reply, first, more, surroundings⟩ := e
  cases reply with
  | displayAck info =>
    have hlen : (Reply.displayAck info).bytes.length = sizeofBufferInfoEvent := Layout.length_write _ _
    have hok := CmdHandler.readFromSocket_whole (n := sizeofBufferInfoEvent) hsocket hincoming (by decide)
      (by simp [bytes, hlen])
    rw [bytes, List.drop_left' hlen, List.take_left' hlen] at hok
    exact hok
  | setVideoAlpha action =>
    have hlen : (Reply.setVideoAlpha action).bytes.length = Layout.displaySetVideoAlphaEvent.size :=
      Layout.length_write _ _
    have hok := CmdHandler.readFromSocket_whole (n := Layout.displaySetVideoAlphaEvent.size) hsocket
      hincoming (by decide) (by simp [bytes, hlen])
    rw [bytes, List.drop_left' hlen, List.take_left' hlen] at hok
    exact hok
  | dispInfoAck cfg => exact hread.elim
  | dispPortAck cfg => exact hread.elim
  | setupResolution width height => exact hread.elim

/-- The entry of any other message reads less than the message, if it goes through. -/
theorem length_lt_of_exchange_ok {u : Unit} (hread : ¬ e.reply.ReadAsSent) (hok : e.exchange h = .ok u h') :
    ∃ bs, h'.received = bs :: h.received ∧ bs.length < e.bytes.length := by
  obtain ⟨reply, first, more, surroundings⟩ := e
  have hshort (ev : DisplayInfoEvent)
      (hok : CmdHandler.readFromSocket Layout.displayInfo.size h = .ok u h') :
      ∃ bs, h'.received = bs :: h.received ∧ bs.length < (Layout.displayInfoEvent.write ev).length := by
    obtain ⟨bs, hreceived, hlen⟩ := CmdHandler.length_of_readFromSocket_ok (by decide) hok
    have hsizes : Layout.displayInfo.size < Layout.displayInfoEvent.size := by decide
    exact ⟨bs, hreceived, by rw [Layout.length_write]; omega⟩
  cases reply with
  | displayAck info => exact absurd trivial hread
  | setVideoAlpha action => exact absurd trivial hread
  | dispInfoAck cfg => exact hshort _ hok
  | dispPortAck cfg => exact absurd hok Checked.throw_ne_ok
  | setupResolution width height => exact hshort _ hok

end Awaited

/-! ## A sequence of entries -/

namespace CmdHandler

theorem runAll_of_readAsSent {done todo : List Awaited} {h : CmdHandler}
    (hread : ∀ e ∈ done, e.reply.ReadAsSent) (hsocket : h.socket = some true)
    (hincoming : h.incoming = Feed.whole ((done ++ todo).flatMap Awaited.bytes)) :
    Checked.runAll Awaited.exchange done h =
      .ok ()
        { h with
          incoming := Feed.whole (todo.flatMap Awaited.bytes)
          received := (done.map Awaited.bytes).reverse ++ h.received } := by
  induction done generalizing h with
  | nil =>
    rw [List.nil_append] at hincoming
    rw [← hincoming]
    rfl
  | cons e done ih =>
    rw [List.cons_append, List.flatMap_cons] at hincoming
    have hfirst := Awaited.exchange_of_readAsSent (hread e (List.mem_cons_self ..)) hsocket hincoming
    refine Checked.runAll_cons.mpr ⟨_, hfirst, ?_⟩
    set t : CmdHandler :=
      { h with
        incoming := Feed.whole ((done ++ todo).flatMap Awaited.bytes)
        received := e.bytes :: h.received } with ht
    rw [ih (h := t) (fun e he => hread e (List.mem_cons_of_mem _ he)) hsocket rfl, ht]
    simp

/-- **Both sides agree on the replies** exactly as long as each is read as it was sent. -/
theorem keepsPace_iff (h : CmdHandler) (es : List Awaited) :
    h.KeepsPace es ↔ ∀ e ∈ es, e.reply.ReadAsSent := by
  constructor
  · -- Between the states before and after an entry there is one struct more, and it is too short.
    intro hpace e he
    obtain ⟨done, todo, rfl⟩ := List.append_of_mem he
    obtain ⟨t, hdone, -, hreceived⟩ := hpace done (e :: todo) rfl
    obtain ⟨t', hnext, -, hreceived'⟩ := hpace (done ++ [e]) todo (by simp)
    obtain ⟨t₀, hdone₀, hlast⟩ := Checked.runAll_append.mp hnext
    obtain ⟨t₁, hexchange, hnil⟩ := Checked.runAll_cons.mp hlast
    obtain ⟨-, rfl⟩ := Checked.pure_eq_ok.mp hnil
    obtain rfl : t = t₀ := by
      rw [hdone] at hdone₀
      exact (EStateM.Result.ok.inj hdone₀).2
    by_contra hread
    obtain ⟨bs, hbs, hlen⟩ := Awaited.length_lt_of_exchange_ok hread hexchange
    rw [hreceived', hreceived] at hbs
    simp only [List.map_append, List.map_cons, List.map_nil, List.reverse_append, List.reverse_cons,
      List.reverse_nil, List.nil_append, List.cons_append, List.cons.injEq] at hbs
    rw [hbs.1] at hlen
    exact lt_irrefl _ hlen
  · intro hread done todo heq
    subst heq
    exact ⟨_, runAll_of_readAsSent (fun e he => hread e (List.mem_append_left _ he)) rfl rfl, rfl, rfl⟩

/-- The answer to `DISPINFO_REQ` alone is too much. -/
theorem not_keepsPace_dispInfoAck :
    ¬ freshEmulator.KeepsPace [⟨.dispInfoAck anySession, .displayInfoEvent (Reply.dispInfoAckEvent anySession),
      [], calmSurroundings⟩] := by
  intro hpace
  obtain ⟨h', hok, -, hreceived⟩ := hpace [_] [] rfl
  obtain ⟨t, hexchange, hnil⟩ := Checked.runAll_cons.mp hok
  obtain ⟨-, rfl⟩ := Checked.pure_eq_ok.mp hnil
  obtain ⟨bs, hbs, hlen⟩ := Awaited.length_lt_of_exchange_ok id hexchange
  rw [hbs] at hreceived
  obtain ⟨rfl, -⟩ := List.cons.inj hreceived
  exact lt_irrefl _ hlen

end CmdHandler

end VhalClient.Emulator
