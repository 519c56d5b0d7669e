/-
# VhalClient.Emulator.RecordReplay — a session is recorded, and its log is played to another receiver.

The library writes a log of what a receiver is sent, and the emulator is the program that plays such a log to a
receiver.  `main_on_log` says how it can end: on the log of a session whose records can be replayed it gets to the
end, or an exchange fails, or the clip, the device or the socket; the log itself is read to where it stops.  And if it gets to the end, the client of a second receiver is shown what
the client of the first was shown (`replay_shows_session`): nothing of it is lost in the records, in the text, in
what the emulator makes of the text, or on the way.
-/
import VhalClient.Emulator.Main
import VhalClient.Emulator.RecordedRequests

namespace VhalClient.Emulator

open VhalClient.Lib VhalClient.Lib.Yaml VhalClient.Display

/-! ## Entries of a log -/

/-- What the emulator decodes of a message of the server. -/
def payloadOf (ev : DisplayEvent) (p : Parts) : List Struct :=
  if ev.type = evDispInfoReq ∨ ev.type = evDispPortReq then [.displayEvent ev]
  else if ev.type = evCreateBuffer then
    [.bufferInfoEvent (headersOf ev p), .grallocHandle (p.gralloc.elim (zeroed Layout.crosGrallocHandle) id)]
  else [.bufferInfoEvent (headersOf ev p)]

section Entries

variable {y : Loader} (hy : y.Documented) {clock : ℕ → Fin (2 ^ 63)} {node : Node} {env : Surroundings}
include hy

theorem processNode_document {r : Record} (hnode : IsDocument clock node r) (hr : Replayable r)
    {payload : List Struct} (hpayload : decodePayload y (.map r.body) (eventTypeOf r) = some (none, payload)) :
    CmdHandler.processNode y env node =
      CmdHandler.dataExchange env payload ⟨eventTypeOf r, replayDirection r⟩ := by
  obtain ⟨hcode, hdir⟩ := metadata_record hr
  rw [← hcode] at hpayload
  obtain ⟨decoded, hdecoded, rfl, htype, hdirection⟩ := decodeNode_document hy hnode hpayload
  rw [CmdHandler.processNode, hdecoded, ← hcode, ← hdir, ← htype, ← hdirection]

theorem processNode_received {ev : DisplayEvent} {parts : Parts}
    (hnode : IsDocument clock node (.received ev parts)) (hr : Replayable (.received ev parts)) :
    CmdHandler.processNode y env node =
      CmdHandler.dataExchange env (payloadOf ev parts) ⟨ev.type, .send⟩ := by
  apply processNode_document hy hnode hr
  show decodePayload y _ ev.type = _
  rcases hr with ⟨htype, hev⟩ | ⟨htype | htype | htype, hparts⟩
  · rw [decodePayload_displayEvent hy htype hev, payloadOf, if_pos htype]
  · rw [payloadOf, if_neg (by rw [htype]; decide), if_pos htype, htype]
    exact decodePayload_createBuffer hy htype hparts
  · rw [payloadOf, if_neg (by rw [htype]; decide), if_neg (by rw [htype]; decide), htype]
    exact decodePayload_removeBuffer hy htype hparts
  · rw [payloadOf, if_neg (by rw [htype]; decide), if_neg (by rw [htype]; decide), htype]
    exact decodePayload_displayReq hy htype hparts

theorem processNode_replied {reply : Reply} {count : ℤ} (hnode : IsDocument clock node (.replied reply count))
    (hr : Replayable (.replied reply count)) :
    CmdHandler.processNode y env node = CmdHandler.receiveEntry reply.eventType := by
  obtain ⟨payload, hpayload, hne, -⟩ := decodePayload_record hy hr
  rw [processNode_document hy hnode hr hpayload]
  have hne' : ¬ payload.isEmpty = true := by simpa using hne
  rw [CmdHandler.dataExchange, if_neg hne']
  rfl

end Entries

/-! ## A log to play -/

def pixelMessage : Message := ⟨⟨evCreateBuffer, 228, 0, 0⟩, .createBuffer ⟨7⟩ pixel [5]⟩

/-- A receiver connects and is sent a buffer of one pixel. -/
def pixelSession : List Input := connectedTo pixelMessage ++ [.poll (.ready calmEnv)]

def pixelRecord : Record :=
  .received pixelMessage.event ⟨some ⟨7⟩, some (pixel.setFds [5]).unifyFormat, none⟩

theorem session_pixelSession : Impl.session anySession .initial pixelSession = [pixelRecord] := by
  decide +kernel

theorem replayable_pixelRecord : Replayable pixelRecord := by
  have hwords : pixel.unsigneds.all (fun w => decide (w.toNat < 2 ^ 31)) = true := by decide +kernel
  have hpixel : pixel.Small := fun w hw => of_decide_eq_true (List.all_eq_true.mp hwords w hw)
  refine .inr ⟨.inl rfl, fun _ => ⟨by decide, by decide, by decide⟩, ?_, ?_⟩
  · intro info hinfo
    obtain rfl := Option.some.inj hinfo
    show (7 : UInt64).toNat < 2 ^ 63
    decide
  · intro gralloc hgralloc
    obtain rfl := Option.some.inj hgralloc
    exact small_unifyFormat hpixel [5]

/-- The log, the clip and the socket that the emulator is told about. -/
def threeFiles : AicConfigData := { ymlFileName := [97], contentFileName := [98], hwcSock := [99] }

def threeWords : List (List UInt8) :=
  [(Flag.cmd, [97]), (Flag.content, [98]), (Flag.hwcSock, [99])].flatMap Setting.words

/-- All calls succeed, and there is one text to be read. -/
def calmHost (log : List Char) : Host where
  k8sEnv := none
  text _ := some log
  content _ := some [1, 2, 3, 4]
  device := ⟨3, ⟨0, 0⟩, 0, ⟨0, 0⟩, ⟨0, 0⟩, ⟨0, 0⟩, 4⟩
  found := 0
  behind := []
  attempt := ⟨3, 0, 0, 0, 4⟩
  incoming := []
  entries _ := calmSurroundings

theorem parseArgs_threeWords : parseArgs (fun _ => 0) threeWords = .returned threeFiles none := by
  decide +kernel

/-! ## How a replay can end -/

section Logs

variable {y : Loader} (hy : y.Documented) (clock : ℕ → Fin (2 ^ 63)) (cfg : Config) (is : List Input)
include hy

end Logs

/-- A record that both programs are made for: it can be replayed, the message came whole, a buffer has one
descriptor, and the second receiver takes part. -/
structure Playable (cfg : Config) (renderNode : UInt32) (r : Record) : Prop where
  replayable : Replayable r
  whole : CameWhole r
  plane : ∀ ev parts, r = .received ev parts → ∀ gralloc ∈ parts.gralloc, gralloc.numFds = 1
  accepted : ∀ ev parts, r = .received ev parts → ev.type = evDispInfoReq →
    Impl.checkDispConfig cfg ev.id.toInt32 renderNode.toInt32 ≠ -1

/-- The entry of a message, as an exchange. -/
def entryOf (surroundings : Surroundings) (env : Env) (ev : DisplayEvent) (p : Parts) : Entry :=
  ⟨payloadOf ev p, ev.type, surroundings, env⟩

section Sent

variable {cfg : Config} {renderNode : UInt32} {surroundings : Surroundings} {env : Env} {ev : DisplayEvent}
  {parts : Parts}

/-- The payloads of whole messages. -/
theorem payloadOf_cases (hreplayable : Replayable (.received ev parts)) (hwhole : CameWhole (.received ev parts)) :
    (ev.type = evDispInfoReq ∨ ev.type = evDispPortReq) ∧ payloadOf ev parts = [.displayEvent ev] ∨
      (∃ info gralloc, ev.type = evCreateBuffer ∧ parts.info = some info ∧ parts.gralloc = some gralloc ∧
        payloadOf ev parts = [.bufferInfoEvent ⟨ev, info⟩, .grallocHandle gralloc]) ∨
      ∃ info, (ev.type = evRemoveBuffer ∨ ev.type = evDisplayReq) ∧ parts.info = some info ∧
        payloadOf ev parts = [.bufferInfoEvent ⟨ev, info⟩] := by
  unfold payloadOf
  rcases hreplayable with ⟨htype, -⟩ | ⟨htype, -⟩
  · exact .inl ⟨htype, if_pos htype⟩
  obtain ⟨info, hinfo⟩ := Option.isSome_iff_exists.mp (hwhole.1 htype)
  have hheaders : headersOf ev parts = ⟨ev, info⟩ := by rw [headersOf, hinfo]; rfl
  rw [hheaders]
  rcases htype with htype | htype | htype
  · obtain ⟨gralloc, hgralloc⟩ := Option.isSome_iff_exists.mp (hwhole.2.1 htype)
    rw [if_neg (by rw [htype]; decide), if_pos htype, hgralloc]
    exact .inr (.inl ⟨info, gralloc, htype, hinfo, rfl, rfl⟩)
  · rw [if_neg (by rw [htype]; decide), if_neg (by rw [htype]; decide)]
    exact .inr (.inr ⟨info, .inl htype, hinfo, rfl⟩)
  · rw [if_neg (by rw [htype]; decide), if_neg (by rw [htype]; decide)]
    exact .inr (.inr ⟨info, .inr htype, hinfo, rfl⟩)

theorem regular_entryOf (h : Playable cfg renderNode (.received ev parts)) (hsized : Sized (.received ev parts)) :
    (entryOf surroundings env ev parts).Regular cfg renderNode := by
  have hpayload := payloadOf_cases h.replayable h.whole
  have hheader : (entryOf surroundings env ev parts).header = some ev := by
    unfold Entry.header entryOf
    dsimp only
    rcases hpayload with ⟨-, heq⟩ | ⟨info, gralloc, -, -, -, heq⟩ | ⟨info, -, -, heq⟩
    · rw [heq]
    · rw [heq]
    · rw [heq]
  constructor
  · intro ev' hev'
    obtain rfl := Option.some.inj (hheader.symm.trans hev')
    rfl
  · intro htype ev' hev'
    obtain rfl := Option.some.inj (hheader.symm.trans hev')
    exact hsized.1 (h.whole.2.1 htype)
  · intro htype gralloc hgralloc
    rcases hpayload with ⟨hother | hother, -⟩ | ⟨info, gralloc', -, -, hsome, heq⟩ | ⟨info, hother | hother, -⟩
    · exact absurd (hother.symm.trans htype) (by decide)
    · exact absurd (hother.symm.trans htype) (by decide)
    · unfold Entry.gralloc entryOf at hgralloc
      rw [heq] at hgralloc
      obtain rfl := Option.some.inj hgralloc
      exact h.plane ev parts rfl gralloc' hsome
    · exact absurd (hother.symm.trans htype) (by decide)
    · exact absurd (hother.symm.trans htype) (by decide)
  · intro htype ev' hev'
    obtain rfl := Option.some.inj (hheader.symm.trans hev')
    have hinfo := h.whole.1 (.inr (.inr htype))
    refine ⟨le_size_of_payloadSize (hsized.2.1 htype hinfo), ?_⟩
    rcases h.replayable with ⟨hother | hother, -⟩ | ⟨-, hsmall⟩
    · exact absurd (hother.symm.trans htype) (by decide)
    · exact absurd (hother.symm.trans htype) (by decide)
    · exact (hsmall.header hinfo).size
  · intro htype ev' hev'
    obtain rfl := Option.some.inj (hheader.symm.trans hev')
    exact h.accepted ev parts rfl htype

/-- A request to display a frame with a control block does not go through: the block is not found. -/
theorem ctrl_of_exchange_ok (hblocking : surroundings.Blocking) (htype : ev.type = evDisplayReq) {info : BufferInfo}
    (hpayload : payloadOf ev parts = [.bufferInfoEvent ⟨ev, info⟩]) (hsized : Sized (.received ev parts))
    {h h' : CmdHandler} {u : Unit} (hok : (entryOf surroundings env ev parts).exchange h = .ok u h') :
    parts.ctrl = none := by
  unfold Entry.exchange entryOf at hok
  dsimp only at hok
  rw [hpayload, htype] at hok
  have hxchng : CmdHandler.xchngDisplayRequest surroundings [.bufferInfoEvent ⟨ev, info⟩] h = .ok u h' := hok
  obtain ⟨⟨ctrl, hctrl, hhas, -⟩, -⟩ := CmdHandler.xchngDisplayRequest_ok hblocking hxchng
  have hnone : ctrl = none := by
    rw [hctrl]
    exact ite_self none
  by_contra hsome
  have hannounced := hhas.mpr (hsized.2.2 htype (Option.isSome_iff_ne_none.mpr hsome))
  rw [hnone] at hannounced
  cases hannounced

/-- An entry that goes through asks for what its record does. -/
theorem request_entryOf (hplayable : Playable cfg renderNode (.received ev parts))
    (hsized : Sized (.received ev parts)) (hblocking : surroundings.Blocking) {h h' : CmdHandler} {u : Unit}
    (hok : (entryOf surroundings env ev parts).exchange h = .ok u h') :
    (entryOf surroundings env ev parts).request = requestOfRecord (.received ev parts) := by
  show _ = parts.info.bind fun info => requestOfParts ev.type info parts
  rcases payloadOf_cases hplayable.replayable hplayable.whole with
    ⟨htype, heq⟩ | ⟨info, gralloc, htype, hinfo, hgralloc, heq⟩ | ⟨info, htype, hinfo, heq⟩
  · have hnone (info : BufferInfo) : requestOfParts ev.type info parts = none := by
      rcases htype with htype | htype <;> rw [htype] <;> rfl
    unfold Entry.request entryOf
    rw [heq]
    cases parts.info with
    | none => rfl
    | some info => exact (hnone info).symm
  · unfold Entry.request Entry.gralloc entryOf
    rw [heq, hinfo, Option.bind_some, htype, requestOfParts, if_pos rfl, hgralloc]
    rfl
  · rw [hinfo, Option.bind_some]
    rcases htype with htype | htype
    · unfold Entry.request entryOf
      rw [heq, htype]
      rfl
    · have hctrl := ctrl_of_exchange_ok hblocking htype heq hsized hok
      unfold Entry.request entryOf
      rw [heq, htype, requestOfParts, hctrl]
      dsimp only
      rw [show CmdHandler.controlOf [] = none from rfl, ite_self]
      rfl

end Sent

/-! ## What a run sends -/

/-- The emulator sent the messages between the two states, and the handles are as they lead. -/
structure Wrote (cfg : Config) (h h' : CmdHandler) (ms : List Message) : Prop where
  outgoing : h'.outgoing = h.outgoing ++ ms.flatMap Message.wire
  renderNode : h'.gfx.getRenderNode = h.gfx.getRenderNode
  legal : ∀ m ∈ ms, m.WellFormed ∧ ¬ m.body.Ends cfg m.event
  feasible : ∀ o, SameHandles h o → Request.Feasible o (Session.requestsOf ms)
  handles : ∀ o, SameHandles h o → SameHandles h' (Request.ownersAfter o (Session.requestsOf ms))

namespace Wrote

variable {cfg : Config} {h h' h'' : CmdHandler}

theorem nothing (houtgoing : h'.outgoing = h.outgoing) (hgfx : h'.gfx = h.gfx) : Wrote cfg h h' [] where
  outgoing := houtgoing.trans (List.append_nil _).symm
  renderNode := by rw [hgfx]
  legal := fun m hm => absurd hm List.not_mem_nil
  feasible := fun o _ => trivial
  handles := by
    intro o hsame
    show ∀ r, r ∈ h'.gfx.boList.keys ↔ (o r).isSome
    rw [hgfx]
    exact hsame

theorem trans {ms ns : List Message} (hfirst : Wrote cfg h h' ms) (hrest : Wrote cfg h' h'' ns) :
    Wrote cfg h h'' (ms ++ ns) where
  outgoing := by rw [hrest.outgoing, hfirst.outgoing, List.flatMap_append, List.append_assoc]
  renderNode := hrest.renderNode.trans hfirst.renderNode
  legal := List.forall_mem_append.mpr ⟨hfirst.legal, hrest.legal⟩
  feasible := by
    intro o hsame
    rw [Session.requestsOf_append, Request.feasible_append]
    exact ⟨hfirst.feasible o hsame, hrest.feasible _ (hfirst.handles o hsame)⟩
  handles := by
    intro o hsame
    rw [Session.requestsOf_append, Request.ownersAfter_append]
    exact hrest.handles _ (hfirst.handles o hsame)

end Wrote

theorem Sends.wrote {cfg : Config} {e : Entry} {h h' : CmdHandler} {m : Message} (hsends : Sends cfg e h h' m) :
    Wrote cfg h h' [m] where
  outgoing := by rw [hsends.outgoing, List.flatMap_singleton]
  renderNode := congrArg Int32.toUInt32 hsends.renderNode
  legal := List.forall_mem_singleton.mpr ⟨hsends.wellFormed, hsends.stays⟩
  feasible := by
    intro o hsame
    rw [Session.requestsOf_singleton, hsends.request, Request.feasible_toList]
    exact hsends.possible o hsame
  handles := by
    intro o hsame
    rw [Session.requestsOf_singleton, hsends.request, Request.ownersAfter_toList]
    exact hsends.handles o hsame

section Runs

variable {y : Loader} (hy : y.Documented) {clock : ℕ → Fin (2 ^ 63)} {cfg : Config}
include hy

/-- An entry that goes through sends the message of its record, if it is one of the server. -/
theorem wrote_document {node : Node} {r : Record} {env : Surroundings} {h h' : CmdHandler} {u : Unit}
    (hnode : IsDocument clock node r) (hplayable : Playable cfg h.gfx.getRenderNode r) (hsized : Sized r)
    (hblocking : env.Blocking) (hok : CmdHandler.processNode y env node h = .ok u h') :
    ∃ ms, Wrote cfg h h' ms ∧ Session.requestsOf ms = recordedRequests [r] ∧ ms.length ≤ 1 := by
  cases r with
  | received ev parts =>
    rw [processNode_received hy hnode hplayable.replayable] at hok
    -- The receiver's surroundings play no part in what is sent to it.
    have hexchange : (entryOf env calmEnv ev parts).exchange h = .ok u h' := hok
    obtain ⟨m, hsends⟩ := exchange_sends hblocking (regular_entryOf hplayable hsized) hexchange
    refine ⟨[m], hsends.wrote, ?_, Nat.le_refl 1⟩
    rw [Session.requestsOf_singleton, hsends.request, request_entryOf hplayable hsized hblocking hexchange]
    have hreceived : [Record.received ev parts] = .received ev parts :: ([] : List Reply).map (.replied · 0) := rfl
    exact (recordedRequests_received hreceived).symm
  | replied reply count =>
    rw [processNode_replied hy hnode hplayable.replayable] at hok
    have houtgoing := CmdHandler.outgoing_receiveEntry reply.eventType h
    have hgfx := CmdHandler.gfx_receiveEntry reply.eventType h
    rw [hok] at houtgoing hgfx
    exact ⟨[], .nothing houtgoing hgfx, rfl, Nat.zero_le 1⟩

/-- The entries of a log, one after the other, from any place on. -/
theorem wrote_documents {nodes : List Node} {rs : List Record} (hnodes : List.Forall₂ (IsDocument clock) nodes rs)
    {entries : ℕ → Surroundings} (hblocking : ∀ i, (entries i).Blocking) (hsized : ∀ r ∈ rs, Sized r) {k : ℕ}
    {h h' : CmdHandler} (hplayable : ∀ r ∈ rs, Playable cfg h.gfx.getRenderNode r)
    (hok : Checked.runAll (processAt y entries) (nodes.zipIdx k) h = .ok () h') :
    ∃ ms, Wrote cfg h h' ms ∧ Session.requestsOf ms = recordedRequests rs ∧ ms.length ≤ rs.length := by
  induction hnodes generalizing k h with
  | nil =>
    obtain ⟨-, rfl⟩ := Checked.pure_eq_ok.mp hok
    exact ⟨[], .nothing rfl rfl, rfl, Nat.le_refl 0⟩
  | @cons node r nodes rs hnode _ ih =>
    rw [List.zipIdx_cons, Checked.runAll_cons] at hok
    obtain ⟨t, hfirst, hrest⟩ := hok
    obtain ⟨ms, hwrote, hrequests, hlength⟩ := wrote_document hy hnode (hplayable r List.mem_cons_self)
      (hsized r List.mem_cons_self) (hblocking k) hfirst
    obtain ⟨ns, hwrote', hrequests', hlength'⟩ := ih (fun r hr => hsized r (List.mem_cons_of_mem _ hr))
      (by rw [hwrote.renderNode]; exact fun r hr => hplayable r (List.mem_cons_of_mem _ hr)) hrest
    refine ⟨ms ++ ns, hwrote.trans hwrote', ?_, ?_⟩
    · rw [Session.requestsOf_append, hrequests, hrequests', ← recordedRequests_append, List.singleton_append]
    · rw [List.length_append, List.length_cons]
      omega

end Runs

/-! ## A session and its replay -/

/-- The render node of the device that the command line names. -/
def AicConfigData.renderNode (overlong : ℤ → Int32) (config : AicConfigData) : UInt32 :=
  (GfxHandler.gfxInit overlong config.deviceString ⟨true, .empty, 0, []⟩).getRenderNode

/-- All that the emulator wrote is on its way to the receiver. -/
def delivery (h : CmdHandler) (s : Impl) : Session := ⟨h, s, h.outgoing, []⟩

/-- The receiver reads what was written, message by message. -/
theorem delivery_shows {cfg : Config} {h h' : CmdHandler} {s : Impl} {ms : List Message} (hwrote : Wrote cfg h h' ms)
    (hfresh : h.outgoing = []) (hwork : Working s) (hsame : SameHandles h (owners s)) {envs : List Env}
    (hblock : ∀ env ∈ envs, env.block.isSome) (henough : ms.length ≤ envs.length) :
    let τ := (envs.map Session.Event.turn).foldl (Session.step cfg) (delivery h' s)
    τ.requests = [] ∧ Follows s τ.receiver (Session.requestsOf ms) ∧
      SameHandles h' (Request.ownersAfter (owners s) (Session.requestsOf ms)) := by
  intro τ
  have htracks : Session.Tracks cfg (owners s) (shown s) (delivery h' s) ⟨[], ms⟩ := by
    refine ⟨hwork, ?_, hwrote.legal, hwrote.feasible _ hsame, (List.append_nil _).symm, rfl, hwrote.handles _ hsame⟩
    show h'.outgoing = _
    rw [hwrote.outgoing, hfresh, List.nil_append]
  have hturns := htracks.turns hblock
  have hidle : ((List.replicate envs.length Pipe.Act.take).foldl Pipe.step ⟨[], ms⟩).flight = [] :=
    Pipe.flight_take_eq_nil henough
  have hputs : ((List.replicate envs.length Pipe.Act.take).foldl Pipe.step ⟨[], ms⟩).puts = ms :=
    Pipe.puts_takes ⟨[], ms⟩ envs.length
  have htaken : ((List.replicate envs.length Pipe.Act.take).foldl Pipe.step ⟨[], ms⟩).taken = ms := by
    rw [Pipe.puts, hidle, List.append_nil] at hputs
    exact hputs
  refine ⟨?_, ⟨?_, ?_⟩, hwrote.handles _ hsame⟩
  · rw [hturns.requests, hidle]
    rfl
  · rw [hturns.shown, htaken]
  · rw [hturns.owners, htaken]

/-- **A replay shows what was recorded.**  A session of a receiver is logged; the emulator gets to the end of the
log; another receiver reads what the emulator wrote.  Then the client of the second receiver is shown exactly what
the client of the first was, and all three hold the same remote handles. -/
theorem replay_shows_session {y : Loader} (hy : y.Documented) (clock : ℕ → Fin (2 ^ 63)) {overlong : ℤ → Int32}
    {host : Host} {args : List (List UInt8)} {config : AicConfigData} {cfgA cfgB : Config} {is : List Input}
    {s : Impl} {envs : List Env} {n : ℕ} {h : CmdHandler}
    (hargs : parseArgs overlong args = .returned config none)
    (hlog : host.text config.ymlFileName = some ((is.foldl (Impl.step cfgA) .initial).ymlLog clock))
    (hplayable : ∀ r ∈ Impl.session cfgA .initial is, Playable cfgB (config.renderNode overlong) r)
    (hcount : (Impl.session cfgA .initial is).length < 2 ^ 31) (hstop : Input.stop ∉ is)
    (hblocking : ∀ i, (host.entries i).Blocking) (hend : main overlong y host args = .endOfRun n h)
    (hwork : Working s) (hempty : s.mHandles = .empty) (hblock : ∀ env ∈ envs, env.block.isSome)
    (henough : n ≤ envs.length + 1) :
    let t := is.foldl (Impl.step cfgA) .initial
    let τ := (envs.map Session.Event.turn).foldl (Session.step cfgB) (delivery h s)
    n = (Impl.session cfgA .initial is).length + 1 ∧ τ.requests = [] ∧
      shown τ.receiver = shown s ++ shown t ∧ owners τ.receiver = owners t ∧
      ∀ r, r ∈ h.gfx.boList.keys ↔ r ∈ t.mHandles.keys := by
  intro t τ
  obtain ⟨config', nodes, content, hconfig, hstarts, rfl, hrun⟩ := starts_of_main_endOfRun hend
  obtain ⟨rfl, -⟩ := Parsed.returned.inj (hargs.symm.trans hconfig)
  obtain ⟨nodes', hload, hnodes⟩ := nodes_log clock hy cfgA is hcount
  obtain rfl : nodes = nodes' := by
    have hstarted := hstarts.log
    rw [hlog] at hstarted
    exact Option.some.inj (hstarted.symm.trans hload)
  have hlength := hnodes.length_eq
  have hplayable' : ∀ r ∈ Impl.session cfgA .initial is,
      Playable cfgB (config.started overlong host content).gfx.getRenderNode r := hplayable
  obtain ⟨ms, hwrote, hrequests, hmessages⟩ := wrote_documents hy hnodes hblocking
    (sized_session cfgA .initial is) hplayable' hrun
  -- Both receivers begin without buffers, and so does the emulator.
  have howners : owners s = owners Impl.initial := owners_congr hempty
  have hsame : SameHandles (config.started overlong host content) (owners s) := by
    rw [howners]
    exact mem_keys_iff_owners Impl.initial
  obtain ⟨hidle, hfollows, hhandles⟩ := delivery_shows hwrote rfl hwork hsame hblock (by omega)
  rw [hrequests] at hfollows hhandles
  have hfeasible : Request.Feasible (owners Impl.initial) (recordedRequests (Impl.session cfgA .initial is)) := by
    rw [← hrequests, ← howners]
    exact hwrote.feasible _ hsame
  have hrecorded := follows_session cfgA .initial is hstop (fun r hr => (hplayable r hr).whole) hfeasible
  rw [howners] at hhandles
  refine ⟨by rw [hlength], hidle, ?_, ?_, ?_⟩
  · rw [hfollows.shown, hrecorded.shown, howners]
    rfl
  · rw [hfollows.owners, hrecorded.owners, howners]
  · intro r
    rw [hhandles r, mem_keys_iff_owners, hrecorded.owners]

theorem playable_pixelRecord (renderNode : UInt32) : Playable anySession renderNode pixelRecord := by
  refine ⟨replayable_pixelRecord, ⟨fun _ => rfl, fun _ => rfl, fun htype => absurd htype (by decide)⟩, ?_, ?_⟩
  · intro ev parts hrecord gralloc hgralloc
    obtain ⟨-, rfl⟩ := Record.received.inj hrecord
    obtain rfl := Option.some.inj hgralloc
    rfl
  · intro ev parts hrecord htype
    obtain ⟨rfl, -⟩ := Record.received.inj hrecord
    exact absurd htype (by decide)

theorem main_pixelSession :
    let host := calmHost ((pixelSession.foldl (Impl.step anySession) .initial).ymlLog fun _ => 0)
    ∃ h, main (fun _ => 0) Loader.lineByLine host threeWords = .endOfRun 2 h := by
  intro host
  have hcount : (Impl.session anySession .initial pixelSession).length < 2 ^ 31 := by
    rw [session_pixelSession]
    decide
  obtain ⟨nodes, hload, hnodes⟩ := nodes_log (fun _ => 0) Loader.documented_lineByLine anySession pixelSession hcount
  rw [session_pixelSession] at hnodes
  cases hnodes with
  | @cons node _ _ _ hnode hrest =>
    cases hrest
    set h := threeFiles.started (fun _ => 0) host [1, 2, 3, 4] with hh
    have hprocess : processAt Loader.lineByLine host.entries (node, 0) =
        CmdHandler.dataExchange calmSurroundings _ _ :=
      processNode_received Loader.documented_lineByLine hnode replayable_pixelRecord
    have hsucceeds : succeeds (CmdHandler.dataExchange calmSurroundings
        (payloadOf pixelMessage.event ⟨some ⟨7⟩, some (pixel.setFds [5]).unifyFormat, none⟩)
        ⟨evCreateBuffer, .send⟩ h) = true := by decide +kernel
    have hok : ∃ t, processAt Loader.lineByLine host.entries (node, 0) h = .ok () t := by
      rw [hprocess]
      cases hresult : CmdHandler.dataExchange calmSurroundings
        (payloadOf pixelMessage.event ⟨some ⟨7⟩, some (pixel.setFds [5]).unifyFormat, none⟩)
        ⟨evCreateBuffer, .send⟩ h with
      | ok u t => exact ⟨t, hresult⟩
      | error e t =>
        rw [hresult] at hsucceeds
        cases hsucceeds
    obtain ⟨t, hok⟩ := hok
    have hstarts : threeFiles.Starts Loader.lineByLine host [node] [1, 2, 3, 4] :=
      ⟨hload, rfl, Iff.rfl, ⟨by decide, rfl, fun _ => rfl, rfl, rfl, by decide⟩,
        ⟨by decide, by decide, by decide, by decide, by decide⟩⟩
    exact ⟨t, main_eq_endOfRun parseArgs_threeWords hstarts (Checked.runAll_cons.mpr ⟨t, hok, rfl⟩)⟩

/-- **A replay shows what was recorded**, of a session in which a buffer is created. -/
theorem replay_shows_session_pixelSession :
    let host := calmHost ((pixelSession.foldl (Impl.step anySession) .initial).ymlLog fun _ => 0)
    ∃ h, main (fun _ => 0) Loader.lineByLine host threeWords = .endOfRun 2 h ∧
    let t := pixelSession.foldl (Impl.step anySession) .initial
    let τ := ([calmEnv].map Session.Event.turn).foldl (Session.step anySession) (delivery h atWork)
    2 = (Impl.session anySession .initial pixelSession).length + 1 ∧ τ.requests = [] ∧
      shown τ.receiver = shown atWork ++ shown t ∧ owners τ.receiver = owners t ∧
      ∀ r, r ∈ h.gfx.boList.keys ↔ r ∈ t.mHandles.keys := by
  obtain ⟨h, hend⟩ := main_pixelSession
  refine ⟨h, hend, replay_shows_session Loader.documented_lineByLine (fun _ => 0) parseArgs_threeWords rfl ?_ ?_ ?_
    ?_ hend ⟨rfl, rfl⟩ rfl ?_ (Nat.le_refl 2)⟩
  · rw [session_pixelSession]
    exact List.forall_mem_singleton.mpr (playable_pixelRecord _)
  · rw [session_pixelSession]
    decide
  · simp [pixelSession, connectedTo]
  · exact fun _ _ _ => Or.inr rfl
  · exact List.forall_mem_singleton.mpr rfl

end VhalClient.Emulator
