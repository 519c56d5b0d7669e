/-
# VhalClient.Emulator.LogReplay — a log replayed.

`nodes_log` is where the two programs meet: for a documented YAML library the nodes the emulator loads from the
log of a session are the documents of its records, one each and in order.  What the emulator makes of a node is
then a question about one record.

Two events cannot be replayed.  The answer to a `DISPPORT_REQ` decodes, and the exchange has no case for it;
`SET_VIDEO_ALPHA_REQ` has a case in the exchange, and no name in `GetEventCode`.  A third defect is in the nesting:
the control block of a frame is logged inside `buffer_info_event_t` and looked for beside it.
-/
import VhalClient.Lib.YamlLoader
import VhalClient.Lib.Run
import VhalClient.Emulator.Decoding

namespace VhalClient.Emulator

open VhalClient.Lib VhalClient.Lib.Yaml VhalClient.Display

/-! ## Errors of an exchange -/

/-- The failures an exchange has itself: none of a document that does not decode, decodes to nothing or names an
event without a case.  A log can cause some of them all the same, with a control block that is announced and not
there, a buffer that was not created or a size that the device refuses. -/
def Failure.OfExchange : Failure → Prop
  | .aic .ymlParser => False
  | .aic .payloadEmpty => False
  | .aic .badMetadata => False
  | .undefined => False
  | _ => True

/-- The payload is what the case of the event takes it for. -/
def Sendable (eventType : UInt32) : List Struct → Prop
  | [.displayEvent _] => eventType = evDispInfoReq ∨ eventType = evDispPortReq
  | [.bufferInfoEvent _, .grallocHandle _] => eventType = evCreateBuffer
  | [.bufferInfoEvent _] => eventType = evRemoveBuffer ∨ eventType = evDisplayReq
  | _ => False

/-- The exchange has a case that waits for the event. -/
def Receivable (eventType : UInt32) : Prop :=
  eventType = evDispInfoAck ∨ eventType = evSetupResolution ∨ eventType = evDisplayAck ∨
    eventType = evSetVideoAlphaReq

namespace CmdHandler

open Checked

variable {env : Surroundings}

theorem raises_callGfx (f : GfxHandler → GfxStatus × GfxHandler) :
    Raises Failure.OfExchange (callGfx f) := by
  refine .bind .get ?_
  intro h
  rcases f h.gfx with ⟨status, gfx⟩
  refine .bind (.set _) ?_
  intro _
  cases status with
  | ok => exact .pure _
  | fail => exact .throw trivial

theorem getOneFrame_error {fresh : ℕ → UInt8} {srcWidth srcHeight : UInt32} {surf : SurfaceParams}
    {pFrame : List UInt8} {st : InputStream} {e : AicError}
    (h : (getOneFrame fresh srcWidth srcHeight surf pFrame st).1 = .error e) :
    e = .streamParams ∨ e = .inputStream := by
  unfold getOneFrame at h
  dsimp only at h
  split_ifs at h <;> cases h
  all_goals first | exact .inl rfl | exact .inr rfl

theorem raises_nextFrame (surf : SurfaceParams) : Raises Failure.OfExchange (nextFrame env surf) := by
  refine .bind .get ?_
  intro h
  dsimp only
  rcases hframe : getOneFrame env.fresh h.srcWidth h.srcHeight surf _ h.inputStream with ⟨result, st⟩
  refine .bind (.set _) ?_
  intro _
  cases result with
  | ok frame => exact .pure _
  | error e =>
    refine .throw ?_
    rcases getOneFrame_error (congrArg Prod.fst hframe) with rfl | rfl
    · trivial
    · trivial

theorem raises_writeIntoSocket (i : ℕ) (data : List UInt8) :
    Raises Failure.OfExchange (writeIntoSocket env i data) := by
  refine .bind .get ?_
  intro h
  rcases h.socket with _ | _ | _
  · exact .throw trivial
  · exact .throw trivial
  · exact .ite (fun _ => .throw trivial) fun _ => .set _

theorem raises_readFromSocket (sizeInBytes : ℕ) :
    Raises Failure.OfExchange (readFromSocket sizeInBytes) := by
  refine .bind .get ?_
  intro h
  rcases h.socket with _ | _ | _
  · exact .throw trivial
  · exact .throw trivial
  · dsimp only
    rcases h.incoming.recv sizeInBytes with ⟨_ | _ | _, f⟩
    · exact .set _
    · exact .set _
    · exact .bind (.set _) fun _ => .throw trivial

theorem raises_sendFDs (i : ℕ) (bo : Option BoData) : Raises Failure.OfExchange (sendFDs env i bo) := by
  cases bo with
  | none => exact .throw trivial
  | some bo => exact .ite (fun _ => .throw trivial) fun _ => .modify _

theorem raises_initGfxSurfaceParams (props : CrosGrallocHandle) :
    Raises Failure.OfExchange (initGfxSurfaceParams props) := by
  unfold initGfxSurfaceParams
  refine .guard trivial ?_
  intro _
  dsimp only
  rcases GfxHandler.adjustSurfaceParams _ with ⟨_ | _, surf⟩
  · exact .pure _
  · exact .throw trivial

theorem raises_xchngDisplayRequest (evInfo : BufferInfoEvent) :
    Raises Failure.OfExchange (xchngDisplayRequest env [.bufferInfoEvent evInfo]) := by
  refine .bind .get ?_
  intro h
  dsimp only
  -- A control block that is announced and missing is an error of its own, `AICS_ERR_UNKNOWN`.
  refine .guard trivial fun hctrl => .bind .get ?_
  intro h'
  rcases h'.gfx.getBo evInfo.info.remoteHandle with _ | bo
  · exact .throw trivial
  refine .bind (raises_nextFrame _) fun frame => .bind (raises_callGfx _) fun _ =>
    .bind (raises_writeIntoSocket _ _) fun _ => .bind (raises_writeIntoSocket _ _) fun _ => ?_
  refine .ite (fun hhas => ?_) fun _ => .pure _
  exact absurd ⟨hhas, fun hlen => nomatch hlen⟩ hctrl

theorem raises_createBuffer (evInfo : BufferInfoEvent) (gralloc : CrosGrallocHandle) :
    Raises Failure.OfExchange (createBuffer env evInfo gralloc) :=
  .bind .get fun _ => .bind (raises_initGfxSurfaceParams _) fun _ => .bind (raises_callGfx _) fun _ =>
    .bind (raises_writeIntoSocket _ _) fun _ => .bind (raises_writeIntoSocket _ _) fun _ =>
      .bind (raises_writeIntoSocket _ _) fun _ => .bind .get fun _ => raises_sendFDs _ _

theorem raises_removeBuffer (evInfo : BufferInfoEvent) :
    Raises Failure.OfExchange (removeBuffer env evInfo) :=
  .bind .get fun _ => .bind (raises_writeIntoSocket _ _) fun _ => .bind (raises_writeIntoSocket _ _) fun _ =>
    raises_callGfx _

theorem raises_sendEntry {eventType : UInt32} {payload : List Struct} (h : Sendable eventType payload) :
    Raises Failure.OfExchange (sendEntry env payload eventType) := by
  unfold Sendable at h
  split at h
  · unfold sendEntry
    rw [if_pos h]
    exact .bind .get fun _ => raises_writeIntoSocket _ _
  · subst h
    unfold sendEntry
    rw [if_neg (by decide), if_pos rfl]
    exact raises_createBuffer _ _
  · rcases h with rfl | rfl
    · unfold sendEntry
      rw [if_neg (by decide), if_neg (by decide), if_pos rfl]
      exact raises_removeBuffer _
    · unfold sendEntry
      rw [if_neg (by decide), if_neg (by decide), if_neg (by decide), if_pos rfl]
      exact raises_xchngDisplayRequest _
  · exact h.elim

theorem raises_receiveEntry {eventType : UInt32} (h : Receivable eventType) :
    Raises Failure.OfExchange (receiveEntry eventType) := by
  rw [receiveEntry]
  refine .ite (fun _ => raises_readFromSocket _) fun hinfo => .ite (fun _ => raises_readFromSocket _)
    fun hack => .ite (fun _ => raises_readFromSocket _) fun halpha => ?_
  rcases h with h | h | h | h
  · exact absurd (.inl h) hinfo
  · exact absurd (.inr h) hinfo
  · exact absurd h hack
  · exact absurd h halpha

/-- An entry that names an event of its direction, with a payload of the right kind, fails only in its
exchange. -/
theorem raises_dataExchange {payload : List Struct} {metadata : Metadata} (hpayload : payload ≠ [])
    (h : metadata.direction = .send ∧ Sendable metadata.eventType payload ∨
      metadata.direction = .receive ∧ Receivable metadata.eventType) :
    Raises Failure.OfExchange (dataExchange env payload metadata) := by
  rw [dataExchange]
  have hne : ¬ payload.isEmpty = true := by simpa using hpayload
  rw [if_neg hne]
  rcases h with ⟨hdirection, h⟩ | ⟨hdirection, h⟩
  · rw [hdirection]
    exact raises_sendEntry h
  · rw [hdirection]
    exact raises_receiveEntry h

end CmdHandler

/-! ## The documents of a session -/

section Documents

variable (clock : ℕ → Fin (2 ^ 63))

theorem countsBelow_updateEventCount {l : ProfileLogger} {n : ℕ} (h : l.CountsBelow n) (event : LogEvent) :
    (l.updateEventCount event).CountsBelow (n + 1) := by
  obtain ⟨_, _, _, _, _, _, _, _⟩ := h
  cases event <;> constructor <;> dsimp only [ProfileLogger.updateEventCount] <;> omega

/-- A record adds one to one of the counters, or to none. -/
theorem countsBelow_counted {l : ProfileLogger} {n : ℕ} (h : l.CountsBelow n) (r : Record) :
    (r.counted l).CountsBelow (n + 1) := by
  have hkept : l.CountsBelow (n + 1) := by
    obtain ⟨_, _, _, _, _, _, _, _⟩ := h
    constructor <;> omega
  cases r with
  | received ev parts => exact countsBelow_updateEventCount h _
  | replied reply count =>
    cases reply with
    | dispInfoAck cfg => exact hkept
    | dispPortAck cfg => exact hkept
    | displayAck info => exact hkept
    | setupResolution width height => exact countsBelow_updateEventCount h .changeResolution
    | setVideoAlpha action => exact countsBelow_updateEventCount h .setAlpha

theorem countsBelow_documented {l : ProfileLogger} {n : ℕ} (h : l.CountsBelow n) (r : Record) :
    (l.documented clock r).CountsBelow (n + 1) := by
  obtain ⟨_, _, _, _, _, _, _, _⟩ := countsBelow_counted h r
  have hid := h.reportId
  constructor <;> dsimp only [ProfileLogger.documented] <;> omega

/-- The node is the document of the record, with counters that fit. -/
def IsDocument (node : Node) (r : Record) : Prop :=
  ∃ l : ProfileLogger, (r.counted l).CountsBelow (2 ^ 32) ∧ node = .map (r.tree clock l)

theorem isDocument_trees {rs : List Record} (hproper : ∀ r ∈ rs, r.Proper) {l : ProfileLogger} {n : ℕ}
    (hl : l.CountsBelow n) (hn : n + rs.length ≤ 2 ^ 32) :
    List.Forall₂ (IsDocument clock) ((trees clock l rs).map .map) rs := by
  induction rs generalizing l n with
  | nil => exact .nil
  | cons r rs ih =>
    rw [List.length_cons] at hn
    have hcounted : (r.counted l).CountsBelow (2 ^ 32) := by
      obtain ⟨_, _, _, _, _, _, _, _⟩ := countsBelow_counted hl r
      constructor <;> omega
    rw [trees, List.map_cons]
    refine .cons ⟨l, hcounted, rfl⟩ (ih (fun r hr => hproper r (List.mem_cons_of_mem _ hr)) ?_ (n := n + 1) ?_)
    · rw [ProfileLogger.calls_record clock l (hproper r (List.mem_cons_self ..))]
      exact countsBelow_documented clock hl r
    · omega

variable {y : Loader} (hy : y.Documented)

include hy in
/-- **The emulator loads the documents of the session**, as long as the counters of the logger, which are `int`,
do not overflow. -/
theorem nodes_log (cfg : Config) (is : List Input)
    (hcount : (Impl.session cfg .initial is).length < 2 ^ 31) :
    ∃ nodes, y.loadAll ((is.foldl (Impl.step cfg) .initial).ymlLog clock) = some nodes ∧
      List.Forall₂ (IsDocument clock) nodes (Impl.session cfg .initial is) := by
  refine ⟨_, ?_, isDocument_trees clock (Impl.proper_session cfg .initial is) (l := .initial) (n := 1) ?_ ?_⟩
  · rw [Impl.ymlLog_session]
    exact hy.loadAll_stream _ _ (by decide +kernel) (Impl.wellFormed_trees clock _ _)
  · constructor <;> exact Nat.one_pos
  · omega

end Documents

/-! ## Entries -/

/-- The event a record is logged under. -/
def eventTypeOf : Record → UInt32
  | .received ev _ => ev.type
  | .replied reply _ => reply.eventType

/-- What the receiver received is sent, and what it sent is received. -/
def replayDirection : Record → Direction
  | .received _ _ => .send
  | .replied _ _ => .receive

/-- What a log promises of an entry: it decodes to the event it was logged under, seen from the other side, and
`ProcessNextEntry` does not fail for a fault of the entry. -/
structure Replays (y : Loader) (node : Node) (r : Record) : Prop where
  decodes : ∃ decoded, decodeNode y node = some decoded ∧ decoded.metadata.eventType = eventTypeOf r ∧
    decoded.metadata.direction = replayDirection r
  exchange : ∀ env nodes, Checked.Raises Failure.OfExchange
    (CmdHandler.processNextEntry y env (node :: nodes)).1

/-- The records that can be replayed: no number that is looked at is printed negative, and the event is known to
every table it passes through. -/
def Replayable : Record → Prop
  | .received ev parts =>
    (ev.type = evDispInfoReq ∨ ev.type = evDispPortReq) ∧ ev.Small ∨
      (ev.type = evCreateBuffer ∨ ev.type = evRemoveBuffer ∨ ev.type = evDisplayReq) ∧ parts.Small ev
  | .replied (.dispInfoAck cfg) _ => 0 ≤ cfg.videoResWidth ∧ 0 ≤ cfg.videoResHeight
  | .replied (.dispPortAck _) _ => False
  | .replied (.displayAck info) _ => info.Small
  | .replied (.setupResolution width height) _ => 0 ≤ width ∧ 0 ≤ height
  | .replied (.setVideoAlpha _) _ => False

/-- The event survives its name, and its direction is the other one. -/
theorem metadata_record {r : Record} (hr : Replayable r) :
    getEventCode r.event.name = eventTypeOf r ∧
      (if r.event.isSendEvent then Direction.receive else Direction.send) = replayDirection r := by
  cases r with
  | received ev parts =>
    have htype : ev.type = evDispInfoReq ∨ ev.type = evDispPortReq ∨ ev.type = evCreateBuffer ∨
        ev.type = evRemoveBuffer ∨ ev.type = evDisplayReq := by
      rcases hr with ⟨h, -⟩ | ⟨h, -⟩
      · tauto
      · tauto
    rw [Record.event, eventTypeOf, replayDirection]
    rcases htype with h | h | h | h | h <;> rw [h] <;> decide
  | replied reply count =>
    cases reply with
    | dispInfoAck cfg => exact ⟨(by decide : getEventCode LogEvent.dispInfoReqAck.name = evDispInfoAck), rfl⟩
    | dispPortAck cfg => exact hr.elim
    | displayAck info => exact ⟨(by decide : getEventCode LogEvent.displayReqAck.name = evDisplayAck), rfl⟩
    | setupResolution width height =>
      exact ⟨(by decide : getEventCode LogEvent.changeResolution.name = evSetupResolution), rfl⟩
    | setVideoAlpha action => exact hr.elim

section Entries

variable {y : Loader} (hy : y.Documented)
include hy

/-- The payload of an entry is one the exchange has a case for. -/
theorem decodePayload_record {r : Record} (hr : Replayable r) :
    ∃ payload, decodePayload y (.map r.body) (eventTypeOf r) = some (none, payload) ∧ payload ≠ [] ∧
      (replayDirection r = .send ∧ Sendable (eventTypeOf r) payload ∨
        replayDirection r = .receive ∧ Receivable (eventTypeOf r)) := by
  cases r with
  | received ev parts =>
    rw [eventTypeOf]
    rcases hr with ⟨htype, hev⟩ | ⟨htype | htype | htype, hparts⟩
    · exact ⟨_, decodePayload_displayEvent hy htype hev, by simp, .inl ⟨rfl, htype⟩⟩
    · rw [htype]
      exact ⟨_, decodePayload_createBuffer hy htype hparts, by simp, .inl ⟨rfl, rfl⟩⟩
    · rw [htype]
      exact ⟨_, decodePayload_removeBuffer hy htype hparts, by simp, .inl ⟨rfl, .inl rfl⟩⟩
    · rw [htype]
      exact ⟨_, decodePayload_displayReq hy htype hparts, by simp, .inl ⟨rfl, .inr rfl⟩⟩
  | replied reply count =>
    cases reply with
    | dispInfoAck cfg =>
      obtain ⟨ev, hev⟩ := decodePayload_dispInfoAck hy hr.1 hr.2
      exact ⟨_, hev, by simp, .inr ⟨rfl, .inl rfl⟩⟩
    | dispPortAck cfg => exact hr.elim
    | displayAck info =>
      exact ⟨_, decodePayload_displayAck hy hr, by simp, .inr ⟨rfl, .inr (.inr (.inl rfl))⟩⟩
    | setupResolution width height =>
      obtain ⟨ev, hev⟩ := decodePayload_setupResolution hy hr.1 hr.2
      exact ⟨_, hev, by simp, .inr ⟨rfl, .inr (.inl rfl)⟩⟩
    | setVideoAlpha action => exact hr.elim

/-- What the document of a record decodes to, once its payload is known. -/
theorem decodeNode_document {clock : ℕ → Fin (2 ^ 63)} {node : Node} {r : Record}
    (hnode : IsDocument clock node r) {status : Option AicError} {payload : List Struct}
    (hpayload : decodePayload y (.map r.body) (getEventCode r.event.name) = some (status, payload)) :
    ∃ decoded, decodeNode y node = some decoded ∧ decoded.payload = payload ∧
      decoded.metadata.eventType = getEventCode r.event.name ∧
      decoded.metadata.direction = if r.event.isSendEvent then .receive else .send := by
  obtain ⟨l, hl, rfl⟩ := hnode
  exact ⟨_, decodeNode_tree hy hl hpayload, rfl, rfl, rfl⟩

theorem replays_document {clock : ℕ → Fin (2 ^ 63)} {node : Node} {r : Record}
    (hnode : IsDocument clock node r) (hr : Replayable r) : Replays y node r := by
  obtain ⟨hcode, hdir⟩ := metadata_record hr
  obtain ⟨payload, hpayload, hne, hcase⟩ := decodePayload_record hy hr
  rw [← hcode] at hpayload
  obtain ⟨decoded, hdecoded, rfl, htype, hdirection⟩ := decodeNode_document hy hnode hpayload
  rw [hcode] at htype
  rw [hdir] at hdirection
  refine ⟨⟨decoded, hdecoded, htype, hdirection⟩, ?_⟩
  intro env nodes
  rw [CmdHandler.processNextEntry, CmdHandler.processNode, hdecoded]
  rw [← htype, ← hdirection] at hcase
  exact CmdHandler.raises_dataExchange hne hcase

end Entries

/-! ### Every log -/

/-- A condition on the records of every step is one on the records of the session. -/
theorem along_records_iff {P : Record → Prop} {cfg : Config} {s : Impl} {is : List Input} :
    Along (Impl.step cfg) (fun s i => ∀ r ∈ s.records cfg i, P r) s is ↔
      ∀ r ∈ Impl.session cfg s is, P r := by
  induction is generalizing s with
  | nil => exact ⟨fun _ r hr => (nomatch hr), fun _ => trivial⟩
  | cons i is ih => rw [along_cons, ih, Impl.session, List.forall_mem_append]

/-- **A log is replayable** when every record of the session is: the emulator finds one entry for each, in order,
and none of them stops the replay for a fault of its own. -/
theorem replays_log {y : Loader} (hy : y.Documented) (clock : ℕ → Fin (2 ^ 63)) (cfg : Config) (is : List Input)
    (hrun : Along (Impl.step cfg) (fun s i => ∀ r ∈ s.records cfg i, Replayable r) .initial is)
    (hcount : (Impl.session cfg .initial is).length < 2 ^ 31) :
    ∃ nodes, y.loadAll ((is.foldl (Impl.step cfg) .initial).ymlLog clock) = some nodes ∧
      List.Forall₂ (Replays y) nodes (Impl.session cfg .initial is) := by
  obtain ⟨nodes, hload, hnodes⟩ := nodes_log clock hy cfg is hcount
  refine ⟨nodes, hload, ?_⟩
  have hreplayable := along_records_iff.mp hrun
  generalize Impl.session cfg .initial is = rs at hnodes hreplayable
  clear hload
  induction hnodes with
  | nil => exact .nil
  | cons hnode _ ih =>
    exact .cons (replays_document hy hnode (hreplayable _ (List.mem_cons_self ..)))
      (ih fun r hr => hreplayable r (List.mem_cons_of_mem _ hr))

/-- Nothing is allocated, and `send` takes 60 bytes. -/
def talkative : Env := ⟨none, fun _ => 0, 60⟩

/-- The receiver connects, is asked for its display and is given another mode. -/
def modeSession : List Input :=
  [.start, .connect (some (Feed.whole (plain (Layout.displayEvent.write ⟨evDispInfoReq, 16, 0, 0⟩)))),
    .poll (.ready talkative), .setMode talkative 1280 720]

theorem session_modeSession : Impl.session anySession .initial modeSession =
    [.received ⟨evDispInfoReq, 16, 0, 0⟩ .nothing, .replied (.dispInfoAck anySession) 60,
      .replied (.setupResolution 1280 720) 60] := by
  decide

theorem replays_log_modeSession :
    (∀ r ∈ Impl.session anySession .initial modeSession, Replayable r) ∧
    ∃ nodes, Loader.lineByLine.loadAll
        ((modeSession.foldl (Impl.step anySession) .initial).ymlLog fun _ => 0) = some nodes ∧
      List.Forall₂ (Replays Loader.lineByLine) nodes (Impl.session anySession .initial modeSession) := by
  have hall : ∀ r ∈ Impl.session anySession .initial modeSession, Replayable r := by
    rw [session_modeSession]
    intro r hr
    simp only [List.mem_cons, List.not_mem_nil, or_false] at hr
    rcases hr with rfl | rfl | rfl
    · exact .inl ⟨.inl rfl, ⟨by decide, by decide, by decide⟩⟩
    · exact ⟨by decide, by decide⟩
    · exact ⟨by decide, by decide⟩
  have hcount : (Impl.session anySession .initial modeSession).length < 2 ^ 31 := by
    rw [session_modeSession]
    decide
  exact ⟨hall, replays_log Loader.documented_lineByLine _ _ _ (along_records_iff.mpr hall) hcount⟩

/-- The receiver connects and switches the alpha channel on. -/
def alphaSession : List Input := [.start, .connect (some []), .setVideoAlpha talkative 1]

/-- `SET_VIDEO_ALPHA_REQ` is a name `GetEventCode` does not know: the entry decodes to the event 0. -/
theorem not_replays_alphaSession :
    ¬ ∃ nodes, Loader.lineByLine.loadAll
        ((alphaSession.foldl (Impl.step anySession) .initial).ymlLog fun _ => 0) = some nodes ∧
      List.Forall₂ (Replays Loader.lineByLine) nodes (Impl.session anySession .initial alphaSession) := by
  have hsession : Impl.session anySession .initial alphaSession = [.replied (.setVideoAlpha 1) 60] := by decide
  rintro ⟨nodes, hload, hreplays⟩
  obtain ⟨nodes', hload', hnodes⟩ := nodes_log (fun _ => 0) Loader.documented_lineByLine anySession
    alphaSession (by rw [hsession]; decide)
  obtain rfl : nodes = nodes' := Option.some.inj (hload.symm.trans hload')
  rw [hsession] at hreplays hnodes
  have hnone (node : Node) : decodePayload Loader.lineByLine node (getEventCode LogEvent.setAlpha.name) =
      some (some .ymlParser, []) := rfl
  cases hreplays with
  | cons hreplay _ =>
    cases hnodes with
    | cons hnode _ =>
      obtain ⟨decoded, hdecoded, htype, -⟩ := hreplay.decodes
      obtain ⟨decoded', hdecoded', -, htype', -⟩ :=
        decodeNode_document Loader.documented_lineByLine hnode (hnone _)
      obtain rfl : decoded = decoded' := Option.some.inj (hdecoded.symm.trans hdecoded')
      rw [htype] at htype'
      revert htype'
      decide

/-! ## One entry -/

/-- The entry at a place of a log decodes to this payload. -/
def EntryDecodesTo (y : Loader) (log : List Char) (place : ℕ) (payload : List Struct) : Prop :=
  ∃ nodes node decoded, y.loadAll log = some nodes ∧ nodes[place]? = some node ∧
    decodeNode y node = some decoded ∧ decoded.payload = payload

section Received

variable {y : Loader} (hy : y.Documented) (clock : ℕ → Fin (2 ^ 63)) {cfg : Config} {ev : DisplayEvent}
  {parts : Parts}

theorem records_received {s : Impl} {i : Input} (h : .received ev parts ∈ s.records cfg i) :
    ∃ env bytes f rs, i = .poll (.ready env) ∧ (s.working ∧ s.connected) ∧
      recvBytes sizeofDisplayEvent s.feed = (some bytes, f) ∧ Layout.displayEvent.read bytes = ev ∧
      s.records cfg i = .received ev parts :: rs ∧
      Impl.messageRecords cfg env ev f s = .received ev parts :: rs := by
  rcases Impl.records_cases cfg s i with ⟨replies, count, heq⟩ | ⟨env, bytes, f, hi, hworking, hread, heq⟩
  · rw [heq] at h
    obtain ⟨reply, -, hreply⟩ := List.mem_map.mp h
    cases hreply
  obtain ⟨parts', replies, hmessage, -⟩ :=
    Impl.messageRecords_eq cfg env (Layout.displayEvent.read bytes) f s
  rw [heq, hmessage] at h
  rcases List.mem_cons.mp h with hfirst | hrest
  · obtain ⟨rfl, rfl⟩ := Record.received.inj hfirst
    exact ⟨env, bytes, f, _, hi, hworking, hread, rfl, heq.trans hmessage, hmessage⟩
  · obtain ⟨reply, -, hreply⟩ := List.mem_map.mp hrest
    cases hreply

include hy

/-- A message of the server decodes to the payload of its document, in whatever session it comes. -/
theorem entryDecodesTo_received {before after : List Input} {i : Input}
    (hreceived : .received ev parts ∈ (before.foldl (Impl.step cfg) .initial).records cfg i)
    (hcount : (Impl.session cfg .initial (before ++ i :: after)).length < 2 ^ 31)
    {status : Option AicError} {payload : List Struct}
    (hpayload : decodePayload y (.map (Record.received ev parts).body)
      (getEventCode (translateEvType ev.type).name) = some (status, payload)) (payload' : List Struct) :
    EntryDecodesTo y (((before ++ i :: after).foldl (Impl.step cfg) .initial).ymlLog clock)
      (Impl.session cfg .initial before).length payload' ↔ payload' = payload := by
  obtain ⟨env, bytes, f, rs, -, -, -, -, hrecords, -⟩ := records_received hreceived
  obtain ⟨nodes, hload, hnodes⟩ := nodes_log clock hy cfg _ hcount
  have hsession : Impl.session cfg .initial (before ++ i :: after) = Impl.session cfg .initial before ++
      .received ev parts ::
        (rs ++ Impl.session cfg ((before.foldl (Impl.step cfg) .initial).step cfg i) after) := by
    rw [Impl.session_append, Impl.session, hrecords]
    rfl
  rw [hsession] at hnodes
  have hdrop := List.forall₂_drop_append _ _ _ hnodes
  set place := (Impl.session cfg .initial before).length with hplace
  rcases hrest : nodes.drop place with _ | ⟨node, rest⟩
  · rw [hrest] at hdrop
    cases hdrop
  rw [hrest] at hdrop
  have hnode : IsDocument clock node (.received ev parts) := by
    cases hdrop with
    | cons hnode _ => exact hnode
  have hat : nodes[place]? = some node := by
    rw [← List.head?_drop, hrest]
    rfl
  obtain ⟨decoded, hdecoded, rfl, -⟩ := decodeNode_document hy hnode hpayload
  constructor
  · rintro ⟨nodes', node', decoded', hload', hat', hdecoded', rfl⟩
    obtain rfl : nodes = nodes' := Option.some.inj (hload.symm.trans hload')
    obtain rfl : node = node' := Option.some.inj (hat.symm.trans hat')
    obtain rfl : decoded = decoded' := Option.some.inj (hdecoded.symm.trans hdecoded')
    rfl
  · rintro rfl
    exact ⟨nodes, node, decoded, hload, hat, hdecoded, rfl⟩

end Received

/-- **A display request decodes to what was received** exactly when it carried no control block. -/
theorem displayReq_decodes_iff {y : Loader} (hy : y.Documented) (clock : ℕ → Fin (2 ^ 63)) {cfg : Config}
    (before after : List Input) (i : Input) {ev : DisplayEvent} {info : BufferInfo}
    {ctrl : Option DisplayControl}
    (hreceived : .received ev ⟨some info, none, ctrl⟩ ∈ (before.foldl (Impl.step cfg) .initial).records cfg i)
    (htype : ev.type = evDisplayReq) (hev : ev.Small) (hinfo : info.Small)
    (hcount : (Impl.session cfg .initial (before ++ i :: after)).length < 2 ^ 31) :
    EntryDecodesTo y (((before ++ i :: after).foldl (Impl.step cfg) .initial).ymlLog clock)
      (Impl.session cfg .initial before).length
      (.bufferInfoEvent ⟨ev, info⟩ :: ctrl.toList.map .displayControl) ↔ ctrl = none := by
  have hparts : Parts.Small ⟨some info, none, ctrl⟩ ev :=
    ⟨fun _ => hev, fun _ h => Option.mem_some.mp h ▸ hinfo, fun _ h => nomatch h⟩
  have hcode : getEventCode (translateEvType ev.type).name = evDisplayReq := by
    rw [htype]
    decide
  have hpayload := decodePayload_displayReq hy htype hparts
  rw [← hcode] at hpayload
  rw [entryDecodesTo_received hy clock hreceived hcount hpayload]
  cases ctrl with
  | none => simp [headersOf]
  | some ctrl => simp

/-- A receiver connects to a server that has one message to send. -/
def connectedTo (m : Message) : List Input := [.start, .connect (some (Feed.whole m.wire))]

/-- The log of a receiver that has handled the message. -/
def logOf (m : Message) (env : Env) : List Char :=
  ((connectedTo m ++ [Input.poll (.ready env)]).foldl (Impl.step anySession) .initial).ymlLog fun _ => 0

/-- What the receiver records of the message. -/
def recordsOf (m : Message) (env : Env) : List Record :=
  ((connectedTo m).foldl (Impl.step anySession) .initial).records anySession (.poll (.ready env))

/-- A frame with a control block, and one without. -/
def frameRequest (ctrl : Option DisplayControl) : Message :=
  ⟨⟨evDisplayReq, if ctrl.isSome then 36 else 24, 0, 0⟩, .displayReq ⟨7⟩ ctrl⟩

theorem displayReq_decodes_frameRequest :
    EntryDecodesTo Loader.lineByLine (logOf (frameRequest none) talkative) 0
      [.bufferInfoEvent ⟨(frameRequest none).event, ⟨7⟩⟩] := by
  have hreceived : .received (frameRequest none).event ⟨some ⟨7⟩, none, none⟩ ∈
      recordsOf (frameRequest none) talkative := by decide
  exact (displayReq_decodes_iff Loader.documented_lineByLine (fun _ => 0) (connectedTo (frameRequest none)) []
    (.poll (.ready talkative)) hreceived rfl ⟨by decide, by decide, by decide⟩
    (by decide : _ < _) (by decide)).mpr rfl

def someControl : DisplayControl := ⟨1, 0, 0, 0, 0, 0, 640, 480⟩

theorem not_displayReq_decodes_control :
    ¬ EntryDecodesTo Loader.lineByLine (logOf (frameRequest someControl) talkative) 0
      [.bufferInfoEvent ⟨(frameRequest someControl).event, ⟨7⟩⟩, .displayControl someControl] := by
  have hreceived : .received (frameRequest someControl).event ⟨some ⟨7⟩, none, some someControl⟩ ∈
      recordsOf (frameRequest someControl) talkative := by decide
  have hparts : Parts.Small ⟨some ⟨7⟩, none, some someControl⟩ (frameRequest someControl).event :=
    ⟨fun _ => ⟨by decide, by decide, by decide⟩, fun _ h => Option.mem_some.mp h ▸ (by decide : _ < _),
      fun _ h => nomatch h⟩
  intro hdecodes
  have hpayload := (entryDecodesTo_received Loader.documented_lineByLine (fun _ => 0) hreceived (by decide)
    (decodePayload_displayReq Loader.documented_lineByLine rfl hparts) _).mp hdecodes
  simp at hpayload

/-! ### Buffers -/

theorem createParts_accepted {env : Env} {f : Feed WireByte} {info : BufferInfo} {gralloc : CrosGrallocHandle}
    (h : Impl.createParts env f = ⟨some info, some gralloc, none⟩) :
    ∃ block calls f', env.block = some block ∧
      Impl.receiveBuffer env block f = (some (info.remoteHandle, gralloc), calls, f') := by
  unfold Impl.createParts at h
  rcases hblock : env.block with _ | block
  · rw [hblock] at h
    cases h
  rw [hblock] at h
  refine ⟨block, ?_⟩
  unfold Impl.receiveBuffer
  rcases hinfo : recvBytes sizeofBufferInfo f with ⟨_ | infoBytes, f₁⟩
  · rw [hinfo] at h
    cases h
  rw [hinfo] at h
  dsimp only at h ⊢
  rcases hhandle : recvBytes sizeofCrosGrallocHandle f₁ with ⟨_ | handleBytes, f₂⟩
  · rw [hhandle] at h
    cases h
  rw [hhandle] at h
  dsimp only at h ⊢
  rcases hfds : recvFds env (sizeT (Layout.crosGrallocHandle.read (overwrite handleBytes block)).numFds) f₂
    with ⟨_ | fds, f₃⟩
  · rw [hfds] at h
    cases h
  · rw [hfds] at h
    obtain ⟨hremote, hgralloc, -⟩ := Parts.mk.inj h
    rw [← Option.some.inj hremote, ← Option.some.inj hgralloc]
    exact ⟨_, _, rfl, rfl⟩

/-- The handle that is logged is the one the client is shown, and the one that is stored. -/
theorem stored_of_accepted {cfg : Config} {s : Impl} {i : Input} {ev : DisplayEvent} {info : BufferInfo}
    {gralloc : CrosGrallocHandle} (haccepted : .received ev ⟨some info, some gralloc, none⟩ ∈ s.records cfg i) :
    ev.type = evCreateBuffer ∧
    .handler .frameCreate info.remoteHandle ⟨s.allocated, gralloc⟩ none ∈ (s.step cfg i).history ∧
    (info.remoteHandle ∉ s.mHandles.keys →
      (s.step cfg i).mHandles.find info.remoteHandle = some ⟨s.allocated, gralloc⟩) := by
  obtain ⟨env, bytes, f, rs, rfl, hworking, hread, rfl, -, hmessage⟩ := records_received haccepted
  obtain ⟨htype, hsize, hparts⟩ := Impl.messageRecords_gralloc hmessage (by simp)
  obtain ⟨block, calls, f', hblock, hbuffer⟩ := createParts_accepted hparts
  have hstep : s.step cfg (.poll (.ready env)) = s.onReady cfg env := if_pos hworking
  refine ⟨htype, ?_⟩
  rw [hstep, Impl.onReady, hread]
  dsimp only
  rw [Impl.dispatch, htype, if_neg (by decide), if_neg (by decide), if_pos rfl, if_pos hsize]
  set t := (s.rest f).log [.updateEventCount (translateEvType evCreateBuffer),
    .logGenericEventInfo (translateEvType evCreateBuffer) (some (Layout.displayEvent.read bytes))] with ht
  unfold Impl.createBuffer
  rw [hblock]
  dsimp only
  rw [show t.allocate.feed = f from rfl, hbuffer, show t.allocated = s.allocated from rfl]
  dsimp only
  refine ⟨List.mem_cons_self .., ?_⟩
  intro hnew
  have hhandles : ((t.allocate.rest f').log calls).mHandles = s.mHandles := Impl.mHandles_foldl_log _ _
  have hnew' : info.remoteHandle ∉ ((t.allocate.rest f').log calls).mHandles.keys := by
    rw [hhandles]
    exact hnew
  show (Impl.insertHandle _ _ _).mHandles.find _ = _
  rw [Impl.insertHandle, if_neg hnew']
  dsimp only
  rw [OrdMap.find_insert _ hnew', if_pos rfl]

theorem small_unifyFormat {raw : CrosGrallocHandle} (h : raw.Small) (fds : List Int32) :
    (raw.setFds fds).unifyFormat.Small := by
  unfold CrosGrallocHandle.unifyFormat
  split
  · simp only [CrosGrallocHandle.Small, CrosGrallocHandle.unsigneds, List.forall_mem_append,
      List.forall_mem_cons] at h ⊢
    obtain ⟨harrays, hwidth, hheight, -, hrest⟩ := h
    exact ⟨harrays, hwidth, hheight, by decide, hrest⟩
  · exact h

/-- **A `CREATE_BUFFER` decodes to what was received and stored**: the header, the remote handle and every
member of the gralloc handle. -/
theorem createBuffer_decodes {y : Loader} (hy : y.Documented) (clock : ℕ → Fin (2 ^ 63)) {cfg : Config}
    (before after : List Input) (i : Input) {ev : DisplayEvent} {info : BufferInfo} (raw : CrosGrallocHandle)
    (fds : List Int32)
    (haccepted : .received ev ⟨some info, some (raw.setFds fds).unifyFormat, none⟩ ∈
      (before.foldl (Impl.step cfg) .initial).records cfg i)
    (hev : ev.Small) (hinfo : info.Small) (hraw : raw.Small)
    (hcount : (Impl.session cfg .initial (before ++ i :: after)).length < 2 ^ 31) :
    let s := before.foldl (Impl.step cfg) .initial
    let stored : Handle := ⟨s.allocated, (raw.setFds fds).unifyFormat⟩
    EntryDecodesTo y (((before ++ i :: after).foldl (Impl.step cfg) .initial).ymlLog clock)
      (Impl.session cfg .initial before).length [.bufferInfoEvent ⟨ev, info⟩, .grallocHandle stored.gralloc] ∧
    .handler .frameCreate info.remoteHandle stored none ∈ (s.step cfg i).history ∧
    (info.remoteHandle ∉ s.mHandles.keys → (s.step cfg i).mHandles.find info.remoteHandle = some stored) := by
  intro s stored
  obtain ⟨htype, hshown⟩ := stored_of_accepted haccepted
  refine ⟨?_, hshown⟩
  have hparts : Parts.Small ⟨some info, some stored.gralloc, none⟩ ev :=
    ⟨fun _ => hev, fun _ h => Option.mem_some.mp h ▸ hinfo,
      fun _ h => Option.mem_some.mp h ▸ small_unifyFormat hraw fds⟩
  have hcode : getEventCode (translateEvType ev.type).name = evCreateBuffer := by
    rw [htype]
    decide
  have hpayload := decodePayload_createBuffer hy htype hparts
  rw [← hcode] at hpayload
  rw [entryDecodesTo_received hy clock haccepted hcount hpayload]
  rfl

/-- A gralloc handle of two planes, with no two members alike but the unused descriptors. -/
def distinctHandle : CrosGrallocHandle where
  version := 12
  numFds := 2
  numInts := -3
  fds := #v[-1, -1, -1, -1]
  strides := #v[7680, 7681, 7682, 7683]
  offsets := #v[10, 11, 13, 14]
  sizes := #v[20, 21, 22, 23]
  formatModifiers := #v[30, 31, 32, 33, 34, 35, 36, 37]
  width := 1920
  height := 1080
  format := drmFormatNV12YTiledIntel
  tilingMode := 2
  useFlags := #v[40, 41]
  magic := 0xABCDDCBA
  pixelStride := 1921
  droidFormat := -50
  usage := 51
  consumerUsage := 52
  producerUsage := 53
  yuvColorRange := 54
  isUpdated := 55
  isEncoded := 56
  isEncrypted := 57
  isKeyFrame := 58
  isInterlaced := 59
  isMmcCapable := 60
  compressionMode := 61
  compressionHint := 62
  codec := 63
  alignedWidth := 1984
  alignedHeight := 1088

/-- It is announced under the remote handle 2⁶³ - 1. -/
def distinctCreate : Message := ⟨⟨evCreateBuffer, 228, 5, 6⟩, .createBuffer ⟨0x7fffffffffffffff⟩ distinctHandle [8, 9]⟩

theorem createBuffer_decodes_distinctCreate :
    EntryDecodesTo Loader.lineByLine (logOf distinctCreate calmEnv) 0
      [.bufferInfoEvent ⟨distinctCreate.event, ⟨0x7fffffffffffffff⟩⟩,
        .grallocHandle (distinctHandle.setFds [8, 9]).unifyFormat] := by
  have haccepted : .received distinctCreate.event
      ⟨some ⟨0x7fffffffffffffff⟩, some (distinctHandle.setFds [8, 9]).unifyFormat, none⟩ ∈
        recordsOf distinctCreate calmEnv := by decide +kernel
  have hwords : distinctHandle.unsigneds.all (fun w => decide (w.toNat < 2 ^ 31)) = true := by decide +kernel
  have hsmall : distinctHandle.Small := by
    intro w hw
    exact of_decide_eq_true (List.all_eq_true.mp hwords w hw)
  exact (createBuffer_decodes Loader.documented_lineByLine (fun _ => 0) (connectedTo distinctCreate) []
    (.poll (.ready calmEnv)) distinctHandle [8, 9] haccepted ⟨by decide, by decide, by decide⟩ (by decide : _ < _)
    hsmall (by decide +kernel)).1

end VhalClient.Emulator
