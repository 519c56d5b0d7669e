/-
# VhalClient.Display.Journal — what a receiver leaves on the wire and in the profile log.

Two kinds of output leave the process: the messages that are sent and the calls of the profile logger.  Both
come in units.  A `Record` is either a message that was received, with the structs that were logged for it as
they came in, or a message of the receiver's own, with how much of it `send` took.  `records` says which of
them one step of the receiver makes, read off the state before the step, and `journal_step` that these are
all the step adds.  Whoever asks what is sent or logged in a session asks the records.
-/
import VhalClient.Display.HwcReceiver

namespace VhalClient.Display

open VhalClient.Lib

/-! ## The receiver's own messages -/

/-- A message of the receiver, with what it is made from. -/
inductive Reply where
  | dispInfoAck (cfg : Config)
  | dispPortAck (cfg : Config)
  | displayAck (info : BufferInfo)
  | setupResolution (width height : Int32)
  | setVideoAlpha (action : UInt32)
  deriving DecidableEq, Repr

namespace Reply

def dispInfoAckEvent (cfg : Config) : DisplayInfoEvent :=
  ⟨Impl.header evDispInfoAck Layout.displayInfoEvent.size, Impl.dispConfig cfg⟩

def dispPortAckEvent (cfg : Config) : DisplayPortEvent :=
  ⟨Impl.header evDispPortAck Layout.displayPortEvent.size, cfg.userId.toUInt32, 0⟩

def displayAckEvent (info : BufferInfo) : BufferInfoEvent :=
  ⟨Impl.header evDisplayAck sizeofBufferInfoEvent, info⟩

def setupResolutionEvent (width height : Int32) : DisplayInfoEvent :=
  ⟨Impl.header evSetupResolution Layout.displayInfoEvent.size,
    ⟨1, width.toUInt32, height.toUInt32, 0, 0, 0, 0, 0, 0, 0, 0⟩⟩

def setVideoAlphaEvent (action : UInt32) : DisplaySetVideoAlphaEvent :=
  ⟨Impl.header evSetVideoAlphaReq Layout.displaySetVideoAlphaEvent.size, action, Vector.replicate 3 0⟩

def eventType : Reply → UInt32
  | dispInfoAck _ => evDispInfoAck
  | dispPortAck _ => evDispPortAck
  | displayAck _ => evDisplayAck
  | setupResolution _ _ => evSetupResolution
  | setVideoAlpha _ => evSetVideoAlphaReq

def bytes : Reply → List UInt8
  | dispInfoAck cfg => Layout.displayInfoEvent.write (dispInfoAckEvent cfg)
  | dispPortAck cfg => Layout.displayPortEvent.write (dispPortAckEvent cfg)
  | displayAck info => Layout.bufferInfoEvent.write (displayAckEvent info)
  | setupResolution width height => Layout.displayInfoEvent.write (setupResolutionEvent width height)
  | setVideoAlpha action => Layout.displaySetVideoAlphaEvent.write (setVideoAlphaEvent action)

/-- The calls of the logger that go with the message. -/
def calls : Reply → List LogCall
  | dispInfoAck cfg =>
    [.logGenericEventInfo .dispInfoReqAck none, .addDisplayInfoEventStruct (dispInfoAckEvent cfg) 1]
  | dispPortAck cfg =>
    [.logGenericEventInfo .dispPortReqAck none, .addDisplayPortEventStruct (dispPortAckEvent cfg) 1]
  | displayAck info =>
    [.logGenericEventInfo .displayReqAck none, .addBufferInfoEventStruct (displayAckEvent info) 1]
  | setupResolution width height =>
    [.logChangeResolutionEvent width height (setupResolutionEvent width height)]
  | setVideoAlpha action => [.logSetAlphaEvent (setVideoAlphaEvent action)]

end Reply

/-! ## Records -/

/-- The structs behind a header, as far as they came. -/
structure Parts where
  info : Option BufferInfo
  gralloc : Option CrosGrallocHandle
  ctrl : Option DisplayControl
  deriving DecidableEq, Repr

namespace Parts

def nothing : Parts := ⟨none, none, none⟩

def calls (p : Parts) : List LogCall :=
  p.info.toList.map (.addBufferInfoStruct · 2) ++ p.gralloc.toList.map (.addGrallocHandleStruct · 2) ++
    p.ctrl.toList.map (.addDisplayControlStruct · 2)

end Parts

inductive Record where
  | received (ev : DisplayEvent) (parts : Parts)
  | replied (reply : Reply) (count : ℤ)
  deriving DecidableEq, Repr

namespace Record

def calls : Record → List LogCall
  | received ev parts =>
    [.updateEventCount (translateEvType ev.type), .logGenericEventInfo (translateEvType ev.type) (some ev)] ++
      parts.calls
  | replied reply _ => reply.calls

/-- What was sent: nothing, or as many bytes of the message as `send` took. -/
def sends : Record → List (List UInt8)
  | received _ _ => []
  | replied reply count => if count ≤ 0 then [] else [reply.bytes.take count.toNat]

def outputs (r : Record) : List Output := r.sends.map .sent ++ r.calls.map .log

end Record

namespace Impl

/-- What `CreateBuffer` logs on its way through its three receives. -/
def createParts (env : Env) (f : Feed WireByte) : Parts :=
  match env.block with
  | none => .nothing
  | some block =>
    match recvBytes sizeofBufferInfo f with
    | (none, _) => .nothing
    | (some bytes, f) =>
      let info := Layout.bufferInfo.read bytes
      match recvBytes sizeofCrosGrallocHandle f with
      | (none, _) => ⟨some info, none, none⟩
      | (some bytes, f) =>
        let handle := Layout.crosGrallocHandle.read (overwrite bytes block)
        match recvFds env (sizeT handle.numFds) f with
        | (none, _) => ⟨some info, none, none⟩
        | (some fds, _) => ⟨some info, some (handle.setFds fds).unifyFormat, none⟩

def removeParts (f : Feed WireByte) : Parts :=
  match recvBytes sizeofBufferInfo f with
  | (none, _) => .nothing
  | (some bytes, _) => ⟨some (Layout.bufferInfo.read bytes), none, none⟩

/-- A frame is acknowledged when its handle is known and `send` took something. -/
def displayAcks (env : Env) (info : BufferInfo) (s : Impl) : List Record :=
  if (s.mHandles.find info.remoteHandle).isNone ∨ env.sent ≤ 0 then []
  else [.replied (.displayAck info) env.sent]

def displayRecords (env : Env) (ev : DisplayEvent) (f : Feed WireByte) (s : Impl) : List Record :=
  if payloadSize ev.size < Int32.ofNat sizeofBufferInfo then [.received ev .nothing]
  else
    match recvBytes sizeofBufferInfo f with
    | (none, _) => [.received ev .nothing]
    | (some bytes, f) =>
      let info := Layout.bufferInfo.read bytes
      if sizeT (payloadSize ev.size) = sizeofBufferInfo + sizeofDisplayControl then
        match recvBytes sizeofDisplayControl f with
        | (none, _) => [.received ev ⟨some info, none, none⟩]
        | (some bytes, _) =>
          .received ev ⟨some info, none, some (Layout.displayControl.read bytes)⟩ :: displayAcks env info s
      else .received ev ⟨some info, none, none⟩ :: displayAcks env info s

/-- The records of a message whose header came, with the feed behind the header. -/
def messageRecords (cfg : Config) (env : Env) (ev : DisplayEvent) (f : Feed WireByte) (s : Impl) :
    List Record :=
  if ev.type = evDispInfoReq then
    if checkDispConfig cfg ev.id.toInt32 ev.renderNode.toInt32 = -1 then [.received ev .nothing]
    else [.received ev .nothing, .replied (.dispInfoAck cfg) env.sent]
  else if ev.type = evDispPortReq then [.received ev .nothing, .replied (.dispPortAck cfg) env.sent]
  else if ev.type = evCreateBuffer then
    if ev.size.toNat = sizeofBufferInfoEvent + sizeofCrosGrallocHandle then
      [.received ev (createParts env f)]
    else [.received ev .nothing]
  else if ev.type = evRemoveBuffer then [.received ev (removeParts f)]
  else if ev.type = evDisplayReq then displayRecords env ev f s
  else [.received ev .nothing]

/-- The records of one step. -/
def records (cfg : Config) (s : Impl) : Input → List Record
  | .setMode env width height =>
    if s.shouldContinue = false ∨ env.sent ≤ 0 then []
    else [.replied (.setupResolution width height) env.sent]
  | .setVideoAlpha env action =>
    if s.shouldContinue = false ∨ env.sent ≤ 0 then [] else [.replied (.setVideoAlpha action) env.sent]
  | .poll (.ready env) =>
    if s.working ∧ s.connected then
      match recvBytes sizeofDisplayEvent s.feed with
      | (none, _) => []
      | (some bytes, f) => messageRecords cfg env (Layout.displayEvent.read bytes) f s
    else []
  | _ => []

theorem displayAcks_eq (env : Env) (info : BufferInfo) (s : Impl) :
    ∃ replies : List Reply, displayAcks env info s = replies.map (.replied · env.sent) := by
  rw [displayAcks]
  split
  · exact ⟨[], rfl⟩
  · exact ⟨[.displayAck info], rfl⟩

theorem displayRecords_eq (env : Env) (ev : DisplayEvent) (f : Feed WireByte) (s : Impl) :
    ∃ parts, ∃ replies : List Reply,
      displayRecords env ev f s = .received ev parts :: replies.map (.replied · env.sent) ∧
      parts.gralloc = none := by
  unfold displayRecords
  split
  · exact ⟨_, [], rfl, rfl⟩
  split
  · exact ⟨_, [], rfl, rfl⟩
  rename_i bytes _ _
  obtain ⟨replies, hreplies⟩ := displayAcks_eq env (Layout.bufferInfo.read bytes) s
  dsimp only
  rw [hreplies]
  split
  · split
    · exact ⟨_, [], rfl, rfl⟩
    · exact ⟨_, replies, rfl, rfl⟩
  · exact ⟨_, replies, rfl, rfl⟩

/-- A message of the server is recorded before the answers to it, and has structs behind its header only if it
is about a buffer. -/
theorem messageRecords_eq (cfg : Config) (env : Env) (ev : DisplayEvent) (f : Feed WireByte) (s : Impl) :
    ∃ parts, ∃ replies : List Reply,
      messageRecords cfg env ev f s = .received ev parts :: replies.map (.replied · env.sent) ∧
      (parts ≠ .nothing → ev.type = evCreateBuffer ∨ ev.type = evRemoveBuffer ∨ ev.type = evDisplayReq) := by
  unfold messageRecords
  split_ifs with hinfo hcheck hport hcreate hsize hremove hdisplay
  · exact ⟨_, [], rfl, fun h => absurd rfl h⟩
  · exact ⟨_, [.dispInfoAck cfg], rfl, fun h => absurd rfl h⟩
  · exact ⟨_, [.dispPortAck cfg], rfl, fun h => absurd rfl h⟩
  · exact ⟨_, [], rfl, fun _ => .inl hcreate⟩
  · exact ⟨_, [], rfl, fun h => absurd rfl h⟩
  · exact ⟨_, [], rfl, fun _ => .inr (.inl hremove)⟩
  · obtain ⟨parts, replies, heq, -⟩ := displayRecords_eq env ev f s
    exact ⟨parts, replies, heq, fun _ => .inr (.inr hdisplay)⟩
  · exact ⟨_, [], rfl, fun h => absurd rfl h⟩

/-- A gralloc handle is recorded for a `CREATE_BUFFER` of the right size. -/
theorem messageRecords_gralloc {cfg : Config} {env : Env} {ev : DisplayEvent} {f : Feed WireByte} {s : Impl}
    {parts : Parts} {rs : List Record} (h : messageRecords cfg env ev f s = .received ev parts :: rs)
    (hgralloc : parts.gralloc ≠ none) :
    ev.type = evCreateBuffer ∧ ev.size.toNat = sizeofBufferInfoEvent + sizeofCrosGrallocHandle ∧
      createParts env f = parts := by
  have hother {p : Parts} {rs' : List Record} (hp : p.gralloc = none)
      (h : Record.received ev p :: rs' = .received ev parts :: rs) : False := by
    obtain rfl : p = parts := (Record.received.inj (List.cons.inj h).1).2
    exact hgralloc hp
  unfold messageRecords at h
  split_ifs at h with hinfo hcheck hport hcreate hsize hremove hdisplay
  · exact (hother rfl h).elim
  · exact (hother rfl h).elim
  · exact (hother rfl h).elim
  · exact ⟨hcreate, hsize, (Record.received.inj (List.cons.inj h).1).2⟩
  · exact (hother rfl h).elim
  · have hremoved : (removeParts f).gralloc = none := by
      rw [removeParts]
      split <;> rfl
    exact (hother hremoved h).elim
  · obtain ⟨p, replies, heq, hp⟩ := displayRecords_eq env ev f s
    exact (hother hp (heq.symm.trans h)).elim
  · exact (hother rfl h).elim

/-- The records of a step are messages of the receiver's own, or those of one message of the server. -/
theorem records_cases (cfg : Config) (s : Impl) (i : Input) :
    (∃ replies : List Reply, ∃ count, s.records cfg i = replies.map (.replied · count)) ∨
    ∃ env bytes f, i = .poll (.ready env) ∧ (s.working ∧ s.connected) ∧
      recvBytes sizeofDisplayEvent s.feed = (some bytes, f) ∧
      s.records cfg i = messageRecords cfg env (Layout.displayEvent.read bytes) f s := by
  have hreply {c : Prop} [Decidable c] (reply : Reply) (count : ℤ) :
      ∃ replies : List Reply, ∃ count', (if c then [] else [Record.replied reply count]) =
        replies.map (.replied · count') := by
    split
    · exact ⟨[], 0, rfl⟩
    · exact ⟨[reply], count, rfl⟩
  cases i with
  | start => exact .inl ⟨[], 0, rfl⟩
  | stop => exact .inl ⟨[], 0, rfl⟩
  | connect connection => exact .inl ⟨[], 0, rfl⟩
  | setMode env width height => exact .inl (hreply _ _)
  | setVideoAlpha env action => exact .inl (hreply _ _)
  | poll result =>
    cases result with
    | failed => exact .inl ⟨[], 0, rfl⟩
    | timeout => exact .inl ⟨[], 0, rfl⟩
    | ready env =>
      rw [records]
      split
      · rename_i hworking
        rcases hread : recvBytes sizeofDisplayEvent s.feed with ⟨_ | bytes, f⟩
        · exact .inl ⟨[], 0, rfl⟩
        · exact .inr ⟨env, bytes, f, rfl, hworking, rfl, rfl⟩
      · exact .inl ⟨[], 0, rfl⟩

end Impl

/-! ## The journal -/

/-- The output leaves the process. -/
def Output.outward : Output → Bool
  | .sent _ => true
  | .log _ => true
  | _ => false

namespace Impl

/-- What was sent and logged, oldest first. -/
def journal (s : Impl) : List Output := s.history.reverse.filter Output.outward

theorem journal_emit {o : Output} (h : o.outward = true) (s : Impl) :
    (s.emit o).journal = s.journal ++ [o] := by
  unfold journal emit
  rw [List.reverse_cons, List.filter_append, List.filter_singleton, h]
  rfl

theorem journal_emit_other {o : Output} (h : o.outward = false) (s : Impl) :
    (s.emit o).journal = s.journal := by
  unfold journal emit
  rw [List.reverse_cons, List.filter_append, List.filter_singleton, h]
  exact List.append_nil _

@[simp] theorem journal_rest (s : Impl) (f : Feed WireByte) : (s.rest f).journal = s.journal := rfl

@[simp] theorem journal_leave (s : Impl) : s.leave.journal = s.journal := rfl

@[simp] theorem journal_eraseHandle (s : Impl) (remote : UInt64) :
    (s.eraseHandle remote).journal = s.journal := rfl

@[simp] theorem journal_log (s : Impl) (calls : List LogCall) :
    (s.log calls).journal = s.journal ++ calls.map .log := by
  induction calls generalizing s with
  | nil => exact (List.append_nil _).symm
  | cons c calls ih =>
    show ((s.emit (.log c)).log calls).journal = _
    rw [ih, journal_emit rfl, List.append_assoc]
    rfl

@[simp] theorem journal_allocate (s : Impl) : s.allocate.journal = s.journal :=
  journal_emit_other (o := .malloc s.allocated) rfl s

@[simp] theorem journal_insertHandle (s : Impl) (remote : UInt64) (handle : Handle) :
    (s.insertHandle remote handle).journal = s.journal := by
  unfold insertHandle
  split
  · rfl
  · exact journal_emit_other (o := .inserted remote handle.id) rfl s

@[simp] theorem journal_releaseHandle (s : Impl) (remote : UInt64) (handle : Handle) :
    (s.releaseHandle remote handle).journal = s.journal := by
  rw [releaseHandle, journal_emit_other rfl, journal_emit_other rfl, journal_emit_other rfl]

/-- A message is sent and logged, whether or not `send` took it. -/
theorem journal_send_log (s : Impl) (env : Env) (reply : Reply) :
    ((s.send env reply.bytes).2.log reply.calls).journal =
      s.journal ++ (Record.replied reply env.sent).outputs := by
  unfold send
  split
  · rename_i hfail
    simp [Record.outputs, Record.sends, Record.calls, if_pos hfail]
  · rename_i htaken
    simp [Record.outputs, Record.sends, Record.calls, if_neg htaken, journal_emit (o := .sent _) rfl]

/-- A message is logged if `send` took it. -/
theorem journal_sendLogged (s : Impl) (env : Env) (reply : Reply) :
    (s.sendLogged env reply.bytes reply.calls).journal =
      s.journal ++ (if env.sent ≤ 0 then [] else [Record.replied reply env.sent]).flatMap Record.outputs := by
  by_cases hfail : env.sent ≤ 0
  · simp [sendLogged, send, if_pos hfail]
  · rw [if_neg hfail, List.flatMap_singleton, ← journal_send_log]
    simp [sendLogged, send, if_neg hfail]

theorem journal_createBuffer (env : Env) (s : Impl) :
    (s.createBuffer env).journal = s.journal ++ (createParts env s.feed).calls.map .log := by
  unfold createBuffer createParts
  rcases hblock : env.block with _ | block
  · simp [Parts.nothing, Parts.calls]
  · -- The receives of `CreateBuffer`, each with what is logged when it is the one that fails.
    unfold receiveBuffer
    dsimp only
    rw [show s.allocate.feed = s.feed from rfl]
    rcases hinfo : recvBytes sizeofBufferInfo s.feed with ⟨_ | infoBytes, f₁⟩
    · simp [Parts.nothing, Parts.calls, journal_emit_other (o := .free _) rfl]
    dsimp only
    rcases hhandle : recvBytes sizeofCrosGrallocHandle f₁ with ⟨_ | handleBytes, f₂⟩
    · simp [Parts.calls, journal_emit_other (o := .free _) rfl]
    dsimp only
    rcases hfds : recvFds env (sizeT (Layout.crosGrallocHandle.read (overwrite handleBytes block)).numFds) f₂
      with ⟨_ | fds, f₃⟩
    · simp [Parts.calls, journal_emit_other (o := .free _) rfl]
    · simp [Parts.calls, journal_emit_other (o := .handler _ _ _ _) rfl]

theorem journal_removeBuffer (s : Impl) :
    s.removeBuffer.journal = s.journal ++ (removeParts s.feed).calls.map .log := by
  unfold removeBuffer removeParts
  rcases hinfo : recvBytes sizeofBufferInfo s.feed with ⟨_ | bytes, f⟩
  · simp [Parts.nothing, Parts.calls]
  · dsimp only
    split
    · simp [Parts.calls]
    · simp [Parts.calls]

@[simp] theorem mHandles_foldl_log (s : Impl) (calls : List LogCall) : (s.log calls).mHandles = s.mHandles := by
  induction calls generalizing s with
  | nil => rfl
  | cons c calls ih => exact ih (s.emit (.log c))

theorem journal_displayFrame (env : Env) (info : BufferInfo) (ctrl : Option DisplayControl) (s : Impl) :
    (s.displayFrame env info ctrl).journal = s.journal ++ (displayAcks env info s).flatMap Record.outputs := by
  unfold displayFrame displayAcks
  rcases hfind : s.mHandles.find info.remoteHandle with _ | handle
  · simp
  · dsimp only
    have hlogged := journal_sendLogged (s.emit (.handler .frameDisplay info.remoteHandle handle ctrl)) env
      (.displayAck info)
    rw [journal_emit_other rfl] at hlogged
    simp only [Option.isNone_some, Bool.false_eq_true, false_or]
    exact hlogged

theorem displayAcks_congr (env : Env) (info : BufferInfo) {s t : Impl} (h : t.mHandles = s.mHandles) :
    displayAcks env info t = displayAcks env info s := by
  rw [displayAcks, displayAcks, h]

theorem journal_displayRequest (env : Env) (ev : DisplayEvent) (s t : Impl) (ht : t.mHandles = s.mHandles)
    (hjournal : t.journal = s.journal ++ (Record.received ev .nothing).outputs) :
    (t.displayRequest env (payloadSize ev.size)).journal =
      s.journal ++ (displayRecords env ev t.feed s).flatMap Record.outputs := by
  have hheader (parts : Parts) : s.journal ++ (Record.received ev parts).outputs =
      t.journal ++ parts.calls.map .log := by
    rw [hjournal]
    simp [Record.outputs, Record.sends, Record.calls, Parts.calls, Parts.nothing]
  unfold displayRequest displayRecords
  split
  · rw [List.flatMap_singleton, hjournal]
  rcases hinfo : recvBytes sizeofBufferInfo t.feed with ⟨_ | infoBytes, f₁⟩
  · rw [List.flatMap_singleton, ← hjournal]
    rfl
  dsimp only
  by_cases hctrl : sizeT (payloadSize ev.size) = sizeofBufferInfo + sizeofDisplayControl
  · rw [if_pos (decide_eq_true hctrl), if_pos hctrl,
      show ((t.rest f₁).log [.addBufferInfoStruct (Layout.bufferInfo.read infoBytes) 2]).feed = f₁ from rfl]
    rcases recvBytes sizeofDisplayControl f₁ with ⟨_ | ctrlBytes, f₂⟩
    · dsimp only
      rw [List.flatMap_singleton, hheader]
      simp [Parts.calls]
    · dsimp only
      rw [journal_displayFrame, List.flatMap_cons, ← List.append_assoc, hheader,
        displayAcks_congr env _ (s := s) (by simpa [rest] using ht)]
      simp [Parts.calls]
  · rw [if_neg (by simp only [decide_eq_true_eq]; exact hctrl), if_neg hctrl, journal_displayFrame,
      List.flatMap_cons, ← List.append_assoc, hheader,
      displayAcks_congr env _ (s := s) (by simpa [rest] using ht)]
    simp [Parts.calls]

theorem journal_onReady (cfg : Config) (env : Env) (s : Impl) :
    (s.onReady cfg env).journal = s.journal ++
      (match recvBytes sizeofDisplayEvent s.feed with
        | (none, _) => []
        | (some bytes, f) => messageRecords cfg env (Layout.displayEvent.read bytes) f s).flatMap
          Record.outputs := by
  unfold onReady
  rcases recvBytes sizeofDisplayEvent s.feed with ⟨_ | bytes, f⟩
  · simp
  dsimp only
  generalize Layout.displayEvent.read bytes = ev
  set t := (s.rest f).log [.updateEventCount (translateEvType ev.type),
    .logGenericEventInfo (translateEvType ev.type) (some ev)] with ht
  have hjournal : t.journal = s.journal ++ (Record.received ev .nothing).outputs := by
    simp [ht, Record.outputs, Record.sends, Record.calls, Parts.calls, Parts.nothing]
  have hheader (parts : Parts) : s.journal ++ (Record.received ev parts).outputs =
      t.journal ++ parts.calls.map .log := by
    rw [hjournal]
    simp [Record.outputs, Record.sends, Record.calls, Parts.calls, Parts.nothing]
  have hfeed : t.feed = f := rfl
  unfold dispatch messageRecords
  split_ifs
  · simp [hjournal]
  · rw [List.flatMap_cons, List.flatMap_singleton, ← List.append_assoc, ← hjournal]
    exact journal_send_log t env (.dispInfoAck cfg)
  · rw [List.flatMap_cons, List.flatMap_singleton, ← List.append_assoc, ← hjournal]
    exact journal_send_log t env (.dispPortAck cfg)
  · rw [journal_createBuffer, List.flatMap_singleton, hheader, hfeed]
  · rw [List.flatMap_singleton, hjournal]
  · rw [journal_removeBuffer, List.flatMap_singleton, hheader, hfeed]
  · rw [journal_displayRequest env ev s t rfl hjournal, hfeed]
  · rw [List.flatMap_singleton, hjournal]

theorem journal_foldl_release (es : List (UInt64 × Handle)) (s : Impl) :
    (es.foldl (fun s e => s.releaseHandle e.1 e.2) s).journal = s.journal := by
  induction es generalizing s with
  | nil => rfl
  | cons e es ih => rw [List.foldl_cons, ih, journal_releaseHandle]

/-- **A step of the receiver sends and logs its records.** -/
theorem journal_step (cfg : Config) (s : Impl) (i : Input) :
    (s.step cfg i).journal = s.journal ++ (s.records cfg i).flatMap Record.outputs := by
  cases i with
  | start =>
    simp only [step, start, records, List.flatMap_nil, List.append_nil]
    split <;> rfl
  | stop =>
    simp only [step, stop, records, List.flatMap_nil, List.append_nil]
    split
    · rfl
    · exact journal_foldl_release s.mHandles.entries { s.leave with shouldContinue := false }
  | setMode env width height =>
    by_cases hstarted : s.shouldContinue = false
    · simp [step, setMode, records, hstarted]
    · rw [step, setMode, if_neg hstarted, records]
      simp only [eq_false hstarted, false_or]
      exact journal_sendLogged s env (.setupResolution width height)
  | setVideoAlpha env action =>
    by_cases hstarted : s.shouldContinue = false
    · simp [step, setVideoAlpha, records, hstarted]
    · rw [step, setVideoAlpha, if_neg hstarted, records]
      simp only [eq_false hstarted, false_or]
      exact journal_sendLogged s env (.setVideoAlpha action)
  | connect connection =>
    simp only [step, records, List.flatMap_nil, List.append_nil]
    split
    · cases connection <;> rfl
    · rfl
  | poll result =>
    simp only [step]
    by_cases hworking : s.working ∧ s.connected
    · rw [if_pos hworking]
      cases result with
      | failed => simp [records, journal, close]
      | timeout => simp [records]
      | ready env =>
        simp only [records, if_pos hworking]
        exact journal_onReady cfg env s
    · rw [if_neg hworking]
      cases result <;> simp [records, hworking]

/-! ### The two parts of the journal -/

/-- The messages sent so far, oldest first. -/
def sends (s : Impl) : List (List UInt8) :=
  s.journal.filterMap fun
    | .sent bytes => some bytes
    | _ => none

/-- The calls of the logger so far, oldest first. -/
def logged (s : Impl) : List LogCall :=
  s.journal.filterMap fun
    | .log c => some c
    | _ => none

/-- A part of the journal grows by that part of the records. -/
theorem filterMap_journal_step {β : Type} {f : Output → Option β} {part : Record → List β}
    (hpart : ∀ r : Record, r.outputs.filterMap f = part r) (cfg : Config) (s : Impl) (i : Input) :
    (s.step cfg i).journal.filterMap f = s.journal.filterMap f ++ (s.records cfg i).flatMap part := by
  rw [journal_step, List.filterMap_append, List.filterMap_flatMap]
  simp only [hpart]

/-- All a receiver sends is what `send` took of its replies. -/
theorem sends_step (cfg : Config) (s : Impl) (i : Input) :
    (s.step cfg i).sends = s.sends ++ (s.records cfg i).flatMap Record.sends := by
  apply filterMap_journal_step
  intro r
  rw [Record.outputs, List.filterMap_append, List.filterMap_map, List.filterMap_map]
  simp

theorem logged_step (cfg : Config) (s : Impl) (i : Input) :
    (s.step cfg i).logged = s.logged ++ (s.records cfg i).flatMap Record.calls := by
  apply filterMap_journal_step
  intro r
  rw [Record.outputs, List.filterMap_append, List.filterMap_map, List.filterMap_map]
  simp

/-- The records of a whole run. -/
def session (cfg : Config) : Impl → List Input → List Record
  | _, [] => []
  | s, i :: is => s.records cfg i ++ session cfg (s.step cfg i) is

theorem logged_foldl (cfg : Config) (s : Impl) (is : List Input) :
    (is.foldl (step cfg) s).logged = s.logged ++ (session cfg s is).flatMap Record.calls := by
  induction is generalizing s with
  | nil => exact (List.append_nil _).symm
  | cons i is ih => rw [List.foldl_cons, ih, logged_step, session, List.flatMap_append, List.append_assoc]

theorem session_append (cfg : Config) (s : Impl) (is js : List Input) :
    session cfg s (is ++ js) = session cfg s is ++ session cfg (is.foldl (step cfg) s) js := by
  induction is generalizing s with
  | nil => rfl
  | cons i is ih => rw [List.cons_append, session, ih, session, List.append_assoc, List.foldl_cons]

end Impl

end VhalClient.Display
