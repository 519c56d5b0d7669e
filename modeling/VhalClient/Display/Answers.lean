/-
# VhalClient.Display.Answers — the stream of messages a receiver sends.

Nothing stands between two messages of the receiver, so whoever reads them goes by the size in the header.  That
size is the length of the message for all five kinds (`size_header`), and the words that say their own length
are uniquely decodable: what each `send` takes is such a word exactly as long as none takes a message in part, and
then the stream can be cut up in one way only (`sends_framed_iff`).

One kind answers a call of the client's handler: every `FRAME_DISPLAY` is followed by a `DISPLAY_ACK` for the same
remote handle.  The step lemma `answers_step` says so of every step, on any input, and `acked_eq_displayed` of
whole runs.
-/
import VhalClient.Lib.Records
import VhalClient.Lib.Run
import VhalClient.Display.Journal
import VhalClient.Display.Messages

namespace VhalClient.Display

open VhalClient.Lib

/-! ## A message says how long it is -/

namespace Reply

/-- The header of the message. -/
def header : Reply → DisplayEvent
  | dispInfoAck cfg => (dispInfoAckEvent cfg).event
  | dispPortAck cfg => (dispPortAckEvent cfg).event
  | displayAck info => (displayAckEvent info).event
  | setupResolution width height => (setupResolutionEvent width height).event
  | setVideoAlpha action => (setVideoAlphaEvent action).event

theorem bytes_eq (r : Reply) : ∃ body, r.bytes = Layout.displayEvent.write r.header ++ body := by
  cases r <;> exact ⟨_, rfl⟩

theorem type_header (r : Reply) : r.header.type = r.eventType := by
  cases r <;> rfl

theorem size_header (r : Reply) : r.header.size.toNat = r.bytes.length := by
  cases r
  all_goals
    rw [bytes, Layout.length_write]
    rfl

theorem length_bytes (r : Reply) : 16 ≤ r.bytes.length ∧ r.bytes.length ≤ 60 := by
  cases r
  all_goals
    rw [bytes, Layout.length_write]
    decide

/-- The header is what the first sixteen bytes are read as, also when the message was cut behind them. -/
theorem read_take (r : Reply) {n : ℕ} (hn : 16 ≤ n) : Layout.displayEvent.read (r.bytes.take n) = r.header := by
  obtain ⟨body, hbody⟩ := r.bytes_eq
  have hlength : (Layout.displayEvent.write r.header).length = 16 := Layout.displayEvent.length_write _
  rw [hbody, List.take_append, List.take_of_length_le (by omega), Layout.displayEvent.read_write_append]

end Reply

/-- Bytes that begin with a header and go on for as long as its size says. -/
def framed : Set (List UInt8) :=
  headed 16 fun head => some ((Layout.displayEvent.read head).size.toNat - 16)

/-- What `send` took of a message is framed exactly when it is all of it. -/
theorem Reply.take_mem_framed_iff (r : Reply) (n : ℕ) : r.bytes.take n ∈ framed ↔ r.bytes.length ≤ n := by
  obtain ⟨hmin, -⟩ := r.length_bytes
  constructor
  · rintro ⟨hlong, hbehind⟩
    rw [List.length_take] at hlong hbehind
    have hhead : Layout.displayEvent.read ((r.bytes.take n).take 16) = r.header := by
      rw [List.take_take, min_eq_left (by omega)]
      exact r.read_take (Nat.le_refl 16)
    have heq : r.header.size.toNat - 16 = min n r.bytes.length - 16 := by
      rw [← hhead]
      exact Option.some_inj.mp hbehind
    rw [r.size_header] at heq
    omega
  · intro hall
    rw [List.take_of_length_le hall]
    refine ⟨hmin, ?_⟩
    show some ((Layout.displayEvent.read (r.bytes.take 16)).size.toNat - 16) = _
    rw [r.read_take (Nat.le_refl 16), r.size_header]

/-! ## The stream -/

/-- If the record is a message of the receiver, then `send` failed or took all of it. -/
def Record.Whole : Record → Prop
  | received _ _ => True
  | replied reply count => count ≤ 0 ∨ reply.bytes.length ≤ count.toNat

theorem Record.framed_iff (r : Record) : (∀ w ∈ r.sends, w ∈ framed) ↔ r.Whole := by
  cases r with
  | received ev parts => simp [Record.sends, Record.Whole]
  | replied reply count =>
    by_cases hfail : count ≤ 0
    · simp [Record.sends, Record.Whole, hfail]
    · rw [Record.sends, if_neg hfail, Record.Whole, or_iff_right hfail, ← reply.take_mem_framed_iff]
      exact List.forall_mem_singleton

namespace Impl

/-- No message of the step is sent in part. -/
def SendsWhole (cfg : Config) (s : Impl) (i : Input) : Prop := ∀ r ∈ s.records cfg i, r.Whole

theorem sends_foldl (cfg : Config) (s : Impl) (is : List Input) :
    (is.foldl (step cfg) s).sends = s.sends ++ (session cfg s is).flatMap Record.sends := by
  induction is generalizing s with
  | nil => exact (List.append_nil _).symm
  | cons i is ih => rw [List.foldl_cons, ih, sends_step, session, List.flatMap_append, List.append_assoc]

theorem forall_session_iff_along (cfg : Config) (P : Record → Prop) (s : Impl) (is : List Input) :
    (∀ r ∈ session cfg s is, P r) ↔ Along (step cfg) (fun s i => ∀ r ∈ s.records cfg i, P r) s is := by
  induction is generalizing s with
  | nil => simp [session]
  | cons i is ih => rw [session, List.forall_mem_append, ih, along_cons]

/-- **The receiver's messages are framed**: what each `send` took is of the length in its header, exactly as long as
none took a message in part; and then there is no other way to cut the stream up. -/
theorem sends_framed_iff (cfg : Config) (is : List Input) :
    let s := is.foldl (step cfg) initial
    ((∀ w ∈ s.sends, w ∈ framed) ↔ Along (step cfg) (SendsWhole cfg) initial is) ∧
      ((∀ w ∈ s.sends, w ∈ framed) →
        ∀ ws : List (List UInt8), (∀ w ∈ ws, w ∈ framed) → ws.flatten = s.sends.flatten → ws = s.sends) := by
  intro s
  constructor
  · have hsends : s.sends = (session cfg initial is).flatMap Record.sends := sends_foldl cfg initial is
    rw [hsends]
    refine Iff.trans ?_ (forall_session_iff_along cfg Record.Whole initial is)
    constructor
    · intro hall r hr
      exact r.framed_iff.mp fun w hw => hall w (List.mem_flatMap.mpr ⟨r, hr, hw⟩)
    · intro hall w hw
      obtain ⟨r, hr, hw⟩ := List.mem_flatMap.mp hw
      exact r.framed_iff.mpr (hall r hr) w hw
  · intro hframed ws hws heq
    exact uniquelyDecodable_headed (by decide) ws s.sends hws hframed heq

/-! ## Acknowledgements -/

/-- The remote handle of a `FRAME_DISPLAY`. -/
def displayOf : Output → Option UInt64
  | .handler .frameDisplay remote _ _ => some remote
  | _ => none

/-- The remote handle of a `DISPLAY_ACK`, read from the message. -/
def ackedIn (bytes : List UInt8) : Option UInt64 :=
  if (Layout.displayEvent.read bytes).type = evDisplayAck then
    some (Layout.bufferInfoEvent.read bytes).info.remoteHandle
  else none

def ackOf : Output → Option UInt64
  | .sent bytes => ackedIn bytes
  | _ => none

/-- The frames shown so far, oldest first. -/
def displayed (s : Impl) : List UInt64 := s.history.reverse.filterMap displayOf

/-- The acknowledgements sent so far, oldest first. -/
def acked (s : Impl) : List UInt64 := s.history.reverse.filterMap ackOf

/-- Between the two states every frame that was shown was acknowledged, in order. -/
def Answers (s t : Impl) : Prop :=
  ∃ frames, t.displayed = s.displayed ++ frames ∧ t.acked = s.acked ++ frames

theorem Answers.refl (s : Impl) : Answers s s := ⟨[], (List.append_nil _).symm, (List.append_nil _).symm⟩

theorem Answers.trans {s t u : Impl} (h : Answers s t) (h' : Answers t u) : Answers s u := by
  obtain ⟨frames, hdisplayed, hacked⟩ := h
  obtain ⟨frames', hdisplayed', hacked'⟩ := h'
  refine ⟨frames ++ frames', ?_, ?_⟩
  · rw [hdisplayed', hdisplayed, List.append_assoc]
  · rw [hacked', hacked, List.append_assoc]

theorem displayed_emit (s : Impl) (o : Output) : (s.emit o).displayed = s.displayed ++ (displayOf o).toList := by
  simp only [displayed, emit, List.reverse_cons, List.filterMap_append]
  cases h : displayOf o <;> simp [List.filterMap, h]

theorem acked_emit (s : Impl) (o : Output) : (s.emit o).acked = s.acked ++ (ackOf o).toList := by
  simp only [acked, emit, List.reverse_cons, List.filterMap_append]
  cases h : ackOf o <;> simp [List.filterMap, h]

/-- An output that is neither. -/
theorem Answers.emit {s t : Impl} (h : Answers s t) {o : Output} (hdisplay : displayOf o = none)
    (hack : ackOf o = none) : Answers s (t.emit o) := by
  refine h.trans ⟨[], ?_, ?_⟩
  · rw [displayed_emit, hdisplay]
    rfl
  · rw [acked_emit, hack]
    rfl

/-- Only what is in the history counts. -/
theorem Answers.congr {s t u : Impl} (h : Answers s t) (hhistory : u.history = t.history) : Answers s u := by
  obtain ⟨frames, hdisplayed, hacked⟩ := h
  refine ⟨frames, ?_, ?_⟩
  · rw [displayed, hhistory]
    exact hdisplayed
  · rw [acked, hhistory]
    exact hacked

theorem Answers.log {s t : Impl} (h : Answers s t) (calls : List LogCall) : Answers s (t.log calls) := by
  induction calls generalizing t with
  | nil => exact h
  | cons c calls ih => exact ih (h.emit rfl rfl)

/-- A message of the receiver that is sent whole, and is no acknowledgement. -/
theorem Answers.send {s t : Impl} (h : Answers s t) {env : Env} (hsent : 60 ≤ env.sent) (r : Reply)
    (hother : r.eventType ≠ evDisplayAck) : Answers s (t.send env r.bytes).2 := by
  obtain ⟨-, hmax⟩ := r.length_bytes
  unfold Impl.send
  rw [if_neg (by omega), List.take_of_length_le (by omega)]
  refine h.emit rfl ?_
  have hread : Layout.displayEvent.read r.bytes = r.header := by
    rw [← List.take_of_length_le hmax]
    exact r.read_take (by decide)
  rw [ackOf, ackedIn, hread, r.type_header, if_neg hother]

theorem Answers.sendLogged {s t : Impl} (h : Answers s t) {env : Env} (hsent : 60 ≤ env.sent) (r : Reply)
    (hother : r.eventType ≠ evDisplayAck) (calls : List LogCall) :
    Answers s (t.sendLogged env r.bytes calls) := by
  have hsend := h.send hsent r hother
  unfold Impl.sendLogged
  rcases hresult : t.send env r.bytes with ⟨_ | _, u⟩
  · rw [hresult] at hsend
    exact hsend
  · rw [hresult] at hsend
    exact hsend.log calls

theorem Answers.insertHandle {s t : Impl} (h : Answers s t) (remote : UInt64) (handle : Handle) :
    Answers s (t.insertHandle remote handle) := by
  unfold Impl.insertHandle
  split
  · exact h
  · exact (h.emit (o := .inserted remote handle.id) rfl rfl).congr rfl

theorem Answers.releaseHandle {s t : Impl} (h : Answers s t) (remote : UInt64) (handle : Handle) :
    Answers s (t.releaseHandle remote handle) := ((h.emit rfl rfl).emit rfl rfl).emit rfl rfl

theorem Answers.allocate {s t : Impl} (h : Answers s t) : Answers s t.allocate :=
  (h.emit (o := .malloc t.allocated) rfl rfl).congr rfl

theorem Answers.createBuffer {s t : Impl} (h : Answers s t) (env : Env) : Answers s (t.createBuffer env) := by
  unfold Impl.createBuffer
  cases env.block with
  | none => exact h
  | some block =>
    dsimp only
    rcases receiveBuffer env block t.allocate.feed with ⟨_ | ⟨remote, gralloc⟩, calls, f⟩
    · exact ((h.allocate.congr (u := t.allocate.rest f) rfl).log calls).emit rfl rfl
    · exact (((h.allocate.congr (u := t.allocate.rest f) rfl).log calls).insertHandle remote _).emit rfl rfl

theorem Answers.removeBuffer {s t : Impl} (h : Answers s t) : Answers s t.removeBuffer := by
  unfold Impl.removeBuffer
  rcases recvBytes sizeofBufferInfo t.feed with ⟨_ | bytes, f⟩
  · exact h.congr rfl
  · have hlogged := (h.congr (u := t.rest f) rfl).log
      [.addBufferInfoStruct (Layout.bufferInfo.read bytes) 2]
    dsimp only
    split
    · exact hlogged
    · exact (hlogged.releaseHandle _ _).congr rfl

/-- The one place where a frame is shown is the one where it is acknowledged. -/
theorem Answers.displayFrame {s t : Impl} (h : Answers s t) {env : Env} (hsent : 60 ≤ env.sent)
    (info : BufferInfo) (ctrl : Option DisplayControl) : Answers s (t.displayFrame env info ctrl) := by
  unfold Impl.displayFrame
  cases t.mHandles.find info.remoteHandle with
  | none => exact h
  | some handle =>
    have hlength := (Reply.displayAck info).length_bytes
    have hread : Layout.bufferInfoEvent.read (Reply.displayAck info).bytes = Reply.displayAckEvent info :=
      Layout.bufferInfoEvent.read_write _
    have htype : (Layout.displayEvent.read (Reply.displayAck info).bytes).type = evDisplayAck := by
      rw [← List.take_of_length_le hlength.2, (Reply.displayAck info).read_take (by decide)]
      rfl
    have hboth : Answers t ((t.emit (.handler .frameDisplay info.remoteHandle handle ctrl)).emit
        (.sent (Reply.displayAck info).bytes)) := by
      refine ⟨[info.remoteHandle], ?_, ?_⟩
      · rw [displayed_emit, displayed_emit]
        exact List.append_nil _
      · rw [acked_emit, acked_emit, ackOf, ackedIn, if_pos htype, hread]
        exact congrArg (· ++ _) (List.append_nil _)
    dsimp only
    unfold Impl.sendLogged Impl.send
    rw [if_neg (by omega)]
    dsimp only
    refine (h.trans ?_).log _
    have hwhole : (Reply.displayAck info).bytes.take env.sent.toNat = (Reply.displayAck info).bytes :=
      List.take_of_length_le (by omega)
    exact hwhole ▸ hboth

theorem Answers.displayRequest {s t : Impl} (h : Answers s t) {env : Env} (hsent : 60 ≤ env.sent)
    (size : Int32) : Answers s (t.displayRequest env size) := by
  unfold Impl.displayRequest
  split
  · exact h
  · rcases recvBytes sizeofBufferInfo t.feed with ⟨_ | bytes, f⟩
    · exact h.congr rfl
    · have hlogged := (h.congr (u := t.rest f) rfl).log
        [.addBufferInfoStruct (Layout.bufferInfo.read bytes) 2]
      dsimp only
      split
      · generalize (t.rest f).log _ = u at hlogged ⊢
        rcases recvBytes sizeofDisplayControl u.feed with ⟨_ | bytes', f'⟩
        · exact hlogged.congr rfl
        · exact ((hlogged.congr (u := u.rest f') rfl).log _).displayFrame hsent _ _
      · exact hlogged.displayFrame hsent _ none

theorem Answers.onReady {s t : Impl} (h : Answers s t) (cfg : Config) {env : Env} (hsent : 60 ≤ env.sent) :
    Answers s (t.onReady cfg env) := by
  unfold Impl.onReady
  rcases recvBytes sizeofDisplayEvent t.feed with ⟨_ | bytes, f⟩
  · exact h.congr rfl
  · have hlogged := (h.congr (u := t.rest f) rfl).log
      [.updateEventCount (translateEvType (Layout.displayEvent.read bytes).type),
        .logGenericEventInfo (translateEvType (Layout.displayEvent.read bytes).type)
          (some (Layout.displayEvent.read bytes))]
    dsimp only
    unfold dispatch
    split_ifs
    · exact hlogged.congr rfl
    · exact (hlogged.send hsent (.dispInfoAck cfg) (show evDispInfoAck ≠ evDisplayAck by decide)).log _
    · exact (hlogged.send hsent (.dispPortAck cfg) (show evDispPortAck ≠ evDisplayAck by decide)).log _
    · exact hlogged.createBuffer env
    · exact hlogged
    · exact hlogged.removeBuffer
    · exact hlogged.displayRequest hsent _
    · exact hlogged

theorem Answers.foldl_release {s t : Impl} (h : Answers s t) (es : List (UInt64 × Handle)) :
    Answers s (es.foldl (fun s e => s.releaseHandle e.1 e.2) t) := by
  induction es generalizing t with
  | nil => exact h
  | cons e es ih => exact ih (h.releaseHandle e.1 e.2)

/-- The socket takes whatever the step sends; the longest message has 60 bytes. -/
def SendsAll : Input → Prop
  | .setMode env _ _ => 60 ≤ env.sent
  | .setVideoAlpha env _ => 60 ≤ env.sent
  | .poll (.ready env) => 60 ≤ env.sent
  | _ => True

/-- **A step acknowledges what it shows**, whatever it reads. -/
theorem answers_step (cfg : Config) (s : Impl) {i : Input} (hsends : SendsAll i) : Answers s (s.step cfg i) := by
  have hself := Answers.refl s
  cases i with
  | start =>
    show Answers s s.start.2
    unfold start
    split <;> exact hself
  | stop =>
    show Answers s s.stop.2
    unfold stop
    split
    · exact hself
    · have hleft : Answers s { s.leave with shouldContinue := false } := hself.congr rfl
      exact (hleft.foldl_release s.mHandles.entries).congr rfl
  | setMode env width height =>
    show Answers s (s.setMode env width height)
    unfold setMode
    split
    · exact hself
    · exact hself.sendLogged hsends (.setupResolution width height)
        (show evSetupResolution ≠ evDisplayAck by decide) _
  | setVideoAlpha env action =>
    show Answers s (s.setVideoAlpha env action)
    unfold setVideoAlpha
    split
    · exact hself
    · exact hself.sendLogged hsends (.setVideoAlpha action) (show evSetVideoAlphaReq ≠ evDisplayAck by decide) _
  | connect connection =>
    simp only [step]
    split
    · cases connection <;> exact hself.congr rfl
    · exact hself
  | poll result =>
    simp only [step]
    split
    · cases result with
      | failed => exact hself.congr rfl
      | timeout => exact hself
      | ready env => exact hself.onReady cfg hsends
    · exact hself

/-- **Every frame shown is acknowledged**, once and in order, in every run on whatever it receives, if the socket takes
what is sent. -/
theorem acked_eq_displayed (cfg : Config) (is : List Input) (hsends : ∀ i ∈ is, SendsAll i) :
    (is.foldl (step cfg) initial).acked = (is.foldl (step cfg) initial).displayed := by
  have hall : Answers initial (is.foldl (step cfg) initial) := by
    generalize initial = s
    induction is generalizing s with
    | nil => exact .refl s
    | cons i is ih =>
      exact (answers_step cfg s (hsends i List.mem_cons_self)).trans
        (ih (fun j hj => hsends j (List.mem_cons_of_mem i hj)) (s.step cfg i))
  obtain ⟨frames, hdisplayed, hacked⟩ := hall
  rw [hdisplayed, hacked]
  rfl

/-- A session in which a buffer is created. -/
theorem acked_eq_displayed_blankCreate :
    let s := [.start, .connect (some (Feed.whole (blankCreate 7).wire)), .poll (.ready calmEnv)].foldl
      (step anySession) initial
    s.acked = s.displayed := by
  refine acked_eq_displayed anySession [.start, .connect (some (Feed.whole (blankCreate 7).wire)),
    .poll (.ready calmEnv)] ?_
  simp only [List.forall_mem_cons, SendsAll]
  exact ⟨trivial, trivial, le_refl 60, fun _ h => absurd h List.not_mem_nil⟩

end Impl

end VhalClient.Display
