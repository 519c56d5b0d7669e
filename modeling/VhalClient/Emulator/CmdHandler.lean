/-
# VhalClient.Emulator.CmdHandler — `CmdHandler`, which replays a session to a receiver.

`dataExchange` is one entry of the log that is replayed: it sends the message of the entry, or waits for the
one the receiver is to send.  It is a command over the handler's state that stops with the first call that
fails, as `CHECK_STATUS` does.  What it sends is appended to `outgoing`.

The frames are read from the content file; how long to wait before a frame is left out, since it decides
nothing else.  A payload is the list of structs the parser made; to take an element for another struct
than it is, or an element that is missing, is undefined in the source and a failure of its own here.
-/
import VhalClient.Lib.Checked
import VhalClient.Display.Messages
import VhalClient.Emulator.GfxHandler

namespace VhalClient.Emulator

open VhalClient.Lib VhalClient.Display

/-- `AicError_t` without its success. -/
inductive AicError where
  | invalidArgs
  | fileRead
  | socketError
  | ymlLoad
  | ymlParser
  | nullPtr
  | eof
  | payloadEmpty
  | badMetadata
  | inputStream
  | streamParams
  | socketInit
  | socketConnect
  | socket
  | gfx
  | unknown
  deriving DecidableEq, Repr

/-- What a command returns other than `AICS_ERR_NONE`. -/
inductive Failure where
  | aic (error : AicError)
  /-- `GFX_FAIL`, passed on as the number it is. -/
  | gfxFail
  /-- An element of the payload is not what it is taken for. -/
  | undefined
  deriving DecidableEq, Repr

/-- `EventDirection_t`. -/
inductive Direction where
  | send
  | receive
  | unknown
  deriving DecidableEq, Repr

/-- The members of `AicEventMetadata_t` the exchange reads. -/
structure Metadata where
  eventType : UInt32
  direction : Direction
  deriving DecidableEq, Repr

/-- An element of a payload. -/
inductive Struct where
  | displayEvent (ev : DisplayEvent)
  | displayInfoEvent (ev : DisplayInfoEvent)
  | bufferInfoEvent (ev : BufferInfoEvent)
  | grallocHandle (handle : CrosGrallocHandle)
  | displayControl (ctrl : DisplayControl)
  | displayPortEvent (ev : DisplayPortEvent)
  | setVideoAlphaEvent (ev : DisplaySetVideoAlphaEvent)
  deriving DecidableEq, Repr

/-! ## The content file -/

/-- `std::ifstream`: the contents, the position, and the two bits a read can set. -/
structure InputStream where
  content : List UInt8
  pos : ℕ
  eof : Bool
  fail : Bool
  deriving DecidableEq, Repr

namespace InputStream

def good (st : InputStream) : Bool := !st.eof && !st.fail

/-- `read`: what there is replaces the front of the buffer, and a short read sets both bits. -/
def read (n : ℕ) (buf : List UInt8) (st : InputStream) : List UInt8 × InputStream :=
  if st.good then
    let got := (st.content.drop st.pos).take n
    let short : Bool := got.length < n
    (overwrite got buf, { st with pos := st.pos + got.length, eof := short, fail := short })
  else (buf, { st with fail := true })

/-- `clear` and `seekg` to the beginning. -/
def rewind (st : InputStream) : InputStream := { st with pos := 0, eof := false, fail := false }

end InputStream

/-- `memcpy` to an offset. -/
def memcpyAt (offset : ℕ) (bytes memory : List UInt8) : List UInt8 :=
  memory.take offset ++ overwrite bytes (memory.drop offset)

/-- Without dimensions of its own the content is taken to have those of the surfaces. -/
def isDirectRead (srcWidth srcHeight gfxW gfxH : UInt32) : Bool :=
  (srcWidth = 0 && srcHeight = 0) || (srcWidth = gfxW && srcHeight = gfxH)

/-- A row of the source: read into the row buffer, its front copied to the frame. -/
def copyRow (srcStride dstStride : ℕ) (acc : List UInt8 × List UInt8 × InputStream) (row : ℕ) :
    List UInt8 × List UInt8 × InputStream :=
  let (src, frame, st) := acc
  let (src, st) := st.read srcStride src
  (src, memcpyAt (row * dstStride) (src.take dstStride) frame, st)

/-- The rows of a frame, and then the rows of the source below them, which are read to be skipped. -/
def copyRows (srcHeight height srcStride dstStride : ℕ) (src pFrame : List UInt8) (st : InputStream) :
    List UInt8 × InputStream :=
  let (src, frame, st) := (List.range height).foldl (copyRow srcStride dstStride) (src, pFrame, st)
  let skip (acc : List UInt8 × InputStream) (_ : ℕ) := acc.2.read srcStride acc.1
  (frame, ((List.range (srcHeight - height)).foldl skip (src, st)).2)

/-- `GetOneFrame` into `pFrame`; `fresh` is what fresh memory holds.  All sizes are 32-bit products. -/
def getOneFrame (fresh : ℕ → UInt8) (srcWidth srcHeight : UInt32) (surf : SurfaceParams)
    (pFrame : List UInt8) (st : InputStream) : Except AicError (List UInt8) × InputStream :=
  let bytesToRead := surf.width * surf.height * surf.pixelSize
  if bytesToRead = 0 then (.error .streamParams, st)
  else
    -- At the end of the content the stream starts over; otherwise it stays as it is.
    let st := if st.good = false ∧ st.eof then st.rewind else st
    if st.good = false then (.error .inputStream, st)
    else if isDirectRead srcWidth srcHeight 0 0 then
      let (frame, st) := st.read bytesToRead.toNat pFrame
      (.ok frame, st)
    else if srcWidth < surf.width ∨ srcHeight < surf.height then (.error .streamParams, st)
    else
      let srcStride := (srcWidth * surf.pixelSize).toNat
      let dstStride := (surf.width * surf.pixelSize).toNat
      let (frame, st) := copyRows srcHeight.toNat surf.height.toNat srcStride dstStride
        ((List.range srcStride).map fresh) pFrame st
      (.ok frame, st)

/-! ## The handler -/

/-- What the surroundings answer during one exchange: the graphics device; the result of the i-th `send` or
`sendmsg` of so many bytes; the number a descriptor gets in the receiving process; what fresh memory
holds. -/
structure Surroundings where
  kernel : Kernel
  send : ℕ → ℕ → ℤ
  install : Int32 → Int32
  fresh : ℕ → UInt8

/-- A `send` on a blocking socket fails or takes all it is given. -/
def Surroundings.Blocking (env : Surroundings) : Prop := ∀ i n, env.send i n = -1 ∨ env.send i n = n

/-- The members of `CmdHandler` an exchange uses. -/
structure CmdHandler where
  /-- `m_socket`, null or with its `connected_`. -/
  socket : Option Bool
  outgoing : List WireByte
  incoming : Feed UInt8
  /-- What each `recv` returned, newest first. -/
  received : List (List UInt8)
  gfx : GfxHandler
  inputStream : InputStream
  srcWidth : UInt32
  srcHeight : UInt32

/-- A function of the handler whose callers test its status. -/
abbrev Command := EStateM Failure CmdHandler

namespace CmdHandler

/-- A call of `m_gfx` and the `CHECK_STATUS` behind it. -/
def callGfx (f : GfxHandler → GfxStatus × GfxHandler) : Command Unit := do
  let h ← get
  let (status, gfx) := f h.gfx
  set { h with gfx := gfx }
  match status with
  | .ok => pure ()
  | .fail => throw .gfxFail

/-- The frame of a display request: fresh memory and the `GetOneFrame` into it. -/
def nextFrame (env : Surroundings) (surf : SurfaceParams) : Command (List UInt8) := do
  let h ← get
  let sizeToRead := (surf.width * surf.height * surf.pixelSize).toNat
  let (result, st) := getOneFrame env.fresh h.srcWidth h.srcHeight surf
    ((List.range sizeToRead).map env.fresh) h.inputStream
  set { h with inputStream := st }
  match result with
  | .error e => throw (.aic e)
  | .ok frame => return frame

def writeIntoSocket (env : Surroundings) (i : ℕ) (data : List UInt8) : Command Unit := do
  let h ← get
  match h.socket with
  | none => throw (.aic .socketInit)
  | some false => throw (.aic .socketConnect)
  | some true =>
    let sent := env.send i data.length
    -- A count short of what was given is taken for success.
    if sent = -1 then throw (.aic .socket)
    else set { h with outgoing := h.outgoing ++ plain (data.take sent.toNat) }

/-- `ReadFromSocket`: a `recv` that returns 0 is no error. -/
def readFromSocket (sizeInBytes : ℕ) : Command Unit := do
  let h ← get
  match h.socket with
  | none => throw (.aic .socketInit)
  | some false => throw (.aic .socketConnect)
  | some true =>
    match h.incoming.recv sizeInBytes with
    | (.error, f) =>
      set { h with incoming := f }
      throw (.aic .socket)
    | (.eof, f) => set { h with incoming := f, received := [] :: h.received }
    | (.bytes b bs, f) => set { h with incoming := f, received := (b :: bs) :: h.received }

/-- `SendFDs`: one descriptor, on sixteen bytes. -/
def sendFDs (env : Surroundings) (i : ℕ) (bo : Option BoData) : Command Unit := do
  match bo with
  | none => throw (.aic .nullPtr)
  | some bo =>
    let sent := env.send i 16
    if sent < 0 then throw (.aic .socket)
    else modify fun h => { h with outgoing := h.outgoing ++ (carrier [env.install bo.fd]).take sent.toNat }

/-- `InitGfxSurfaceParams` from the handle of the payload. -/
def initGfxSurfaceParams (props : CrosGrallocHandle) : Command SurfaceParams := do
  if props.width = 0 ∨ props.height = 0 ∨ props.format = 0 then throw (.aic .gfx)
  let surf : SurfaceParams :=
    { width := props.width
      height := props.height
      format := props.format
      pitch := props.strides.get 0
      tilingFormat := props.tilingMode
      alignedWidth := props.alignedWidth
      alignedHeight := props.alignedHeight
      pixelSize := 0
      totalSize := 0 }
  match GfxHandler.adjustSurfaceParams surf with
  | (.fail, _) => throw (.aic .gfx)
  | (.ok, surf) => return surf

/-- `evInfo->event.size - sizeof(display_event_t)`, computed in `size_t` and narrowed to `int`. -/
def requestSize (size : UInt32) : Int32 := (size - UInt32.ofNat sizeofDisplayEvent).toInt32

/-- The header as it is sent: with the render node of the device in use. -/
def override (h : CmdHandler) (ev : DisplayEvent) : DisplayEvent :=
  { ev with renderNode := h.gfx.getRenderNode }

def xchngDisplayRequest (env : Surroundings) (payload : List Struct) : Command Unit := do
  match payload with
  | [] => throw (.aic .payloadEmpty)
  | .bufferInfoEvent evInfo :: more =>
    let event := (← get).override evInfo.event
    let hasCtrl : Bool := sizeT (requestSize event.size) = sizeofBufferInfo + sizeofDisplayControl
    if hasCtrl ∧ payload.length ≠ 2 then throw (.aic .unknown)
    match (← get).gfx.getBo evInfo.info.remoteHandle with
    | none => throw (.aic .nullPtr)
    | some bo =>
      let frame ← nextFrame env bo.surf
      callGfx (GfxHandler.copy env.kernel evInfo.info.remoteHandle bo frame)
      writeIntoSocket env 0 (Layout.displayEvent.write event)
      writeIntoSocket env 1 (Layout.bufferInfo.write evInfo.info)
      if hasCtrl then
        match more with
        | .displayControl ctrl :: _ => writeIntoSocket env 2 (Layout.displayControl.write ctrl)
        | _ => throw .undefined
  | _ => throw .undefined

/-- The case of `CREATE_BUFFER`. -/
def createBuffer (env : Surroundings) (evInfo : BufferInfoEvent) (gralloc : CrosGrallocHandle) :
    Command Unit := do
  let event := (← get).override evInfo.event
  let surf ← initGfxSurfaceParams gralloc
  callGfx (GfxHandler.allocateBo env.kernel surf evInfo.info.remoteHandle)
  writeIntoSocket env 0 (Layout.displayEvent.write event)
  writeIntoSocket env 1 (Layout.bufferInfo.write evInfo.info)
  writeIntoSocket env 2 (Layout.crosGrallocHandle.write gralloc)
  sendFDs env 3 ((← get).gfx.getBo evInfo.info.remoteHandle)

/-- The case of `REMOVE_BUFFER`: the message is sent before the object is looked up. -/
def removeBuffer (env : Surroundings) (evInfo : BufferInfoEvent) : Command Unit := do
  let event := (← get).override evInfo.event
  writeIntoSocket env 0 (Layout.displayEvent.write event)
  writeIntoSocket env 1 (Layout.bufferInfo.write evInfo.info)
  callGfx (GfxHandler.clearBo env.kernel evInfo.info.remoteHandle true)

/-- `DataExchange`, the direction `DIRECTION_SEND`. -/
def sendEntry (env : Surroundings) (payload : List Struct) (eventType : UInt32) : Command Unit := do
  if eventType = evDispInfoReq ∨ eventType = evDispPortReq then
    match payload with
    | .displayEvent event :: _ =>
      let event := (← get).override event
      writeIntoSocket env 0 (Layout.displayEvent.write event)
    | _ => throw .undefined
  else if eventType = evCreateBuffer then
    match payload with
    | .bufferInfoEvent evInfo :: .grallocHandle gralloc :: _ => createBuffer env evInfo gralloc
    | _ => throw .undefined
  else if eventType = evRemoveBuffer then
    match payload with
    | .bufferInfoEvent evInfo :: _ => removeBuffer env evInfo
    | _ => throw .undefined
  else if eventType = evDisplayReq then xchngDisplayRequest env payload
  else throw (.aic .badMetadata)

/-- `DataExchange`, the direction `DIRECTION_RECEIVE`. -/
def receiveEntry (eventType : UInt32) : Command Unit := do
  if eventType = evDispInfoAck ∨ eventType = evSetupResolution then
    readFromSocket Layout.displayInfo.size
  else if eventType = evDisplayAck then readFromSocket sizeofBufferInfoEvent
  else if eventType = evSetVideoAlphaReq then readFromSocket Layout.displaySetVideoAlphaEvent.size
  else throw (.aic .badMetadata)

def dataExchange (env : Surroundings) (payload : List Struct) (metadata : Metadata) : Command Unit := do
  if payload.isEmpty then throw (.aic .payloadEmpty)
  match metadata.direction with
  | .send => sendEntry env payload metadata.eventType
  | .receive => receiveEntry metadata.eventType
  | .unknown => throw (.aic .badMetadata)

/-! ## What a call that went through did -/

/-- Bytes on their way to the receiver. -/
def put (h : CmdHandler) (bytes : List WireByte) : CmdHandler := { h with outgoing := h.outgoing ++ bytes }

theorem writeIntoSocket_ok {env : Surroundings} (hblocking : env.Blocking) {i : ℕ} {data : List UInt8}
    {h h' : CmdHandler} {u : Unit} (hok : writeIntoSocket env i data h = .ok u h') :
    h' = h.put (plain data) := by
  unfold writeIntoSocket at hok
  obtain ⟨_, _, hget, hok⟩ := Checked.bind_eq_ok.mp hok
  obtain ⟨rfl, rfl⟩ := Checked.get_eq_ok.mp hget
  -- No socket, one that is not connected, one to send on.
  rcases hsocket : h.socket with _ | _ | _
  · rw [hsocket] at hok
    exact absurd hok Checked.throw_ne_ok
  · rw [hsocket] at hok
    exact absurd hok Checked.throw_ne_ok
  · rw [hsocket] at hok
    dsimp only at hok
    rcases hblocking i data.length with hfail | hall
    · rw [if_pos hfail] at hok
      exact absurd hok Checked.throw_ne_ok
    · rw [hall, if_neg (by omega), Int.toNat_natCast, List.take_length] at hok
      rw [← Checked.set_eq_ok.mp hok, put, ← hsocket]

/-- A `send` that takes all. -/
theorem writeIntoSocket_of_send {env : Surroundings} {i : ℕ} {data : List UInt8} {h : CmdHandler}
    (hsocket : h.socket = some true) (hsend : env.send i data.length = data.length) :
    writeIntoSocket env i data h = .ok () (h.put (plain data)) := by
  have htake : data.take (env.send i data.length).toNat = data := by
    rw [hsend, Int.toNat_natCast, List.take_length]
  unfold writeIntoSocket
  rw [Checked.get_bind, hsocket]
  dsimp only
  rw [if_neg (by omega), htake, put, ← hsocket]
  rfl

theorem sendFDs_ok {env : Surroundings} (hblocking : env.Blocking) {i : ℕ} {bo : Option BoData}
    {h h' : CmdHandler} {u : Unit} (hok : sendFDs env i bo h = .ok u h') :
    ∃ b, bo = some b ∧ h' = h.put (carrier [env.install b.fd]) := by
  unfold sendFDs at hok
  cases bo with
  | none => exact absurd hok Checked.throw_ne_ok
  | some b =>
    refine ⟨b, rfl, ?_⟩
    dsimp only at hok
    rcases hblocking i 16 with hfail | hall
    · rw [hfail, if_pos (by decide)] at hok
      exact absurd hok Checked.throw_ne_ok
    · rw [hall, if_neg (by decide)] at hok
      exact (Checked.modify_eq_ok.mp hok).symm

theorem initGfxSurfaceParams_ok {props : CrosGrallocHandle} {h h' : CmdHandler} {surf : SurfaceParams}
    (hok : initGfxSurfaceParams props h = .ok surf h') : h' = h := by
  unfold initGfxSurfaceParams at hok
  obtain ⟨-, hok⟩ := Checked.guard_eq_ok.mp hok
  dsimp only at hok
  generalize GfxHandler.adjustSurfaceParams _ = adjusted at hok
  rcases adjusted with ⟨_ | _, surf'⟩
  · exact (Checked.pure_eq_ok.mp hok).2.symm
  · exact absurd hok Checked.throw_ne_ok

theorem callGfx_ok {f : GfxHandler → GfxStatus × GfxHandler} {h h' : CmdHandler} {u : Unit}
    (hok : callGfx f h = .ok u h') : ∃ gfx, f h.gfx = (.ok, gfx) ∧ h' = { h with gfx := gfx } := by
  unfold callGfx at hok
  obtain ⟨_, _, hget, hok⟩ := Checked.bind_eq_ok.mp hok
  obtain ⟨rfl, rfl⟩ := Checked.get_eq_ok.mp hget
  rcases hf : f h.gfx with ⟨status, gfx⟩
  rw [hf] at hok
  obtain ⟨_, h₁, hset, hok⟩ := Checked.bind_eq_ok.mp hok
  obtain rfl := Checked.set_eq_ok.mp hset
  cases status with
  | ok => exact ⟨gfx, rfl, (Checked.pure_eq_ok.mp hok).2.symm⟩
  | fail => exact absurd hok Checked.throw_ne_ok

/-- A frame moves the content file only. -/
theorem nextFrame_ok {env : Surroundings} {surf : SurfaceParams} {frame : List UInt8} {h h' : CmdHandler}
    (hok : nextFrame env surf h = .ok frame h') : ∃ st, h' = { h with inputStream := st } := by
  unfold nextFrame at hok
  obtain ⟨_, _, hget, hok⟩ := Checked.bind_eq_ok.mp hok
  obtain ⟨rfl, rfl⟩ := Checked.get_eq_ok.mp hget
  dsimp only at hok
  generalize getOneFrame _ _ _ _ _ _ = outcome at hok
  obtain ⟨result, st⟩ := outcome
  obtain ⟨_, h₁, hset, hok⟩ := Checked.bind_eq_ok.mp hok
  obtain rfl := Checked.set_eq_ok.mp hset
  cases result with
  | error e => exact absurd hok Checked.throw_ne_ok
  | ok frame => exact ⟨st, (Checked.pure_eq_ok.mp hok).2.symm⟩

/-! ### The messages

Each case of the exchange that goes through has sent one message of the protocol, with the render node of
the device in its header. -/

theorem createBuffer_ok {env : Surroundings} (hblocking : env.Blocking) {evInfo : BufferInfoEvent}
    {gralloc : CrosGrallocHandle} {h h' : CmdHandler} {u : Unit}
    (hok : createBuffer env evInfo gralloc h = .ok u h') :
    (∃ fd, h'.outgoing = h.outgoing ++
      (Message.mk (h.override evInfo.event) (.createBuffer evInfo.info gralloc [fd])).wire) ∧
    (∃ bo, h'.gfx.boList = h.gfx.boList.insert evInfo.info.remoteHandle bo) ∧
    h'.gfx.renderNode = h.gfx.renderNode := by
  unfold createBuffer at hok
  obtain ⟨_, _, hget, hok⟩ := Checked.bind_eq_ok.mp hok
  obtain ⟨rfl, rfl⟩ := Checked.get_eq_ok.mp hget
  obtain ⟨surf, _, hsurf, hok⟩ := Checked.bind_eq_ok.mp hok
  obtain rfl := initGfxSurfaceParams_ok hsurf
  obtain ⟨_, _, hgfx, hok⟩ := Checked.bind_eq_ok.mp hok
  obtain ⟨gfx, hallocate, rfl⟩ := callGfx_ok hgfx
  obtain ⟨_, _, hwrite, hok⟩ := Checked.bind_eq_ok.mp hok
  obtain rfl := writeIntoSocket_ok hblocking hwrite
  obtain ⟨_, _, hwrite, hok⟩ := Checked.bind_eq_ok.mp hok
  obtain rfl := writeIntoSocket_ok hblocking hwrite
  obtain ⟨_, _, hwrite, hok⟩ := Checked.bind_eq_ok.mp hok
  obtain rfl := writeIntoSocket_ok hblocking hwrite
  obtain ⟨_, _, hget, hok⟩ := Checked.bind_eq_ok.mp hok
  obtain ⟨rfl, rfl⟩ := Checked.get_eq_ok.mp hget
  -- Whichever object is listed now, its descriptor is on the wire; which one it is plays no part below.
  obtain ⟨bo, -, rfl⟩ := sendFDs_ok hblocking hok
  obtain ⟨hlist, hnode⟩ := GfxHandler.allocateBo_ok hallocate
  refine ⟨⟨env.install bo.fd, ?_⟩, hlist, hnode⟩
  simp [put, Message.wire, Body.wire]

theorem removeBuffer_ok {env : Surroundings} (hblocking : env.Blocking) {evInfo : BufferInfoEvent}
    {h h' : CmdHandler} {u : Unit} (hok : removeBuffer env evInfo h = .ok u h') :
    h'.outgoing = h.outgoing ++ (Message.mk (h.override evInfo.event) (.removeBuffer evInfo.info)).wire ∧
    evInfo.info.remoteHandle ∈ h.gfx.boList.keys ∧
    h'.gfx.boList = h.gfx.boList.erase evInfo.info.remoteHandle ∧
    h'.gfx.renderNode = h.gfx.renderNode := by
  unfold removeBuffer at hok
  obtain ⟨_, _, hget, hok⟩ := Checked.bind_eq_ok.mp hok
  obtain ⟨rfl, rfl⟩ := Checked.get_eq_ok.mp hget
  obtain ⟨_, _, hwrite, hok⟩ := Checked.bind_eq_ok.mp hok
  obtain rfl := writeIntoSocket_ok hblocking hwrite
  obtain ⟨_, _, hwrite, hok⟩ := Checked.bind_eq_ok.mp hok
  obtain rfl := writeIntoSocket_ok hblocking hwrite
  obtain ⟨gfx, hclear, rfl⟩ := callGfx_ok hok
  obtain ⟨hmem, hlist, hnode⟩ := GfxHandler.clearBo_ok hclear
  refine ⟨?_, hmem, hlist, hnode⟩
  simp [put, Message.wire, Body.wire]

/-- The control block among the elements behind the first. -/
def controlOf : List Struct → Option DisplayControl
  | .displayControl ctrl :: _ => some ctrl
  | _ => none

/-- The size of the request is that of one with a control block. -/
def HasCtrl (size : UInt32) : Prop := sizeT (requestSize size) = sizeofBufferInfo + sizeofDisplayControl

instance (size : UInt32) : Decidable (HasCtrl size) := inferInstanceAs (Decidable (_ = _))

theorem xchngDisplayRequest_ok {env : Surroundings} (hblocking : env.Blocking) {evInfo : BufferInfoEvent}
    {more : List Struct} {h h' : CmdHandler} {u : Unit}
    (hok : xchngDisplayRequest env (.bufferInfoEvent evInfo :: more) h = .ok u h') :
    (∃ ctrl, ctrl = (if HasCtrl evInfo.event.size then controlOf more else none) ∧
      (ctrl.isSome ↔ HasCtrl evInfo.event.size) ∧
      h'.outgoing = h.outgoing ++
        (Message.mk (h.override evInfo.event) (.displayReq evInfo.info ctrl)).wire) ∧
    evInfo.info.remoteHandle ∈ h.gfx.boList.keys ∧
    (∃ bo, h'.gfx.boList =
      (h.gfx.boList.erase evInfo.info.remoteHandle).insert evInfo.info.remoteHandle bo) ∧
    h'.gfx.renderNode = h.gfx.renderNode := by
  unfold xchngDisplayRequest at hok
  obtain ⟨_, _, hget, hok⟩ := Checked.bind_eq_ok.mp hok
  obtain ⟨rfl, rfl⟩ := Checked.get_eq_ok.mp hget
  obtain ⟨-, hok⟩ := Checked.guard_eq_ok.mp hok
  obtain ⟨_, _, hget, hok⟩ := Checked.bind_eq_ok.mp hok
  obtain ⟨rfl, rfl⟩ := Checked.get_eq_ok.mp hget
  rcases hbo : h.gfx.getBo evInfo.info.remoteHandle with _ | bo
  · rw [hbo] at hok
    exact absurd hok Checked.throw_ne_ok
  rw [hbo] at hok
  obtain ⟨frame, _, hframe, hok⟩ := Checked.bind_eq_ok.mp hok
  obtain ⟨st, rfl⟩ := nextFrame_ok hframe
  obtain ⟨_, _, hgfx, hok⟩ := Checked.bind_eq_ok.mp hok
  obtain ⟨gfx, hcopy, rfl⟩ := callGfx_ok hgfx
  obtain ⟨_, _, hwrite, hok⟩ := Checked.bind_eq_ok.mp hok
  obtain rfl := writeIntoSocket_ok hblocking hwrite
  obtain ⟨_, _, hwrite, hok⟩ := Checked.bind_eq_ok.mp hok
  obtain rfl := writeIntoSocket_ok hblocking hwrite
  obtain ⟨hlist, hnode⟩ := h.gfx.copy_frame env.kernel evInfo.info.remoteHandle bo frame
  rw [show h.gfx.copy env.kernel evInfo.info.remoteHandle bo frame = _ from hcopy] at hlist hnode
  have hmem : evInfo.info.remoteHandle ∈ h.gfx.boList.keys := OrdMap.mem_keys_iff.mpr ⟨bo, hbo⟩
  -- The override changes the render node only, so the size is the one of the log.
  by_cases hctrl : HasCtrl evInfo.event.size
  · have hsize : decide (sizeT (requestSize (h.override evInfo.event).size) =
        sizeofBufferInfo + sizeofDisplayControl) = true := decide_eq_true hctrl
    rw [if_pos hsize] at hok
    rcases more with _ | ⟨element, more⟩
    · exact absurd hok Checked.throw_ne_ok
    cases element with
    | displayControl ctrl =>
      obtain rfl := writeIntoSocket_ok hblocking hok
      refine ⟨⟨some ctrl, by rw [if_pos hctrl]; rfl, by simpa using hctrl, ?_⟩, hmem, hlist, hnode⟩
      simp [put, Message.wire, Body.wire]
    | _ => exact absurd hok Checked.throw_ne_ok
  · have hsize : ¬ decide (sizeT (requestSize (h.override evInfo.event).size) =
        sizeofBufferInfo + sizeofDisplayControl) = true := by
      rw [decide_eq_true_iff]
      exact hctrl
    rw [if_neg hsize] at hok
    obtain ⟨-, rfl⟩ := Checked.pure_eq_ok.mp hok
    refine ⟨⟨none, by rw [if_neg hctrl], by simpa using hctrl, ?_⟩, hmem, hlist, hnode⟩
    simp [put, Message.wire, Body.wire]

end CmdHandler

end VhalClient.Emulator
