/-
# VhalClient.Display.HwcReceiver — `VirtualHwcReceiver::Impl`.

The receiver is a state machine over client calls (`start`, `stop`, `setMode`, `setVideoAlpha`) and turns of
the worker thread (`connect`, `poll`).  One turn of the worker's loop is one step: it reads a header and
what the header's type leads to, with one `recv` per struct, from the `Feed` of the current connection.
`stop` joins the worker, so it takes effect between two turns.

Everything the outside can see is an `Output`, kept newest first in `history`: allocations, calls of the
client's handler, bytes sent, descriptors closed and calls of the profile logger.  A buffer handle is
known by the allocation it came from, so "the same pointer" and "freed" mean what they mean for memory
that is never used after it was freed.  The client's handler is taken to be set: `std::function` without
a target would throw at the first message that calls it.
-/
import VhalClient.Lib.Feed
import VhalClient.Lib.OrdMap
import VhalClient.Display.Protocol

namespace VhalClient.Display

open VhalClient.Lib

/-! ## What the receiver reads from -/

/-- A byte on the socket, with the descriptors a `sendmsg` attached to it (under the numbers they get in
the receiving process). -/
structure WireByte where
  val : UInt8
  fds : List Int32
  deriving DecidableEq, Repr

/-- The members of `mInfo` the code below reads, and the render node `init` found in the device name. -/
structure Config where
  androidInstanceId : Int32
  videoResWidth : Int32
  videoResHeight : Int32
  userId : Int32
  renderNode : Int32
  deriving DecidableEq, Repr

/-- What the surroundings answer during one turn: the block `malloc` returns, with its contents, or null;
what the control buffer of `recvmsg` holds beyond the received descriptors; what `send` returns. -/
structure Env where
  block : Option (List UInt8)
  cmsg : ℕ → Int32
  sent : ℤ

/-- `read`/`recv` of at most `n` bytes; nothing when the call returns 0 or less. -/
def recvBytes (n : ℕ) (f : Feed WireByte) : Option (List UInt8) × Feed WireByte :=
  match f.recv n with
  | (.bytes b bs, f') => (some ((b :: bs).map WireByte.val), f')
  | (.eof, f') => (none, f')
  | (.error, f') => (none, f')

/-- The implicit conversion of an `int` to `size_t`. -/
def sizeT (n : Int32) : ℕ := n.toInt64.toUInt64.toNat

/-- `recvmsg` with `MSG_WAITALL`: descriptors end it all the same, behind the piece they came with. -/
def recvCarrier (f : Feed WireByte) : List WireByte × Feed WireByte :=
  f.refillUntil (fun piece => piece.any fun b => b.fds ≠ []) 16 16

/-- `recvFds`: a carrier of 16 bytes is read for the descriptors that come with it; how many of its bytes came
is not looked at.  Elements of the control buffer beyond the descriptors that came are copied as they are.
The array it declares before all this can be the end of the process: `VhalClient.Display.Process`. -/
def recvFds (env : Env) (fdlen : ℕ) (f : Feed WireByte) : Option (List Int32) × Feed WireByte :=
  if fdlen = 0 ∨ fdlen > drvMaxPlanes then (none, f)
  else
    let carrier := recvCarrier f
    let received := (carrier.1.flatMap WireByte.fds).take fdlen
    -- No descriptor, no control message header; also when the call failed.
    if received = [] then (none, carrier.2)
    else (some ((List.range fdlen).map fun i => received.getD i (env.cmsg i)), carrier.2)

/-! ## What the receiver does -/

/-- `log_event_t`. -/
inductive LogEvent where
  | createBuffer
  | removeBuffer
  | displayReq
  | dispInfoReq
  | dispPortReq
  | displayReqAck
  | dispInfoReqAck
  | dispPortReqAck
  | changeResolution
  | setAlpha
  | unknown
  deriving DecidableEq, Repr

/-- `ProfileLogger::TranslateEvType`. -/
def translateEvType (type : UInt32) : LogEvent :=
  if type = evDispInfoReq then .dispInfoReq
  else if type = evDispInfoAck then .dispInfoReqAck
  else if type = evCreateBuffer then .createBuffer
  else if type = evRemoveBuffer then .removeBuffer
  else if type = evDisplayReq then .displayReq
  else if type = evDisplayAck then .displayReqAck
  else if type = evDispPortReq then .dispPortReq
  else if type = evDispPortAck then .dispPortReqAck
  else if type = evSetupResolution then .changeResolution
  else if type = evSetVideoAlphaReq then .setAlpha
  else .unknown

/-- The calls of the profile logger.  The level says how deep a struct is nested. -/
inductive LogCall where
  | updateEventCount (event : LogEvent)
  | logGenericEventInfo (event : LogEvent) (ev : Option DisplayEvent)
  | addDisplayInfoEventStruct (ev : DisplayInfoEvent) (level : ℕ)
  | addDisplayPortEventStruct (ev : DisplayPortEvent) (level : ℕ)
  | addBufferInfoStruct (info : BufferInfo) (level : ℕ)
  | addBufferInfoEventStruct (ev : BufferInfoEvent) (level : ℕ)
  | addGrallocHandleStruct (handle : CrosGrallocHandle) (level : ℕ)
  | addDisplayControlStruct (ctrl : DisplayControl) (level : ℕ)
  | logChangeResolutionEvent (width height : Int32) (ev : DisplayInfoEvent)
  | logSetAlphaEvent (ev : DisplaySetVideoAlphaEvent)
  deriving DecidableEq, Repr

/-- `CommandType`. -/
inductive CommandType where
  | frameCreate
  | frameRemove
  | frameDisplay
  deriving DecidableEq, Repr

/-- A `cros_gralloc_handle_t`: the allocation and what it holds. -/
structure Handle where
  id : ℕ
  gralloc : CrosGrallocHandle
  deriving DecidableEq, Repr

inductive Output where
  | malloc (id : ℕ)
  | free (id : ℕ)
  /-- `mHandles.insert` took effect. -/
  | inserted (remote : UInt64) (id : ℕ)
  /-- A call of the client's handler.  The remote handle is not passed: it says what the call is for. -/
  | handler (cmd : CommandType) (remote : UInt64) (handle : Handle) (ctrl : Option DisplayControl)
  | closeFd (fd : Int32)
  | sent (bytes : List UInt8)
  | log (call : LogCall)
  deriving DecidableEq, Repr

/-- The members of `Impl`, the worker thread and the current connection. -/
structure Impl where
  shouldContinue : Bool
  /-- The worker thread is in its loop. -/
  working : Bool
  connected : Bool
  feed : Feed WireByte
  mHandles : OrdMap UInt64 Handle
  /-- How many blocks `malloc` has returned. -/
  allocated : ℕ
  history : List Output

namespace Impl

def initial : Impl where
  shouldContinue := false
  working := false
  connected := false
  feed := []
  mHandles := .empty
  allocated := 0
  history := []

def emit (s : Impl) (o : Output) : Impl := { s with history := o :: s.history }

/-- The state with the rest of the stream. -/
def rest (s : Impl) (f : Feed WireByte) : Impl := { s with feed := f }

def log (s : Impl) (calls : List LogCall) : Impl := calls.foldl (fun s c => s.emit (.log c)) s

/-- `socket_client_->Close()`. -/
def close (s : Impl) : Impl := { s with connected := false, feed := [] }

/-- Leaving the worker's loop. -/
def leave (s : Impl) : Impl := { s.close with working := false }

/-- `send`: whether it returned more than 0. -/
def send (s : Impl) (env : Env) (bytes : List UInt8) : Bool × Impl :=
  if env.sent ≤ 0 then (false, s)
  else (true, s.emit (.sent (bytes.take env.sent.toNat)))

/-- A message that is logged only when `send` took it. -/
def sendLogged (s : Impl) (env : Env) (bytes : List UInt8) (calls : List LogCall) : Impl :=
  match s.send env bytes with
  | (false, s) => s
  | (true, s) => s.log calls

/-! ## The handlers of the worker thread -/

/-- `checkDispConfig`: 0 or -1. -/
def checkDispConfig (cfg : Config) (aicSession aicRenderNodeMinus128 : Int32) : ℤ :=
  if cfg.androidInstanceId < 0 then 0
  else
    let aicRenderNode := aicRenderNodeMinus128 + 128
    if cfg.renderNode = -1 ∨ cfg.renderNode ≠ aicRenderNode then -1
    else if cfg.androidInstanceId ≠ aicSession then -1
    else 0

/-- A header the receiver itself fills in: what it does not set is zero. -/
def header (type : UInt32) (size : ℕ) : DisplayEvent := ⟨type, UInt32.ofNat size, 0, 0⟩

/-- The body of `UpdateDispConfig`'s answer; the three `float`s are 240, 240 and 60. -/
def dispConfig (cfg : Config) : DisplayInfo where
  flags := 1
  width := cfg.videoResWidth.toUInt32
  height := cfg.videoResHeight.toUInt32
  stride := cfg.videoResWidth
  format := 5
  xdpi := 0x43700000
  ydpi := 0x43700000
  fps := 0x42700000
  minSwapInterval := 1
  maxSwapInterval := 1
  numFramebuffers := 2

def updateDispConfig (cfg : Config) (env : Env) (s : Impl) : Impl :=
  let ev : DisplayInfoEvent := ⟨header evDispInfoAck Layout.displayInfoEvent.size, dispConfig cfg⟩
  (s.send env (Layout.displayInfoEvent.write ev)).2.log
    [.logGenericEventInfo .dispInfoReqAck none, .addDisplayInfoEventStruct ev 1]

def updateDispPort (cfg : Config) (env : Env) (s : Impl) : Impl :=
  let ev : DisplayPortEvent := ⟨header evDispPortAck Layout.displayPortEvent.size, cfg.userId.toUInt32, 0⟩
  (s.send env (Layout.displayPortEvent.write ev)).2.log
    [.logGenericEventInfo .dispPortReqAck none, .addDisplayPortEventStruct ev 1]

/-- The three receives of `CreateBuffer`, in its order: the buffer info, the gralloc handle into the
fresh block, the descriptors into the handle.  What was logged on the way is returned with the outcome. -/
def receiveBuffer (env : Env) (block : List UInt8) (f : Feed WireByte) :
    Option (UInt64 × CrosGrallocHandle) × List LogCall × Feed WireByte :=
  match recvBytes sizeofBufferInfo f with
  | (none, f) => (none, [], f)
  | (some bytes, f) =>
    let info := Layout.bufferInfo.read bytes
    match recvBytes sizeofCrosGrallocHandle f with
    | (none, f) => (none, [.addBufferInfoStruct info 2], f)
    | (some bytes, f) =>
      -- A short `recv` leaves the rest of the block as `malloc` returned it.
      let handle := Layout.crosGrallocHandle.read (overwrite bytes block)
      match recvFds env (sizeT handle.numFds) f with
      | (none, f) => (none, [.addBufferInfoStruct info 2], f)
      | (some fds, f) =>
        let handle := (handle.setFds fds).unifyFormat
        (some (info.remoteHandle, handle),
          [.addBufferInfoStruct info 2, .addGrallocHandleStruct handle 2], f)

/-- `malloc` returned a block. -/
def allocate (s : Impl) : Impl :=
  { s with allocated := s.allocated + 1, history := .malloc s.allocated :: s.history }

/-- `mHandles.insert`. -/
def insertHandle (s : Impl) (remote : UInt64) (handle : Handle) : Impl :=
  if remote ∈ s.mHandles.keys then s
  else
    { s with
      mHandles := s.mHandles.insert remote handle
      history := .inserted remote handle.id :: s.history }

/-- `mHandles.erase`. -/
def eraseHandle (s : Impl) (remote : UInt64) : Impl :=
  { s with mHandles := s.mHandles.erase remote }

def createBuffer (env : Env) (s : Impl) : Impl :=
  match env.block with
  | none => s
  | some block =>
    let id := s.allocated
    let s := s.allocate
    match receiveBuffer env block s.feed with
    | (none, calls, f) => ((s.rest f).log calls).emit (.free id)
    | (some (remote, gralloc), calls, f) =>
      (((s.rest f).log calls).insertHandle remote ⟨id, gralloc⟩).emit
        (.handler .frameCreate remote ⟨id, gralloc⟩ none)

/-- The end of a handle, as `RemoveBuffer` and `stop` write it: the handler is told, the first descriptor
is closed, the block is freed. -/
def releaseHandle (s : Impl) (remote : UInt64) (handle : Handle) : Impl :=
  ((s.emit (.handler .frameRemove remote handle none)).emit (.closeFd handle.gralloc.fds[0])).emit
    (.free handle.id)

def removeBuffer (s : Impl) : Impl :=
  match recvBytes sizeofBufferInfo s.feed with
  | (none, f) => s.rest f
  | (some bytes, f) =>
    let info := Layout.bufferInfo.read bytes
    let s := (s.rest f).log [.addBufferInfoStruct info 2]
    match s.mHandles.find info.remoteHandle with
    | none => s
    | some handle => (s.releaseHandle info.remoteHandle handle).eraseHandle info.remoteHandle

/-- The part of `DisplayRequest` behind its receives. -/
def displayFrame (env : Env) (info : BufferInfo) (ctrl : Option DisplayControl) (s : Impl) : Impl :=
  match s.mHandles.find info.remoteHandle with
  | none => s
  | some handle =>
    let s := s.emit (.handler .frameDisplay info.remoteHandle handle ctrl)
    let ev : BufferInfoEvent := ⟨header evDisplayAck sizeofBufferInfoEvent, info⟩
    s.sendLogged env (Layout.bufferInfoEvent.write ev)
      [.logGenericEventInfo .displayReqAck none, .addBufferInfoEventStruct ev 1]

def displayRequest (env : Env) (size : Int32) (s : Impl) : Impl :=
  if size < Int32.ofNat sizeofBufferInfo then s
  else
    match recvBytes sizeofBufferInfo s.feed with
    | (none, f) => s.rest f
    | (some bytes, f) =>
      let info := Layout.bufferInfo.read bytes
      let s := (s.rest f).log [.addBufferInfoStruct info 2]
      let hasCtrl : Bool := sizeT size = sizeofBufferInfo + sizeofDisplayControl
      if hasCtrl then
        match recvBytes sizeofDisplayControl s.feed with
        | (none, f) => s.rest f
        | (some bytes, f) =>
          let ctrl := Layout.displayControl.read bytes
          ((s.rest f).log [.addDisplayControlStruct ctrl 2]).displayFrame env info (some ctrl)
      else s.displayFrame env info none

/-- `ev.size - sizeof(ev)`, computed in `size_t` and narrowed to `int`. -/
def payloadSize (size : UInt32) : Int32 := (size - UInt32.ofNat sizeofDisplayEvent).toInt32

/-- `switch (ev.type)`. -/
def dispatch (cfg : Config) (env : Env) (ev : DisplayEvent) (s : Impl) : Impl :=
  if ev.type = evDispInfoReq then
    if checkDispConfig cfg ev.id.toInt32 ev.renderNode.toInt32 = -1 then s.leave
    else s.updateDispConfig cfg env
  else if ev.type = evDispPortReq then s.updateDispPort cfg env
  else if ev.type = evCreateBuffer then
    if ev.size.toNat = sizeofBufferInfoEvent + sizeofCrosGrallocHandle then s.createBuffer env else s
  else if ev.type = evRemoveBuffer then s.removeBuffer
  else if ev.type = evDisplayReq then s.displayRequest env (payloadSize ev.size)
  else s

/-- A turn of the worker's loop whose `poll` returned more than 0. -/
def onReady (cfg : Config) (env : Env) (s : Impl) : Impl :=
  match recvBytes sizeofDisplayEvent s.feed with
  | (none, _) => s.leave
  | (some bytes, f) =>
    let ev := Layout.displayEvent.read bytes
    let type := translateEvType ev.type
    ((s.rest f).log [.updateEventCount type, .logGenericEventInfo type (some ev)]).dispatch cfg env ev

/-! ## The client's calls -/

def start (s : Impl) : (ℤ × String) × Impl :=
  if s.shouldContinue then ((-1, "ERROR: Already started!"), s)
  else ((0, ""), { s with shouldContinue := true, working := true })

/-- `stop`: the worker has left its loop when `join` returns. -/
def stop (s : Impl) : (ℤ × String) × Impl :=
  if s.shouldContinue = false then ((-1, "ERROR: it's not started, please start firstly!"), s)
  else
    let s := { s.leave with shouldContinue := false }
    let s := s.mHandles.entries.foldl (fun s e => s.releaseHandle e.1 e.2) s
    ((0, ""), { s with mHandles := .empty })

def setMode (env : Env) (width height : Int32) (s : Impl) : Impl :=
  if s.shouldContinue = false then s
  else
    let ev : DisplayInfoEvent :=
      ⟨header evSetupResolution Layout.displayInfoEvent.size,
        ⟨1, width.toUInt32, height.toUInt32, 0, 0, 0, 0, 0, 0, 0, 0⟩⟩
    s.sendLogged env (Layout.displayInfoEvent.write ev) [.logChangeResolutionEvent width height ev]

def setVideoAlpha (env : Env) (action : UInt32) (s : Impl) : Impl :=
  if s.shouldContinue = false then s
  else
    let ev : DisplaySetVideoAlphaEvent :=
      ⟨header evSetVideoAlphaReq Layout.displaySetVideoAlphaEvent.size, action, #v[0, 0, 0]⟩
    s.sendLogged env (Layout.displaySetVideoAlphaEvent.write ev) [.logSetAlphaEvent ev]

end Impl

/-- What `poll` returns to the worker. -/
inductive Poll where
  | failed
  | timeout
  | ready (env : Env)

/-- What can happen next: a call of the client, an attempt of the worker to connect, a poll of the
worker.  The worker's steps happen only where its loop is. -/
inductive Input where
  | start
  | stop
  | setMode (env : Env) (width height : Int32)
  | setVideoAlpha (env : Env) (action : UInt32)
  | connect (connection : Option (Feed WireByte))
  | poll (result : Poll)

namespace Impl

def step (cfg : Config) (s : Impl) : Input → Impl
  | .start => s.start.2
  | .stop => s.stop.2
  | .setMode env width height => s.setMode env width height
  | .setVideoAlpha env action => s.setVideoAlpha env action
  | .connect connection =>
    if s.working ∧ s.connected = false then
      match connection with
      | none => s
      | some f => { s with connected := true, feed := f }
    else s
  | .poll result =>
    if s.working ∧ s.connected then
      match result with
      | .failed => s.close
      | .timeout => s
      | .ready env => s.onReady cfg env
    else s

/-- A turn of the worker's loop. -/
def turn (cfg : Config) (s : Impl) (result : Poll) : Impl := s.step cfg (.poll result)

end Impl

end VhalClient.Display
