/-
# VhalClient.Emulator.YmlParser — the documents of a log as the emulator reads them.

Each `decode` function is a `convert<...>::decode` of the parser: it takes a node and the struct to fill, and
returns whether the node was one it could take, with the struct as it is then.  An exception of the YAML
library is a `none`; `ProcessNextEntry` catches it.  The structs start value-initialised, that is, all
zero.  A struct that could not be decoded still goes into the payload, and the status of `DecodeNode` is
computed and not looked at.
-/
import VhalClient.Lib.Yaml
import VhalClient.Emulator.CmdHandler

namespace VhalClient.Emulator

open VhalClient.Lib VhalClient.Lib.Yaml VhalClient.Display

def evServerIpReq : UInt32 := 0x1006

def evServerIpAck : UInt32 := 0x1007

def evServerIpSet : UInt32 := 0x1008

/-- `GetEventCode`. -/
def getEventCode (str : String) : UInt32 :=
  if str = "VHAL_DD_EVENT_DISPINFO_REQ" then evDispInfoReq
  else if str = "VHAL_DD_EVENT_DISPINFO_ACK" then evDispInfoAck
  else if str = "VHAL_DD_EVENT_CREATE_BUFFER" then evCreateBuffer
  else if str = "VHAL_DD_EVENT_REMOVE_BUFFER" then evRemoveBuffer
  else if str = "VHAL_DD_EVENT_DISPLAY_REQ" then evDisplayReq
  else if str = "VHAL_DD_EVENT_DISPLAY_ACK" then evDisplayAck
  else if str = "VHAL_DD_EVENT_SERVER_IP_REQ" then evServerIpReq
  else if str = "VHAL_DD_EVENT_SERVER_IP_ACK" then evServerIpAck
  else if str = "VHAL_DD_EVENT_SERVER_IP_SET" then evServerIpSet
  else if str = "VHAL_DD_EVENT_DISPPORT_REQ" then evDispPortReq
  else if str = "VHAL_DD_EVENT_DISPPORT_ACK" then evDispPortAck
  else if str = "VHAL_DD_EVENT_SETUP_RESOLUTION" then evSetupResolution
  else 0

/-- `AicEventCounters`. -/
structure EventCounters where
  createBufferEvents : UInt32
  removeBufferEvents : UInt32
  displayReqEvents : UInt32
  changeResolutionEvents : UInt32
  dispInfoReqEvents : UInt32
  dispPortReqEvents : UInt32
  setAlphaEvents : UInt32
  deriving DecidableEq, Repr

/-- `AicEventMetadata_t`. -/
structure EventMetadata extends Metadata where
  eventId : UInt32
  timeStampUs : UInt64
  counts : EventCounters
  deriving DecidableEq, Repr

/-- Value-initialised; the direction that is 0 is `DIRECTION_SEND`. -/
def EventMetadata.zero : EventMetadata := ⟨⟨0, .send⟩, 0, 0, ⟨0, 0, 0, 0, 0, 0, 0⟩⟩

/-- A value-initialised struct. -/
def zeroed {α : Type} (l : Layout α) : α := l.read []

section Decode

variable (y : Loader)

def unsigned (node : Node) : Option UInt32 := Loader.scalarAs y.asUnsigned node

def unsignedLong (node : Node) : Option UInt64 := Loader.scalarAs y.asUnsignedLong node

def int (node : Node) : Option Int32 := Loader.scalarAs y.asInt node

def short (node : Node) : Option Int16 := Loader.scalarAs y.asShort node

def float (node : Node) : Option UInt32 := Loader.scalarAs y.asFloat node

/-- An entry that is looked at only if it is a scalar. -/
def ifScalar {α : Type} (node : Node) (key : String) (a : α) (f : String → Option α) : Option α :=
  match node.get key with
  | .scalar text => f text
  | _ => some a

/-- The log is written from the receiver's point of view. -/
def flipDirection (text : String) : Direction :=
  if text = "send" then .receive else if text = "receive" then .send else .unknown

def decodeCounts (counts : Node) : Option EventCounters := do
  let createBufferEvents ← unsigned y (counts.get "CreateBufferEvents")
  let removeBufferEvents ← unsigned y (counts.get "RemoveBufferEvents")
  let displayReqEvents ← unsigned y (counts.get "DisplayReqEvents")
  let changeResolutionEvents ← unsigned y (counts.get "ChangeResolutionEvents")
  let dispInfoReqEvents ← unsigned y (counts.get "DispInfoReqEvents")
  let dispPortReqEvents ← unsigned y (counts.get "DispPortReqEvents")
  let setAlphaEvents ← unsigned y (counts.get "SetAlphaEvents")
  return ⟨createBufferEvents, removeBufferEvents, displayReqEvents, changeResolutionEvents, dispInfoReqEvents,
    dispPortReqEvents, setAlphaEvents⟩

def decodeMetadata (node : Node) (m : EventMetadata) : Option (Bool × EventMetadata) :=
  if node.isMap = false then some (false, m)
  else do
    let m ← ifScalar node "eventId" m fun text => return { m with eventId := ← y.asUnsigned text }
    let m ← ifScalar node "eventName" m fun text => some { m with eventType := getEventCode text }
    let m ← ifScalar node "direction" m fun text => some { m with direction := flipDirection text }
    let m ← ifScalar node "timeStampUs" m fun text => return { m with timeStampUs := ← y.asUnsignedLong text }
    match node.get "counts" with
    | .map counts => return (true, { m with counts := ← decodeCounts y (.map counts) })
    | _ => return (true, m)

def decodeDisplayEvent (node : Node) (ev : DisplayEvent) : Option (Bool × DisplayEvent) :=
  if node.isMap = false then some (false, ev)
  else do
    let type ← unsigned y (node.get "type")
    let size ← unsigned y (node.get "size")
    let id ← unsigned y (node.get "id")
    let renderNode ← unsigned y (node.get "renderNode")
    return (true, ⟨type, size, id, renderNode⟩)

def decodeDisplayInfo (node : Node) (info : DisplayInfo) : Option (Bool × DisplayInfo) :=
  if node.isMap = false then some (false, info)
  else do
    let flags ← unsigned y (node.get "flags")
    let width ← unsigned y (node.get "width")
    let height ← unsigned y (node.get "height")
    let stride ← int y (node.get "stride")
    let format ← int y (node.get "format")
    let xdpi ← float y (node.get "xdpi")
    let ydpi ← float y (node.get "ydpi")
    let fps ← float y (node.get "fps")
    let minSwapInterval ← int y (node.get "minSwapInterval")
    let maxSwapInterval ← int y (node.get "maxSwapInterval")
    let numFramebuffers ← int y (node.get "numFramebuffers")
    return (true, ⟨flags, width, height, stride, format, xdpi, ydpi, fps, minSwapInterval, maxSwapInterval,
      numFramebuffers⟩)

def decodeDisplayPort (node : Node) (dp : DisplayPort) : Option (Bool × DisplayPort) :=
  if node.isMap = false then some (false, dp)
  else do
    let port ← unsigned y (node.get "port")
    let reserve ← unsigned y (node.get "reserve")
    return (true, ⟨port, reserve⟩)

def decodeBufferInfo (node : Node) (info : BufferInfo) : Option (Bool × BufferInfo) :=
  if node.isMap = false then some (false, info)
  else do
    let remoteHandle ← unsignedLong y (node.get "remote_handle")
    return (true, ⟨remoteHandle⟩)

/-- `GetSequence`; no log holds more elements than there is room for. -/
def getSequence {α : Type} {n : ℕ} (convert : String → Option α) (node : Node) (dst : Vector α n) :
    Option (Vector α n) :=
  match node with
  | .undefined => none
  | .seq items => do
    let values ← items.mapM convert
    return Vector.ofFn fun i => (values[i.val]?).getD (dst.get i)
  | _ => some dst

def decodeGrallocHandle (node : Node) (h : CrosGrallocHandle) : Option (Bool × CrosGrallocHandle) :=
  if node.isMap = false then some (false, h)
  else if (node.get "native_handle_t").isMap = false then some (false, h)
  else do
    let nhNode := node.get "native_handle_t"
    let version ← int y (nhNode.get "version")
    let numFds ← int y (nhNode.get "numFds")
    let numInts ← int y (nhNode.get "numInts")
    let fds ← getSequence y.asInt (node.get "fds") h.fds
    let strides ← getSequence y.asUnsigned (node.get "strides") h.strides
    let offsets ← getSequence y.asUnsigned (node.get "offsets") h.offsets
    let sizes ← getSequence y.asUnsigned (node.get "sizes") h.sizes
    let formatModifiers ← getSequence y.asUnsigned (node.get "format_modifiers") h.formatModifiers
    let width ← unsigned y (node.get "width")
    let height ← unsigned y (node.get "height")
    let format ← unsigned y (node.get "format")
    let tilingMode ← unsigned y (node.get "tiling_mode")
    let useFlags ← getSequence y.asUnsigned (node.get "use_flags") h.useFlags
    let magic ← unsigned y (node.get "magic")
    let pixelStride ← unsigned y (node.get "pixel_stride")
    let droidFormat ← int y (node.get "droid_format")
    let usage ← int y (node.get "usage")
    let consumerUsage ← unsigned y (node.get "consumer_usage")
    let producerUsage ← unsigned y (node.get "producer_usage")
    let yuvColorRange ← unsigned y (node.get "yuv_color_range")
    let isUpdated ← unsigned y (node.get "is_updated")
    let isEncoded ← unsigned y (node.get "is_encoded")
    let isEncrypted ← unsigned y (node.get "is_encrypted")
    let isKeyFrame ← unsigned y (node.get "is_key_frame")
    let isInterlaced ← unsigned y (node.get "is_interlaced")
    let isMmcCapable ← unsigned y (node.get "is_mmc_capable")
    let compressionMode ← unsigned y (node.get "compression_mode")
    let compressionHint ← unsigned y (node.get "compression_hint")
    let codec ← unsigned y (node.get "codec")
    let alignedWidth ← unsigned y (node.get "aligned_width")
    let alignedHeight ← unsigned y (node.get "aligned_height")
    return (true, ⟨version, numFds, numInts, fds, strides, offsets, sizes, formatModifiers, width, height,
      format, tilingMode, useFlags, magic, pixelStride, droidFormat, usage, consumerUsage, producerUsage,
      yuvColorRange, isUpdated, isEncoded, isEncrypted, isKeyFrame, isInterlaced, isMmcCapable,
      compressionMode, compressionHint, codec, alignedWidth, alignedHeight⟩)

def decodeDisplayInfoEvent (node : Node) (ev : DisplayInfoEvent) : Option (Bool × DisplayInfoEvent) :=
  if node.isMap = false then some (false, ev)
  else if (node.get "display_event_t").isMap = false then some (false, ev)
  else if (node.get "display_info_t").isMap = false then some (false, ev)
  else do
    let (_, event) ← decodeDisplayEvent y (node.get "display_event_t") (zeroed Layout.displayEvent)
    let (_, info) ← decodeDisplayInfo y (node.get "display_info_t") (zeroed Layout.displayInfo)
    return (true, ⟨event, info⟩)

def decodeDisplayPortEvent (node : Node) (ev : DisplayPortEvent) : Option (Bool × DisplayPortEvent) :=
  if node.isMap = false then some (false, ev)
  else if (node.get "display_event_t").isMap = false then some (false, ev)
  else if (node.get "display_port_t").isMap = false then some (false, ev)
  else do
    let (_, event) ← decodeDisplayEvent y (node.get "display_event_t") (zeroed Layout.displayEvent)
    let (_, dispPort) ← decodeDisplayPort y (node.get "display_port_t") (zeroed Layout.displayPort)
    return (true, ⟨event, dispPort⟩)

def decodeBufferInfoEvent (node : Node) (ev : BufferInfoEvent) : Option (Bool × BufferInfoEvent) :=
  if node.isMap = false then some (false, ev)
  else if (node.get "display_event_t").isMap = false then some (false, ev)
  else if (node.get "buffer_info_t").isMap = false then some (false, ev)
  else do
    let (_, event) ← decodeDisplayEvent y (node.get "display_event_t") (zeroed Layout.displayEvent)
    let (_, info) ← decodeBufferInfo y (node.get "buffer_info_t") (zeroed Layout.bufferInfo)
    return (true, ⟨event, info⟩)

def decodeSetAlpha (node : Node) (alpha : SetVideoAlpha) : Option (Bool × SetVideoAlpha) :=
  if node.isMap = false then some (false, alpha)
  else do
    let enable ← unsigned y (node.get "enable")
    let reserved ← getSequence y.asUnsigned (node.get "reserved") alpha.reserved
    return (true, ⟨enable, reserved⟩)

def decodeSetAlphaEvent (node : Node) (ev : DisplaySetVideoAlphaEvent) :
    Option (Bool × DisplaySetVideoAlphaEvent) :=
  if node.isMap = false then some (false, ev)
  else if (node.get "display_event_t").isMap = false then some (false, ev)
  else if (node.get "set_video_alpha_t").isMap = false then some (false, ev)
  else do
    let (_, event) ← decodeDisplayEvent y (node.get "display_event_t") (zeroed Layout.displayEvent)
    let (_, alpha) ← decodeSetAlpha y (node.get "set_video_alpha_t") (zeroed Layout.setVideoAlpha)
    return (true, ⟨event, alpha⟩)

/-- A value that is stored in a bit field keeps its low bits. -/
def decodeDisplayCtrl (node : Node) (ctrl : DisplayControl) : Option (Bool × DisplayControl) :=
  if node.isMap = false then some (false, ctrl)
  else if (node.get "viewport").isMap = false then some (false, ctrl)
  else do
    let alpha ← unsigned y (node.get "alpha")
    let topLayer ← unsigned y (node.get "top_layer")
    let rotation ← unsigned y (node.get "rotation")
    let reserved ← unsigned y (node.get "reserved")
    let viewport := node.get "viewport"
    let l ← short y (viewport.get "l")
    let t ← short y (viewport.get "t")
    let r ← short y (viewport.get "r")
    let b ← short y (viewport.get "b")
    return (true, ⟨.ofNat 1 alpha.toNat, .ofNat 1 topLayer.toNat, .ofNat 2 rotation.toNat,
      .ofNat 28 reserved.toNat, l, t, r, b⟩)

/-! ## A document -/

/-- What `DecodeNode` leaves: its status, the payload and the metadata. -/
structure Decoded where
  status : Option AicError
  payload : List Struct
  metadata : EventMetadata

/-- The cases of `DecodeNode` for the event the metadata name. -/
def decodePayload (node : Node) (eventType : UInt32) : Option (Option AicError × List Struct) := do
  if eventType = evDispInfoReq ∨ eventType = evDispPortReq then
    let (_, ev) ← decodeDisplayEvent y (node.get "display_event_t") (zeroed Layout.displayEvent)
    return (none, [.displayEvent ev])
  else if eventType = evDispInfoAck ∨ eventType = evSetupResolution then
    let (_, ev) ← decodeDisplayInfoEvent y (node.get "display_info_event_t") (zeroed Layout.displayInfoEvent)
    return (none, [.displayInfoEvent ev])
  else if eventType = evCreateBuffer then
    let createBufferNode := node.get "buffer_info_event_t"
    let (_, headers) ← decodeBufferInfoEvent y createBufferNode (zeroed Layout.bufferInfoEvent)
    let handleNode ← createBufferNode.subscript "cros_gralloc_handle_t"
    let (_, gralloc) ← decodeGrallocHandle y handleNode (zeroed Layout.crosGrallocHandle)
    return (none, [.bufferInfoEvent headers, .grallocHandle gralloc])
  else if eventType = evRemoveBuffer ∨ eventType = evDisplayAck then
    let (_, ev) ← decodeBufferInfoEvent y (node.get "buffer_info_event_t") (zeroed Layout.bufferInfoEvent)
    return (none, [.bufferInfoEvent ev])
  else if eventType = evDisplayReq then
    let (_, ev) ← decodeBufferInfoEvent y (node.get "buffer_info_event_t") (zeroed Layout.bufferInfoEvent)
    if CmdHandler.HasCtrl ev.event.size then
      -- The control block is looked for beside `buffer_info_event_t`.
      let (ok, ctrl) ← decodeDisplayCtrl y (node.get "display_control_t") (zeroed Layout.displayControl)
      return (none, if ok then [.bufferInfoEvent ev, .displayControl ctrl] else [.bufferInfoEvent ev])
    else return (none, [.bufferInfoEvent ev])
  else if eventType = evDispPortAck then
    let (_, ev) ← decodeDisplayPortEvent y (node.get "display_port_event_t") (zeroed Layout.displayPortEvent)
    return (none, [.displayPortEvent ev])
  else if eventType = evSetVideoAlphaReq then
    let (_, ev) ← decodeSetAlphaEvent y (node.get "display_set_video_alpha_event_t")
      (zeroed Layout.displaySetVideoAlphaEvent)
    return (none, [.setVideoAlphaEvent ev])
  else return (some .ymlParser, [])

/-- `DecodeNode`. -/
def decodeNode (rootNode : Node) : Option Decoded :=
  if rootNode.isMap = false then some ⟨some .ymlParser, [], .zero⟩
  else do
    let node := rootNode.get "event"
    let metadataNode ← node.subscript "metadata"
    if metadataNode.isMap = false then return ⟨some .ymlParser, [], .zero⟩
    let (_, metadata) ← decodeMetadata y metadataNode .zero
    let (status, payload) ← decodePayload y node metadata.eventType
    return ⟨status, payload, metadata⟩

end Decode

namespace CmdHandler

/-- The part of `ProcessNextEntry` behind the test for the end: the status of `DecodeNode` is dropped. -/
def processNode (y : Loader) (env : Surroundings) (node : Node) : Command Unit :=
  match decodeNode y node with
  | none => throw (.aic .ymlParser)
  | some decoded => dataExchange env decoded.payload decoded.metadata.toMetadata

/-- `ProcessNextEntry`, with the documents that are left then. -/
def processNextEntry (y : Loader) (env : Surroundings) : List Node → Command Unit × List Node
  | [] => (throw (.aic .eof), [])
  | node :: nodes => (processNode y env node, nodes)

end CmdHandler

end VhalClient.Emulator
