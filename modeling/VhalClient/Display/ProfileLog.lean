/-
# VhalClient.Display.ProfileLog — `ProfileLogger`, the YML log of a session.

The logger is a few counters and the file it writes; the functions that add a struct are the text they append.
Each line is written behind four blanks for every level, and the levels are the numbers the callers pass, so
what is nested in what is decided line by line.  The logger here is one that `Initialize` has enabled; a
disabled one writes nothing.  What `system_clock` says when the n-th document is begun is `clock n`, a time
after the epoch.
-/
import VhalClient.Lib.Yaml
import VhalClient.Display.Journal

namespace VhalClient.Display

open VhalClient.Lib VhalClient.Lib.Yaml

/-! ## Numbers as `printf` writes them -/

/-- `%d` of an `int`. -/
def fmtInt (i : Int32) : String := toString i.toInt

/-- `%d` of an `unsigned int`. -/
def fmtWord (w : UInt32) : String := fmtInt w.toInt32

/-- `%d` of an `int16_t`. -/
def fmtShort (i : Int16) : String := toString i.toInt

/-- `%d` of a bit field. -/
def fmtBits {n : ℕ} (bits : BitVec n) : String := toString bits.toNat

/-- `%u` of an `unsigned int`. -/
def fmtUnsigned (w : UInt32) : String := toString w.toNat

/-- `%ld` of an `uint64_t`. -/
def fmtLong (w : UInt64) : String := toString w.toInt64.toInt

/-- `%lu` of a size, and `%d` of a counter. -/
def fmtCount (n : ℕ) : String := toString n

/-- `0x%X`. -/
def fmtHex (w : UInt32) : String := hexadecimal w.toNat

/-- `%f` of a `float`. -/
def fmtFloat (bits : UInt32) : String :=
  let exponent := bits.toNat / 2 ^ 23 % 2 ^ 8
  let fraction := bits.toNat % 2 ^ 23
  let sign := if bits.toNat < 2 ^ 31 then "" else "-"
  if exponent = 255 then sign ++ (if fraction = 0 then "inf" else "nan")
  else if exponent = 0 then sign ++ fixedPoint (roundDiv (fraction * 10 ^ 6) (2 ^ 149))
  else if exponent < 150 then
    sign ++ fixedPoint (roundDiv ((fraction + 2 ^ 23) * 10 ^ 6) (2 ^ (150 - exponent)))
  else sign ++ fixedPoint ((fraction + 2 ^ 23) * 10 ^ 6 * 2 ^ (exponent - 150))

/-- `intArrayToString`. -/
def intArrayToString (ints : List Int32) : String :=
  "[" ++ ints.dropLast.foldl (fun s i => s ++ (fmtInt i ++ ", ")) "" ++
    (ints.getLast?.map fmtInt).getD "" ++ "]"

/-- The cast of an array of words to one of `int`. -/
def asInts {n : ℕ} (words : Vector UInt32 n) : List Int32 := words.toList.map UInt32.toInt32

/-! ## The structs -/

/-- `WriteYmlLog`. -/
def writeYmlLog (level : ℕ) (text : String) : List Char :=
  (List.replicate level "    ".toList).flatten ++ text.toList ++ "\n".toList

namespace ProfileLogger

def addDisplayEventStruct (ev : DisplayEvent) (level : ℕ) : List Char :=
  let fl := level + 1
  writeYmlLog level "display_event_t:" ++
  writeYmlLog fl ("struct_size: " ++ fmtCount sizeofDisplayEvent) ++
  writeYmlLog fl ("type: " ++ fmtHex ev.type) ++
  writeYmlLog fl ("size: " ++ fmtWord ev.size) ++
  writeYmlLog fl ("id: " ++ fmtWord ev.id) ++
  writeYmlLog fl ("renderNode: " ++ fmtWord ev.renderNode)

def addDisplayInfoStruct (info : DisplayInfo) (level : ℕ) : List Char :=
  let fl := level + 1
  writeYmlLog level "display_info_t:" ++
  writeYmlLog fl ("struct_size: " ++ fmtCount Layout.displayInfo.size) ++
  writeYmlLog fl ("flags: " ++ fmtHex info.flags) ++
  writeYmlLog fl ("width: " ++ fmtWord info.width) ++
  writeYmlLog fl ("height: " ++ fmtWord info.height) ++
  writeYmlLog fl ("stride: " ++ fmtInt info.stride) ++
  writeYmlLog fl ("format: " ++ fmtInt info.format) ++
  writeYmlLog fl ("xdpi: " ++ fmtFloat info.xdpi) ++
  writeYmlLog fl ("ydpi: " ++ fmtFloat info.ydpi) ++
  writeYmlLog fl ("fps: " ++ fmtFloat info.fps) ++
  writeYmlLog fl ("minSwapInterval: " ++ fmtInt info.minSwapInterval) ++
  writeYmlLog fl ("maxSwapInterval: " ++ fmtInt info.maxSwapInterval) ++
  writeYmlLog fl ("numFramebuffers: " ++ fmtInt info.numFramebuffers)

def addDisplayInfoEventStruct (ev : DisplayInfoEvent) (level : ℕ) : List Char :=
  let fl := level + 1
  writeYmlLog level "display_info_event_t:" ++
  writeYmlLog fl ("struct_size: " ++ fmtCount Layout.displayInfoEvent.size) ++
  addDisplayEventStruct ev.event fl ++ addDisplayInfoStruct ev.info fl

def addBufferInfoStruct (info : BufferInfo) (level : ℕ) : List Char :=
  let fl := level + 1
  writeYmlLog level "buffer_info_t:" ++
  writeYmlLog fl ("struct_size: " ++ fmtCount sizeofBufferInfo) ++
  writeYmlLog fl ("remote_handle: " ++ fmtLong info.remoteHandle) ++
  writeYmlLog fl ("data: " ++ fmtCount 0)

def addBufferInfoEventStruct (ev : BufferInfoEvent) (level : ℕ) : List Char :=
  let fl := level + 1
  writeYmlLog level "buffer_info_event_t:" ++
  writeYmlLog fl ("struct_size: " ++ fmtCount sizeofBufferInfoEvent) ++
  addDisplayEventStruct ev.event fl ++ addBufferInfoStruct ev.info fl

def addDisplayPortStruct (dp : DisplayPort) (level : ℕ) : List Char :=
  let fl := level + 1
  writeYmlLog level "display_port_t:" ++
  writeYmlLog fl ("struct_size: " ++ fmtCount Layout.displayPort.size) ++
  writeYmlLog fl ("port: " ++ fmtWord dp.port) ++
  writeYmlLog fl ("reserve: " ++ fmtWord dp.reserve)

def addDisplayPortEventStruct (ev : DisplayPortEvent) (level : ℕ) : List Char :=
  let fl := level + 1
  writeYmlLog level "display_port_event_t:" ++
  writeYmlLog fl ("struct_size: " ++ fmtCount Layout.displayPortEvent.size) ++
  addDisplayEventStruct ev.event fl ++ addDisplayPortStruct ev.dispPort fl

/-- The `base` of a gralloc handle; `data` is an array of no elements. -/
def addNativeHandleStruct (handle : CrosGrallocHandle) (level : ℕ) : List Char :=
  let fl := level + 1
  writeYmlLog level "native_handle_t:" ++
  writeYmlLog fl ("struct_size: " ++ fmtCount 12) ++
  writeYmlLog fl ("version: " ++ fmtInt handle.version) ++
  writeYmlLog fl ("numFds: " ++ fmtInt handle.numFds) ++
  writeYmlLog fl ("numInts: " ++ fmtInt handle.numInts) ++
  writeYmlLog fl ("data: " ++ fmtCount 0)

def addGrallocHandleStruct (handle : CrosGrallocHandle) (level : ℕ) : List Char :=
  let fl := level + 1
  writeYmlLog level "cros_gralloc_handle_t:" ++
  writeYmlLog fl ("struct_size: " ++ fmtCount sizeofCrosGrallocHandle) ++
  addNativeHandleStruct handle fl ++
  writeYmlLog fl ("fds: " ++ intArrayToString handle.fds.toList) ++
  writeYmlLog fl ("strides: " ++ intArrayToString (asInts handle.strides)) ++
  writeYmlLog fl ("offsets: " ++ intArrayToString (asInts handle.offsets)) ++
  writeYmlLog fl ("sizes: " ++ intArrayToString (asInts handle.sizes)) ++
  writeYmlLog fl ("format_modifiers: " ++ intArrayToString (asInts handle.formatModifiers)) ++
  writeYmlLog fl ("width: " ++ fmtWord handle.width) ++
  writeYmlLog fl ("height: " ++ fmtWord handle.height) ++
  writeYmlLog fl ("format: " ++ fmtWord handle.format) ++
  writeYmlLog fl ("tiling_mode: " ++ fmtWord handle.tilingMode) ++
  writeYmlLog fl ("use_flags: " ++ intArrayToString (asInts handle.useFlags)) ++
  writeYmlLog fl ("magic: " ++ fmtUnsigned handle.magic) ++
  writeYmlLog fl ("pixel_stride: " ++ fmtWord handle.pixelStride) ++
  writeYmlLog fl ("droid_format: " ++ fmtInt handle.droidFormat) ++
  writeYmlLog fl ("usage: " ++ fmtInt handle.usage) ++
  writeYmlLog fl ("consumer_usage: " ++ fmtWord handle.consumerUsage) ++
  writeYmlLog fl ("producer_usage: " ++ fmtWord handle.producerUsage) ++
  writeYmlLog fl ("yuv_color_range: " ++ fmtWord handle.yuvColorRange) ++
  writeYmlLog fl ("is_updated: " ++ fmtWord handle.isUpdated) ++
  writeYmlLog fl ("is_encoded: " ++ fmtWord handle.isEncoded) ++
  writeYmlLog fl ("is_encrypted: " ++ fmtWord handle.isEncrypted) ++
  writeYmlLog fl ("is_key_frame: " ++ fmtWord handle.isKeyFrame) ++
  writeYmlLog fl ("is_interlaced: " ++ fmtWord handle.isInterlaced) ++
  writeYmlLog fl ("is_mmc_capable: " ++ fmtWord handle.isMmcCapable) ++
  writeYmlLog fl ("compression_mode: " ++ fmtWord handle.compressionMode) ++
  writeYmlLog fl ("compression_hint: " ++ fmtWord handle.compressionHint) ++
  writeYmlLog fl ("codec: " ++ fmtWord handle.codec) ++
  writeYmlLog fl ("aligned_width: " ++ fmtWord handle.alignedWidth) ++
  writeYmlLog fl ("aligned_height: " ++ fmtWord handle.alignedHeight)

def addSetVideoAlphaStruct (alpha : SetVideoAlpha) (level : ℕ) : List Char :=
  let fl := level + 1
  writeYmlLog level "set_video_alpha_t:" ++
  writeYmlLog fl ("struct_size: " ++ fmtCount Layout.setVideoAlpha.size) ++
  writeYmlLog fl ("enable: " ++ fmtWord alpha.enable) ++
  writeYmlLog fl ("reserved: " ++ intArrayToString (asInts alpha.reserved))

def addVideoAlphaEventStruct (ev : DisplaySetVideoAlphaEvent) (level : ℕ) : List Char :=
  let fl := level + 1
  writeYmlLog level "display_set_video_alpha_event_t:" ++
  writeYmlLog fl ("struct_size: " ++ fmtCount Layout.displaySetVideoAlphaEvent.size) ++
  addDisplayEventStruct ev.event fl ++ addSetVideoAlphaStruct ev.alpha fl

def addDisplayControlStruct (ctrl : DisplayControl) (level : ℕ) : List Char :=
  let fl := level + 1
  writeYmlLog level "display_control_t:" ++
  writeYmlLog fl ("struct_size: " ++ fmtCount sizeofDisplayControl) ++
  writeYmlLog fl ("alpha: " ++ fmtBits ctrl.alpha) ++
  writeYmlLog fl ("top_layer: " ++ fmtBits ctrl.topLayer) ++
  writeYmlLog fl ("rotation: " ++ fmtBits ctrl.rotation) ++
  writeYmlLog fl ("reserved: " ++ fmtBits ctrl.reserved) ++
  writeYmlLog fl "viewport:" ++
  writeYmlLog (fl + 1) ("struct_size: " ++ fmtCount 8) ++
  writeYmlLog (fl + 1) ("l: " ++ fmtShort ctrl.left) ++
  writeYmlLog (fl + 1) ("t: " ++ fmtShort ctrl.top) ++
  writeYmlLog (fl + 1) ("r: " ++ fmtShort ctrl.right) ++
  writeYmlLog (fl + 1) ("b: " ++ fmtShort ctrl.bottom)

end ProfileLogger

/-! ## The logger -/

namespace LogEvent

/-- The value of the enumerator. -/
def code : LogEvent → ℕ
  | createBuffer => 1
  | removeBuffer => 2
  | displayReq => 3
  | dispInfoReq => 4
  | dispPortReq => 5
  | displayReqAck => 6
  | dispInfoReqAck => 7
  | dispPortReqAck => 8
  | changeResolution => 9
  | setAlpha => 10
  | unknown => 11

/-- `evNames`. -/
def name : LogEvent → String
  | createBuffer => "VHAL_DD_EVENT_CREATE_BUFFER"
  | removeBuffer => "VHAL_DD_EVENT_REMOVE_BUFFER"
  | displayReq => "VHAL_DD_EVENT_DISPLAY_REQ"
  | dispInfoReq => "VHAL_DD_EVENT_DISPINFO_REQ"
  | dispPortReq => "VHAL_DD_EVENT_DISPPORT_REQ"
  | displayReqAck => "VHAL_DD_EVENT_DISPLAY_ACK"
  | dispInfoReqAck => "VHAL_DD_EVENT_DISPINFO_ACK"
  | dispPortReqAck => "VHAL_DD_EVENT_DISPPORT_ACK"
  | changeResolution => "VHAL_DD_EVENT_SETUP_RESOLUTION"
  | setAlpha => "VHAL_DD_EVENT_SET_VIDEO_ALPHA_REQ"
  | unknown => "EVENT_UNKNOWN"

/-- `isSendEvent`. -/
def isSendEvent (event : LogEvent) : Bool := displayReqAck.code ≤ event.code

/-- The values from 1 on. -/
def all : List LogEvent :=
  [createBuffer, removeBuffer, displayReq, dispInfoReq, dispPortReq, displayReqAck, dispInfoReqAck,
    dispPortReqAck, changeResolution, setAlpha, unknown]

end LogEvent

/-- The members of an enabled `ProfileLogger`, and its file. -/
structure ProfileLogger where
  reportId : ℕ
  createBufEventCnt : ℕ
  removeBufEventCnt : ℕ
  displayReqEventCnt : ℕ
  changeResolutionCnt : ℕ
  dispInfoReqEventCnt : ℕ
  dispPortReqEventCnt : ℕ
  setAlphaCnt : ℕ
  file : List Char

namespace ProfileLogger

/-- The comments `Initialize` writes. -/
def comments : List String :=
  ["# This log captures events submitted to libvhal and ICR shared lib", "# Events Code:"] ++
    LogEvent.all.map fun event => "# " ++ toString event.code ++ ": " ++ event.name

/-- The logger behind `Initialize`. -/
def initial : ProfileLogger := ⟨0, 0, 0, 0, 0, 0, 0, 0, comments.flatMap (writeYmlLog 0)⟩

def write (l : ProfileLogger) (text : List Char) : ProfileLogger := { l with file := l.file ++ text }

/-- `UpdateEventCount`: `EVENT_DISPPORT_REQ` is counted with `EVENT_DISPINFO_REQ`. -/
def updateEventCount (l : ProfileLogger) : LogEvent → ProfileLogger
  | .createBuffer => { l with createBufEventCnt := l.createBufEventCnt + 1 }
  | .removeBuffer => { l with removeBufEventCnt := l.removeBufEventCnt + 1 }
  | .displayReq => { l with displayReqEventCnt := l.displayReqEventCnt + 1 }
  | .dispInfoReq => { l with dispInfoReqEventCnt := l.dispInfoReqEventCnt + 1 }
  | .dispPortReq => { l with dispInfoReqEventCnt := l.dispInfoReqEventCnt + 1 }
  | .changeResolution => { l with changeResolutionCnt := l.changeResolutionCnt + 1 }
  | .setAlpha => { l with setAlphaCnt := l.setAlphaCnt + 1 }
  | _ => l

/-- The event's header is logged as part of a `buffer_info_event_t`. -/
def isBufferInfoEvent (type : LogEvent) : Bool :=
  type = .createBuffer || type = .removeBuffer || type = .displayReq

/-- `CheckProtocol_BufferInfoEvent`: what it writes, and the level of the structs to come. -/
def checkProtocolBufferInfoEvent (event : LogEvent) : List Char × ℕ :=
  if isBufferInfoEvent event then
    (writeYmlLog 1 "buffer_info_event_t:" ++
      writeYmlLog 2 ("struct_size: " ++ fmtCount sizeofBufferInfoEvent), 2)
  else ([], 1)

/-- The metadata of a document. -/
def metadata (l : ProfileLogger) (now : Fin (2 ^ 63)) (type : LogEvent) : List Char :=
  writeYmlLog 0 "event:" ++
  writeYmlLog 1 "metadata:" ++
  writeYmlLog 2 ("eventId: " ++ fmtCount l.reportId) ++
  writeYmlLog 2 ("eventName: " ++ type.name) ++
  writeYmlLog 2 ("direction: " ++ if type.isSendEvent then "send" else "receive") ++
  writeYmlLog 2 ("timeStampUs: " ++ fmtCount now) ++
  writeYmlLog 2 "counts:" ++
  writeYmlLog 3 ("CreateBufferEvents: " ++ fmtCount l.createBufEventCnt) ++
  writeYmlLog 3 ("RemoveBufferEvents: " ++ fmtCount l.removeBufEventCnt) ++
  writeYmlLog 3 ("DisplayReqEvents: " ++ fmtCount l.displayReqEventCnt) ++
  writeYmlLog 3 ("ChangeResolutionEvents: " ++ fmtCount l.changeResolutionCnt) ++
  writeYmlLog 3 ("DispInfoReqEvents: " ++ fmtCount l.dispInfoReqEventCnt) ++
  writeYmlLog 3 ("DispPortReqEvents: " ++ fmtCount l.dispPortReqEventCnt) ++
  writeYmlLog 3 ("SetAlphaEvents: " ++ fmtCount l.setAlphaCnt)

def logGenericEventInfo (l : ProfileLogger) (now : Fin (2 ^ 63)) (type : LogEvent)
    (ev : Option DisplayEvent) : ProfileLogger :=
  let l := if l.reportId ≠ 0 then l.write (writeYmlLog 0 "\n...") else l
  let l := (l.write (writeYmlLog 0 "\n---")).write (l.metadata now type)
  let l := { l with reportId := l.reportId + 1 }
  match ev with
  | none => l
  | some ev =>
    let (text, level) := checkProtocolBufferInfoEvent type
    (l.write text).write (addDisplayEventStruct ev level)

/-- A call of the logger. -/
def call (clock : ℕ → Fin (2 ^ 63)) (l : ProfileLogger) : LogCall → ProfileLogger
  | .updateEventCount event => l.updateEventCount event
  | .logGenericEventInfo event ev => l.logGenericEventInfo (clock l.reportId) event ev
  | .addDisplayInfoEventStruct ev level => l.write (addDisplayInfoEventStruct ev level)
  | .addDisplayPortEventStruct ev level => l.write (addDisplayPortEventStruct ev level)
  | .addBufferInfoStruct info level => l.write (addBufferInfoStruct info level)
  | .addBufferInfoEventStruct ev level => l.write (addBufferInfoEventStruct ev level)
  | .addGrallocHandleStruct handle level => l.write (addGrallocHandleStruct handle level)
  | .addDisplayControlStruct ctrl level => l.write (addDisplayControlStruct ctrl level)
  | .logChangeResolutionEvent _ _ ev =>
    let l := l.updateEventCount .changeResolution
    (l.logGenericEventInfo (clock l.reportId) .changeResolution none).write (addDisplayInfoEventStruct ev 1)
  | .logSetAlphaEvent ev =>
    let l := l.updateEventCount .setAlpha
    (l.logGenericEventInfo (clock l.reportId) .setAlpha none).write (addVideoAlphaEventStruct ev 1)

def calls (clock : ℕ → Fin (2 ^ 63)) (l : ProfileLogger) (cs : List LogCall) : ProfileLogger :=
  cs.foldl (call clock) l

end ProfileLogger

end VhalClient.Display
