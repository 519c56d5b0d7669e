/-
# VhalClient.Display.Protocol — the display protocol's structs.

The messages of `display-protocol.h`, member for member, with their layouts.  The `float` members are kept
as their bit patterns: nothing computes with them.  The struct sizes the code compares with (`sizeof`)
are the sizes of the layouts, by evaluation.
-/
import VhalClient.Lib.Layout

namespace VhalClient.Display

open VhalClient.Lib

/-! ## Event types -/

def evDispInfoReq : UInt32 := 0x1000

def evDispInfoAck : UInt32 := 0x1001

def evCreateBuffer : UInt32 := 0x1002

def evRemoveBuffer : UInt32 := 0x1003

def evDisplayReq : UInt32 := 0x1004

def evDisplayAck : UInt32 := 0x1005

def evDispPortReq : UInt32 := 0x1700

def evDispPortAck : UInt32 := 0x1701

def evSetupResolution : UInt32 := 0x1800

def evSetVideoAlphaReq : UInt32 := 0x1900

/-! ## Headers and small structs -/

/-- `display_event_t`, the header of every message. -/
structure DisplayEvent where
  type : UInt32
  size : UInt32
  id : UInt32
  renderNode : UInt32
  deriving DecidableEq, Repr

/-- `buffer_info_t`.  Its `data` member has no elements. -/
structure BufferInfo where
  remoteHandle : UInt64
  deriving DecidableEq, Repr

/-- `display_info_t`. -/
structure DisplayInfo where
  flags : UInt32
  width : UInt32
  height : UInt32
  stride : Int32
  format : Int32
  xdpi : UInt32
  ydpi : UInt32
  fps : UInt32
  minSwapInterval : Int32
  maxSwapInterval : Int32
  numFramebuffers : Int32
  deriving DecidableEq, Repr

/-- `display_port_t`. -/
structure DisplayPort where
  port : UInt32
  reserve : UInt32
  deriving DecidableEq, Repr

/-- `set_video_alpha_t`. -/
structure SetVideoAlpha where
  enable : UInt32
  reserved : Vector UInt32 3
  deriving DecidableEq, Repr

/-- `display_control_t`: a word of bit fields, low bits first, and the viewport. -/
structure DisplayControl where
  alpha : BitVec 1
  topLayer : BitVec 1
  rotation : BitVec 2
  reserved : BitVec 28
  left : Int16
  top : Int16
  right : Int16
  bottom : Int16
  deriving DecidableEq, Repr

/-- `cros_gralloc_handle`; `version`, `numFds` and `numInts` are its `base`. -/
structure CrosGrallocHandle where
  version : Int32
  numFds : Int32
  numInts : Int32
  fds : Vector Int32 4
  strides : Vector UInt32 4
  offsets : Vector UInt32 4
  sizes : Vector UInt32 4
  formatModifiers : Vector UInt32 8
  width : UInt32
  height : UInt32
  format : UInt32
  tilingMode : UInt32
  useFlags : Vector UInt32 2
  magic : UInt32
  pixelStride : UInt32
  droidFormat : Int32
  usage : Int32
  consumerUsage : UInt32
  producerUsage : UInt32
  yuvColorRange : UInt32
  isUpdated : UInt32
  isEncoded : UInt32
  isEncrypted : UInt32
  isKeyFrame : UInt32
  isInterlaced : UInt32
  isMmcCapable : UInt32
  compressionMode : UInt32
  compressionHint : UInt32
  codec : UInt32
  alignedWidth : UInt32
  alignedHeight : UInt32
  deriving DecidableEq, Repr

namespace Layout

open VhalClient.Lib.Layout

def displayEvent : Layout DisplayEvent :=
  (prod word32 (prod word32 (prod word32 word32))).map
    (fun (type, size, id, renderNode) => ⟨type, size, id, renderNode⟩)
    (fun e => (e.type, e.size, e.id, e.renderNode)) (fun _ => rfl)

def bufferInfo : Layout BufferInfo :=
  word64.map BufferInfo.mk BufferInfo.remoteHandle (fun _ => rfl)

def displayInfo : Layout DisplayInfo :=
  (prod word32 (prod word32 (prod word32 (prod int32 (prod int32 (prod word32 (prod word32
    (prod word32 (prod int32 (prod int32 int32)))))))))).map
    (fun (flags, width, height, stride, format, xdpi, ydpi, fps, minSwapInterval, maxSwapInterval,
      numFramebuffers) =>
      ⟨flags, width, height, stride, format, xdpi, ydpi, fps, minSwapInterval, maxSwapInterval,
        numFramebuffers⟩)
    (fun i => (i.flags, i.width, i.height, i.stride, i.format, i.xdpi, i.ydpi, i.fps,
      i.minSwapInterval, i.maxSwapInterval, i.numFramebuffers)) (fun _ => rfl)

def displayPort : Layout DisplayPort :=
  (prod word32 word32).map (fun (port, reserve) => ⟨port, reserve⟩) (fun p => (p.port, p.reserve))
    (fun _ => rfl)

def setVideoAlpha : Layout SetVideoAlpha :=
  (prod word32 (array word32 3)).map (fun (enable, reserved) => ⟨enable, reserved⟩)
    (fun a => (a.enable, a.reserved)) (fun _ => rfl)

/-- The word the four bit fields share. -/
def controlWord (c : DisplayControl) : UInt32 :=
  ⟨c.reserved ++ c.rotation ++ c.topLayer ++ c.alpha⟩

theorem extract_alpha (c : DisplayControl) : (controlWord c).toBitVec.extractLsb' 0 1 = c.alpha := by
  show BitVec.extractLsb' 0 1 (c.reserved ++ c.rotation ++ c.topLayer ++ c.alpha) = c.alpha
  rw [BitVec.extractLsb'_append_eq_right]

theorem extract_topLayer (c : DisplayControl) :
    (controlWord c).toBitVec.extractLsb' 1 1 = c.topLayer := by
  show BitVec.extractLsb' 1 1 (c.reserved ++ c.rotation ++ c.topLayer ++ c.alpha) = c.topLayer
  rw [BitVec.extractLsb'_append_eq_of_le (by omega), Nat.sub_self, BitVec.extractLsb'_append_eq_right]

theorem extract_rotation (c : DisplayControl) :
    (controlWord c).toBitVec.extractLsb' 2 2 = c.rotation := by
  show BitVec.extractLsb' 2 2 (c.reserved ++ c.rotation ++ c.topLayer ++ c.alpha) = c.rotation
  rw [BitVec.extractLsb'_append_eq_of_le (by omega), BitVec.extractLsb'_append_eq_of_le (by omega),
    BitVec.extractLsb'_append_eq_right]

theorem extract_reserved (c : DisplayControl) :
    (controlWord c).toBitVec.extractLsb' 4 28 = c.reserved := by
  show BitVec.extractLsb' 4 28 (c.reserved ++ c.rotation ++ c.topLayer ++ c.alpha) = c.reserved
  rw [BitVec.extractLsb'_append_eq_of_le (by omega), BitVec.extractLsb'_append_eq_of_le (by omega),
    BitVec.extractLsb'_append_eq_left]

def displayControl : Layout DisplayControl :=
  (prod word32 (prod int16 (prod int16 (prod int16 int16)))).map
    (fun (word, left, top, right, bottom) =>
      ⟨word.toBitVec.extractLsb' 0 1, word.toBitVec.extractLsb' 1 1, word.toBitVec.extractLsb' 2 2,
        word.toBitVec.extractLsb' 4 28, left, top, right, bottom⟩)
    (fun c => (controlWord c, c.left, c.top, c.right, c.bottom))
    (by
      intro c
      dsimp only
      rw [extract_alpha, extract_topLayer, extract_rotation, extract_reserved])

def crosGrallocHandle : Layout CrosGrallocHandle :=
  (prod int32 (prod int32 (prod int32 (prod (array int32 4) (prod (array word32 4)
  (prod (array word32 4) (prod (array word32 4) (prod (array word32 8) (prod word32 (prod word32
  (prod word32 (prod word32 (prod (array word32 2) (prod word32 (prod word32 (prod int32
  (prod int32 (prod word32 (prod word32 (prod word32 (prod word32 (prod word32 (prod word32
  (prod word32 (prod word32 (prod word32 (prod word32 (prod word32 (prod word32 (prod word32
  word32)))))))))))))))))))))))))))))).map
    (fun (version, numFds, numInts, fds, strides, offsets, sizes, formatModifiers, width, height,
      format, tilingMode, useFlags, magic, pixelStride, droidFormat, usage, consumerUsage,
      producerUsage, yuvColorRange, isUpdated, isEncoded, isEncrypted, isKeyFrame, isInterlaced,
      isMmcCapable, compressionMode, compressionHint, codec, alignedWidth, alignedHeight) =>
      ⟨version, numFds, numInts, fds, strides, offsets, sizes, formatModifiers, width, height,
        format, tilingMode, useFlags, magic, pixelStride, droidFormat, usage, consumerUsage,
        producerUsage, yuvColorRange, isUpdated, isEncoded, isEncrypted, isKeyFrame, isInterlaced,
        isMmcCapable, compressionMode, compressionHint, codec, alignedWidth, alignedHeight⟩)
    (fun h => (h.version, h.numFds, h.numInts, h.fds, h.strides, h.offsets, h.sizes, h.formatModifiers,
      h.width, h.height, h.format, h.tilingMode, h.useFlags, h.magic, h.pixelStride, h.droidFormat,
      h.usage, h.consumerUsage, h.producerUsage, h.yuvColorRange, h.isUpdated, h.isEncoded,
      h.isEncrypted, h.isKeyFrame, h.isInterlaced, h.isMmcCapable, h.compressionMode,
      h.compressionHint, h.codec, h.alignedWidth, h.alignedHeight)) (fun _ => rfl)

end Layout

/-! ## `sizeof` -/

def sizeofDisplayEvent : ℕ := Layout.displayEvent.size

def sizeofBufferInfo : ℕ := Layout.bufferInfo.size

def sizeofDisplayControl : ℕ := Layout.displayControl.size

def sizeofCrosGrallocHandle : ℕ := Layout.crosGrallocHandle.size

@[simp] theorem sizeofDisplayEvent_eq : sizeofDisplayEvent = 16 := rfl

@[simp] theorem sizeofBufferInfo_eq : sizeofBufferInfo = 8 := rfl

@[simp] theorem sizeofDisplayControl_eq : sizeofDisplayControl = 12 := rfl

@[simp] theorem sizeofCrosGrallocHandle_eq : sizeofCrosGrallocHandle = 204 := rfl

/-! ## Messages with a body -/

/-- `display_info_event_t`. -/
structure DisplayInfoEvent where
  event : DisplayEvent
  info : DisplayInfo
  deriving DecidableEq, Repr

/-- `buffer_info_event_t`. -/
structure BufferInfoEvent where
  event : DisplayEvent
  info : BufferInfo
  deriving DecidableEq, Repr

/-- `display_port_event_t`. -/
structure DisplayPortEvent where
  event : DisplayEvent
  dispPort : DisplayPort
  deriving DecidableEq, Repr

/-- `display_set_video_alpha_event_t`. -/
structure DisplaySetVideoAlphaEvent where
  event : DisplayEvent
  alpha : SetVideoAlpha
  deriving DecidableEq, Repr

namespace Layout

open VhalClient.Lib.Layout

def displayInfoEvent : Layout DisplayInfoEvent :=
  (prod displayEvent displayInfo).map (fun (event, info) => ⟨event, info⟩)
    (fun e => (e.event, e.info)) (fun _ => rfl)

def bufferInfoEvent : Layout BufferInfoEvent :=
  (prod displayEvent bufferInfo).map (fun (event, info) => ⟨event, info⟩)
    (fun e => (e.event, e.info)) (fun _ => rfl)

def displayPortEvent : Layout DisplayPortEvent :=
  (prod displayEvent displayPort).map (fun (event, dispPort) => ⟨event, dispPort⟩)
    (fun e => (e.event, e.dispPort)) (fun _ => rfl)

def displaySetVideoAlphaEvent : Layout DisplaySetVideoAlphaEvent :=
  (prod displayEvent setVideoAlpha).map (fun (event, alpha) => ⟨event, alpha⟩)
    (fun e => (e.event, e.alpha)) (fun _ => rfl)

end Layout

def sizeofBufferInfoEvent : ℕ := Layout.bufferInfoEvent.size

/-! ## The gralloc handle -/

def drvMaxPlanes : ℕ := 4

/-- `fourcc_code('9', '9', '9', '6')` -/
def drmFormatNV12YTiledIntel : UInt32 := 0x36393939

/-- `fourcc_code('N', 'V', '1', '2')` -/
def drmFormatNV12 : UInt32 := 0x3231564e

namespace CrosGrallocHandle

/-- The one NV12 format the handler is shown. -/
def unifyFormat (h : CrosGrallocHandle) : CrosGrallocHandle :=
  if h.format = drmFormatNV12YTiledIntel then { h with format := drmFormatNV12 } else h

/-- The received descriptors, over the first elements of `fds`. -/
def setFds (h : CrosGrallocHandle) (received : List Int32) : CrosGrallocHandle :=
  { h with fds := Vector.ofFn fun i => (received[i.val]?).getD h.fds[i.val] }

end CrosGrallocHandle

end VhalClient.Display
