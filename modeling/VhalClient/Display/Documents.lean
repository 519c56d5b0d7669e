/-
# VhalClient.Display.Documents — what the log of a session says.

The logger writes lines; a reader of YAML sees trees.  `tree` is the tree of the document that is written for a
`Record`, and `file_calls` says that the file of a session is the YAML stream of the trees of its records, one
document each, whatever was received.  All nesting is in the trees: the structs behind the header of a buffer
message stand inside `buffer_info_event_t`.
-/
import VhalClient.Display.ProfileLog

namespace VhalClient.Display

open VhalClient.Lib VhalClient.Lib.Yaml

/-! ## Trees -/

/-- Scalar entries in front of a block. -/
def fields (fs : List (String × String)) (rest : Block) : Block :=
  fs.foldr (fun f b => .scalar f.1 f.2 b) rest

namespace Tree

def displayEvent (ev : DisplayEvent) (rest : Block) : Block :=
  .map "display_event_t"
    (fields [("struct_size", fmtCount sizeofDisplayEvent), ("type", fmtHex ev.type), ("size", fmtWord ev.size),
      ("id", fmtWord ev.id), ("renderNode", fmtWord ev.renderNode)] .nil) rest

def displayInfo (info : DisplayInfo) (rest : Block) : Block :=
  .map "display_info_t"
    (fields [("struct_size", fmtCount Layout.displayInfo.size), ("flags", fmtHex info.flags),
      ("width", fmtWord info.width), ("height", fmtWord info.height), ("stride", fmtInt info.stride),
      ("format", fmtInt info.format), ("xdpi", fmtFloat info.xdpi), ("ydpi", fmtFloat info.ydpi),
      ("fps", fmtFloat info.fps), ("minSwapInterval", fmtInt info.minSwapInterval),
      ("maxSwapInterval", fmtInt info.maxSwapInterval),
      ("numFramebuffers", fmtInt info.numFramebuffers)] .nil) rest

def displayInfoEvent (ev : DisplayInfoEvent) (rest : Block) : Block :=
  .map "display_info_event_t"
    (fields [("struct_size", fmtCount Layout.displayInfoEvent.size)]
      (displayEvent ev.event (displayInfo ev.info .nil))) rest

def bufferInfo (info : BufferInfo) (rest : Block) : Block :=
  .map "buffer_info_t"
    (fields [("struct_size", fmtCount sizeofBufferInfo), ("remote_handle", fmtLong info.remoteHandle),
      ("data", fmtCount 0)] .nil) rest

/-- A header with what is logged behind it, in one struct. -/
def bufferInfoEvent (ev : DisplayEvent) (more rest : Block) : Block :=
  .map "buffer_info_event_t"
    (fields [("struct_size", fmtCount sizeofBufferInfoEvent)] (displayEvent ev more)) rest

def displayPort (dp : DisplayPort) (rest : Block) : Block :=
  .map "display_port_t"
    (fields [("struct_size", fmtCount Layout.displayPort.size), ("port", fmtWord dp.port),
      ("reserve", fmtWord dp.reserve)] .nil) rest

def displayPortEvent (ev : DisplayPortEvent) (rest : Block) : Block :=
  .map "display_port_event_t"
    (fields [("struct_size", fmtCount Layout.displayPortEvent.size)]
      (displayEvent ev.event (displayPort ev.dispPort .nil))) rest

def nativeHandle (handle : CrosGrallocHandle) (rest : Block) : Block :=
  .map "native_handle_t"
    (fields [("struct_size", fmtCount 12), ("version", fmtInt handle.version),
      ("numFds", fmtInt handle.numFds), ("numInts", fmtInt handle.numInts), ("data", fmtCount 0)] .nil) rest

/-- A sequence of words, each an `int` in the log. -/
def words {n : ℕ} (key : String) (ws : Vector UInt32 n) (rest : Block) : Block :=
  .seq key ((asInts ws).map fmtInt) rest

def grallocHandle (handle : CrosGrallocHandle) (rest : Block) : Block :=
  .map "cros_gralloc_handle_t"
    (fields [("struct_size", fmtCount sizeofCrosGrallocHandle)]
      (nativeHandle handle
        (.seq "fds" (handle.fds.toList.map fmtInt)
          (words "strides" handle.strides
            (words "offsets" handle.offsets
              (words "sizes" handle.sizes
                (words "format_modifiers" handle.formatModifiers
                  (fields [("width", fmtWord handle.width), ("height", fmtWord handle.height),
                      ("format", fmtWord handle.format), ("tiling_mode", fmtWord handle.tilingMode)]
                    (words "use_flags" handle.useFlags
                      (fields [("magic", fmtUnsigned handle.magic),
                        ("pixel_stride", fmtWord handle.pixelStride),
                        ("droid_format", fmtInt handle.droidFormat), ("usage", fmtInt handle.usage),
                        ("consumer_usage", fmtWord handle.consumerUsage),
                        ("producer_usage", fmtWord handle.producerUsage),
                        ("yuv_color_range", fmtWord handle.yuvColorRange),
                        ("is_updated", fmtWord handle.isUpdated), ("is_encoded", fmtWord handle.isEncoded),
                        ("is_encrypted", fmtWord handle.isEncrypted),
                        ("is_key_frame", fmtWord handle.isKeyFrame),
                        ("is_interlaced", fmtWord handle.isInterlaced),
                        ("is_mmc_capable", fmtWord handle.isMmcCapable),
                        ("compression_mode", fmtWord handle.compressionMode),
                        ("compression_hint", fmtWord handle.compressionHint),
                        ("codec", fmtWord handle.codec), ("aligned_width", fmtWord handle.alignedWidth),
                        ("aligned_height", fmtWord handle.alignedHeight)] .nil))))))))))
    rest

def setVideoAlpha (alpha : SetVideoAlpha) (rest : Block) : Block :=
  .map "set_video_alpha_t"
    (fields [("struct_size", fmtCount Layout.setVideoAlpha.size), ("enable", fmtWord alpha.enable)]
      (words "reserved" alpha.reserved .nil)) rest

def setVideoAlphaEvent (ev : DisplaySetVideoAlphaEvent) (rest : Block) : Block :=
  .map "display_set_video_alpha_event_t"
    (fields [("struct_size", fmtCount Layout.displaySetVideoAlphaEvent.size)]
      (displayEvent ev.event (setVideoAlpha ev.alpha .nil))) rest

def displayControl (ctrl : DisplayControl) (rest : Block) : Block :=
  .map "display_control_t"
    (fields [("struct_size", fmtCount sizeofDisplayControl), ("alpha", fmtBits ctrl.alpha),
        ("top_layer", fmtBits ctrl.topLayer), ("rotation", fmtBits ctrl.rotation),
        ("reserved", fmtBits ctrl.reserved)]
      (.map "viewport"
        (fields [("struct_size", fmtCount 8), ("l", fmtShort ctrl.left), ("t", fmtShort ctrl.top),
          ("r", fmtShort ctrl.right), ("b", fmtShort ctrl.bottom)] .nil) .nil)) rest

def metadata (l : ProfileLogger) (now : Fin (2 ^ 63)) (type : LogEvent) (rest : Block) : Block :=
  .map "metadata"
    (fields [("eventId", fmtCount l.reportId), ("eventName", type.name),
        ("direction", if type.isSendEvent then "send" else "receive"), ("timeStampUs", fmtCount now)]
      (.map "counts"
        (fields [("CreateBufferEvents", fmtCount l.createBufEventCnt),
          ("RemoveBufferEvents", fmtCount l.removeBufEventCnt),
          ("DisplayReqEvents", fmtCount l.displayReqEventCnt),
          ("ChangeResolutionEvents", fmtCount l.changeResolutionCnt),
          ("DispInfoReqEvents", fmtCount l.dispInfoReqEventCnt),
          ("DispPortReqEvents", fmtCount l.dispPortReqEventCnt),
          ("SetAlphaEvents", fmtCount l.setAlphaCnt)] .nil) .nil)) rest

end Tree

/-- The structs behind a header that is part of a `buffer_info_event_t`. -/
def Parts.tree (p : Parts) : Block :=
  p.info.elim id Tree.bufferInfo (p.gralloc.elim id Tree.grallocHandle (p.ctrl.elim id Tree.displayControl .nil))

namespace Reply

/-- The event a message is logged under. -/
def event : Reply → LogEvent
  | dispInfoAck _ => .dispInfoReqAck
  | dispPortAck _ => .dispPortReqAck
  | displayAck _ => .displayReqAck
  | setupResolution _ _ => .changeResolution
  | setVideoAlpha _ => .setAlpha

def tree : Reply → Block
  | dispInfoAck cfg => Tree.displayInfoEvent (dispInfoAckEvent cfg) .nil
  | dispPortAck cfg => Tree.displayPortEvent (dispPortAckEvent cfg) .nil
  | displayAck info => Tree.bufferInfoEvent (displayAckEvent info).event (Tree.bufferInfo info .nil) .nil
  | setupResolution width height => Tree.displayInfoEvent (setupResolutionEvent width height) .nil
  | setVideoAlpha action => Tree.setVideoAlphaEvent (setVideoAlphaEvent action) .nil

end Reply

namespace Record

/-- The event a record is logged under. -/
def event : Record → LogEvent
  | received ev _ => translateEvType ev.type
  | replied reply _ => reply.event

/-- The event is counted before it is logged; an acknowledgement is not. -/
def counted (r : Record) (l : ProfileLogger) : ProfileLogger :=
  match r with
  | received ev _ => l.updateEventCount (translateEvType ev.type)
  | replied (.setupResolution _ _) _ => l.updateEventCount .changeResolution
  | replied (.setVideoAlpha _) _ => l.updateEventCount .setAlpha
  | replied _ _ => l

/-- What the document says beside its metadata. -/
def body : Record → Block
  | received ev parts =>
    if ProfileLogger.isBufferInfoEvent (translateEvType ev.type) then
      Tree.bufferInfoEvent ev parts.tree .nil
    else Tree.displayEvent ev .nil
  | replied reply _ => reply.tree

/-- The document of a record, from the state of the logger before it. -/
def tree (clock : ℕ → Fin (2 ^ 63)) (l : ProfileLogger) (r : Record) : Block :=
  .map "event" (Tree.metadata (r.counted l) (clock l.reportId) r.event r.body) .nil

/-- Only the messages about buffers have structs behind their header. -/
def Proper : Record → Prop
  | received ev parts => parts ≠ .nothing → ProfileLogger.isBufferInfoEvent (translateEvType ev.type) = true
  | replied _ _ => True

end Record

/-- The trees of a list of records. -/
def trees (clock : ℕ → Fin (2 ^ 63)) : ProfileLogger → List Record → List Block
  | _, [] => []
  | l, r :: rs => r.tree clock l :: trees clock (l.calls clock r.calls) rs

/-! ## Lines of a tree -/

theorem writeYmlLog_eq (level : ℕ) (text : String) : writeYmlLog level text = line level text := by
  have hblanks : (List.replicate level "    ".toList).flatten = List.replicate (4 * level) ' ' := by
    rw [show "    ".toList = List.replicate 4 ' ' from rfl, List.flatten_replicate_replicate, Nat.mul_comm]
  rw [writeYmlLog, hblanks, line]
  rfl

theorem print_fields (level : ℕ) (fs : List (String × String)) (rest : Block) :
    (fields fs rest).print level =
      fs.flatMap (fun f => line level (f.1 ++ ": " ++ f.2)) ++ rest.print level := by
  induction fs with
  | nil => rfl
  | cons f fs ih =>
    rw [fields, List.foldr_cons, Block.print, List.flatMap_cons, List.append_assoc, ← ih]
    rfl

theorem intArrayToString_eq_flow {ints : List Int32} (h : ints ≠ []) :
    intArrayToString ints = flow (ints.map fmtInt) := by
  have hfold (is : List Int32) (i : Int32) (s : String) :
      is.foldl (fun s i => s ++ (fmtInt i ++ ", ")) s ++ fmtInt i =
        s ++ ", ".intercalate ((is ++ [i]).map fmtInt) := by
    induction is generalizing s with
    | nil => simp
    | cons j is ih =>
      rw [List.foldl_cons, ih]
      cases is <;> simp [String.append_assoc]
  obtain ⟨is, i, rfl⟩ := List.eq_nil_or_concat ints |>.resolve_left h
  simp [intArrayToString, flow, hfold, String.append_assoc]

/-! ### What the logger writes for a struct -/

namespace Tree

variable (level : ℕ) (rest : Block)

theorem print_displayEvent (ev : DisplayEvent) :
    (displayEvent ev rest).print level = ProfileLogger.addDisplayEventStruct ev level ++ rest.print level := by
  simp [displayEvent, ProfileLogger.addDisplayEventStruct, Block.print, print_fields, writeYmlLog_eq]

theorem print_displayInfo (info : DisplayInfo) :
    (displayInfo info rest).print level = ProfileLogger.addDisplayInfoStruct info level ++ rest.print level := by
  simp [displayInfo, ProfileLogger.addDisplayInfoStruct, Block.print, print_fields, writeYmlLog_eq]

theorem print_displayInfoEvent (ev : DisplayInfoEvent) :
    (displayInfoEvent ev rest).print level =
      ProfileLogger.addDisplayInfoEventStruct ev level ++ rest.print level := by
  simp [displayInfoEvent, ProfileLogger.addDisplayInfoEventStruct, Block.print, print_fields, writeYmlLog_eq,
    print_displayEvent, print_displayInfo]

theorem print_bufferInfo (info : BufferInfo) :
    (bufferInfo info rest).print level = ProfileLogger.addBufferInfoStruct info level ++ rest.print level := by
  simp [bufferInfo, ProfileLogger.addBufferInfoStruct, Block.print, print_fields, writeYmlLog_eq]

theorem print_bufferInfoEvent (ev : BufferInfoEvent) :
    (bufferInfoEvent ev.event (bufferInfo ev.info .nil) rest).print level =
      ProfileLogger.addBufferInfoEventStruct ev level ++ rest.print level := by
  simp [bufferInfoEvent, ProfileLogger.addBufferInfoEventStruct, Block.print, print_fields, writeYmlLog_eq,
    print_displayEvent, print_bufferInfo]

theorem print_displayPortEvent (ev : DisplayPortEvent) :
    (displayPortEvent ev rest).print level =
      ProfileLogger.addDisplayPortEventStruct ev level ++ rest.print level := by
  simp [displayPortEvent, displayPort, ProfileLogger.addDisplayPortEventStruct,
    ProfileLogger.addDisplayPortStruct, Block.print, print_fields, writeYmlLog_eq, print_displayEvent]

theorem print_words {n : ℕ} (key : String) (ws : Vector UInt32 (n + 1)) :
    (words key ws rest).print level =
      line level (key ++ ": " ++ intArrayToString (asInts ws)) ++ rest.print level := by
  rw [words, Block.print, intArrayToString_eq_flow]
  intro hnil
  have hlength := congrArg List.length hnil
  simp [asInts] at hlength

theorem print_nativeHandle (handle : CrosGrallocHandle) :
    (nativeHandle handle rest).print level =
      ProfileLogger.addNativeHandleStruct handle level ++ rest.print level := by
  simp [nativeHandle, ProfileLogger.addNativeHandleStruct, Block.print, print_fields, writeYmlLog_eq]

theorem print_grallocHandle (handle : CrosGrallocHandle) :
    (grallocHandle handle rest).print level =
      ProfileLogger.addGrallocHandleStruct handle level ++ rest.print level := by
  have hfds : flow (handle.fds.toList.map fmtInt) = intArrayToString handle.fds.toList := by
    refine (intArrayToString_eq_flow fun hnil => ?_).symm
    have hlength := congrArg List.length hnil
    simp at hlength
  -- The struct member by member, in the order of the lines.
  rw [grallocHandle, Block.print, print_fields, print_nativeHandle, Block.print, hfds, print_words,
    print_words, print_words, print_words, print_fields, print_words, print_fields, Block.print]
  unfold ProfileLogger.addGrallocHandleStruct
  simp only [writeYmlLog_eq, List.flatMap_cons, List.flatMap_nil, List.append_assoc, List.append_nil,
    String.reduceAppend]

theorem print_setVideoAlphaEvent (ev : DisplaySetVideoAlphaEvent) :
    (setVideoAlphaEvent ev rest).print level =
      ProfileLogger.addVideoAlphaEventStruct ev level ++ rest.print level := by
  simp [setVideoAlphaEvent, setVideoAlpha, ProfileLogger.addVideoAlphaEventStruct,
    ProfileLogger.addSetVideoAlphaStruct, Block.print, print_fields, print_words, writeYmlLog_eq,
    print_displayEvent]

theorem print_displayControl (ctrl : DisplayControl) :
    (displayControl ctrl rest).print level =
      ProfileLogger.addDisplayControlStruct ctrl level ++ rest.print level := by
  simp [displayControl, ProfileLogger.addDisplayControlStruct, Block.print, print_fields, writeYmlLog_eq]

theorem print_metadata (l : ProfileLogger) (now : Fin (2 ^ 63)) (type : LogEvent) :
    (Block.map "event" (metadata l now type rest) .nil).print 0 = l.metadata now type ++ rest.print 1 := by
  simp [metadata, ProfileLogger.metadata, Block.print, print_fields, writeYmlLog_eq]

end Tree

/-! ## The file -/

namespace ProfileLogger

variable (clock : ℕ → Fin (2 ^ 63)) (l : ProfileLogger)

@[simp] theorem write_write (text text' : List Char) : (l.write text).write text' = l.write (text ++ text') := by
  rw [write, write, write, List.append_assoc]

@[simp] theorem write_nil : l.write [] = l := by
  rw [write, List.append_nil]

theorem calls_append (cs ds : List LogCall) : l.calls clock (cs ++ ds) = (l.calls clock cs).calls clock ds :=
  List.foldl_append

theorem updateEventCount_file (event : LogEvent) : (l.updateEventCount event).file = l.file := by
  cases event <;> rfl

theorem updateEventCount_reportId (event : LogEvent) : (l.updateEventCount event).reportId = l.reportId := by
  cases event <;> rfl

/-- The line that ends the document before, if there is one. -/
def ending : List Char := if l.reportId = 0 then [] else line 0 "\n..."

theorem logGenericEventInfo_none (now : Fin (2 ^ 63)) (type : LogEvent) :
    l.logGenericEventInfo now type none =
      { l with
        reportId := l.reportId + 1
        file := l.file ++ l.ending ++ line 0 "\n---" ++ l.metadata now type } := by
  by_cases hfirst : l.reportId = 0
  · simp [logGenericEventInfo, ending, hfirst, write, writeYmlLog_eq, metadata]
  · simp [logGenericEventInfo, ending, hfirst, write, writeYmlLog_eq, metadata]

/-- The header of a message of the server, with the struct it is a part of. -/
theorem logGenericEventInfo_some (now : Fin (2 ^ 63)) (type : LogEvent) (ev : DisplayEvent) :
    l.logGenericEventInfo now type (some ev) =
      (l.logGenericEventInfo now type none).write
        ((checkProtocolBufferInfoEvent type).1 ++
          addDisplayEventStruct ev (checkProtocolBufferInfoEvent type).2) := by
  rw [← write_write]
  rfl

theorem calls_parts (p : Parts) : l.calls clock p.calls = l.write (p.tree.print 2) := by
  have hinfo (rest : Block) : (l.calls clock (p.info.toList.map (.addBufferInfoStruct · 2))).write
      (rest.print 2) = l.write ((p.info.elim id Tree.bufferInfo rest).print 2) := by
    cases p.info <;> simp [calls, call, Tree.print_bufferInfo]
  have hgralloc (l : ProfileLogger) (rest : Block) :
      (l.calls clock (p.gralloc.toList.map (.addGrallocHandleStruct · 2))).write (rest.print 2) =
        l.write ((p.gralloc.elim id Tree.grallocHandle rest).print 2) := by
    cases p.gralloc <;> simp [calls, call, Tree.print_grallocHandle]
  have hctrl (l : ProfileLogger) : l.calls clock (p.ctrl.toList.map (.addDisplayControlStruct · 2)) =
      l.write ((p.ctrl.elim id Tree.displayControl .nil).print 2) := by
    cases p.ctrl <;> simp [calls, call, Tree.print_displayControl, Block.print]
  rw [Parts.calls, calls_append, calls_append, hctrl, hgralloc, hinfo, Parts.tree]

/-- The file and the counters behind a record that is logged as a whole document. -/
def documented (r : Record) : ProfileLogger :=
  { r.counted l with
    reportId := l.reportId + 1
    file := l.file ++ l.ending ++ document (r.tree clock l) }

theorem document_tree (r : Record) :
    document (r.tree clock l) =
      line 0 "\n---" ++ (r.counted l).metadata (clock l.reportId) r.event ++ r.body.print 1 := by
  rw [document, Record.tree, Tree.print_metadata, List.append_assoc]

theorem counted_file (r : Record) : (r.counted l).file = l.file := by
  cases r with
  | received ev parts => exact l.updateEventCount_file _
  | replied reply count => cases reply <;> rfl

theorem counted_reportId (r : Record) : (r.counted l).reportId = l.reportId := by
  cases r with
  | received ev parts => exact l.updateEventCount_reportId _
  | replied reply count => cases reply <;> rfl

/-- The beginning of a document and the text of its body. -/
theorem documented_eq_write (r : Record) {text : List Char} (htext : r.body.print 1 = text) :
    ((r.counted l).logGenericEventInfo (clock l.reportId) r.event none).write text = l.documented clock r := by
  rw [logGenericEventInfo_none, documented, document_tree, htext, write, ending, ending, counted_file,
    counted_reportId]
  simp only [List.append_assoc]

theorem calls_received {ev : DisplayEvent} {parts : Parts} (hproper : (Record.received ev parts).Proper) :
    l.calls clock (Record.received ev parts).calls = l.documented clock (.received ev parts) := by
  rw [Record.calls, calls_append, calls_parts]
  show (((l.updateEventCount _).logGenericEventInfo (clock (l.updateEventCount _).reportId) _
    (some ev)).write _) = _
  rw [logGenericEventInfo_some, write_write, updateEventCount_reportId]
  apply documented_eq_write clock l (.received ev parts)
  -- A header inside `buffer_info_event_t`, or one on its own.
  by_cases hbuffer : isBufferInfoEvent (translateEvType ev.type) = true
  · rw [Record.body, if_pos hbuffer, checkProtocolBufferInfoEvent, if_pos hbuffer]
    simp [Tree.bufferInfoEvent, Block.print, print_fields, writeYmlLog_eq, Tree.print_displayEvent]
  · have hnothing : parts = .nothing := by
      by_contra hparts
      exact hbuffer (hproper hparts)
    rw [Record.body, if_neg hbuffer, checkProtocolBufferInfoEvent, if_neg hbuffer, hnothing]
    simp [Tree.print_displayEvent, Parts.tree, Parts.nothing, Block.print]

theorem calls_replied (reply : Reply) (count : ℤ) :
    l.calls clock (Record.replied reply count).calls = l.documented clock (.replied reply count) := by
  cases reply with
  | dispInfoAck cfg =>
    exact documented_eq_write clock l (.replied (.dispInfoAck cfg) count)
      ((Tree.print_displayInfoEvent 1 .nil _).trans (List.append_nil _))
  | dispPortAck cfg =>
    exact documented_eq_write clock l (.replied (.dispPortAck cfg) count)
      ((Tree.print_displayPortEvent 1 .nil _).trans (List.append_nil _))
  | displayAck info =>
    exact documented_eq_write clock l (.replied (.displayAck info) count)
      ((Tree.print_bufferInfoEvent 1 .nil (Reply.displayAckEvent info)).trans (List.append_nil _))
  | setupResolution width height =>
    exact documented_eq_write clock l (.replied (.setupResolution width height) count)
      ((Tree.print_displayInfoEvent 1 .nil _).trans (List.append_nil _))
  | setVideoAlpha action =>
    exact documented_eq_write clock l (.replied (.setVideoAlpha action) count)
      ((Tree.print_setVideoAlphaEvent 1 .nil _).trans (List.append_nil _))

/-- A record is a document of the log. -/
theorem calls_record {r : Record} (hproper : r.Proper) : l.calls clock r.calls = l.documented clock r := by
  cases r with
  | received ev parts => exact calls_received clock l hproper
  | replied reply count => exact calls_replied clock l reply count

/-- **The file of a list of records** is the YAML stream of their trees. -/
theorem file_calls {rs : List Record} (hproper : ∀ r ∈ rs, r.Proper) {l : ProfileLogger} (bs : List Block)
    (hfile : l.file = stream comments bs) (hid : l.reportId = bs.length) :
    (l.calls clock (rs.flatMap Record.calls)).file = stream comments (bs ++ trees clock l rs) := by
  induction rs generalizing l bs with
  | nil =>
    rw [trees, List.append_nil]
    exact hfile
  | cons r rs ih =>
    rw [List.flatMap_cons, calls_append, trees]
    have hnext := calls_record clock l (hproper r (List.mem_cons_self ..))
    rw [hnext, ih (fun r hr => hproper r (List.mem_cons_of_mem _ hr)) (bs ++ [r.tree clock l])]
    · simp
    · show l.file ++ l.ending ++ document (r.tree clock l) = _
      have hending : l.ending = if bs = [] then [] else line 0 "\n..." := by
        rw [ending, hid]
        cases bs <;> simp
      rw [hfile, hending, stream, stream, documents_append_singleton]
      simp only [List.append_assoc]
    · show l.reportId + 1 = _
      rw [hid, List.length_append, List.length_singleton]

end ProfileLogger

end VhalClient.Display
