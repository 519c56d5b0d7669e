/-
# VhalClient.Emulator.Decoding — the parser undoes the logger.

For a documented YAML library each `decode` function of the parser returns the struct the logger wrote, as long
as the numbers survive their format: an unsigned number from 2^31 on is printed with `%d` as a negative one.
(The magic number of a handle is printed with `%u`.)
`Small` says that none of the numbers of a struct is that large.  One lemma for each struct; the last section puts
the metadata of a document together with its body.
-/
import VhalClient.Display.SessionLog
import VhalClient.Display.Messages
import VhalClient.Emulator.YmlParser

namespace VhalClient.Display

/-- No number of the header is printed negative; the type is printed in hexadecimal. -/
structure DisplayEvent.Small (ev : DisplayEvent) : Prop where
  size : ev.size.toNat < 2 ^ 31
  id : ev.id.toNat < 2 ^ 31
  renderNode : ev.renderNode.toNat < 2 ^ 31

/-- The numbers in the metadata are all below a bound. -/
structure ProfileLogger.CountsBelow (l : ProfileLogger) (n : ℕ) : Prop where
  reportId : l.reportId < n
  createBuf : l.createBufEventCnt < n
  removeBuf : l.removeBufEventCnt < n
  displayReq : l.displayReqEventCnt < n
  changeResolution : l.changeResolutionCnt < n
  dispInfoReq : l.dispInfoReqEventCnt < n
  dispPortReq : l.dispPortReqEventCnt < n
  setAlpha : l.setAlphaCnt < n

def BufferInfo.Small (info : BufferInfo) : Prop := info.remoteHandle.toNat < 2 ^ 63

namespace CrosGrallocHandle

/-- The unsigned members that are printed with `%d`. -/
def unsigneds (h : CrosGrallocHandle) : List UInt32 :=
  h.strides.toList ++ h.offsets.toList ++ h.sizes.toList ++ h.formatModifiers.toList ++ h.useFlags.toList ++
    [h.width, h.height, h.format, h.tilingMode, h.pixelStride, h.consumerUsage, h.producerUsage,
      h.yuvColorRange, h.isUpdated, h.isEncoded, h.isEncrypted, h.isKeyFrame, h.isInterlaced, h.isMmcCapable,
      h.compressionMode, h.compressionHint, h.codec, h.alignedWidth, h.alignedHeight]

def Small (h : CrosGrallocHandle) : Prop := ∀ w ∈ h.unsigneds, w.toNat < 2 ^ 31

end CrosGrallocHandle

/-- No number that is looked at is printed negative: the header is, if the buffer info came. -/
structure Parts.Small (p : Parts) (ev : DisplayEvent) : Prop where
  header : p.info.isSome → ev.Small
  info : ∀ info ∈ p.info, info.Small
  gralloc : ∀ handle ∈ p.gralloc, handle.Small

end VhalClient.Display

namespace VhalClient.Emulator

open VhalClient.Lib VhalClient.Lib.Yaml VhalClient.Display

variable {y : Loader}

/-! ## Numbers -/

section Decimals

variable (hy : y.ReadsDecimals)
include hy

theorem asUnsigned_fmtCount {n : ℕ} (h : n < 2 ^ 32) : y.asUnsigned (fmtCount n) = some (UInt32.ofNat n) :=
  hy.asUnsigned_decimal n h

theorem asUnsigned_fmtUnsigned (w : UInt32) : y.asUnsigned (fmtUnsigned w) = some w := by
  have hw := hy.asUnsigned_decimal w.toNat w.toNat_lt
  rwa [UInt32.ofNat_toNat] at hw

theorem asUnsigned_fmtWord {w : UInt32} (h : w.toNat < 2 ^ 31) : y.asUnsigned (fmtWord w) = some w := by
  have hint : w.toInt32.toInt = (w.toNat : ℤ) := toInt_toInt32 h
  rw [fmtWord, fmtInt, hint]
  exact asUnsigned_fmtUnsigned hy w

theorem asUnsignedLong_fmtLong {w : UInt64} (h : w.toNat < 2 ^ 63) : y.asUnsignedLong (fmtLong w) = some w := by
  have hint : w.toInt64.toInt = (w.toNat : ℤ) := by
    show w.toBitVec.toInt = _
    rw [BitVec.toInt_eq_toNat_of_lt (by simpa using Nat.mul_lt_mul_of_pos_left h Nat.two_pos)]
    rfl
  rw [fmtLong, hint]
  have hw := hy.asUnsignedLong_decimal w.toNat w.toNat_lt
  rw [UInt64.ofNat_toNat] at hw
  exact hw

end Decimals

variable (hy : y.Documented)
include hy

theorem asUnsigned_fmtHex (w : UInt32) : y.asUnsigned (fmtHex w) = some w := by
  have hw := hy.asUnsigned_hexadecimal w.toNat w.toNat_lt
  rwa [UInt32.ofNat_toNat] at hw

theorem asInt_fmtInt (i : Int32) : y.asInt (fmtInt i) = some i := by
  have hi := hy.asInt_decimal i.toInt i.le_toInt i.toInt_lt
  rwa [Int32.ofInt_toInt] at hi

omit hy

/-! ## Lookups -/

@[simp] theorem get_fields_cons (k v key : String) (fs : List (String × String)) (rest : Block) :
    (fields ((k, v) :: fs) rest).get key = if k = key then .scalar v else (fields fs rest).get key := rfl

@[simp] theorem get_fields_nil (key : String) (rest : Block) : (fields [] rest).get key = rest.get key := rfl

theorem mapM_map_eq_some {α : Type} {convert : String → Option α} {fmt : α → String} {as : List α}
    (h : ∀ a ∈ as, convert (fmt a) = some a) : (as.map fmt).mapM convert = some as := by
  induction as with
  | nil => rfl
  | cons a as ih =>
    rw [List.map_cons, List.mapM_cons, h a (List.mem_cons_self ..),
      ih fun a ha => h a (List.mem_cons_of_mem _ ha)]
    rfl

/-- A sequence of as many numbers as the array has elements replaces all of them. -/
theorem getSequence_map {α : Type} {n : ℕ} {convert : String → Option α} {fmt : α → String} (v dst : Vector α n)
    (h : ∀ a ∈ v.toList, convert (fmt a) = some a) :
    getSequence convert (.seq (v.toList.map fmt)) dst = some v := by
  simp only [getSequence, mapM_map_eq_some h]
  show some _ = some _
  congr 1
  ext i hi
  simp

include hy

theorem getSequence_words {n : ℕ} {ws : Vector UInt32 n} (dst : Vector UInt32 n)
    (h : ∀ w ∈ ws.toList, w.toNat < 2 ^ 31) :
    getSequence y.asUnsigned (.seq ((asInts ws).map fmtInt)) dst = some ws := by
  have hfmt : (asInts ws).map fmtInt = ws.toList.map fmtWord := by
    rw [asInts, List.map_map]
    rfl
  rw [hfmt]
  exact getSequence_map ws dst fun w hw => asUnsigned_fmtWord hy.toReadsDecimals (h w hw)

/-! ## Structs -/

theorem decodeDisplayEvent_tree {ev : DisplayEvent} (hev : ev.Small) (rest : Block) (init : DisplayEvent) :
    decodeDisplayEvent y ((Tree.displayEvent ev rest).get "display_event_t") init = some (true, ev) := by
  simp [decodeDisplayEvent, Tree.displayEvent, Block.get, Node.isMap, unsigned, Loader.scalarAs, Node.get,
    asUnsigned_fmtHex hy, asUnsigned_fmtWord hy.toReadsDecimals hev.size, asUnsigned_fmtWord hy.toReadsDecimals hev.id,
    asUnsigned_fmtWord hy.toReadsDecimals hev.renderNode]

theorem decodeBufferInfo_tree {info : BufferInfo} (hinfo : info.Small) (rest : Block) (init : BufferInfo) :
    decodeBufferInfo y ((Tree.bufferInfo info rest).get "buffer_info_t") init = some (true, info) := by
  simp [decodeBufferInfo, Tree.bufferInfo, Block.get, Node.isMap, unsignedLong, Loader.scalarAs, Node.get,
    asUnsignedLong_fmtLong hy.toReadsDecimals hinfo]

theorem decodeGrallocHandle_tree {handle : CrosGrallocHandle} (hsmall : handle.Small) (rest : Block)
    (init : CrosGrallocHandle) :
    decodeGrallocHandle y ((Tree.grallocHandle handle rest).get "cros_gralloc_handle_t") init =
      some (true, handle) := by
  have hword (w : UInt32) (hw : w ∈ handle.unsigneds) : y.asUnsigned (fmtWord w) = some w :=
    asUnsigned_fmtWord hy.toReadsDecimals (hsmall w hw)
  have hseq {n : ℕ} (ws dst : Vector UInt32 n) (hws : ws.toList ⊆ handle.unsigneds) :
      getSequence y.asUnsigned (.seq ((asInts ws).map fmtInt)) dst = some ws :=
    getSequence_words hy dst fun w hw => hsmall w (hws hw)
  have hfds (dst : Vector Int32 4) : getSequence y.asInt (.seq (handle.fds.toList.map fmtInt)) dst =
      some handle.fds :=
    getSequence_map _ _ fun i _ => asInt_fmtInt hy i
  have hstrides := fun dst => hseq handle.strides dst fun w hw => by simp [CrosGrallocHandle.unsigneds, hw]
  have hoffsets := fun dst => hseq handle.offsets dst fun w hw => by simp [CrosGrallocHandle.unsigneds, hw]
  have hsizes := fun dst => hseq handle.sizes dst fun w hw => by simp [CrosGrallocHandle.unsigneds, hw]
  have hmodifiers := fun dst =>
    hseq handle.formatModifiers dst fun w hw => by simp [CrosGrallocHandle.unsigneds, hw]
  have hflags := fun dst => hseq handle.useFlags dst fun w hw => by simp [CrosGrallocHandle.unsigneds, hw]
  simp [decodeGrallocHandle, Tree.grallocHandle, Tree.nativeHandle, Tree.words, Block.get, Node.isMap, Node.get,
    unsigned, int, Loader.scalarAs, asInt_fmtInt hy, asUnsigned_fmtUnsigned hy.toReadsDecimals, hfds, hstrides, hoffsets,
    hsizes, hmodifiers, hflags, hword, CrosGrallocHandle.unsigneds]

/-- The floats are not compared: reading them must not fail. -/
theorem decodeDisplayInfo_tree {info : DisplayInfo} (hwidth : info.width.toNat < 2 ^ 31)
    (hheight : info.height.toNat < 2 ^ 31) (hxdpi : PrintsFixed info.xdpi) (hydpi : PrintsFixed info.ydpi)
    (hfps : PrintsFixed info.fps) (rest : Block) (init : DisplayInfo) :
    ∃ info',
      decodeDisplayInfo y ((Tree.displayInfo info rest).get "display_info_t") init = some (true, info') := by
  have hfloat {bits : UInt32} (h : PrintsFixed bits) : ∃ value, y.asFloat (fmtFloat bits) = some value := by
    obtain ⟨n, hn, htext⟩ := h
    rw [htext]
    exact Option.isSome_iff_exists.mp (hy.asFloat_fixedPoint n hn)
  obtain ⟨x, hx⟩ := hfloat hxdpi
  obtain ⟨v, hv⟩ := hfloat hydpi
  obtain ⟨f, hf⟩ := hfloat hfps
  simp [decodeDisplayInfo, Tree.displayInfo, Block.get, Node.isMap, Node.get, unsigned, int, float,
    Loader.scalarAs, asUnsigned_fmtHex hy, asUnsigned_fmtWord hy.toReadsDecimals hwidth, asUnsigned_fmtWord hy.toReadsDecimals hheight,
    asInt_fmtInt hy, hx, hv, hf]

/-! ## Messages -/

omit hy in
theorem get_parts_info (p : Parts) : p.tree.get "buffer_info_t" =
    p.info.elim .undefined fun info => (Tree.bufferInfo info .nil).get "buffer_info_t" := by
  obtain ⟨_ | info, _ | gralloc, _ | ctrl⟩ := p <;>
    simp [Parts.tree, Tree.bufferInfo, Tree.grallocHandle, Tree.displayControl, Block.get]

omit hy in
theorem get_parts_gralloc (p : Parts) : p.tree.get "cros_gralloc_handle_t" =
    p.gralloc.elim .undefined fun handle => (Tree.grallocHandle handle .nil).get "cros_gralloc_handle_t" := by
  obtain ⟨_ | info, _ | gralloc, _ | ctrl⟩ := p <;>
    simp [Parts.tree, Tree.bufferInfo, Tree.grallocHandle, Tree.displayControl, Block.get]

/-- A header and the buffer info behind it; without the info the header is not looked at. -/
theorem decodeBufferInfoEvent_tree (ev : DisplayEvent) (more : Block) (info : Option BufferInfo)
    (hmore : more.get "buffer_info_t" =
      info.elim .undefined fun info => (Tree.bufferInfo info .nil).get "buffer_info_t")
    (hev : info.isSome → ev.Small) (hinfo : ∀ i ∈ info, i.Small) (rest : Block) (init : BufferInfoEvent) :
    decodeBufferInfoEvent y ((Tree.bufferInfoEvent ev more rest).get "buffer_info_event_t") init =
      some (info.elim (false, init) fun info => (true, ⟨ev, info⟩)) := by
  have hnode : (Tree.bufferInfoEvent ev more rest).get "buffer_info_event_t" =
      .map (fields [("struct_size", fmtCount sizeofBufferInfoEvent)] (Tree.displayEvent ev more)) := rfl
  have hheader : (Tree.displayEvent ev more).get "buffer_info_t" = more.get "buffer_info_t" := by
    simp [Tree.displayEvent, Block.get]
  cases info with
  | none =>
    rw [hnode]
    simp [decodeBufferInfoEvent, Node.isMap, Node.get, hheader, hmore]
  | some info =>
    have hmap : ((Tree.displayEvent ev more).get "display_event_t").isMap = true := by
      simp [Tree.displayEvent, Block.get, Node.isMap]
    have hinfoMap : ((Tree.bufferInfo info .nil).get "buffer_info_t").isMap = true := by
      simp [Tree.bufferInfo, Block.get, Node.isMap]
    rw [hnode]
    simp only [decodeBufferInfoEvent, Node.get, get_fields_cons, get_fields_nil, hheader, hmore, Option.elim,
      String.reduceEq, if_false, hmap, hinfoMap, Bool.true_eq_false, decodeDisplayEvent_tree hy (hev rfl),
      decodeBufferInfo_tree hy (hinfo info rfl)]
    rfl

/-- A `display_info_event_t` of the receiver itself. -/
theorem decodeDisplayInfoEvent_tree (ev : DisplayInfoEvent) (hev : ev.event.Small)
    (hwidth : ev.info.width.toNat < 2 ^ 31) (hheight : ev.info.height.toNat < 2 ^ 31)
    (hxdpi : PrintsFixed ev.info.xdpi) (hydpi : PrintsFixed ev.info.ydpi) (hfps : PrintsFixed ev.info.fps)
    (rest : Block) (init : DisplayInfoEvent) :
    ∃ ev', decodeDisplayInfoEvent y ((Tree.displayInfoEvent ev rest).get "display_info_event_t") init =
      some (true, ev') := by
  obtain ⟨info, hinfo⟩ := decodeDisplayInfo_tree hy hwidth hheight hxdpi hydpi hfps .nil
    (zeroed Layout.displayInfo)
  have hnode : (Tree.displayInfoEvent ev rest).get "display_info_event_t" =
      .map (fields [("struct_size", fmtCount Layout.displayInfoEvent.size)]
        (Tree.displayEvent ev.event (Tree.displayInfo ev.info .nil))) := rfl
  have hheader : (Tree.displayEvent ev.event (Tree.displayInfo ev.info .nil)).get "display_info_t" =
      (Tree.displayInfo ev.info .nil).get "display_info_t" := by
    simp [Tree.displayEvent, Block.get]
  have hmap : ((Tree.displayEvent ev.event (Tree.displayInfo ev.info .nil)).get "display_event_t").isMap =
      true := by
    simp [Tree.displayEvent, Block.get, Node.isMap]
  have hinfoMap : ((Tree.displayInfo ev.info .nil).get "display_info_t").isMap = true := by
    simp [Tree.displayInfo, Block.get, Node.isMap]
  refine ⟨⟨ev.event, info⟩, ?_⟩
  rw [hnode]
  simp only [decodeDisplayInfoEvent, Node.get, get_fields_cons, get_fields_nil, hheader, String.reduceEq,
    if_false, hmap, hinfoMap, Bool.true_eq_false, decodeDisplayEvent_tree hy hev, hinfo]
  rfl

/-! ## Documents -/

/-- The metadata the logger means. -/
def metadataOf (l : ProfileLogger) (now : Fin (2 ^ 63)) (type : LogEvent) : EventMetadata where
  eventType := getEventCode type.name
  direction := if type.isSendEvent then .receive else .send
  eventId := UInt32.ofNat l.reportId
  timeStampUs := UInt64.ofNat now
  counts :=
    ⟨UInt32.ofNat l.createBufEventCnt, UInt32.ofNat l.removeBufEventCnt, UInt32.ofNat l.displayReqEventCnt,
      UInt32.ofNat l.changeResolutionCnt, UInt32.ofNat l.dispInfoReqEventCnt, UInt32.ofNat l.dispPortReqEventCnt,
      UInt32.ofNat l.setAlphaCnt⟩

theorem decodeMetadata_tree {l : ProfileLogger} (hl : l.CountsBelow (2 ^ 32)) (now : Fin (2 ^ 63))
    (type : LogEvent) (rest : Block) (init : EventMetadata) :
    decodeMetadata y ((Tree.metadata l now type rest).get "metadata") init =
      some (true, metadataOf l now type) := by
  have hnow : y.asUnsignedLong (fmtCount now) = some (UInt64.ofNat now) :=
    hy.asUnsignedLong_decimal now (by have := now.isLt; omega)
  have hdirection : flipDirection (if type.isSendEvent then "send" else "receive") =
      if type.isSendEvent then .receive else .send := by
    cases type.isSendEvent <;> decide
  simp [decodeMetadata, decodeCounts, Tree.metadata, Block.get, Node.isMap, Node.get, ifScalar, unsigned,
    Loader.scalarAs, hnow, hdirection, asUnsigned_fmtCount hy.toReadsDecimals hl.reportId, asUnsigned_fmtCount hy.toReadsDecimals hl.createBuf,
    asUnsigned_fmtCount hy.toReadsDecimals hl.removeBuf, asUnsigned_fmtCount hy.toReadsDecimals hl.displayReq,
    asUnsigned_fmtCount hy.toReadsDecimals hl.changeResolution, asUnsigned_fmtCount hy.toReadsDecimals hl.dispInfoReq,
    asUnsigned_fmtCount hy.toReadsDecimals hl.dispPortReq, asUnsigned_fmtCount hy.toReadsDecimals hl.setAlpha, metadataOf]

omit hy in
theorem decodePayload_metadata (l : ProfileLogger) (now : Fin (2 ^ 63)) (type : LogEvent) (body : Block)
    (eventType : UInt32) :
    decodePayload y (.map (Tree.metadata l now type body)) eventType = decodePayload y (.map body) eventType := by
  simp [decodePayload, Tree.metadata, Node.get, Block.get]

/-- **A document of the log** decodes to the metadata the logger means and to what its body holds for the event
they name. -/
theorem decodeNode_tree {clock : ℕ → Fin (2 ^ 63)} {l : ProfileLogger} {r : Record}
    (hl : (r.counted l).CountsBelow (2 ^ 32)) {status : Option AicError} {payload : List Struct}
    (hpayload : decodePayload y (.map r.body) (getEventCode r.event.name) = some (status, payload)) :
    decodeNode y (.map (r.tree clock l)) =
      some ⟨status, payload, metadataOf (r.counted l) (clock l.reportId) r.event⟩ := by
  set entries := Tree.metadata (r.counted l) (clock l.reportId) r.event r.body with hentries
  have hevent : (Node.map (r.tree clock l)).get "event" = .map entries := rfl
  have hsubscript : (Node.map entries).subscript "metadata" = some (entries.get "metadata") := rfl
  have hmap : (entries.get "metadata").isMap = true := by
    simp [hentries, Tree.metadata, Block.get, Node.isMap]
  have hdecoded : decodeMetadata y (entries.get "metadata") .zero =
      some (true, metadataOf (r.counted l) (clock l.reportId) r.event) :=
    decodeMetadata_tree hy hl _ _ _ _
  have hpayload' : decodePayload y (.map entries)
      (metadataOf (r.counted l) (clock l.reportId) r.event).eventType = some (status, payload) :=
    (decodePayload_metadata _ _ _ _ _).trans hpayload
  rw [decodeNode, if_neg (by simp [Node.isMap]), hevent]
  simp [hsubscript, hmap, hdecoded, hpayload']

/-! ## Payloads -/

omit hy

theorem body_of_buffer {ev : DisplayEvent} {parts : Parts}
    (h : ProfileLogger.isBufferInfoEvent (translateEvType ev.type) = true) :
    (Record.received ev parts).body = Tree.bufferInfoEvent ev parts.tree .nil := if_pos h

/-- What is decoded of a message about a buffer: nothing, unless the buffer info came. -/
def headersOf (ev : DisplayEvent) (p : Parts) : BufferInfoEvent :=
  p.info.elim (zeroed Layout.bufferInfoEvent) fun info => ⟨ev, info⟩

include hy
variable {ev : DisplayEvent} {p : Parts}

theorem decodeBufferInfoEvent_parts (hp : p.Small ev) :
    ∃ ok, decodeBufferInfoEvent y ((Tree.bufferInfoEvent ev p.tree .nil).get "buffer_info_event_t")
      (zeroed Layout.bufferInfoEvent) = some (ok, headersOf ev p) := by
  rw [decodeBufferInfoEvent_tree hy _ _ _ (get_parts_info p) hp.header hp.info, headersOf]
  cases p.info with
  | none => exact ⟨false, rfl⟩
  | some info => exact ⟨true, rfl⟩

omit hy in
/-- The two types that carry a buffer alone. -/
theorem decodePayload_buffer {type : UInt32} (htype : type = evRemoveBuffer ∨ type = evDisplayAck) {node : Node}
    {ok : Bool} {ev : BufferInfoEvent}
    (h : decodeBufferInfoEvent y (node.get "buffer_info_event_t") (zeroed Layout.bufferInfoEvent) = some (ok, ev)) :
    decodePayload y node type = some (none, [.bufferInfoEvent ev]) := by
  rcases htype with rfl | rfl
  all_goals
    rw [decodePayload, if_neg (by decide), if_neg (by decide), if_neg (by decide), if_pos (by decide), h]
    rfl

omit hy in
/-- The two types that carry the sizes of a display. -/
theorem decodePayload_info {type : UInt32} (htype : type = evDispInfoAck ∨ type = evSetupResolution) {node : Node}
    {ok : Bool} {ev : DisplayInfoEvent}
    (h : decodeDisplayInfoEvent y (node.get "display_info_event_t") (zeroed Layout.displayInfoEvent) =
      some (ok, ev)) :
    decodePayload y node type = some (none, [.displayInfoEvent ev]) := by
  have hnot : ¬ (type = evDispInfoReq ∨ type = evDispPortReq) := by
    rcases htype with rfl | rfl <;> decide
  rw [decodePayload, if_neg hnot, if_pos htype, h]
  rfl

theorem decodePayload_createBuffer (htype : ev.type = evCreateBuffer) (hp : p.Small ev) :
    decodePayload y (.map (Record.received ev p).body) evCreateBuffer =
      some (none, [.bufferInfoEvent (headersOf ev p),
        .grallocHandle (p.gralloc.elim (zeroed Layout.crosGrallocHandle) id)]) := by
  obtain ⟨ok, hheaders⟩ := decodeBufferInfoEvent_parts hy hp
  have hgralloc : ∃ ok, decodeGrallocHandle y (p.tree.get "cros_gralloc_handle_t")
      (zeroed Layout.crosGrallocHandle) =
        some (ok, p.gralloc.elim (zeroed Layout.crosGrallocHandle) id) := by
    rw [get_parts_gralloc]
    rcases hopt : p.gralloc with _ | handle
    · exact ⟨false, rfl⟩
    · exact ⟨true, decodeGrallocHandle_tree hy (hp.gralloc handle hopt) _ _⟩
  obtain ⟨ok', hgralloc⟩ := hgralloc
  have hsubscript : ((Tree.bufferInfoEvent ev p.tree .nil).get "buffer_info_event_t").subscript
      "cros_gralloc_handle_t" = some (p.tree.get "cros_gralloc_handle_t") := by
    simp [Tree.bufferInfoEvent, Tree.displayEvent, Block.get, Node.subscript, Node.get]
  rw [body_of_buffer (by rw [htype]; rfl), decodePayload, if_neg (by decide), if_neg (by decide),
    if_pos rfl]
  simp only [Node.get, hheaders, hsubscript, hgralloc, Option.bind_eq_bind, Option.bind_some]
  rfl

theorem decodePayload_removeBuffer (htype : ev.type = evRemoveBuffer) (hp : p.Small ev) :
    decodePayload y (.map (Record.received ev p).body) evRemoveBuffer =
      some (none, [.bufferInfoEvent (headersOf ev p)]) := by
  obtain ⟨ok, hheaders⟩ := decodeBufferInfoEvent_parts hy hp
  rw [body_of_buffer (by rw [htype]; rfl)]
  exact decodePayload_buffer (.inl rfl) hheaders

/-- The control block of the log is inside `buffer_info_event_t`, where it is not looked for. -/
theorem decodePayload_displayReq (htype : ev.type = evDisplayReq) (hp : p.Small ev) :
    decodePayload y (.map (Record.received ev p).body) evDisplayReq =
      some (none, [.bufferInfoEvent (headersOf ev p)]) := by
  obtain ⟨ok, hheaders⟩ := decodeBufferInfoEvent_parts hy hp
  have hctrl : (Tree.bufferInfoEvent ev p.tree .nil).get "display_control_t" = .undefined := by
    simp [Tree.bufferInfoEvent, Block.get]
  rw [body_of_buffer (by rw [htype]; rfl), decodePayload, if_neg (by decide), if_neg (by decide),
    if_neg (by decide), if_neg (by decide), if_pos rfl]
  simp only [Node.get, hheaders, hctrl, Option.bind_eq_bind, Option.bind_some]
  split <;> rfl

theorem decodePayload_displayEvent (htype : ev.type = evDispInfoReq ∨ ev.type = evDispPortReq) (hev : ev.Small) :
    decodePayload y (.map (Record.received ev p).body) ev.type = some (none, [.displayEvent ev]) := by
  have hbody : (Record.received ev p).body = Tree.displayEvent ev .nil := by
    rcases htype with htype | htype <;> rw [Record.body, htype] <;> rfl
  rw [hbody, decodePayload, if_pos htype]
  simp only [Node.get, decodeDisplayEvent_tree hy hev, Option.bind_eq_bind, Option.bind_some]
  rfl

omit hy

theorem small_header (type : UInt32) {size : ℕ} (hsize : size < 2 ^ 31) : (Impl.header type size).Small where
  size := by
    show size % 2 ^ 32 < 2 ^ 31
    omega
  id := by
    show (0 : UInt32).toNat < 2 ^ 31
    decide
  renderNode := by
    show (0 : UInt32).toNat < 2 ^ 31
    decide

theorem toNat_lt_of_nonneg {i : Int32} (h : 0 ≤ i) : i.toUInt32.toNat < 2 ^ 31 := by
  have hnonneg : 0 ≤ i.toBitVec.toInt := Int32.le_iff_toInt_le.mp h
  have hcond := BitVec.toInt_eq_toNat_cond i.toBitVec
  have hlt := i.toBitVec.isLt
  show i.toBitVec.toNat < 2 ^ 31
  split at hcond <;> omega

include hy

/-- The first message of the receiver itself. -/
theorem decodePayload_dispInfoAck {cfg : Config} (hwidth : 0 ≤ cfg.videoResWidth)
    (hheight : 0 ≤ cfg.videoResHeight) :
    ∃ ev, decodePayload y (.map (Reply.dispInfoAck cfg).tree) evDispInfoAck =
      some (none, [.displayInfoEvent ev]) := by
  obtain ⟨ev, hev⟩ := decodeDisplayInfoEvent_tree hy (Reply.dispInfoAckEvent cfg)
    (small_header _ (by decide)) (toNat_lt_of_nonneg hwidth) (toNat_lt_of_nonneg hheight) printsFixed_240
    printsFixed_240 printsFixed_60 .nil (zeroed Layout.displayInfoEvent)
  exact ⟨ev, decodePayload_info (.inl rfl) hev⟩

theorem decodePayload_setupResolution {width height : Int32} (hwidth : 0 ≤ width) (hheight : 0 ≤ height) :
    ∃ ev, decodePayload y (.map (Reply.setupResolution width height).tree) evSetupResolution =
      some (none, [.displayInfoEvent ev]) := by
  obtain ⟨ev, hev⟩ := decodeDisplayInfoEvent_tree hy (Reply.setupResolutionEvent width height)
    (small_header _ (by decide)) (toNat_lt_of_nonneg hwidth) (toNat_lt_of_nonneg hheight) printsFixed_zero
    printsFixed_zero printsFixed_zero .nil (zeroed Layout.displayInfoEvent)
  exact ⟨ev, decodePayload_info (.inr rfl) hev⟩

theorem decodePayload_displayAck {info : BufferInfo} (hinfo : info.Small) :
    decodePayload y (.map (Reply.displayAck info).tree) evDisplayAck =
      some (none, [.bufferInfoEvent (Reply.displayAckEvent info)]) := by
  have hev := decodeBufferInfoEvent_tree hy (Reply.displayAckEvent info).event
    (Tree.bufferInfo info .nil) (some info) rfl (fun _ => small_header _ (by decide))
    (fun i hi => Option.mem_some.mp hi ▸ hinfo) .nil (zeroed Layout.bufferInfoEvent)
  exact decodePayload_buffer (.inr rfl) hev

end VhalClient.Emulator
