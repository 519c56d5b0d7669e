/-
# VhalClient.Emulator.SentMessages — what the emulator sends for a document, and what the document says.

Which message is sent depends on the event the metadata name; its bytes are those of the structs that were
decoded, whether or not they could be.  `Consistent` is one message that is the document's own: of the type the
metadata name, with the fields of the document's nodes, and as long as its header says.
`processNextEntry_consistent_iff` has the documents for which it is (`Complete`), and `sentFor_runAll` what a run
over such documents sends.

The sequences of a handle may have any length here, so the handle is decoded in memory (`Sequences`); while they
fit their arrays the entry is the one of `YmlParser` (`processNextEntry_of_within`).
-/
import VhalClient.Emulator.Exchange
import VhalClient.Emulator.Sequences

namespace VhalClient.Emulator

open VhalClient.Lib VhalClient.Lib.Yaml VhalClient.Lib.Checked VhalClient.Display
open Sequences (nodeApi grallocFields crosGrallocHandle handleAt)

/-! ## Documents with sequences of any length -/

/-- The body of `DecodeNode`, with what it makes of the event. -/
def decodeNodeWith (y : Loader) (payload : Node → UInt32 → Option (Option AicError × List Struct))
    (rootNode : Node) : Option Decoded :=
  if rootNode.isMap = false then some ⟨some .ymlParser, [], .zero⟩
  else do
    let node := rootNode.get "event"
    let metadataNode ← node.subscript "metadata"
    if metadataNode.isMap = false then return ⟨some .ymlParser, [], .zero⟩
    let (_, metadata) ← decodeMetadata y metadataNode .zero
    let (status, payload) ← payload node metadata.eventType
    return ⟨status, payload, metadata⟩

theorem decodeNodeWith_decodePayload (y : Loader) : decodeNodeWith y (decodePayload y) = decodeNode y := rfl

/-- The documents that one way of decoding the event takes, another that agrees with it takes too. -/
theorem decodeNodeWith_of_imp {y : Loader}
    {payload payload' : Node → UInt32 → Option (Option AicError × List Struct)} {rootNode : Node}
    (himp : ∀ eventType r, payload (rootNode.get "event") eventType = some r →
      payload' (rootNode.get "event") eventType = some r)
    {decoded : Decoded} (h : decodeNodeWith y payload rootNode = some decoded) :
    decodeNodeWith y payload' rootNode = some decoded := by
  unfold decodeNodeWith at h ⊢
  by_cases hroot : rootNode.isMap = false
  · rw [if_pos hroot] at h ⊢
    exact h
  rw [if_neg hroot] at h ⊢
  obtain ⟨metadataNode, hnode, h⟩ := Option.bind_eq_some_iff.mp h
  refine Option.bind_eq_some_iff.mpr ⟨metadataNode, hnode, ?_⟩
  by_cases hmap : metadataNode.isMap = false
  · rw [if_pos hmap] at h ⊢
    exact h
  rw [if_neg hmap] at h ⊢
  obtain ⟨metadata, hmetadata, h⟩ := Option.bind_eq_some_iff.mp h
  obtain ⟨r, hpayload, h⟩ := Option.bind_eq_some_iff.mp h
  exact Option.bind_eq_some_iff.mpr ⟨metadata, hmetadata,
    Option.bind_eq_some_iff.mpr ⟨r, himp _ r hpayload, h⟩⟩

namespace InMemory

section Decode

variable (y : Loader) (behind : ℕ → UInt32)

/-- A value-initialised `cros_gralloc_handle` of 51 words, and what lies behind it. -/
def fresh (i : ℕ) : UInt32 := if i < 51 then 0 else behind (i - 51)

/-- The case of `CREATE_BUFFER`. -/
def decodeCreateBuffer (node : Node) : Option (Option AicError × List Struct) := do
  let createBufferNode := node.get "buffer_info_event_t"
  let (_, headers) ← decodeBufferInfoEvent y createBufferNode (zeroed Layout.bufferInfoEvent)
  let handleNode ← createBufferNode.subscript "cros_gralloc_handle_t"
  match Sequences.decodeGrallocHandle (nodeApi y) handleNode ⟨fresh behind, []⟩ with
  | .error _ _ => none
  | .ok _ o => some (none, [.bufferInfoEvent headers, .grallocHandle (handleAt o.words)])

/-- The handle is the only struct to be sent that has sequences. -/
def decodePayload (node : Node) (eventType : UInt32) : Option (Option AicError × List Struct) :=
  if eventType = evCreateBuffer then decodeCreateBuffer y behind node
  else Emulator.decodePayload y node eventType

def processNode (env : Surroundings) (rootNode : Node) : Command Unit :=
  match decodeNodeWith y (decodePayload y behind) rootNode with
  | none => throw (.aic .ymlParser)
  | some decoded => CmdHandler.dataExchange env decoded.payload decoded.metadata.toMetadata

/-- `ProcessNextEntry`, with the documents that are left then. -/
def processNextEntry (env : Surroundings) : List Node → Command Unit × List Node
  | [] => (throw (.aic .eof), [])
  | rootNode :: nodes => (processNode y behind env rootNode, nodes)

theorem handleAt_fresh : handleAt (fresh behind) = zeroed Layout.crosGrallocHandle := rfl

variable {y behind} {node : Node} {eventType : UInt32} {status : Option AicError} {payload : List Struct}

/-- The payload of a `CREATE_BUFFER`. -/
theorem decodeCreateBuffer_eq_some (h : decodeCreateBuffer y behind node = some (status, payload)) :
    ∃ okHeaders headers okHandle o,
      decodeBufferInfoEvent y (node.get "buffer_info_event_t") (zeroed Layout.bufferInfoEvent) =
        some (okHeaders, headers) ∧
      (node.get "buffer_info_event_t").subscript "cros_gralloc_handle_t" =
        some ((node.get "buffer_info_event_t").get "cros_gralloc_handle_t") ∧
      Sequences.decodeGrallocHandle (nodeApi y) ((node.get "buffer_info_event_t").get "cros_gralloc_handle_t")
        ⟨fresh behind, []⟩ = .ok okHandle o ∧
      status = none ∧ payload = [.bufferInfoEvent headers, .grallocHandle (handleAt o.words)] := by
  obtain ⟨⟨okHeaders, headers⟩, hheaders, h⟩ := Option.bind_eq_some_iff.mp h
  obtain ⟨handleNode, hnode, h⟩ := Option.bind_eq_some_iff.mp h
  obtain rfl := Node.get_of_subscript hnode
  cases hhandle : Sequences.decodeGrallocHandle (nodeApi y)
      ((node.get "buffer_info_event_t").get "cros_gralloc_handle_t") ⟨fresh behind, []⟩ with
  | error e o =>
    rw [hhandle] at h
    cases h
  | ok okHandle o =>
    rw [hhandle] at h
    cases h
    exact ⟨okHeaders, headers, okHandle, o, hheaders, hnode, rfl, rfl, rfl⟩

/-- The payload of a `DISPINFO_REQ` or a `DISPPORT_REQ`. -/
theorem decodePayload_request (hcode : eventType = evDispInfoReq ∨ eventType = evDispPortReq)
    (h : decodePayload y behind node eventType = some (status, payload)) :
    ∃ ok ev, decodeDisplayEvent y (node.get "display_event_t") (zeroed Layout.displayEvent) = some (ok, ev) ∧
      payload = [.displayEvent ev] := by
  have hcreate : ¬ eventType = evCreateBuffer := by
    rcases hcode with rfl | rfl <;> decide
  unfold decodePayload Emulator.decodePayload at h
  rw [if_neg hcreate, if_pos hcode] at h
  obtain ⟨⟨ok, ev⟩, hev, h⟩ := Option.bind_eq_some_iff.mp h
  cases h
  exact ⟨ok, ev, hev, rfl⟩

/-- The payload of a `REMOVE_BUFFER`. -/
theorem decodePayload_removeBuffer (h : decodePayload y behind node evRemoveBuffer = some (status, payload)) :
    ∃ ok ev, decodeBufferInfoEvent y (node.get "buffer_info_event_t") (zeroed Layout.bufferInfoEvent) =
      some (ok, ev) ∧ payload = [.bufferInfoEvent ev] := by
  unfold decodePayload Emulator.decodePayload at h
  rw [if_neg (by decide), if_neg (by decide), if_neg (by decide), if_neg (by decide), if_pos (by decide)] at h
  obtain ⟨⟨ok, ev⟩, hev, h⟩ := Option.bind_eq_some_iff.mp h
  cases h
  exact ⟨ok, ev, hev, rfl⟩

/-- The payload of a `DISPLAY_REQ`: the control block is there if it was asked for and could be decoded. -/
theorem decodePayload_displayReq (h : decodePayload y behind node evDisplayReq = some (status, payload)) :
    ∃ ok ev, decodeBufferInfoEvent y (node.get "buffer_info_event_t") (zeroed Layout.bufferInfoEvent) =
      some (ok, ev) ∧
      (payload = [.bufferInfoEvent ev] ∨
        ∃ ctrl, decodeDisplayCtrl y (node.get "display_control_t") (zeroed Layout.displayControl) =
          some (true, ctrl) ∧ payload = [.bufferInfoEvent ev, .displayControl ctrl]) := by
  unfold decodePayload Emulator.decodePayload at h
  rw [if_neg (by decide), if_neg (by decide), if_neg (by decide), if_neg (by decide), if_neg (by decide),
    if_pos rfl] at h
  obtain ⟨⟨ok, ev⟩, hev, h⟩ := Option.bind_eq_some_iff.mp h
  refine ⟨ok, ev, hev, ?_⟩
  dsimp only at h
  by_cases hctrl : CmdHandler.HasCtrl ev.event.size
  · rw [if_pos hctrl] at h
    obtain ⟨⟨okCtrl, ctrl⟩, hdecode, h⟩ := Option.bind_eq_some_iff.mp h
    cases okCtrl with
    | true =>
      cases h
      exact Or.inr ⟨ctrl, hdecode, rfl⟩
    | false =>
      cases h
      exact Or.inl rfl
  · rw [if_neg hctrl] at h
    cases h
    exact Or.inl rfl

/-- A payload that is decoded within the arrays of its handle is decoded as `YmlParser` has it. -/
theorem decodePayload_of_within
    (hwithin : (left (Sequences.decodeGrallocHandle (nodeApi y)
      ((node.get "buffer_info_event_t").get "cros_gralloc_handle_t") ⟨fresh behind, []⟩)).Within crosGrallocHandle)
    (h : decodePayload y behind node eventType = some (status, payload)) :
    Emulator.decodePayload y node eventType = some (status, payload) := by
  unfold decodePayload at h
  by_cases hcreate : eventType = evCreateBuffer
  swap
  · rwa [if_neg hcreate] at h
  subst hcreate
  rw [if_pos rfl] at h
  obtain ⟨okHeaders, headers, okHandle, o, hheaders, hnode, hhandle, rfl, rfl⟩ := decodeCreateBuffer_eq_some h
  have hgralloc : ∃ ok, Emulator.decodeGrallocHandle y
      ((node.get "buffer_info_event_t").get "cros_gralloc_handle_t") (zeroed Layout.crosGrallocHandle) =
      some (ok, handleAt o.words) := by
    rw [← handleAt_fresh behind]
    cases okHandle with
    | true => exact ⟨true, Sequences.decodeGrallocHandle_words hwithin hhandle⟩
    | false =>
      obtain ⟨rfl, hrefused⟩ := Sequences.decodeGrallocHandle_of_refused hhandle
      exact ⟨false, hrefused _⟩
  obtain ⟨ok, hgralloc⟩ := hgralloc
  unfold Emulator.decodePayload
  rw [if_neg (by decide), if_neg (by decide), if_pos rfl]
  simp only [hheaders, hnode, hgralloc, Option.bind_eq_bind, Option.bind_some]
  rfl

/-- **A document that is decoded within the arrays of its handle is the entry `YmlParser` has.** -/
theorem processNextEntry_of_within {rootNode : Node}
    (hwithin : (left (Sequences.decodeGrallocHandle (nodeApi y)
      (((rootNode.get "event").get "buffer_info_event_t").get "cros_gralloc_handle_t")
      ⟨fresh behind, []⟩)).Within crosGrallocHandle)
    {decoded : Decoded} (h : decodeNodeWith y (decodePayload y behind) rootNode = some decoded)
    (env : Surroundings) (nodes : List Node) :
    processNextEntry y behind env (rootNode :: nodes) = CmdHandler.processNextEntry y env (rootNode :: nodes) := by
  have hnode : decodeNode y rootNode = some decoded := by
    rw [← decodeNodeWith_decodePayload]
    exact decodeNodeWith_of_imp (fun _ _ hr => decodePayload_of_within hwithin hr) h
  rw [processNextEntry, CmdHandler.processNextEntry, processNode, CmdHandler.processNode, h, hnode]

end Decode

end InMemory

/-! ## What a document says -/

/-- The code of the event that the metadata name. -/
def eventCode (rootNode : Node) : UInt32 :=
  match ((rootNode.get "event").get "metadata").get "eventName" with
  | .scalar text => getEventCode text
  | _ => 0

/-- The event has a `buffer_info_event_t`, and its message a body. -/
def HasBody (code : UInt32) : Prop := code = evCreateBuffer ∨ code = evRemoveBuffer ∨ code = evDisplayReq

instance (code : UInt32) : Decidable (HasBody code) := inferInstanceAs (Decidable (_ ∨ _))

/-- The node of the header. -/
def headerNode (node : Node) (code : UInt32) : Node :=
  if HasBody code then (node.get "buffer_info_event_t").get "display_event_t" else node.get "display_event_t"

def infoNode (node : Node) : Node := (node.get "buffer_info_event_t").get "buffer_info_t"

def handleNode (node : Node) : Node := (node.get "buffer_info_event_t").get "cros_gralloc_handle_t"

section Says

variable (y : Loader)

/-- A header, but for its render node, is the one of a node. -/
structure GivesEvent (node : Node) (ev : DisplayEvent) : Prop where
  type : unsigned y (node.get "type") = some ev.type
  size : unsigned y (node.get "size") = some ev.size
  id : unsigned y (node.get "id") = some ev.id

def GivesInfo (node : Node) (info : BufferInfo) : Prop :=
  unsignedLong y (node.get "remote_handle") = some info.remoteHandle

/-- The handle is made of words that are, member by member, those of the member's own node. -/
def GivesHandle (node : Node) (gralloc : CrosGrallocHandle) : Prop :=
  ∃ words, gralloc = handleAt words ∧ ∀ f ∈ grallocFields,
    f.values (nodeApi y) (f.own (nodeApi y) node) =
      (List.range (crosGrallocHandle.length f.member)).map fun i =>
        some (words (crosGrallocHandle.offset f.member + i))

/-- The entries of a control block that go to bit fields, with the bits of each. -/
def controlBits : List (String × ℕ) := [("alpha", 1), ("top_layer", 1), ("rotation", 2), ("reserved", 28)]

structure GivesControl (node : Node) (ctrl : DisplayControl) : Prop where
  alpha : (unsigned y (node.get "alpha")).map UInt32.toNat = some ctrl.alpha.toNat
  topLayer : (unsigned y (node.get "top_layer")).map UInt32.toNat = some ctrl.topLayer.toNat
  rotation : (unsigned y (node.get "rotation")).map UInt32.toNat = some ctrl.rotation.toNat
  reserved : (unsigned y (node.get "reserved")).map UInt32.toNat = some ctrl.reserved.toNat
  left : short y ((node.get "viewport").get "l") = some ctrl.left
  top : short y ((node.get "viewport").get "t") = some ctrl.top
  right : short y ((node.get "viewport").get "r") = some ctrl.right
  bottom : short y ((node.get "viewport").get "b") = some ctrl.bottom

/-- A body is the one of the document; its descriptor is not the document's. -/
def GivesBody (node : Node) : Body → Prop
  | .dispInfoReq => True
  | .dispPortReq => True
  | .createBuffer info gralloc _ => GivesInfo y (infoNode node) info ∧ GivesHandle y (handleNode node) gralloc
  | .removeBuffer info => GivesInfo y (infoNode node) info
  | .displayReq info ctrl =>
    GivesInfo y (infoNode node) info ∧ ∀ c ∈ ctrl, GivesControl y (node.get "display_control_t") c

/-- The bytes of a body that carry the descriptor. -/
def carried : Body → List WireByte
  | .createBuffer _ _ fds => carrier fds
  | _ => []

/-- **One message, and the document's own**: what is written for an event of the given code. -/
structure Consistent (node : Node) (code : UInt32) (written : List WireByte) (m : Message) : Prop where
  wire : written = m.wire
  type : m.event.type = code
  body : m.body.type = code
  event : GivesEvent y (headerNode node code) m.event
  given : GivesBody y node m.body
  size : HasBody code → m.event.size.toNat + (carried m.body).length = m.wire.length

/-- **The documents that say all of their message**: the header says which it is and how long; the nodes of the
structs are there, the sequences as long as the arrays and the bits in range. -/
structure Complete (node : Node) (code : UInt32) : Prop where
  type : unsigned y ((headerNode node code).get "type") = some code
  info : HasBody code → (infoNode node).isMap = true
  createSize : code = evCreateBuffer → unsigned y ((headerNode node code).get "size") = some 228
  removeSize : code = evRemoveBuffer → unsigned y ((headerNode node code).get "size") = some 24
  displaySize : code = evDisplayReq →
    unsigned y ((headerNode node code).get "size") = some 24 ∨
    (unsigned y ((headerNode node code).get "size") = some 36 ∧
      ∀ bits ∈ controlBits, ∀ w, unsigned y ((node.get "display_control_t").get bits.1) = some w →
        w.toNat < 2 ^ bits.2)
  sequences : code = evCreateBuffer → ∀ f ∈ grallocFields, f.sequence = true →
    ∃ items, f.own (nodeApi y) (handleNode node) = .seq items ∧
      items.length = crosGrallocHandle.length f.member

end Says

/-! ## The size of a message -/

/-- The bytes of the header and of the structs behind it. -/
def structBytes : Body → ℕ
  | .dispInfoReq => 16
  | .dispPortReq => 16
  | .createBuffer _ _ _ => 228
  | .removeBuffer _ => 24
  | .displayReq _ none => 24
  | .displayReq _ (some _) => 36

theorem length_wire_eq (m : Message) : m.wire.length = structBytes m.body + (carried m.body).length := by
  obtain ⟨ev, body⟩ := m
  rw [Message.length_wire]
  rcases body with _ | _ | ⟨info, gralloc, fds⟩ | info | ⟨info, _ | ctrl⟩
  case createBuffer =>
    show 244 = 228 + (carrier fds).length
    rw [length_carrier]
  all_goals rfl

/-! ## A consistent message has a complete document -/

section OfConsistent

variable {y : Loader} {node : Node} {code : UInt32} {written : List WireByte} {m : Message}

/-- Only a map has entries. -/
theorem isMap_of_scalarAs {α : Type} {convert : String → Option α} {key : String} {a : α}
    (h : Loader.scalarAs convert (node.get key) = some a) : node.isMap = true := by
  cases node with
  | map entries => rfl
  | _ => cases h

/-- The node of an array that is given as a whole. -/
theorem exists_items_of_values {as : Node → Option UInt32} {n : ℕ} (hn : 0 < n) {word : ℕ → UInt32}
    (h : Sequences.sequenceValues (nodeApi y) as node = (List.range n).map fun i => some (word i)) :
    ∃ items, node = .seq items ∧ items.length = n := by
  have hlength := congrArg List.length h
  rw [List.length_map, List.length_range] at hlength
  cases node with
  | undefined =>
    have hnone : none ∈ (List.range n).map fun i => some (word i) := by
      rw [← h]
      exact List.mem_singleton_self _
    simp at hnone
  | scalar text => exact absurd hlength.symm hn.ne'
  | map entries => exact absurd hlength.symm hn.ne'
  | seq items =>
    refine ⟨items, rfl, ?_⟩
    simpa [Sequences.sequenceValues, nodeApi] using hlength

theorem GivesControl.fits {ctrl : DisplayControl} (h : GivesControl y node ctrl) :
    ∀ bits ∈ controlBits, ∀ w, unsigned y (node.get bits.1) = some w → w.toNat < 2 ^ bits.2 := by
  have hfit {entry : Option UInt32} {n : ℕ} {v : BitVec n} (hv : entry.map UInt32.toNat = some v.toNat)
      (w : UInt32) (hw : entry = some w) : w.toNat < 2 ^ n := by
    rw [hw] at hv
    rw [Option.some.inj hv]
    exact v.isLt
  simp only [controlBits, List.forall_mem_cons]
  exact ⟨hfit h.alpha, hfit h.topLayer, hfit h.rotation, hfit h.reserved, by simp⟩

theorem createBuffer_of_type {body : Body} (h : body.type = evCreateBuffer) :
    ∃ info gralloc fds, body = .createBuffer info gralloc fds := by
  cases body with
  | createBuffer info gralloc fds => exact ⟨info, gralloc, fds, rfl⟩
  | _ => exact absurd h (by rw [Body.type]; decide)

theorem removeBuffer_of_type {body : Body} (h : body.type = evRemoveBuffer) :
    ∃ info, body = .removeBuffer info := by
  cases body with
  | removeBuffer info => exact ⟨info, rfl⟩
  | _ => exact absurd h (by rw [Body.type]; decide)

theorem displayReq_of_type {body : Body} (h : body.type = evDisplayReq) :
    ∃ info ctrl, body = .displayReq info ctrl := by
  cases body with
  | displayReq info ctrl => exact ⟨info, ctrl, rfl⟩
  | _ => exact absurd h (by rw [Body.type]; decide)

namespace Consistent

variable (h : Consistent y node code written m)
include h

theorem info (hbody : HasBody code) : (infoNode node).isMap = true := by
  have hgiven := h.given
  rcases hbody with hcode | hcode | hcode
  · obtain ⟨info, gralloc, fds, hm⟩ := createBuffer_of_type (h.body.trans hcode)
    rw [hm] at hgiven
    exact isMap_of_scalarAs hgiven.1
  · obtain ⟨info, hm⟩ := removeBuffer_of_type (h.body.trans hcode)
    rw [hm] at hgiven
    exact isMap_of_scalarAs hgiven
  · obtain ⟨info, ctrl, hm⟩ := displayReq_of_type (h.body.trans hcode)
    rw [hm] at hgiven
    exact isMap_of_scalarAs hgiven.1

/-- The size that the header of a message with a body gives. -/
theorem unsigned_size (hbody : HasBody code) :
    unsigned y ((headerNode node code).get "size") = some (UInt32.ofNat (structBytes m.body)) := by
  have hsize := h.size hbody
  rw [length_wire_eq] at hsize
  rw [h.event.size, ← Nat.add_right_cancel hsize, UInt32.ofNat_toNat]

theorem createSize (hcode : code = evCreateBuffer) :
    unsigned y ((headerNode node code).get "size") = some 228 := by
  obtain ⟨info, gralloc, fds, hm⟩ := createBuffer_of_type (h.body.trans hcode)
  rw [h.unsigned_size (Or.inl hcode), hm]
  rfl

theorem removeSize (hcode : code = evRemoveBuffer) :
    unsigned y ((headerNode node code).get "size") = some 24 := by
  obtain ⟨info, hm⟩ := removeBuffer_of_type (h.body.trans hcode)
  rw [h.unsigned_size (Or.inr (Or.inl hcode)), hm]
  rfl

theorem displaySize (hcode : code = evDisplayReq) :
    unsigned y ((headerNode node code).get "size") = some 24 ∨
    (unsigned y ((headerNode node code).get "size") = some 36 ∧
      ∀ bits ∈ controlBits, ∀ w, unsigned y ((node.get "display_control_t").get bits.1) = some w →
        w.toNat < 2 ^ bits.2) := by
  obtain ⟨info, ctrl, hm⟩ := displayReq_of_type (h.body.trans hcode)
  have hgiven := h.given
  rw [hm] at hgiven
  rw [h.unsigned_size (Or.inr (Or.inr hcode)), hm]
  cases ctrl with
  | none => exact Or.inl rfl
  | some ctrl => exact Or.inr ⟨rfl, (hgiven.2 ctrl rfl).fits⟩

theorem sequences (hcode : code = evCreateBuffer) {f : Sequences.Field Sequences.GrallocMember}
    (hf : f ∈ grallocFields) (hseq : f.sequence = true) :
    ∃ items, f.own (nodeApi y) (handleNode node) = .seq items ∧
      items.length = crosGrallocHandle.length f.member := by
  obtain ⟨info, gralloc, fds, hm⟩ := createBuffer_of_type (h.body.trans hcode)
  have hgiven := h.given
  rw [hm] at hgiven
  obtain ⟨-, words, -, hwords⟩ := hgiven
  have hvalues := hwords f hf
  rw [Sequences.Field.values, hseq, if_pos rfl] at hvalues
  have hpos : 0 < crosGrallocHandle.length f.member := by cases f.member <;> decide
  exact exists_items_of_values hpos hvalues

theorem complete : Complete y node code where
  type := by rw [h.event.type, h.type]
  info := h.info
  createSize := h.createSize
  removeSize := h.removeSize
  displaySize := h.displaySize
  sequences hcode _ hf hseq := h.sequences hcode hf hseq

end Consistent

end OfConsistent

/-! ## A complete document is decoded to what it says -/

section OfComplete

variable {y : Loader} {node : Node}

theorem decodeDisplayEvent_gives {ev₀ ev : DisplayEvent} {ok : Bool}
    (h : decodeDisplayEvent y node ev₀ = some (ok, ev)) (hmap : node.isMap = true) : GivesEvent y node ev := by
  unfold decodeDisplayEvent at h
  rw [hmap, if_neg (by decide)] at h
  obtain ⟨type, htype, h⟩ := Option.bind_eq_some_iff.mp h
  obtain ⟨size, hsize, h⟩ := Option.bind_eq_some_iff.mp h
  obtain ⟨id, hid, h⟩ := Option.bind_eq_some_iff.mp h
  obtain ⟨renderNode, -, h⟩ := Option.bind_eq_some_iff.mp h
  cases h
  exact ⟨htype, hsize, hid⟩

theorem decodeBufferInfo_gives {info₀ info : BufferInfo} {ok : Bool}
    (h : decodeBufferInfo y node info₀ = some (ok, info)) (hmap : node.isMap = true) :
    GivesInfo y node info := by
  unfold decodeBufferInfo at h
  rw [hmap, if_neg (by decide)] at h
  obtain ⟨remoteHandle, hremote, h⟩ := Option.bind_eq_some_iff.mp h
  cases h
  exact hremote

theorem decodeBufferInfoEvent_gives {ev₀ ev : BufferInfoEvent} {ok : Bool}
    (h : decodeBufferInfoEvent y node ev₀ = some (ok, ev)) (hevent : (node.get "display_event_t").isMap = true)
    (hinfo : (node.get "buffer_info_t").isMap = true) :
    GivesEvent y (node.get "display_event_t") ev.event ∧ GivesInfo y (node.get "buffer_info_t") ev.info := by
  have hmap : node.isMap = true := by
    cases node with
    | map entries => rfl
    | _ => cases hevent
  unfold decodeBufferInfoEvent at h
  rw [hmap, hevent, hinfo, if_neg (by decide), if_neg (by decide), if_neg (by decide)] at h
  obtain ⟨⟨_, event⟩, hdecodeEvent, h⟩ := Option.bind_eq_some_iff.mp h
  obtain ⟨⟨_, info⟩, hdecodeInfo, h⟩ := Option.bind_eq_some_iff.mp h
  cases h
  exact ⟨decodeDisplayEvent_gives hdecodeEvent hevent, decodeBufferInfo_gives hdecodeInfo hinfo⟩

/-- A bit field holds a value that fits it. -/
theorem map_toNat_of_fits {entry : Option UInt32} {w : UInt32} (hw : entry = some w) {n : ℕ}
    (hfits : w.toNat < 2 ^ n) : entry.map UInt32.toNat = some (BitVec.ofNat n w.toNat).toNat := by
  rw [hw, Option.map_some, BitVec.toNat_ofNat, Nat.mod_eq_of_lt hfits]

theorem decodeDisplayCtrl_gives {ctrl₀ ctrl : DisplayControl}
    (h : decodeDisplayCtrl y node ctrl₀ = some (true, ctrl))
    (hfits : ∀ bits ∈ controlBits, ∀ w, unsigned y (node.get bits.1) = some w → w.toNat < 2 ^ bits.2) :
    GivesControl y node ctrl := by
  unfold decodeDisplayCtrl at h
  by_cases hmap : node.isMap = false
  · rw [if_pos hmap] at h
    cases h
  by_cases hviewport : (node.get "viewport").isMap = false
  · rw [if_neg hmap, if_pos hviewport] at h
    cases h
  rw [if_neg hmap, if_neg hviewport] at h
  obtain ⟨alpha, halpha, h⟩ := Option.bind_eq_some_iff.mp h
  obtain ⟨topLayer, htopLayer, h⟩ := Option.bind_eq_some_iff.mp h
  obtain ⟨rotation, hrotation, h⟩ := Option.bind_eq_some_iff.mp h
  obtain ⟨reserved, hreserved, h⟩ := Option.bind_eq_some_iff.mp h
  obtain ⟨l, hl, h⟩ := Option.bind_eq_some_iff.mp h
  obtain ⟨t, ht, h⟩ := Option.bind_eq_some_iff.mp h
  obtain ⟨r, hr, h⟩ := Option.bind_eq_some_iff.mp h
  obtain ⟨b, hb, h⟩ := Option.bind_eq_some_iff.mp h
  cases h
  simp only [controlBits, List.forall_mem_cons] at hfits
  obtain ⟨halphaFits, htopLayerFits, hrotationFits, hreservedFits, -⟩ := hfits
  exact ⟨map_toNat_of_fits halpha (halphaFits _ halpha), map_toNat_of_fits htopLayer (htopLayerFits _ htopLayer),
    map_toNat_of_fits hrotation (hrotationFits _ hrotation),
    map_toNat_of_fits hreserved (hreservedFits _ hreserved), hl, ht, hr, hb⟩

/-- A handle whose sequences are as long as its arrays. -/
theorem decodeGrallocHandle_gives {words : ℕ → UInt32} {o : Object Sequences.GrallocMember UInt32}
    (h : Sequences.decodeGrallocHandle (nodeApi y) node ⟨words, []⟩ = .ok true o)
    (hsequences : ∀ f ∈ grallocFields, f.sequence = true →
      ∃ items, f.own (nodeApi y) node = .seq items ∧ items.length = crosGrallocHandle.length f.member) :
    GivesHandle y node (handleAt o.words) := by
  have hfills := Sequences.fills_grallocHandle (nodeApi y)
  -- Every member has as many values as it has words.
  have hlength : ∀ f ∈ grallocFields,
      (f.values (nodeApi y) (f.own (nodeApi y) node)).length = crosGrallocHandle.length f.member := by
    intro f hf
    cases hseq : f.sequence with
    | true =>
      obtain ⟨items, hitems, hcount⟩ := hsequences f hf hseq
      rw [Sequences.Field.values, hseq, if_pos rfl, hitems, ← hcount]
      simp [Sequences.sequenceValues, nodeApi]
    | false =>
      have hone : ∀ f ∈ grallocFields, f.sequence = false → crosGrallocHandle.length f.member = 1 := by decide
      rw [Sequences.Field.values, hseq, if_neg (by decide), hone f hf hseq]
      rfl
  have hwithin := (hfills.within_iff words node).mpr fun _ => room_of_length_le fun e he => by
    obtain ⟨f, hf, rfl⟩ := List.mem_map.mp he
    exact (hlength f hf).le
  refine ⟨o.words, rfl, fun f hf => ?_⟩
  have hall := hfills.all_of_ok h hf
  apply List.ext_getElem
  · rw [hlength f hf, List.length_map, List.length_range]
  · intro i hi _
    rw [List.getElem_map, List.getElem_range,
      hfills.words_eq (by decide) hwithin h hf (hlength f hf ▸ hi), filledWith, List.getElem?_eq_getElem hi]
    have hsome := List.all_eq_true.mp hall _ (List.getElem_mem hi)
    obtain ⟨w, hw⟩ := Option.isSome_iff_exists.mp hsome
    rw [hw]
    rfl

variable {behind : ℕ → UInt32} {renderNode code : UInt32} {status : Option AicError} {payload : List Struct}
  {m : Message}

/-- A message whose header and body are those of the document, but for the render node. -/
theorem Complete.consistent_of_gives (hcomplete : Complete y node code) {ev : DisplayEvent} {body : Body}
    (hevent : GivesEvent y (headerNode node code) ev) (htype : body.type = code) (hgiven : GivesBody y node body)
    (hsize : HasBody code → ev.size.toNat = structBytes body) :
    Consistent y node code (Message.mk { ev with renderNode := renderNode } body).wire
      ⟨{ ev with renderNode := renderNode }, body⟩ where
  wire := rfl
  type := Option.some.inj (hevent.type.symm.trans hcomplete.type)
  body := htype
  event := ⟨hevent.type, hevent.size, hevent.id⟩
  given := hgiven
  size hbody := by rw [length_wire_eq, ← hsize hbody]

/-- The structs of a complete document with a body. -/
theorem Complete.gives_of_decode (hcomplete : Complete y node code) (hbody : HasBody code) {ok : Bool}
    {ev : BufferInfoEvent}
    (hdecode : decodeBufferInfoEvent y (node.get "buffer_info_event_t") (zeroed Layout.bufferInfoEvent) =
      some (ok, ev)) :
    GivesEvent y (headerNode node code) ev.event ∧ GivesInfo y (infoNode node) ev.info := by
  have hmap := isMap_of_scalarAs hcomplete.type
  rw [headerNode, if_pos hbody] at hmap ⊢
  exact decodeBufferInfoEvent_gives hdecode hmap (hcomplete.info hbody)

/-! ### The messages of complete documents -/

theorem Complete.consistent_request (hcomplete : Complete y node code)
    (hcode : code = evDispInfoReq ∨ code = evDispPortReq) {ev : DisplayEvent} {more : List Struct}
    (hpayload : InMemory.decodePayload y behind node code = some (status, .displayEvent ev :: more))
    {body : Body} (htype : body.type = code) (hgiven : GivesBody y node body) :
    Consistent y node code (Message.mk { ev with renderNode := renderNode } body).wire
      ⟨{ ev with renderNode := renderNode }, body⟩ := by
  have hbody : ¬ HasBody code := by
    rcases hcode with rfl | rfl <;> decide
  obtain ⟨ok, ev', hdecode, heq⟩ := InMemory.decodePayload_request hcode hpayload
  cases heq
  have hmap := isMap_of_scalarAs hcomplete.type
  have hevent : GivesEvent y (headerNode node code) ev := by
    rw [headerNode, if_neg hbody] at hmap ⊢
    exact decodeDisplayEvent_gives hdecode hmap
  exact hcomplete.consistent_of_gives hevent htype hgiven fun h => absurd h hbody

theorem Complete.consistent_createBuffer (hcomplete : Complete y node evCreateBuffer) {ev : BufferInfoEvent}
    {gralloc : CrosGrallocHandle} {more : List Struct} (hwidth : gralloc.width ≠ 0)
    (hpayload : InMemory.decodePayload y behind node evCreateBuffer =
      some (status, .bufferInfoEvent ev :: .grallocHandle gralloc :: more)) (fds : List Int32) :
    Consistent y node evCreateBuffer
      (Message.mk { ev.event with renderNode := renderNode } (.createBuffer ev.info gralloc fds)).wire
      ⟨{ ev.event with renderNode := renderNode }, .createBuffer ev.info gralloc fds⟩ := by
  rw [InMemory.decodePayload, if_pos rfl] at hpayload
  obtain ⟨ok, headers, okHandle, o, hdecode, -, hhandle, -, heq⟩ := InMemory.decodeCreateBuffer_eq_some hpayload
  cases heq
  cases okHandle with
  | false =>
    -- A handle that was not taken is all zero.
    obtain ⟨rfl, -⟩ := Sequences.decodeGrallocHandle_of_refused hhandle
    exact absurd rfl hwidth
  | true =>
    obtain ⟨hevent, hinfo⟩ := hcomplete.gives_of_decode (by decide) hdecode
    have hgralloc := decodeGrallocHandle_gives hhandle (hcomplete.sequences rfl)
    have hsize : ev.event.size = 228 := Option.some.inj (hevent.size.symm.trans (hcomplete.createSize rfl))
    refine hcomplete.consistent_of_gives hevent rfl ⟨hinfo, hgralloc⟩ fun _ => ?_
    rw [hsize]
    rfl

theorem Complete.consistent_removeBuffer (hcomplete : Complete y node evRemoveBuffer) {ev : BufferInfoEvent}
    {more : List Struct}
    (hpayload : InMemory.decodePayload y behind node evRemoveBuffer =
      some (status, .bufferInfoEvent ev :: more)) :
    Consistent y node evRemoveBuffer
      (Message.mk { ev.event with renderNode := renderNode } (.removeBuffer ev.info)).wire
      ⟨{ ev.event with renderNode := renderNode }, .removeBuffer ev.info⟩ := by
  obtain ⟨ok, ev', hdecode, heq⟩ := InMemory.decodePayload_removeBuffer hpayload
  cases heq
  obtain ⟨hevent, hinfo⟩ := hcomplete.gives_of_decode (by decide) hdecode
  have hsize : ev.event.size = 24 := Option.some.inj (hevent.size.symm.trans (hcomplete.removeSize rfl))
  refine hcomplete.consistent_of_gives hevent rfl hinfo fun _ => ?_
  rw [hsize]
  rfl

/-- Of the two sizes only the one with a control block asks for it. -/
theorem Complete.displaySize_cases (hcomplete : Complete y node evDisplayReq) {ev : DisplayEvent}
    (hevent : GivesEvent y (headerNode node evDisplayReq) ev) :
    ev.size = 24 ∧ ¬ CmdHandler.HasCtrl ev.size ∨
      ev.size = 36 ∧ CmdHandler.HasCtrl ev.size ∧
        ∀ bits ∈ controlBits, ∀ w, unsigned y ((node.get "display_control_t").get bits.1) = some w →
          w.toNat < 2 ^ bits.2 := by
  rcases hcomplete.displaySize rfl with hgiven | ⟨hgiven, hfits⟩
  · have hsize : ev.size = 24 := Option.some.inj (hevent.size.symm.trans hgiven)
    rw [hsize]
    exact Or.inl ⟨rfl, by decide⟩
  · have hsize : ev.size = 36 := Option.some.inj (hevent.size.symm.trans hgiven)
    rw [hsize]
    exact Or.inr ⟨rfl, by decide, hfits⟩

theorem Complete.consistent_displayReq (hcomplete : Complete y node evDisplayReq) {ev : BufferInfoEvent}
    {more : List Struct} (hctrl : ¬ CmdHandler.HasCtrl ev.event.size)
    (hpayload : InMemory.decodePayload y behind node evDisplayReq =
      some (status, .bufferInfoEvent ev :: more)) :
    Consistent y node evDisplayReq
      (Message.mk { ev.event with renderNode := renderNode } (.displayReq ev.info none)).wire
      ⟨{ ev.event with renderNode := renderNode }, .displayReq ev.info none⟩ := by
  obtain ⟨ok, ev', hdecode, hmore⟩ := InMemory.decodePayload_displayReq hpayload
  obtain rfl : ev = ev' := by
    rcases hmore with heq | ⟨_, -, heq⟩
    · cases heq
      rfl
    · cases heq
      rfl
  obtain ⟨hevent, hinfo⟩ := hcomplete.gives_of_decode (by decide) hdecode
  refine hcomplete.consistent_of_gives hevent rfl ⟨hinfo, by simp⟩ fun _ => ?_
  rcases hcomplete.displaySize_cases hevent with ⟨hsize, -⟩ | ⟨-, hhas, -⟩
  · rw [hsize]
    rfl
  · exact absurd hhas hctrl

theorem Complete.consistent_displayReqCtrl (hcomplete : Complete y node evDisplayReq) {ev : BufferInfoEvent}
    {ctrl : DisplayControl} {more : List Struct} (hctrl : CmdHandler.HasCtrl ev.event.size)
    (hpayload : InMemory.decodePayload y behind node evDisplayReq =
      some (status, .bufferInfoEvent ev :: .displayControl ctrl :: more)) :
    Consistent y node evDisplayReq
      (Message.mk { ev.event with renderNode := renderNode } (.displayReq ev.info (some ctrl))).wire
      ⟨{ ev.event with renderNode := renderNode }, .displayReq ev.info (some ctrl)⟩ := by
  obtain ⟨ok, ev', hdecode, heq | ⟨ctrl', hdecodeCtrl, heq⟩⟩ := InMemory.decodePayload_displayReq hpayload
  · cases heq
  cases heq
  obtain ⟨hevent, hinfo⟩ := hcomplete.gives_of_decode (by decide) hdecode
  rcases hcomplete.displaySize_cases hevent with ⟨-, hno⟩ | ⟨hsize, -, hfits⟩
  · exact absurd hctrl hno
  · have hgivesCtrl := decodeDisplayCtrl_gives hdecodeCtrl hfits
    refine hcomplete.consistent_of_gives hevent rfl ⟨hinfo, by simpa using hgivesCtrl⟩ fun _ => ?_
    rw [hsize]
    rfl

theorem Complete.consistent (hcomplete : Complete y node code)
    (hpayload : InMemory.decodePayload y behind node code = some (status, payload))
    (hmakes : CmdHandler.Makes renderNode code payload m) : Consistent y node code m.wire m := by
  cases hmakes with
  | dispInfoReq ev more => exact hcomplete.consistent_request (Or.inl rfl) hpayload rfl trivial
  | dispPortReq ev more => exact hcomplete.consistent_request (Or.inr rfl) hpayload rfl trivial
  | createBuffer ev gralloc fd more hwidth => exact hcomplete.consistent_createBuffer hwidth hpayload [fd]
  | removeBuffer ev more => exact hcomplete.consistent_removeBuffer hpayload
  | displayReq ev more hctrl => exact hcomplete.consistent_displayReq hctrl hpayload
  | displayReqCtrl ev ctrl more hctrl => exact hcomplete.consistent_displayReqCtrl hctrl hpayload

end OfComplete

/-! ## The entry -/

section Entry

variable {y : Loader}

theorem ifScalar_eventType {node : Node} {key : String} {m m' : EventMetadata}
    {f : String → Option EventMetadata} (h : ifScalar node key m f = some m')
    (hf : ∀ text m', f text = some m' → m'.eventType = m.eventType) : m'.eventType = m.eventType := by
  unfold ifScalar at h
  cases hentry : node.get key with
  | scalar text =>
    rw [hentry] at h
    exact hf text m' h
  | _ =>
    rw [hentry] at h
    cases h
    rfl

/-- The event is the one that is named. -/
theorem decodeMetadata_eventType {node : Node} {ok : Bool} {m : EventMetadata} (hmap : node.isMap = true)
    (h : decodeMetadata y node .zero = some (ok, m)) :
    m.eventType = match node.get "eventName" with
      | .scalar text => getEventCode text
      | _ => 0 := by
  unfold decodeMetadata at h
  rw [hmap, if_neg (by decide)] at h
  obtain ⟨m₁, hid, h⟩ := Option.bind_eq_some_iff.mp h
  obtain ⟨m₂, hname, h⟩ := Option.bind_eq_some_iff.mp h
  obtain ⟨m₃, hdirection, h⟩ := Option.bind_eq_some_iff.mp h
  obtain ⟨m₄, htime, h⟩ := Option.bind_eq_some_iff.mp h
  have hcounts : m.eventType = m₄.eventType := by
    cases hentry : node.get "counts" with
    | map counts =>
      rw [hentry] at h
      obtain ⟨c, -, h⟩ := Option.bind_eq_some_iff.mp h
      cases h
      rfl
    | _ =>
      rw [hentry] at h
      cases h
      rfl
  have hstamp : m₄.eventType = m₃.eventType := ifScalar_eventType htime fun text m' hm' => by
    obtain ⟨stamp, -, heq⟩ := Option.bind_eq_some_iff.mp hm'
    cases heq
    rfl
  have hflip : m₃.eventType = m₂.eventType := ifScalar_eventType hdirection fun text m' hm' => by
    cases hm'
    rfl
  have hzero : m₁.eventType = 0 := ifScalar_eventType hid fun text m' hm' => by
    obtain ⟨id, -, heq⟩ := Option.bind_eq_some_iff.mp hm'
    cases heq
    rfl
  rw [hcounts, hstamp, hflip]
  unfold ifScalar at hname
  cases hentry : node.get "eventName" with
  | scalar text =>
    rw [hentry] at hname
    cases hname
    rfl
  | _ =>
    rw [hentry] at hname
    cases hname
    exact hzero

/-- A document without metadata has no payload; any other has that of the event its metadata name. -/
theorem decodeNodeWith_eq_some {payload : Node → UInt32 → Option (Option AicError × List Struct)}
    {rootNode : Node} {decoded : Decoded} (h : decodeNodeWith y payload rootNode = some decoded) :
    decoded.payload = [] ∨ (decoded.metadata.eventType = eventCode rootNode ∧
      payload (rootNode.get "event") (eventCode rootNode) = some (decoded.status, decoded.payload)) := by
  unfold decodeNodeWith at h
  by_cases hroot : rootNode.isMap = false
  · rw [if_pos hroot] at h
    cases h
    exact Or.inl rfl
  rw [if_neg hroot] at h
  obtain ⟨metadataNode, hnode, h⟩ := Option.bind_eq_some_iff.mp h
  obtain rfl := Node.get_of_subscript hnode
  by_cases hmap : ((rootNode.get "event").get "metadata").isMap = false
  · rw [if_pos hmap] at h
    cases h
    exact Or.inl rfl
  rw [if_neg hmap] at h
  obtain ⟨⟨ok, metadata⟩, hmetadata, h⟩ := Option.bind_eq_some_iff.mp h
  obtain ⟨⟨status, structs⟩, hpayload, h⟩ := Option.bind_eq_some_iff.mp h
  cases h
  have hcode : metadata.eventType = eventCode rootNode :=
    decodeMetadata_eventType (eq_true_of_ne_false hmap) hmetadata
  exact Or.inr ⟨hcode, hcode ▸ hpayload⟩

/-- An entry sends nothing, or the message of the payload its event is decoded to. -/
theorem sentOne_processNode (y : Loader) (behind : ℕ → UInt32) {env : Surroundings} (henv : env.TakesAll)
    (h : CmdHandler) (rootNode : Node) :
    CmdHandler.SentOne
      (fun m => ∃ status payload, InMemory.decodePayload y behind (rootNode.get "event") (eventCode rootNode) =
          some (status, payload) ∧
        CmdHandler.Makes h.gfx.getRenderNode (eventCode rootNode) payload m)
      h (after (InMemory.processNode y behind env rootNode h)) := by
  unfold InMemory.processNode
  cases hdecoded : decodeNodeWith y (InMemory.decodePayload y behind) rootNode with
  | none => exact Or.inl rfl
  | some decoded =>
    rcases decodeNodeWith_eq_some hdecoded with hempty | ⟨hcode, hpayload⟩
    · left
      dsimp only
      rw [hempty]
      rfl
    · have hmore : decoded.metadata.eventType = evDisplayReq →
          ∀ element ∈ decoded.payload.tail, ∃ ctrl, element = .displayControl ctrl := by
        intro hdisplay
        rw [← hcode, hdisplay] at hpayload
        obtain ⟨ok, ev, -, hshape | ⟨ctrl, -, hshape⟩⟩ := InMemory.decodePayload_displayReq hpayload
        · rw [hshape]
          simp
        · rw [hshape]
          simp
      rcases CmdHandler.sentOne_dataExchange henv hmore h with hnothing | ⟨m, hmakes, hsent⟩
      · exact Or.inl hnothing
      · exact Or.inr ⟨m, ⟨_, _, hpayload, hcode ▸ hmakes⟩, hsent⟩

/-- **What `ProcessNextEntry` writes, if it writes anything, is one message and the document's own exactly when
the document is complete.** -/
theorem processNextEntry_consistent_iff (y : Loader) (behind : ℕ → UInt32) {env : Surroundings}
    (henv : env.TakesAll) (h : CmdHandler) (rootNode : Node) (nodes : List Node) :
    ∃ written, (after ((InMemory.processNextEntry y behind env (rootNode :: nodes)).1 h)).outgoing =
        h.outgoing ++ written ∧
      (written ≠ [] → ((∃ m, Consistent y (rootNode.get "event") (eventCode rootNode) written m) ↔
        Complete y (rootNode.get "event") (eventCode rootNode))) := by
  rcases sentOne_processNode y behind henv h rootNode with hnothing | hone
  · exact ⟨[], hnothing.trans (List.append_nil _).symm, fun hne => absurd rfl hne⟩
  · obtain ⟨m, ⟨status, payload, hpayload, hmakes⟩, hsent⟩ := hone
    refine ⟨m.wire, hsent, fun _ => ?_⟩
    constructor
    · rintro ⟨m', hm'⟩
      exact hm'.complete
    · exact fun hcomplete => ⟨m, hcomplete.consistent hpayload hmakes⟩

/-! ## A run -/

/-- A document, with what its exchange finds: the memory behind its handle, and the surroundings. -/
structure RunEntry where
  rootNode : Node
  behind : ℕ → UInt32
  env : Surroundings

/-- The messages are those of documents, each of its own, and stand on the wire in order. -/
def SentFor (y : Loader) (rootNodes : List Node) (h h' : CmdHandler) : Prop :=
  ∃ sent : List (Node × Message), (sent.map Prod.fst).Sublist rootNodes ∧
    (∀ s ∈ sent, Consistent y (s.1.get "event") (eventCode s.1) s.2.wire s.2) ∧
    h'.outgoing = h.outgoing ++ sent.flatMap fun s => s.2.wire

theorem SentFor.append {rootNodes rootNodes' : List Node} {h h' h'' : CmdHandler}
    (hfirst : SentFor y rootNodes h h') (hrest : SentFor y rootNodes' h' h'') :
    SentFor y (rootNodes ++ rootNodes') h h'' := by
  obtain ⟨sent, hsub, hall, houtgoing⟩ := hfirst
  obtain ⟨sent', hsub', hall', houtgoing'⟩ := hrest
  refine ⟨sent ++ sent', ?_, ?_, ?_⟩
  · rw [List.map_append]
    exact hsub.append hsub'
  · intro s hs
    exact (List.mem_append.mp hs).elim (hall s) (hall' s)
  · rw [houtgoing', houtgoing, List.flatMap_append, List.append_assoc]

theorem sentFor_processNode {e : RunEntry} (henv : e.env.TakesAll)
    (hcomplete : Complete y (e.rootNode.get "event") (eventCode e.rootNode)) (h : CmdHandler) :
    SentFor y [e.rootNode] h (after (InMemory.processNode y e.behind e.env e.rootNode h)) := by
  rcases sentOne_processNode y e.behind henv h e.rootNode with hnothing | hone
  · exact ⟨[], List.nil_sublist _, by simp, by simpa using hnothing⟩
  · obtain ⟨m, ⟨status, payload, hpayload, hmakes⟩, hsent⟩ := hone
    exact ⟨[(e.rootNode, m)], List.Sublist.refl _, by simpa using hcomplete.consistent hpayload hmakes,
      by simpa using hsent⟩

/-- **A run over complete documents, which ends at the first that fails, sends the messages of the documents in
front, and of that one all or nothing.** -/
theorem sentFor_runAll {es : List RunEntry} (henv : ∀ e ∈ es, e.env.TakesAll)
    (hcomplete : ∀ e ∈ es, Complete y (e.rootNode.get "event") (eventCode e.rootNode)) (h : CmdHandler) :
    SentFor y (es.map RunEntry.rootNode) h
      (after (runAll (fun e => InMemory.processNode y e.behind e.env e.rootNode) es h)) := by
  induction es generalizing h with
  | nil => exact ⟨[], List.Sublist.refl _, by simp, (List.append_nil _).symm⟩
  | cons e es ih =>
    rw [List.forall_mem_cons] at henv hcomplete
    have hfirst := sentFor_processNode henv.1 hcomplete.1 h
    rw [runAll, List.map_cons]
    refine after_bind (fun _ h₁ hok => ?_) fun _ h₁ herror => ?_
    · rw [hok, after_ok] at hfirst
      exact hfirst.append (ih henv.2 hcomplete.2 h₁)
    · rw [herror, after_error] at hfirst
      -- Nothing is sent for the documents behind.
      exact hfirst.append ⟨[], List.nil_sublist _, by simp, (List.append_nil _).symm⟩

end Entry

/-- A document of an event that the receiver received, so one that the emulator sends. -/
def receivedDocument (eventName : String) (structs : Block) : Node :=
  .map (.map "event"
    (.map "metadata" (.scalar "eventName" eventName (.scalar "direction" "receive" .nil)) structs) .nil)

/-- The removal of buffer 7, with all that belongs to it. -/
def removeDocument : Node :=
  receivedDocument "VHAL_DD_EVENT_REMOVE_BUFFER" <|
    .map "buffer_info_event_t" (.map "display_event_t"
        (.scalar "type" "0x1003" <| .scalar "size" "24" <| .scalar "id" "5" <| .scalar "renderNode" "0" .nil) <|
      .map "buffer_info_t" (.scalar "remote_handle" "7" .nil) .nil) .nil

/-- A request without its `display_event_t`. -/
def headlessDocument : Node := receivedDocument "VHAL_DD_EVENT_DISPINFO_REQ" .nil

/-- No graphics device, and a socket that takes everything. -/
def socketOnly : Surroundings := ⟨⟨none, none, false, false, none, false, false⟩, fun _ n => n, id, fun _ => 0⟩

/-- An emulator that has just been connected to. -/
def connectedEmulator : CmdHandler :=
  ⟨some true, [], [], [], ⟨false, .empty, 0, []⟩, ⟨[], 0, false, false⟩, 0, 0⟩

/-- The message of the removal goes out before the buffer is not found. -/
theorem processNextEntry_consistent_iff_remove :
    ∃ m, Consistent Loader.lineByLine (removeDocument.get "event") (eventCode removeDocument)
      (plain ([0x03, 0x10, 0, 0, 24, 0, 0, 0, 5, 0, 0, 0, 0, 0, 0, 0] ++ [7, 0, 0, 0, 0, 0, 0, 0])) m := by
  obtain ⟨written, hwritten, hiff⟩ :=
    processNextEntry_consistent_iff Loader.lineByLine (fun _ => 0)
      (show socketOnly.TakesAll from fun _ _ => rfl) connectedEmulator removeDocument []
  have hsent : (after ((InMemory.processNextEntry Loader.lineByLine (fun _ => 0) socketOnly
      [removeDocument]).1 connectedEmulator)).outgoing =
      plain ([0x03, 0x10, 0, 0, 24, 0, 0, 0, 5, 0, 0, 0, 0, 0, 0, 0] ++ [7, 0, 0, 0, 0, 0, 0, 0]) := by
    decide +kernel
  obtain rfl : plain ([0x03, 0x10, 0, 0, 24, 0, 0, 0, 5, 0, 0, 0, 0, 0, 0, 0] ++ [7, 0, 0, 0, 0, 0, 0, 0]) =
      written := hsent.symm.trans hwritten
  refine (hiff (by decide)).mpr ⟨by decide +kernel, fun _ => by decide +kernel, ?_, fun _ => by decide +kernel,
    ?_, ?_⟩
  · exact fun hcreate => absurd hcreate (by decide +kernel)
  · exact fun hdisplay => absurd hdisplay (by decide +kernel)
  · exact fun hcreate => absurd hcreate (by decide +kernel)

/-- A header of zeros is sent for the request without one. -/
theorem not_consistent_headless :
    ¬ ∀ rootNode nodes written,
      ((rootNode.get "event").get "metadata").get "direction" = .scalar "receive" →
      (after ((InMemory.processNextEntry Loader.lineByLine (fun _ => 0) socketOnly (rootNode :: nodes)).1
        connectedEmulator)).outgoing = connectedEmulator.outgoing ++ written →
      written ≠ [] →
      ∃ m, Consistent Loader.lineByLine (rootNode.get "event") (eventCode rootNode) written m := by
  intro hall
  obtain ⟨m, hm⟩ := hall headlessDocument [] (plain (List.replicate 16 0)) rfl (by decide +kernel) (by decide)
  exact nomatch hm.event.type

end VhalClient.Emulator
