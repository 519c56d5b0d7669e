/-
# VhalClient.Display.SessionLog — the log of a whole session is a YAML stream.

The trees of `Documents` keep to what a YAML reader takes literally: their keys are distinct words, their
scalars are plain, and they are never deeper than four maps, whatever bytes the server sent.  Only the messages about buffers have structs behind their
header, so every record of a session is logged as one whole document, and `ymlLog_session` reads the file of a
session back as the stream of its documents.
-/
import VhalClient.Display.Documents

namespace VhalClient.Display

open VhalClient.Lib VhalClient.Lib.Yaml

/-! ## The trees are well formed -/

section Plain

@[simp] theorem isPlain_fmtInt (i : Int32) : isPlain (fmtInt i) = true := isPlain_toString_int _

@[simp] theorem isPlain_fmtWord (w : UInt32) : isPlain (fmtWord w) = true := isPlain_toString_int _

@[simp] theorem isPlain_fmtUnsigned (w : UInt32) : isPlain (fmtUnsigned w) = true := isPlain_toString_nat _

@[simp] theorem isPlain_fmtLong (w : UInt64) : isPlain (fmtLong w) = true := isPlain_toString_int _

@[simp] theorem isPlain_fmtCount (n : ℕ) : isPlain (fmtCount n) = true := isPlain_toString_nat _

@[simp] theorem isPlain_fmtHex (w : UInt32) : isPlain (fmtHex w) = true := isPlain_hexadecimal _

@[simp] theorem isPlain_fmtBits {n : ℕ} (bits : BitVec n) : isPlain (fmtBits bits) = true :=
  isPlain_toString_nat _

@[simp] theorem isPlain_fmtShort (i : Int16) : isPlain (fmtShort i) = true := isPlain_toString_int _

@[simp] theorem isPlain_name (event : LogEvent) : isPlain event.name = true := by
  cases event <;> decide

end Plain

namespace Tree

variable (rest : Block)

/-- All scalars of the block are plain. -/
def Plain (b : Block) : Prop := ∀ text ∈ b.texts, isPlain text = true

theorem plain_nil : Plain .nil := by
  intro text htext
  cases htext

theorem plain_map {key : String} {inner : Block} (hinner : Plain inner) (hrest : Plain rest) :
    Plain (.map key inner rest) := by
  intro text htext
  rcases List.mem_append.mp htext with htext | htext
  · exact hinner text htext
  · exact hrest text htext

theorem plain_fields {fs : List (String × String)} {rest : Block} (hfs : ∀ f ∈ fs, isPlain f.2 = true)
    (hrest : Plain rest) : Plain (fields fs rest) := by
  induction fs with
  | nil => exact hrest
  | cons f fs ih =>
    intro text htext
    rcases List.mem_cons.mp htext with rfl | htext
    · exact hfs f (List.mem_cons_self ..)
    · exact ih (fun f hf => hfs f (List.mem_cons_of_mem _ hf)) text htext

theorem plain_words {n : ℕ} {key : String} {ws : Vector UInt32 n} {rest : Block} (hrest : Plain rest) :
    Plain (words key ws rest) := by
  intro text htext
  rcases List.mem_append.mp htext with htext | htext
  · obtain ⟨i, -, rfl⟩ := List.mem_map.mp htext
    exact isPlain_fmtInt i
  · exact hrest text htext

/-! ### Struct by struct -/

section Keys

variable {rest}

@[simp] theorem keys_displayEvent (ev : DisplayEvent) :
    (displayEvent ev rest).keys = "display_event_t" :: rest.keys := rfl

@[simp] theorem keys_displayInfo (info : DisplayInfo) :
    (displayInfo info rest).keys = "display_info_t" :: rest.keys := rfl

@[simp] theorem keys_bufferInfo (info : BufferInfo) :
    (bufferInfo info rest).keys = "buffer_info_t" :: rest.keys := rfl

@[simp] theorem keys_displayPort (dp : DisplayPort) :
    (displayPort dp rest).keys = "display_port_t" :: rest.keys := rfl

@[simp] theorem keys_grallocHandle (handle : CrosGrallocHandle) :
    (grallocHandle handle rest).keys = "cros_gralloc_handle_t" :: rest.keys := rfl

@[simp] theorem keys_setVideoAlpha (alpha : SetVideoAlpha) :
    (setVideoAlpha alpha rest).keys = "set_video_alpha_t" :: rest.keys := rfl

@[simp] theorem keys_displayControl (ctrl : DisplayControl) :
    (displayControl ctrl rest).keys = "display_control_t" :: rest.keys := rfl

@[simp] theorem keys_words {n : ℕ} (key : String) (ws : Vector UInt32 n) :
    (words key ws rest).keys = key :: rest.keys := rfl

end Keys

theorem wellKeyed_displayEvent (ev : DisplayEvent) :
    (displayEvent ev rest).wellKeyed = (!rest.keys.contains "display_event_t" && rest.wellKeyed) := by
  simp [displayEvent, fields, Block.wellKeyed, isKey, Block.keys]

theorem plain_displayEvent {rest : Block} (ev : DisplayEvent) (hrest : Plain rest) :
    Plain (displayEvent ev rest) := by
  refine plain_map rest (plain_fields ?_ plain_nil) hrest
  simp

theorem wellKeyed_bufferInfo (info : BufferInfo) :
    (bufferInfo info rest).wellKeyed = (!rest.keys.contains "buffer_info_t" && rest.wellKeyed) := by
  simp [bufferInfo, fields, Block.wellKeyed, isKey, Block.keys]

theorem plain_bufferInfo {rest : Block} (info : BufferInfo) (hrest : Plain rest) :
    Plain (bufferInfo info rest) := by
  refine plain_map rest (plain_fields ?_ plain_nil) hrest
  simp

theorem wellKeyed_displayInfo (info : DisplayInfo) :
    (displayInfo info rest).wellKeyed = (!rest.keys.contains "display_info_t" && rest.wellKeyed) := by
  simp [displayInfo, fields, Block.wellKeyed, isKey, Block.keys]

/-- The floating-point members of the infos that are logged are small integers. -/
theorem plain_displayInfo {rest : Block} {info : DisplayInfo} (hxdpi : isPlain (fmtFloat info.xdpi) = true)
    (hydpi : isPlain (fmtFloat info.ydpi) = true) (hfps : isPlain (fmtFloat info.fps) = true)
    (hrest : Plain rest) : Plain (displayInfo info rest) := by
  refine plain_map rest (plain_fields ?_ plain_nil) hrest
  simp [hxdpi, hydpi, hfps]

theorem isEmpty_words {n : ℕ} (ws : Vector UInt32 (n + 1)) : ((asInts ws).map fmtInt).isEmpty = false := by
  rw [List.isEmpty_eq_false_iff]
  intro hnil
  have hlength := congrArg List.length hnil
  simp [asInts] at hlength

theorem wellKeyed_words {n : ℕ} (key : String) (ws : Vector UInt32 (n + 1)) :
    (words key ws rest).wellKeyed = (isKey key && !rest.keys.contains key && rest.wellKeyed) := by
  rw [words, Block.wellKeyed, isEmpty_words]
  simp

theorem wellKeyed_grallocHandle (handle : CrosGrallocHandle) :
    (grallocHandle handle rest).wellKeyed =
      (!rest.keys.contains "cros_gralloc_handle_t" && rest.wellKeyed) := by
  have hfds : handle.fds.toList.isEmpty = false := by
    rw [List.isEmpty_eq_false_iff]
    intro hnil
    have hlength := congrArg List.length hnil
    simp at hlength
  simp [grallocHandle, nativeHandle, wellKeyed_words, fields, Block.wellKeyed, isKey, Block.keys,
    hfds]

theorem plain_grallocHandle {rest : Block} (handle : CrosGrallocHandle) (hrest : Plain rest) :
    Plain (grallocHandle handle rest) := by
  refine plain_map rest (plain_fields (by simp) (plain_map _ (plain_fields (by simp) plain_nil) ?_)) hrest
  intro text htext
  rcases List.mem_append.mp htext with htext | htext
  · obtain ⟨i, -, rfl⟩ := List.mem_map.mp htext
    exact isPlain_fmtInt i
  · refine plain_words (plain_words (plain_words (plain_words (plain_fields (by simp) (plain_words
      (plain_fields (by simp) plain_nil)))))) text htext

theorem wellKeyed_displayControl (ctrl : DisplayControl) :
    (displayControl ctrl rest).wellKeyed = (!rest.keys.contains "display_control_t" && rest.wellKeyed) := by
  simp [displayControl, fields, Block.wellKeyed, isKey, Block.keys]

theorem plain_displayControl {rest : Block} (ctrl : DisplayControl) (hrest : Plain rest) :
    Plain (displayControl ctrl rest) := by
  refine plain_map rest (plain_fields ?_ (plain_map _ (plain_fields ?_ plain_nil) plain_nil)) hrest
  · simp
  · simp

theorem wellKeyed_metadata (l : ProfileLogger) (now : Fin (2 ^ 63)) (type : LogEvent) :
    (metadata l now type rest).wellKeyed = (!rest.keys.contains "metadata" && rest.wellKeyed) := by
  simp [metadata, fields, Block.wellKeyed, isKey, Block.keys]

theorem plain_metadata {rest : Block} (l : ProfileLogger) (now : Fin (2 ^ 63)) (type : LogEvent)
    (hrest : Plain rest) : Plain (metadata l now type rest) := by
  have hdirection : isPlain (if type.isSendEvent then "send" else "receive") = true := by
    split <;> decide
  refine plain_map rest (plain_fields ?_ (plain_map _ (plain_fields ?_ plain_nil) plain_nil)) hrest
  · simp [hdirection]
  · simp

/-! ### Nesting -/

section Depth

variable {rest : Block}

@[simp] theorem depth_fields (fs : List (String × String)) : (fields fs rest).depth = rest.depth := by
  induction fs with
  | nil => rfl
  | cons f fs ih => exact ih

@[simp] theorem depth_words {n : ℕ} (key : String) (ws : Vector UInt32 n) :
    (words key ws rest).depth = rest.depth := rfl

@[simp] theorem depth_displayEvent (ev : DisplayEvent) : (displayEvent ev rest).depth = max 1 rest.depth := by
  simp [displayEvent, Block.depth]

@[simp] theorem depth_bufferInfo (info : BufferInfo) : (bufferInfo info rest).depth = max 1 rest.depth := by
  simp [bufferInfo, Block.depth]

@[simp] theorem depth_displayInfo (info : DisplayInfo) : (displayInfo info rest).depth = max 1 rest.depth := by
  simp [displayInfo, Block.depth]

@[simp] theorem depth_grallocHandle (handle : CrosGrallocHandle) :
    (grallocHandle handle rest).depth = max 2 rest.depth := by
  simp [grallocHandle, nativeHandle, Block.depth]

@[simp] theorem depth_displayControl (ctrl : DisplayControl) :
    (displayControl ctrl rest).depth = max 2 rest.depth := by
  simp [displayControl, Block.depth]

@[simp] theorem depth_metadata (l : ProfileLogger) (now : Fin (2 ^ 63)) (type : LogEvent) :
    (metadata l now type rest).depth = max 2 rest.depth := by
  simp [metadata, Block.depth]

end Depth

end Tree

namespace Parts

variable (p : Parts)

theorem depth_tree_le : p.tree.depth ≤ 2 := by
  obtain ⟨_ | info, _ | gralloc, _ | ctrl⟩ := p <;> simp [tree, Block.depth]

theorem keys_tree : p.tree.keys ⊆ ["buffer_info_t", "cros_gralloc_handle_t", "display_control_t"] := by
  obtain ⟨_ | info, _ | gralloc, _ | ctrl⟩ := p <;>
    simp [tree, Block.keys]

theorem wellKeyed_tree : p.tree.wellKeyed = true := by
  obtain ⟨_ | info, _ | gralloc, _ | ctrl⟩ := p <;>
    simp [tree, Tree.wellKeyed_bufferInfo, Tree.wellKeyed_grallocHandle, Tree.wellKeyed_displayControl,
      Block.wellKeyed, Block.keys]

theorem plain_tree : Tree.Plain p.tree := by
  have hctrl : Tree.Plain (p.ctrl.elim id Tree.displayControl .nil) := by
    cases p.ctrl with
    | none => exact Tree.plain_nil
    | some ctrl => exact Tree.plain_displayControl ctrl Tree.plain_nil
  have hgralloc : Tree.Plain (p.gralloc.elim id Tree.grallocHandle
      (p.ctrl.elim id Tree.displayControl .nil)) := by
    cases p.gralloc with
    | none => exact hctrl
    | some gralloc => exact Tree.plain_grallocHandle gralloc hctrl
  rw [tree]
  cases p.info with
  | none => exact hgralloc
  | some info => exact Tree.plain_bufferInfo info hgralloc

end Parts

namespace Tree

/-- A header inside `buffer_info_event_t`, with whatever of the message came. -/
theorem wellKeyed_bufferInfoEvent (ev : DisplayEvent) {more : Block}
    (hkeys : more.keys ⊆ ["buffer_info_t", "cros_gralloc_handle_t", "display_control_t"])
    (hmore : more.wellKeyed = true) : (bufferInfoEvent ev more .nil).wellKeyed = true := by
  have hevent : "display_event_t" ∉ more.keys := fun hmem => absurd (hkeys hmem) (by decide)
  have hsize : "struct_size" ∉ more.keys := fun hmem => absurd (hkeys hmem) (by decide)
  simp [bufferInfoEvent, fields, Block.wellKeyed, wellKeyed_displayEvent, hevent, hsize, hmore, isKey, Block.keys]

theorem plain_bufferInfoEvent (ev : DisplayEvent) {more : Block} (hmore : Plain more) :
    Plain (bufferInfoEvent ev more .nil) := by
  refine plain_map _ (plain_fields ?_ (plain_displayEvent ev hmore)) plain_nil
  simp

theorem wellKeyed_displayInfoEvent (ev : DisplayInfoEvent) : (displayInfoEvent ev .nil).wellKeyed = true := by
  simp [displayInfoEvent, fields, Block.wellKeyed, wellKeyed_displayEvent, wellKeyed_displayInfo, isKey,
    Block.keys]

theorem plain_displayInfoEvent {ev : DisplayInfoEvent} (hinfo : Plain (displayInfo ev.info .nil)) :
    Plain (displayInfoEvent ev .nil) := by
  refine plain_map _ (plain_fields ?_ (plain_displayEvent ev.event hinfo)) plain_nil
  simp

end Tree

/-- The `float` is printed as a number of millionths that a `float` can hold. -/
def PrintsFixed (bits : UInt32) : Prop := ∃ n ≤ maxFloat, fmtFloat bits = fixedPoint n

/-! The three floats a receiver ever logs. -/

theorem printsFixed_240 : PrintsFixed 0x43700000 := ⟨240000000, by decide, by decide⟩

theorem printsFixed_60 : PrintsFixed 0x42700000 := ⟨60000000, by decide, by decide⟩

theorem printsFixed_zero : PrintsFixed 0 := ⟨0, by decide, by decide⟩

theorem PrintsFixed.isPlain {bits : UInt32} (h : PrintsFixed bits) : isPlain (fmtFloat bits) = true := by
  obtain ⟨n, -, htext⟩ := h
  rw [htext]
  exact isPlain_fixedPoint n

namespace Reply

theorem wellKeyed_tree (reply : Reply) : reply.tree.wellKeyed = true := by
  cases reply with
  | dispInfoAck cfg => exact Tree.wellKeyed_displayInfoEvent _
  | dispPortAck cfg =>
    simp [tree, Tree.displayPortEvent, Tree.displayPort, fields, Block.wellKeyed, Tree.wellKeyed_displayEvent,
      isKey, Block.keys]
  | displayAck info =>
    apply Tree.wellKeyed_bufferInfoEvent
    · simp [Block.keys]
    · simp [Tree.wellKeyed_bufferInfo, Block.wellKeyed, Block.keys]
  | setupResolution width height => exact Tree.wellKeyed_displayInfoEvent _
  | setVideoAlpha action =>
    simp [tree, Tree.setVideoAlphaEvent, Tree.setVideoAlpha, fields, Block.wellKeyed,
      Tree.wellKeyed_displayEvent, Tree.wellKeyed_words, isKey, Block.keys]

theorem plain_tree (reply : Reply) : Tree.Plain reply.tree := by
  cases reply with
  | dispInfoAck cfg =>
    apply Tree.plain_displayInfoEvent
    exact Tree.plain_displayInfo printsFixed_240.isPlain printsFixed_240.isPlain printsFixed_60.isPlain
      Tree.plain_nil
  | dispPortAck cfg =>
    refine Tree.plain_map _ (Tree.plain_fields ?_ (Tree.plain_displayEvent _ (Tree.plain_map _
      (Tree.plain_fields ?_ Tree.plain_nil) Tree.plain_nil))) Tree.plain_nil
    · simp
    · simp
  | displayAck info => exact Tree.plain_bufferInfoEvent _ (Tree.plain_bufferInfo info Tree.plain_nil)
  | setupResolution width height =>
    apply Tree.plain_displayInfoEvent
    exact Tree.plain_displayInfo printsFixed_zero.isPlain printsFixed_zero.isPlain printsFixed_zero.isPlain
      Tree.plain_nil
  | setVideoAlpha action =>
    refine Tree.plain_map _ (Tree.plain_fields ?_ (Tree.plain_displayEvent _ (Tree.plain_map _
      (Tree.plain_fields ?_ (Tree.plain_words Tree.plain_nil)) Tree.plain_nil))) Tree.plain_nil
    · simp
    · simp

theorem depth_tree_le (reply : Reply) : reply.tree.depth ≤ 3 := by
  cases reply <;> simp [tree, Tree.displayInfoEvent, Tree.displayPortEvent, Tree.displayPort, Tree.bufferInfoEvent,
    Tree.setVideoAlphaEvent, Tree.setVideoAlpha, Block.depth]

theorem metadata_notMem_keys (reply : Reply) : "metadata" ∉ reply.tree.keys := by
  cases reply <;> simp [tree, Tree.displayInfoEvent, Tree.displayPortEvent, Tree.bufferInfoEvent,
    Tree.setVideoAlphaEvent, Block.keys]

end Reply

namespace Record

theorem depth_body_le (r : Record) : r.body.depth ≤ 3 := by
  cases r with
  | received ev parts =>
    have hparts := parts.depth_tree_le
    rw [body]
    split
    · simp only [Tree.bufferInfoEvent, Block.depth, Tree.depth_fields, Tree.depth_displayEvent]
      omega
    · simp [Block.depth]
  | replied reply count => exact reply.depth_tree_le

/-- **Every document is well formed**, whatever was received. -/
theorem wellFormed_tree (clock : ℕ → Fin (2 ^ 63)) (l : ProfileLogger) (r : Record) :
    (r.tree clock l).WellFormed := by
  have hbody : r.body.wellKeyed = true ∧ Tree.Plain r.body ∧ "metadata" ∉ r.body.keys := by
    cases r with
    | received ev parts =>
      rw [body]
      split
      · refine ⟨Tree.wellKeyed_bufferInfoEvent ev parts.keys_tree parts.wellKeyed_tree,
          Tree.plain_bufferInfoEvent ev parts.plain_tree, ?_⟩
        simp [Tree.bufferInfoEvent, Block.keys]
      · refine ⟨?_, Tree.plain_displayEvent ev Tree.plain_nil, ?_⟩
        · simp [Tree.wellKeyed_displayEvent, Block.wellKeyed, Block.keys]
        · simp [Block.keys]
    | replied reply count => exact ⟨reply.wellKeyed_tree, reply.plain_tree, reply.metadata_notMem_keys⟩
  obtain ⟨hkeyed, hplain, hmetadata⟩ := hbody
  refine ⟨?_, ?_, List.cons_ne_nil _ _, ?_⟩
  · rw [tree, Block.wellKeyed, Tree.wellKeyed_metadata]
    simp [hkeyed, hmetadata, isKey, Block.wellKeyed, Block.keys, Tree.metadata]
  · exact Tree.plain_map _ (Tree.plain_metadata _ _ _ hplain) Tree.plain_nil
  · have hdepth := r.depth_body_le
    simp only [tree, Block.depth, Tree.depth_metadata]
    omega

end Record

/-! ## Sessions -/

namespace Impl

theorem proper_records (cfg : Config) (s : Impl) (i : Input) {r : Record} (hr : r ∈ s.records cfg i) :
    r.Proper := by
  have hreply {replies : List Reply} {count : ℤ} (hr : r ∈ replies.map (.replied · count)) : r.Proper := by
    obtain ⟨reply, -, rfl⟩ := List.mem_map.mp hr
    trivial
  rcases records_cases cfg s i with ⟨replies, count, heq⟩ | ⟨env, bytes, f, -, -, -, heq⟩
  · exact hreply (heq ▸ hr)
  obtain ⟨parts, replies, hmessage, htype⟩ := messageRecords_eq cfg env (Layout.displayEvent.read bytes) f s
  rw [heq, hmessage] at hr
  rcases List.mem_cons.mp hr with rfl | hr
  · intro hparts
    rcases htype hparts with h | h | h <;> rw [h] <;> rfl
  · exact hreply hr

theorem proper_session (cfg : Config) (s : Impl) (is : List Input) : ∀ r ∈ session cfg s is, r.Proper := by
  induction is generalizing s with
  | nil => exact fun r hr => nomatch hr
  | cons i is ih =>
    intro r hr
    rcases List.mem_append.mp hr with hr | hr
    · exact proper_records cfg s i hr
    · exact ih (s.step cfg i) r hr

theorem wellFormed_trees (clock : ℕ → Fin (2 ^ 63)) (l : ProfileLogger) (rs : List Record) :
    ∀ b ∈ trees clock l rs, b.WellFormed := by
  induction rs generalizing l with
  | nil => exact fun b hb => nomatch hb
  | cons r rs ih =>
    intro b hb
    rcases List.mem_cons.mp hb with rfl | hb
    · exact r.wellFormed_tree clock l
    · exact ih _ b hb

/-- The file the logger has written when the receiver is in this state; `clock` is the time of each document. -/
def ymlLog (clock : ℕ → Fin (2 ^ 63)) (s : Impl) : List Char :=
  (ProfileLogger.initial.calls clock s.logged).file

/-- **The log of a session** is the YAML stream of the documents of its records. -/
theorem ymlLog_session (clock : ℕ → Fin (2 ^ 63)) (cfg : Config) (is : List Input) :
    (is.foldl (step cfg) initial).ymlLog clock =
      stream ProfileLogger.comments (trees clock ProfileLogger.initial (session cfg initial is)) := by
  rw [ymlLog, logged_foldl]
  refine ProfileLogger.file_calls clock (proper_session cfg initial is) [] ?_ rfl
  show ProfileLogger.comments.flatMap (writeYmlLog 0) = _
  rw [stream, documents, List.append_nil]
  exact congrArg (fun f => List.flatMap f ProfileLogger.comments) (funext (writeYmlLog_eq 0))

end Impl

end VhalClient.Display
