/-
# VhalClient.Emulator.Exchange — what an exchange has sent, however it ends.

`CmdHandler` says what an exchange that went through has sent.  An exchange may also stop: at the device, at the
content file, at the socket, or at an element of the payload that is not there.  As long as the sends succeed it
never stops between two structs of one message (`sentOne_dataExchange`): all that can fail is called before the
first send, but for the clearing of a buffer, which is called after the last.
-/
import VhalClient.Emulator.CmdHandler

namespace VhalClient.Emulator

open VhalClient.Lib VhalClient.Lib.Checked VhalClient.Display

/-- Every `send` and `sendmsg` takes all it is given. -/
def Surroundings.TakesAll (env : Surroundings) : Prop := ∀ i n, env.send i n = n

namespace CmdHandler

/-! ## The message of a payload -/

/-- The messages that a payload stands for, by the event type; `renderNode` is the one in use. -/
inductive Makes (renderNode : UInt32) : UInt32 → List Struct → Message → Prop where
  | dispInfoReq (ev : DisplayEvent) (more : List Struct) :
    Makes renderNode evDispInfoReq (.displayEvent ev :: more)
      ⟨{ ev with renderNode := renderNode }, .dispInfoReq⟩
  | dispPortReq (ev : DisplayEvent) (more : List Struct) :
    Makes renderNode evDispPortReq (.displayEvent ev :: more)
      ⟨{ ev with renderNode := renderNode }, .dispPortReq⟩
  | createBuffer (ev : BufferInfoEvent) (gralloc : CrosGrallocHandle) (fd : Int32) (more : List Struct)
      (hwidth : gralloc.width ≠ 0) :
    Makes renderNode evCreateBuffer (.bufferInfoEvent ev :: .grallocHandle gralloc :: more)
      ⟨{ ev.event with renderNode := renderNode }, .createBuffer ev.info gralloc [fd]⟩
  | removeBuffer (ev : BufferInfoEvent) (more : List Struct) :
    Makes renderNode evRemoveBuffer (.bufferInfoEvent ev :: more)
      ⟨{ ev.event with renderNode := renderNode }, .removeBuffer ev.info⟩
  | displayReq (ev : BufferInfoEvent) (more : List Struct) (hctrl : ¬ HasCtrl ev.event.size) :
    Makes renderNode evDisplayReq (.bufferInfoEvent ev :: more)
      ⟨{ ev.event with renderNode := renderNode }, .displayReq ev.info none⟩
  | displayReqCtrl (ev : BufferInfoEvent) (ctrl : DisplayControl) (more : List Struct)
      (hctrl : HasCtrl ev.event.size) :
    Makes renderNode evDisplayReq (.bufferInfoEvent ev :: .displayControl ctrl :: more)
      ⟨{ ev.event with renderNode := renderNode }, .displayReq ev.info (some ctrl)⟩

/-- Nothing was sent, or one message. -/
def SentOne (messages : Message → Prop) (h h' : CmdHandler) : Prop :=
  h'.outgoing = h.outgoing ∨ ∃ m, messages m ∧ h'.outgoing = h.outgoing ++ m.wire

/-! ## The calls -/

variable {env : Surroundings} {h : CmdHandler}

/-- A write goes through, or there is nothing to write to. -/
theorem writeIntoSocket_cases (henv : env.TakesAll) (i : ℕ) (data : List UInt8) (h : CmdHandler) :
    h.socket = some true ∧ writeIntoSocket env i data h = .ok () (h.put (plain data)) ∨
      ∃ e, writeIntoSocket env i data h = .error e h := by
  rcases hsocket : h.socket with _ | _ | _
  · right
    refine ⟨.aic .socketInit, ?_⟩
    rw [writeIntoSocket, get_bind, hsocket]
    rfl
  · right
    refine ⟨.aic .socketConnect, ?_⟩
    rw [writeIntoSocket, get_bind, hsocket]
    rfl
  · left
    exact ⟨rfl, writeIntoSocket_of_send hsocket (henv i data.length)⟩

theorem sendFDs_of_send (henv : env.TakesAll) (i : ℕ) (bo : BoData) (h : CmdHandler) :
    sendFDs env i (some bo) h = .ok () (h.put (carrier [env.install bo.fd])) := by
  have hsent : env.send i 16 = 16 := henv i 16
  unfold sendFDs
  dsimp only
  rw [hsent, if_neg (by decide)]
  rfl

/-- A call of the device changes what the handler knows of the device. -/
theorem after_callGfx (f : GfxHandler → GfxStatus × GfxHandler) (h : CmdHandler) :
    after (callGfx f h) = { h with gfx := (f h.gfx).2 } := by
  unfold callGfx
  rw [get_bind]
  rcases f h.gfx with ⟨_ | _, gfx⟩ <;> rfl

theorem callGfx_cases (f : GfxHandler → GfxStatus × GfxHandler) (h : CmdHandler) :
    (∃ gfx, f h.gfx = (.ok, gfx) ∧ callGfx f h = .ok () { h with gfx := gfx }) ∨
      ∃ e gfx, callGfx f h = .error e { h with gfx := gfx } := by
  have hafter := after_callGfx f h
  cases hrun : callGfx f h with
  | ok u h' =>
    left
    obtain ⟨gfx, hf, rfl⟩ := callGfx_ok hrun
    exact ⟨gfx, hf, rfl⟩
  | error e h' =>
    right
    rw [hrun, after_error] at hafter
    exact ⟨e, (f h.gfx).2, by rw [hafter]⟩

/-- A frame moves the content file only, also when it cannot be read. -/
theorem after_nextFrame (env : Surroundings) (surf : SurfaceParams) (h : CmdHandler) :
    ∃ st, after (nextFrame env surf h) = { h with inputStream := st } := by
  unfold nextFrame
  rw [get_bind]
  dsimp only
  generalize getOneFrame _ _ _ _ _ _ = outcome
  obtain ⟨_ | frame, st⟩ := outcome <;> exact ⟨st, rfl⟩

theorem initGfxSurfaceParams_cases (props : CrosGrallocHandle) (h : CmdHandler) :
    (∃ surf, props.width ≠ 0 ∧ initGfxSurfaceParams props h = .ok surf h) ∨
      ∃ e, initGfxSurfaceParams props h = .error e h := by
  unfold initGfxSurfaceParams
  by_cases hzero : props.width = 0 ∨ props.height = 0 ∨ props.format = 0
  · right
    rw [if_pos hzero]
    exact ⟨.aic .gfx, rfl⟩
  · rw [if_neg hzero]
    dsimp only
    generalize GfxHandler.adjustSurfaceParams _ = adjusted
    obtain ⟨_ | _, surf⟩ := adjusted
    · left
      exact ⟨surf, fun hwidth => hzero (Or.inl hwidth), rfl⟩
    · right
      exact ⟨.aic .gfx, rfl⟩

/-! ## The messages

Once the first struct is out, nothing can stop the others. -/

section Messages

variable {messages : Message → Prop} {h₀ : CmdHandler} {k : Unit → Command Unit}

/-- The first struct goes out, or nothing does. -/
theorem sentOne_write_bind (henv : env.TakesAll) (hsame : h.outgoing = h₀.outgoing) {i : ℕ} {data : List UInt8}
    (hrest : h.socket = some true → SentOne messages h₀ (after (k () (h.put (plain data))))) :
    SentOne messages h₀ (after ((writeIntoSocket env i data >>= k) h)) := by
  rcases writeIntoSocket_cases henv i data h with ⟨hsocket, hwrite⟩ | ⟨e, herror⟩
  · rw [after_bind_ok hwrite]
    exact hrest hsocket
  · rw [after_bind_error herror]
    exact Or.inl hsame

/-- Behind a call of the device that fails nothing is sent. -/
theorem sentOne_callGfx_bind (hsame : h.outgoing = h₀.outgoing) {f : GfxHandler → GfxStatus × GfxHandler}
    (hrest : ∀ gfx, f h.gfx = (.ok, gfx) → SentOne messages h₀ (after (k () { h with gfx := gfx }))) :
    SentOne messages h₀ (after ((callGfx f >>= k) h)) := by
  rcases callGfx_cases f h with ⟨gfx, hf, hgfx⟩ | ⟨e, gfx, herror⟩
  · rw [after_bind_ok hgfx]
    exact hrest gfx hf
  · rw [after_bind_error herror]
    exact Or.inl hsame

end Messages

theorem sentOne_header (henv : env.TakesAll) (ev : DisplayEvent) (h : CmdHandler) {type : UInt32} {body : Body}
    {payload : List Struct} (hbody : body.wire = [])
    (hmakes : Makes h.gfx.getRenderNode type payload ⟨h.override ev, body⟩) :
    SentOne (Makes h.gfx.getRenderNode type payload) h
      (after (writeIntoSocket env 0 (Layout.displayEvent.write (h.override ev)) h)) := by
  rcases writeIntoSocket_cases henv 0 (Layout.displayEvent.write (h.override ev)) h with ⟨-, hok⟩ | ⟨e, herror⟩
  · rw [hok]
    right
    refine ⟨_, hmakes, ?_⟩
    rw [Message.wire, hbody, List.append_nil]
    rfl
  · rw [herror]
    exact Or.inl rfl

theorem sentOne_createBuffer (henv : env.TakesAll) (evInfo : BufferInfoEvent) (gralloc : CrosGrallocHandle)
    (more : List Struct) (h : CmdHandler) :
    SentOne (Makes h.gfx.getRenderNode evCreateBuffer (.bufferInfoEvent evInfo :: .grallocHandle gralloc :: more))
      h (after (createBuffer env evInfo gralloc h)) := by
  unfold createBuffer
  rw [get_bind]
  rcases initGfxSurfaceParams_cases gralloc h with ⟨surf, hwidth, hsurf⟩ | ⟨e, herror⟩
  swap
  · rw [after_bind_error herror]
    exact Or.inl rfl
  rw [after_bind_ok hsurf]
  refine sentOne_callGfx_bind rfl fun gfx hallocate => ?_
  set h₁ : CmdHandler := { h with gfx := gfx } with hh₁
  refine sentOne_write_bind henv rfl fun hsocket => ?_
  -- The object is listed now, so it will be found.
  obtain ⟨⟨bo, hlist⟩, -⟩ := GfxHandler.allocateBo_ok hallocate
  obtain ⟨bo', hfind⟩ : ∃ bo', gfx.getBo evInfo.info.remoteHandle = some bo' := by
    apply OrdMap.mem_keys_iff.mp
    rw [hlist]
    exact OrdMap.mem_keys_insert.mpr (Or.inl rfl)
  rw [after_bind_ok (writeIntoSocket_of_send (h := h₁.put _) hsocket (henv 1 _)),
    after_bind_ok (writeIntoSocket_of_send (h := (h₁.put _).put _) hsocket (henv 2 _)), get_bind,
    show (((h₁.put _).put _).put _).gfx.getBo evInfo.info.remoteHandle = some bo' from hfind,
    sendFDs_of_send henv]
  right
  refine ⟨_, .createBuffer evInfo gralloc (env.install bo'.fd) more hwidth, ?_⟩
  simp [put, Message.wire, Body.wire, hh₁, override]

theorem sentOne_removeBuffer (henv : env.TakesAll) (evInfo : BufferInfoEvent) (more : List Struct)
    (h : CmdHandler) :
    SentOne (Makes h.gfx.getRenderNode evRemoveBuffer (.bufferInfoEvent evInfo :: more)) h
      (after (removeBuffer env evInfo h)) := by
  unfold removeBuffer
  rw [get_bind]
  refine sentOne_write_bind henv rfl fun hsocket => ?_
  rw [after_bind_ok (writeIntoSocket_of_send (h := h.put _) hsocket (henv 1 _)), after_callGfx]
  right
  refine ⟨_, .removeBuffer evInfo more, ?_⟩
  simp [put, Message.wire, Body.wire, override]

/-- Behind the first element there is nothing but control blocks, so none is taken for another struct. -/
theorem sentOne_xchngDisplayRequest (henv : env.TakesAll) (evInfo : BufferInfoEvent) {more : List Struct}
    (hmore : ∀ element ∈ more, ∃ ctrl, element = .displayControl ctrl) (h : CmdHandler) :
    SentOne (Makes h.gfx.getRenderNode evDisplayReq (.bufferInfoEvent evInfo :: more)) h
      (after (xchngDisplayRequest env (.bufferInfoEvent evInfo :: more) h)) := by
  unfold xchngDisplayRequest
  dsimp only
  rw [get_bind]
  refine after_guard (fun _ => Or.inl rfl) fun hguard => ?_
  rw [get_bind]
  rcases hbo : h.gfx.getBo evInfo.info.remoteHandle with _ | bo
  · exact Or.inl rfl
  dsimp only
  refine after_bind (fun frame h₁ hframe => ?_) fun e h₁ hframe => ?_
  swap
  · obtain ⟨st, hst⟩ := after_nextFrame env bo.surf h
    rw [hframe, after_error] at hst
    exact Or.inl (by rw [hst])
  obtain ⟨st, rfl⟩ := nextFrame_ok hframe
  refine sentOne_callGfx_bind rfl fun gfx _ => ?_
  set h₁ : CmdHandler := { h with gfx := gfx, inputStream := st } with hh₁
  refine sentOne_write_bind henv rfl fun hsocket => ?_
  rw [after_bind_ok (writeIntoSocket_of_send (h := h₁.put _) hsocket (henv 1 _))]
  -- The override changes the render node only, so the size is the one of the payload.
  by_cases hctrl : HasCtrl evInfo.event.size
  · have hsize : decide (sizeT (requestSize (h.override evInfo.event).size) =
        sizeofBufferInfo + sizeofDisplayControl) = true := decide_eq_true hctrl
    rw [if_pos hsize]
    rcases more with _ | ⟨element, more⟩
    · exact absurd ⟨hsize, by simp⟩ hguard
    obtain ⟨ctrl, rfl⟩ := hmore element List.mem_cons_self
    dsimp only
    rw [writeIntoSocket_of_send (h := (h₁.put _).put _) hsocket (henv 2 _)]
    right
    refine ⟨_, .displayReqCtrl evInfo ctrl more hctrl, ?_⟩
    simp [put, Message.wire, Body.wire, hh₁, override]
  · have hsize : ¬ decide (sizeT (requestSize (h.override evInfo.event).size) =
        sizeofBufferInfo + sizeofDisplayControl) = true := by
      rw [decide_eq_true_iff]
      exact hctrl
    rw [if_neg hsize]
    right
    refine ⟨_, .displayReq evInfo more hctrl, ?_⟩
    simp [put, Message.wire, Body.wire, hh₁, override, after_pure]

/-! ## The exchange -/

/-- What is received sends nothing. -/
theorem outgoing_readFromSocket (n : ℕ) (h : CmdHandler) :
    (after (readFromSocket n h)).outgoing = h.outgoing := by
  unfold readFromSocket
  rw [get_bind]
  rcases h.socket with _ | _ | _
  · rfl
  · rfl
  · dsimp only
    rcases h.incoming.recv n with ⟨_ | _ | _, f⟩ <;> rfl

theorem outgoing_receiveEntry (eventType : UInt32) (h : CmdHandler) :
    (after (receiveEntry eventType h)).outgoing = h.outgoing := by
  unfold receiveEntry
  split_ifs
  · exact outgoing_readFromSocket _ h
  · exact outgoing_readFromSocket _ h
  · exact outgoing_readFromSocket _ h
  · rfl

theorem sentOne_sendEntry (henv : env.TakesAll) {payload : List Struct} {eventType : UInt32}
    (hmore : eventType = evDisplayReq → ∀ element ∈ payload.tail, ∃ ctrl, element = .displayControl ctrl)
    (h : CmdHandler) :
    SentOne (Makes h.gfx.getRenderNode eventType payload) h (after (sendEntry env payload eventType h)) := by
  unfold sendEntry
  by_cases hrequest : eventType = evDispInfoReq ∨ eventType = evDispPortReq
  · rw [if_pos hrequest]
    rcases payload with _ | ⟨_ | _, more⟩
    case cons.displayEvent ev =>
      dsimp only
      rw [get_bind]
      rcases hrequest with rfl | rfl
      · exact sentOne_header henv ev h rfl (.dispInfoReq ev more)
      · exact sentOne_header henv ev h rfl (.dispPortReq ev more)
    all_goals exact Or.inl rfl
  rw [if_neg hrequest]
  by_cases hcreate : eventType = evCreateBuffer
  · subst hcreate
    rw [if_pos rfl]
    rcases payload with _ | ⟨_ | _, _ | ⟨_ | _, more⟩⟩
    case cons.bufferInfoEvent.cons.grallocHandle evInfo gralloc =>
      exact sentOne_createBuffer henv evInfo gralloc more h
    all_goals exact Or.inl rfl
  rw [if_neg hcreate]
  by_cases hremove : eventType = evRemoveBuffer
  · subst hremove
    rw [if_pos rfl]
    rcases payload with _ | ⟨_ | _, more⟩
    case cons.bufferInfoEvent evInfo => exact sentOne_removeBuffer henv evInfo more h
    all_goals exact Or.inl rfl
  rw [if_neg hremove]
  by_cases hdisplay : eventType = evDisplayReq
  · subst hdisplay
    rw [if_pos rfl]
    rcases payload with _ | ⟨_ | _, more⟩
    case cons.bufferInfoEvent evInfo => exact sentOne_xchngDisplayRequest henv evInfo (hmore rfl) h
    all_goals exact Or.inl rfl
  · rw [if_neg hdisplay]
    exact Or.inl rfl

/-- **However an exchange ends, it has sent nothing, or the message of its payload.** -/
theorem sentOne_dataExchange (henv : env.TakesAll) {payload : List Struct} {metadata : Metadata}
    (hmore : metadata.eventType = evDisplayReq →
      ∀ element ∈ payload.tail, ∃ ctrl, element = .displayControl ctrl)
    (h : CmdHandler) :
    SentOne (Makes h.gfx.getRenderNode metadata.eventType payload) h
      (after (dataExchange env payload metadata h)) := by
  unfold dataExchange
  refine after_guard (fun _ => Or.inl rfl) fun _ => ?_
  obtain ⟨eventType, _ | _ | _⟩ := metadata
  · exact sentOne_sendEntry henv hmore h
  · exact Or.inl (outgoing_receiveEntry eventType h)
  · exact Or.inl rfl

end CmdHandler

end VhalClient.Emulator
