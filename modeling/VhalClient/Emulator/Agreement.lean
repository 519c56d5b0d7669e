/-
# VhalClient.Emulator.Agreement — what the emulator sends is what the receiver's client is shown.

Emulator and receiver write the wire format down independently.  What a session is about is said here
without it: a list of requests (create, remove, display), the callback each of them calls for, and which
gralloc handle a remote handle stands for in between.  The emulator's exchanges send one message for every
entry (`exchange_sends`), a turn of the receiver makes the callback of the message (`act_shows`), and so the
two stay in step through any session the emulator gets through (`replay_agrees`): the callbacks are those
of the requests, and both sides hold the same remote handles after every message.
-/
import VhalClient.Display.Ledger
import VhalClient.Display.Chunking
import VhalClient.Emulator.CmdHandler

namespace VhalClient.Emulator

open VhalClient.Lib VhalClient.Display

/-! ## Sessions -/

/-- What both sides mean by a gralloc handle: not its descriptors, and one NV12 format. -/
def essence (gralloc : CrosGrallocHandle) : CrosGrallocHandle :=
  { gralloc.unifyFormat with fds := Vector.replicate 4 0 }

/-- A call of the client's handler. -/
structure Callback where
  cmd : CommandType
  remote : UInt64
  gralloc : Option CrosGrallocHandle
  ctrl : Option DisplayControl
  deriving DecidableEq, Repr

/-- What an entry of a session asks for. -/
inductive Request where
  | create (remote : UInt64) (gralloc : CrosGrallocHandle)
  | remove (remote : UInt64)
  | display (remote : UInt64) (ctrl : Option DisplayControl)
  deriving DecidableEq, Repr

/-- Which gralloc handle a remote handle stands for. -/
abbrev Owners := UInt64 → Option CrosGrallocHandle

namespace Request

def callback (o : Owners) : Request → Callback
  | create remote gralloc => ⟨.frameCreate, remote, some (essence gralloc), none⟩
  | remove remote => ⟨.frameRemove, remote, o remote, none⟩
  | display remote ctrl => ⟨.frameDisplay, remote, o remote, ctrl⟩

/-- A remote handle stands for what it was first created with, until it is removed. -/
def owners (o : Owners) : Request → Owners
  | create remote gralloc => fun r => if r = remote then some ((o r).getD (essence gralloc)) else o r
  | remove remote => fun r => if r = remote then none else o r
  | display _ _ => o

/-- A request is about a handle that is there, unless it creates one. -/
def Possible (o : Owners) : Request → Prop
  | create _ _ => True
  | remove remote => (o remote).isSome
  | display remote _ => (o remote).isSome

/-- The callbacks of a session: one for each request, in order. -/
def callbacks (o : Owners) : List Request → List Callback
  | [] => []
  | q :: qs => q.callback o :: callbacks (q.owners o) qs

end Request

/-! ## The receiver -/

def callbackOf : Output → Option Callback
  | .handler cmd remote handle ctrl => some ⟨cmd, remote, some (essence handle.gralloc), ctrl⟩
  | _ => none

/-- The callbacks so far, oldest first. -/
def shown (s : Impl) : List Callback := s.history.reverse.filterMap callbackOf

def owners (s : Impl) : Owners := fun r => (s.mHandles.find r).map fun handle => essence handle.gralloc

/-- What a message of the protocol asks for. -/
def requestOf : Body → Option Request
  | .dispInfoReq => none
  | .dispPortReq => none
  | .createBuffer info gralloc _ => some (.create info.remoteHandle gralloc)
  | .removeBuffer info => some (.remove info.remoteHandle)
  | .displayReq info ctrl => some (.display info.remoteHandle ctrl)

theorem essence_received (env : Env) (gralloc : CrosGrallocHandle) (fds : List Int32) :
    essence (Body.received env gralloc fds) = essence gralloc := by
  unfold Body.received essence CrosGrallocHandle.unifyFormat CrosGrallocHandle.setFds
  dsimp only
  by_cases hformat : gralloc.format = drmFormatNV12YTiledIntel
  · simp [hformat]
  · simp [hformat]

@[simp] theorem shown_emit (s : Impl) (o : Output) :
    shown (s.emit o) = shown s ++ (callbackOf o).toList := by
  simp only [shown, Impl.emit, List.reverse_cons, List.filterMap_append]
  cases hcb : callbackOf o <;> simp [List.filterMap, hcb]

@[simp] theorem shown_log (s : Impl) (calls : List LogCall) : shown (s.log calls) = shown s := by
  induction calls generalizing s with
  | nil => rfl
  | cons c calls ih =>
    show shown ((s.emit (.log c)).log calls) = shown s
    rw [ih, shown_emit]
    exact List.append_nil _

@[simp] theorem shown_send (s : Impl) (env : Env) (bytes : List UInt8) :
    shown (s.send env bytes).2 = shown s := by
  unfold Impl.send
  split
  · rfl
  · rw [shown_emit]
    exact List.append_nil _

@[simp] theorem shown_sendLogged (s : Impl) (env : Env) (bytes : List UInt8) (calls : List LogCall) :
    shown (s.sendLogged env bytes calls) = shown s := by
  unfold Impl.sendLogged
  rcases hsend : s.send env bytes with ⟨_ | _, t⟩
  · rw [← shown_send s env bytes, hsend]
  · rw [← shown_send s env bytes, hsend]
    exact shown_log t calls

@[simp] theorem shown_allocate (s : Impl) : shown s.allocate = shown s := by
  show shown ({ s with allocated := s.allocated + 1 }.emit (.malloc s.allocated)) = shown s
  rw [shown_emit]
  exact List.append_nil _

@[simp] theorem shown_insertHandle (s : Impl) (remote : UInt64) (handle : Handle) :
    shown (s.insertHandle remote handle) = shown s := by
  unfold Impl.insertHandle
  split
  · rfl
  · show shown ({ s with mHandles := s.mHandles.insert remote handle }.emit (.inserted remote handle.id)) =
      shown s
    rw [shown_emit]
    exact List.append_nil _

theorem mHandles_log (s : Impl) (calls : List LogCall) : (s.log calls).mHandles = s.mHandles :=
  congrArg Ledger.live (s.ledger_log calls)

/-- The map alone says which handles there are. -/
theorem owners_congr {s t : Impl} (h : s.mHandles = t.mHandles) : owners s = owners t := by
  unfold owners
  rw [h]

theorem mem_keys_iff_owners (s : Impl) (r : UInt64) : r ∈ s.mHandles.keys ↔ (owners s r).isSome := by
  rw [OrdMap.mem_keys_iff, owners, Option.isSome_map, Option.isSome_iff_exists]

/-- The receiver after a message for a request: one callback, and the handles as they should be. -/
structure Shows (s t : Impl) (request : Option Request) : Prop where
  shown : shown t = shown s ++ (request.map (Request.callback (owners s))).toList
  owners : owners t = (request.map (Request.owners (owners s))).getD (owners s)
  control : t.control = s.control

/-- What is logged before is not shown. -/
theorem Shows.of_log {s t : Impl} {request : Option Request} (calls : List LogCall)
    (h : Shows (s.log calls) t request) : Shows s t request := by
  have howners : Emulator.owners (s.log calls) = Emulator.owners s := owners_congr (mHandles_log s calls)
  obtain ⟨hs, ho, hc⟩ := h
  rw [shown_log, howners] at hs
  rw [howners] at ho
  exact ⟨hs, ho, hc.trans (Impl.control_log s calls)⟩

section Bodies

variable (cfg : Config) (env : Env) (ev : DisplayEvent) (s : Impl) (info : BufferInfo)

theorem act_shows_createBuffer (gralloc : CrosGrallocHandle) (fds : List Int32) :
    Shows s ((Body.createBuffer info gralloc fds).act cfg env ev s)
      (some (.create info.remoteHandle gralloc)) := by
  simp only [Body.act]
  set handle : Handle := ⟨s.allocated, Body.received env gralloc fds⟩ with hhandle
  set t := s.allocate.log _ with ht
  have hshown : shown t = shown s := by rw [ht, shown_log, shown_allocate]
  have hmap : t.mHandles = s.mHandles := mHandles_log s.allocate _
  have hessence : essence handle.gralloc = essence gralloc := essence_received env gralloc fds
  refine ⟨?_, ?_, ?_⟩
  · rw [shown_emit, shown_insertHandle, hshown]
    simp [callbackOf, Request.callback, hessence]
  · funext r
    show ((t.insertHandle info.remoteHandle handle).mHandles.find r).map _ = _
    unfold Impl.insertHandle
    rw [hmap]
    by_cases hkey : info.remoteHandle ∈ s.mHandles.keys
    · -- The handle that is there stays.
      obtain ⟨old, hold⟩ := OrdMap.mem_keys_iff.mp hkey
      rw [if_pos hkey, hmap]
      by_cases hr : r = info.remoteHandle
      · simp [Request.owners, owners, hr, hold]
      · simp [Request.owners, owners, hr]
    · rw [if_neg hkey]
      have hnone : s.mHandles.find info.remoteHandle = none := OrdMap.find_eq_none_iff.mpr hkey
      show ((s.mHandles.insert info.remoteHandle handle).find r).map _ = _
      rw [OrdMap.find_insert handle hkey]
      by_cases hr : r = info.remoteHandle
      · simp [Request.owners, owners, hr, hnone, hessence]
      · simp [Request.owners, owners, hr]
  · simp [ht]

theorem act_shows_removeBuffer (hpossible : (owners s info.remoteHandle).isSome) :
    Shows s ((Body.removeBuffer info).act cfg env ev s) (some (.remove info.remoteHandle)) := by
  simp only [Body.act]
  apply Shows.of_log [.addBufferInfoStruct info 2]
  set t := s.log [.addBufferInfoStruct info 2] with ht
  obtain ⟨handle, hfind⟩ := OrdMap.mem_keys_iff.mp ((mem_keys_iff_owners s _).mpr hpossible)
  rw [← mHandles_log s [.addBufferInfoStruct info 2], ← ht] at hfind
  rw [hfind]
  refine ⟨?_, ?_, rfl⟩
  · show shown (t.releaseHandle info.remoteHandle handle) = _
    unfold Impl.releaseHandle
    rw [shown_emit, shown_emit, shown_emit]
    simp [callbackOf, Request.callback, owners, hfind]
  · funext r
    show ((t.mHandles.erase info.remoteHandle).find r).map _ = _
    rw [OrdMap.find_erase]
    by_cases hr : r = info.remoteHandle
    · simp [Request.owners, hr]
    · simp [Request.owners, owners, hr]

theorem act_shows_displayReq (ctrl : Option DisplayControl)
    (hpossible : (owners s info.remoteHandle).isSome) :
    Shows s ((Body.displayReq info ctrl).act cfg env ev s) (some (.display info.remoteHandle ctrl)) := by
  simp only [Body.act]
  apply Shows.of_log [.addBufferInfoStruct info 2]
  apply Shows.of_log (ctrl.toList.map (.addDisplayControlStruct · 2))
  set t := (s.log [.addBufferInfoStruct info 2]).log (ctrl.toList.map (.addDisplayControlStruct · 2)) with ht
  obtain ⟨handle, hfind⟩ := OrdMap.mem_keys_iff.mp ((mem_keys_iff_owners s _).mpr hpossible)
  have hmap : t.mHandles = s.mHandles := (mHandles_log _ _).trans (mHandles_log _ _)
  rw [← hmap] at hfind
  refine ⟨?_, ?_, Impl.control_displayFrame env info ctrl t⟩
  · unfold Impl.displayFrame
    rw [hfind]
    dsimp only
    rw [shown_sendLogged, shown_emit]
    simp [callbackOf, Request.callback, owners, hfind]
  · apply owners_congr
    unfold Impl.displayFrame
    rw [hfind]
    exact congrArg Ledger.live (Impl.ledger_sendLogged (t.emit _) env _ _)

/-- The two requests that are only answered. -/
theorem shows_of_send (bytes : List UInt8) (calls : List LogCall) :
    Shows s ((s.send env bytes).2.log calls) none := by
  refine ⟨?_, ?_, ?_⟩
  · rw [shown_log, shown_send]
    simp
  · exact owners_congr ((mHandles_log _ _).trans (congrArg Ledger.live (Impl.ledger_send s env bytes)))
  · rw [Impl.control_log, Impl.control_send]

end Bodies

/-- **A message that does not end the worker makes the callback it asks for.** -/
theorem act_shows (cfg : Config) (env : Env) (m : Message) (s : Impl) (hstay : ¬ m.body.Ends cfg m.event)
    (hpossible : ∀ q, requestOf m.body = some q → q.Possible (owners s)) :
    Shows s (m.act cfg env s) (requestOf m.body) := by
  obtain ⟨ev, body⟩ := m
  unfold Message.act
  dsimp only at hpossible ⊢
  apply Shows.of_log [.updateEventCount (translateEvType ev.type),
    .logGenericEventInfo (translateEvType ev.type) (some ev)]
  set t := s.log _ with ht
  have howners : owners t = owners s := owners_congr (mHandles_log _ _)
  rw [← howners] at hpossible
  cases body with
  | dispInfoReq =>
    have hcheck : ¬ Impl.checkDispConfig cfg ev.id.toInt32 ev.renderNode.toInt32 = -1 :=
      fun hcheck => hstay ⟨rfl, hcheck⟩
    simp only [Body.act, if_neg hcheck]
    exact shows_of_send env t _ _
  | dispPortReq => exact shows_of_send env t _ _
  | createBuffer info gralloc fds => exact act_shows_createBuffer cfg env ev t info gralloc fds
  | removeBuffer info => exact act_shows_removeBuffer cfg env ev t info (hpossible _ rfl)
  | displayReq info ctrl => exact act_shows_displayReq cfg env ev t info ctrl (hpossible _ rfl)

/-! ## The emulator -/

/-- An entry of a session, with what the surroundings answer: to the emulator while it sends the entry, to
the receiver while it handles what was sent. -/
structure Entry where
  payload : List Struct
  eventType : UInt32
  surroundings : Surroundings
  env : Env

namespace Entry

/-- The entry is sent. -/
def exchange (e : Entry) : Command Unit :=
  CmdHandler.dataExchange e.surroundings e.payload ⟨e.eventType, .send⟩

/-- The header in the first element of the payload. -/
def header (e : Entry) : Option DisplayEvent :=
  match e.payload with
  | .displayEvent ev :: _ => some ev
  | .bufferInfoEvent evInfo :: _ => some evInfo.event
  | _ => none

/-- The gralloc handle of a `CREATE_BUFFER`. -/
def gralloc (e : Entry) : Option CrosGrallocHandle :=
  match e.payload with
  | .bufferInfoEvent _ :: .grallocHandle gralloc :: _ => some gralloc
  | _ => none

/-- What the entry asks for; there is a control block when the size of the header says so. -/
def request (e : Entry) : Option Request :=
  match e.payload with
  | .bufferInfoEvent evInfo :: more =>
    if e.eventType = evCreateBuffer then e.gralloc.map (.create evInfo.info.remoteHandle)
    else if e.eventType = evRemoveBuffer then some (.remove evInfo.info.remoteHandle)
    else if e.eventType = evDisplayReq then
      some (.display evInfo.info.remoteHandle
        (if evInfo.event.size.toNat = sizeofBufferInfoEvent + sizeofDisplayControl then
          CmdHandler.controlOf more else none))
    else none
  | _ => none

/-- The headers are as a log of a session has them, and the receiver takes part in it. -/
structure Regular (cfg : Config) (renderNode : UInt32) (e : Entry) : Prop where
  type : ∀ ev ∈ e.header, ev.type = e.eventType
  createSize : e.eventType = evCreateBuffer → ∀ ev ∈ e.header,
    ev.size.toNat = sizeofBufferInfoEvent + sizeofCrosGrallocHandle
  createFds : e.eventType = evCreateBuffer → ∀ gralloc ∈ e.gralloc, gralloc.numFds = 1
  displaySize : e.eventType = evDisplayReq → ∀ ev ∈ e.header, 24 ≤ ev.size.toNat ∧ ev.size.toNat < 2 ^ 31
  dispInfo : e.eventType = evDispInfoReq → ∀ ev ∈ e.header,
    Impl.checkDispConfig cfg ev.id.toInt32 renderNode.toInt32 ≠ -1

end Entry

/-- The objects of the emulator are those of the remote handles that stand for something. -/
def SameHandles (h : CmdHandler) (o : Owners) : Prop := ∀ r, r ∈ h.gfx.boList.keys ↔ (o r).isSome

/-- The emulator has sent a message for the entry. -/
structure Sends (cfg : Config) (e : Entry) (h h' : CmdHandler) (m : Message) : Prop where
  wellFormed : m.WellFormed
  stays : ¬ m.body.Ends cfg m.event
  request : requestOf m.body = e.request
  outgoing : h'.outgoing = h.outgoing ++ m.wire
  renderNode : h'.gfx.renderNode = h.gfx.renderNode
  possible : ∀ o, SameHandles h o → ∀ q, e.request = some q → q.Possible o
  handles : ∀ o, SameHandles h o → SameHandles h' ((e.request.map (Request.owners o)).getD o)

section Cases

variable {cfg : Config} {e : Entry} {h h' : CmdHandler} {u : Unit}

theorem sends_event (hblocking : e.surroundings.Blocking) (hreg : e.Regular cfg h.gfx.getRenderNode)
    (htype : e.eventType = evDispInfoReq ∨ e.eventType = evDispPortReq) {ev : DisplayEvent}
    {more : List Struct} (hpayload : e.payload = .displayEvent ev :: more)
    (hok : CmdHandler.writeIntoSocket e.surroundings 0 (Layout.displayEvent.write (h.override ev)) h =
      .ok u h') : ∃ m, Sends cfg e h h' m := by
  have hheader : ev ∈ e.header := by simp [Entry.header, hpayload]
  have hnone : e.request = none := by simp [Entry.request, hpayload]
  obtain rfl := CmdHandler.writeIntoSocket_ok hblocking hok
  have hsame (o : Owners) (hs : SameHandles h o) :
      SameHandles (h.put (plain (Layout.displayEvent.write (h.override ev))))
        ((e.request.map (Request.owners o)).getD o) := by
    rw [hnone]
    exact hs
  have hpossible (o : Owners) (_ : SameHandles h o) (q : Request) (hq : e.request = some q) :
      q.Possible o := by
    rw [hnone] at hq
    cases hq
  rcases htype with hinfo | hport
  · refine ⟨⟨h.override ev, .dispInfoReq⟩, ⟨(hreg.type ev hheader).trans hinfo, trivial⟩, ?_,
      hnone.symm, ?_, rfl, hpossible, hsame⟩
    · rintro ⟨-, hcheck⟩
      exact hreg.dispInfo hinfo ev hheader hcheck
    · simp [CmdHandler.put, Message.wire, Body.wire]
  · refine ⟨⟨h.override ev, .dispPortReq⟩, ⟨(hreg.type ev hheader).trans hport, trivial⟩, ?_,
      hnone.symm, ?_, rfl, hpossible, hsame⟩
    · exact Body.stays_of_type (show evDispPortReq ≠ evDispInfoReq by decide)
    · simp [CmdHandler.put, Message.wire, Body.wire]

theorem sends_createBuffer (hblocking : e.surroundings.Blocking)
    (hreg : e.Regular cfg h.gfx.getRenderNode) (htype : e.eventType = evCreateBuffer)
    {evInfo : BufferInfoEvent} {gralloc : CrosGrallocHandle} {more : List Struct}
    (hpayload : e.payload = .bufferInfoEvent evInfo :: .grallocHandle gralloc :: more)
    (hok : CmdHandler.createBuffer e.surroundings evInfo gralloc h = .ok u h') :
    ∃ m, Sends cfg e h h' m := by
  have hheader : evInfo.event ∈ e.header := by simp [Entry.header, hpayload]
  have hgralloc : e.gralloc = some gralloc := by simp [Entry.gralloc, hpayload]
  have hrequest : e.request = some (.create evInfo.info.remoteHandle gralloc) := by
    simp [Entry.request, hpayload, htype, hgralloc]
  have hnumFds : gralloc.numFds = 1 := hreg.createFds htype gralloc hgralloc
  have hone : sizeT gralloc.numFds = 1 := by
    rw [hnumFds]
    decide
  have hsize : evInfo.event.size = 228 := by
    rw [← UInt32.toNat_inj]
    exact hreg.createSize htype _ hheader
  obtain ⟨⟨fd, hout⟩, ⟨bo, hlist⟩, hnode⟩ := CmdHandler.createBuffer_ok hblocking hok
  have hwf : Message.WellFormed ⟨h.override evInfo.event, .createBuffer evInfo.info gralloc [fd]⟩ :=
    ⟨(hreg.type _ hheader).trans htype, hsize, by rw [hone], by rw [hone]; decide, by simp⟩
  refine ⟨_, hwf, ?_, hrequest.symm, hout, hnode, ?_, ?_⟩
  · exact Body.stays_of_type (show evCreateBuffer ≠ evDispInfoReq by decide)
  · intro o _ q hq
    rw [hrequest] at hq
    cases hq
    trivial
  · intro o hsame r
    rw [hrequest, hlist, OrdMap.mem_keys_insert, hsame r]
    by_cases hr : r = evInfo.info.remoteHandle
    · simp [Request.owners, hr]
    · simp [Request.owners, hr]

theorem sends_removeBuffer (hblocking : e.surroundings.Blocking)
    (hreg : e.Regular cfg h.gfx.getRenderNode) (htype : e.eventType = evRemoveBuffer)
    {evInfo : BufferInfoEvent} {more : List Struct} (hpayload : e.payload = .bufferInfoEvent evInfo :: more)
    (hok : CmdHandler.removeBuffer e.surroundings evInfo h = .ok u h') : ∃ m, Sends cfg e h h' m := by
  have hheader : evInfo.event ∈ e.header := by simp [Entry.header, hpayload]
  have hrequest : e.request = some (.remove evInfo.info.remoteHandle) := by
    rw [Entry.request, hpayload, htype]
    rfl
  obtain ⟨hout, hmem, hlist, hnode⟩ := CmdHandler.removeBuffer_ok hblocking hok
  have hwf : Message.WellFormed ⟨h.override evInfo.event, .removeBuffer evInfo.info⟩ :=
    ⟨(hreg.type _ hheader).trans htype, trivial⟩
  -- The exchange went through, so the object was there, and with it the receiver's handle.
  refine ⟨_, hwf, ?_, hrequest.symm, hout, hnode, ?_, ?_⟩
  · exact Body.stays_of_type (show evRemoveBuffer ≠ evDispInfoReq by decide)
  · intro o hsame q hq
    rw [hrequest] at hq
    cases hq
    exact (hsame _).mp hmem
  · intro o hsame r
    rw [hrequest, hlist, OrdMap.mem_keys_erase, hsame r]
    by_cases hr : r = evInfo.info.remoteHandle
    · simp [Request.owners, hr]
    · simp [Request.owners, hr]

theorem sends_displayReq (hblocking : e.surroundings.Blocking)
    (hreg : e.Regular cfg h.gfx.getRenderNode) (htype : e.eventType = evDisplayReq)
    {evInfo : BufferInfoEvent} {more : List Struct} (hpayload : e.payload = .bufferInfoEvent evInfo :: more)
    (hok : CmdHandler.xchngDisplayRequest e.surroundings (.bufferInfoEvent evInfo :: more) h = .ok u h') :
    ∃ m, Sends cfg e h h' m := by
  have hheader : evInfo.event ∈ e.header := by simp [Entry.header, hpayload]
  obtain ⟨hmin, hmax⟩ := hreg.displaySize htype _ hheader
  have hmin' : 24 ≤ evInfo.event.size := UInt32.le_iff_toNat_le.mpr hmin
  -- The emulator and the receiver compute from the size field whether there is a control block.
  have hhas : CmdHandler.HasCtrl evInfo.event.size ↔ evInfo.event.size = 36 :=
    (payloadSize_fits hmin' hmax).2
  have hannounced : CmdHandler.HasCtrl evInfo.event.size ↔
      evInfo.event.size.toNat = sizeofBufferInfoEvent + sizeofDisplayControl := by
    rw [hhas, ← UInt32.toNat_inj]
    rfl
  obtain ⟨⟨ctrl, hctrl, hsome, hout⟩, hmem, ⟨bo, hlist⟩, hnode⟩ :=
    CmdHandler.xchngDisplayRequest_ok hblocking hok
  have hrequest : e.request = some (.display evInfo.info.remoteHandle ctrl) := by
    rw [Entry.request, hpayload, htype, hctrl]
    simp only [hannounced]
    rfl
  have hwf : Message.WellFormed ⟨h.override evInfo.event, .displayReq evInfo.info ctrl⟩ :=
    ⟨(hreg.type _ hheader).trans htype, hmin', hmax, hsome.trans hhas⟩
  refine ⟨_, hwf, ?_, hrequest.symm, hout, hnode, ?_, ?_⟩
  · exact Body.stays_of_type (show evDisplayReq ≠ evDispInfoReq by decide)
  · intro o hsame q hq
    rw [hrequest] at hq
    cases hq
    exact (hsame _).mp hmem
  · intro o hsame r
    rw [hrequest, hlist, OrdMap.mem_keys_insert, OrdMap.mem_keys_erase, hsame r]
    have hpresent : (o evInfo.info.remoteHandle).isSome := (hsame _).mp hmem
    by_cases hr : r = evInfo.info.remoteHandle
    · simpa [Request.owners, hr] using hpresent
    · simp [Request.owners, hr]

end Cases

/-- **An exchange that goes through has sent the message of its entry.** -/
theorem exchange_sends {cfg : Config} {e : Entry} {h h' : CmdHandler} {u : Unit}
    (hblocking : e.surroundings.Blocking) (hreg : e.Regular cfg h.gfx.getRenderNode)
    (hok : e.exchange h = .ok u h') : ∃ m, Sends cfg e h h' m := by
  unfold Entry.exchange CmdHandler.dataExchange at hok
  obtain ⟨-, hok⟩ := Checked.guard_eq_ok.mp hok
  dsimp only at hok
  unfold CmdHandler.sendEntry at hok
  by_cases hevent : e.eventType = evDispInfoReq ∨ e.eventType = evDispPortReq
  · rw [if_pos hevent] at hok
    rcases hpayload : e.payload with _ | ⟨_ | _ | _ | _ | _ | _ | _, more⟩
    all_goals rw [hpayload] at hok
    case cons.displayEvent ev =>
      obtain ⟨_, _, hget, hok⟩ := Checked.bind_eq_ok.mp hok
      obtain ⟨rfl, rfl⟩ := Checked.get_eq_ok.mp hget
      exact sends_event hblocking hreg hevent hpayload hok
    all_goals exact absurd hok Checked.throw_ne_ok
  rw [if_neg hevent] at hok
  by_cases hcreate : e.eventType = evCreateBuffer
  · rw [if_pos hcreate] at hok
    rcases hpayload : e.payload with _ | ⟨_ | _ | _ | _ | _ | _ | _, more⟩
    all_goals rw [hpayload] at hok
    case cons.bufferInfoEvent evInfo =>
      rcases more with _ | ⟨_ | _ | _ | _ | _ | _ | _, more⟩
      case cons.grallocHandle gralloc => exact sends_createBuffer hblocking hreg hcreate hpayload hok
      all_goals exact absurd hok Checked.throw_ne_ok
    all_goals exact absurd hok Checked.throw_ne_ok
  rw [if_neg hcreate] at hok
  by_cases hremove : e.eventType = evRemoveBuffer
  · rw [if_pos hremove] at hok
    rcases hpayload : e.payload with _ | ⟨_ | _ | _ | _ | _ | _ | _, more⟩
    all_goals rw [hpayload] at hok
    case cons.bufferInfoEvent evInfo => exact sends_removeBuffer hblocking hreg hremove hpayload hok
    all_goals exact absurd hok Checked.throw_ne_ok
  rw [if_neg hremove] at hok
  by_cases hdisplay : e.eventType = evDisplayReq
  · rw [if_pos hdisplay] at hok
    rcases hpayload : e.payload with _ | ⟨_ | _ | _ | _ | _ | _ | _, more⟩
    all_goals rw [hpayload] at hok
    case cons.bufferInfoEvent evInfo => exact sends_displayReq hblocking hreg hdisplay hpayload hok
    all_goals exact absurd hok Checked.throw_ne_ok
  · rw [if_neg hdisplay] at hok
    exact absurd hok Checked.throw_ne_ok

/-! ## Both -/

/-- The entries of a session, one after the other, as long as each goes through. -/
def replay : List Entry → Command Unit
  | [] => pure ()
  | e :: es => do
    e.exchange
    replay es

theorem replay_eq_runAll (es : List Entry) : replay es = Checked.runAll Entry.exchange es := by
  induction es with
  | nil => rfl
  | cons e es ih => rw [replay, Checked.runAll, ih]

theorem replay_append {es fs : List Entry} {h h' : CmdHandler} {u : Unit} :
    replay (es ++ fs) h = .ok u h' ↔ ∃ t, replay es h = .ok () t ∧ replay fs t = .ok u h' := by
  simp only [replay_eq_runAll]
  exact Checked.runAll_append

/-- The turns of the receiver that read what the entries sent. -/
def read (cfg : Config) (s : Impl) (es : List Entry) : Impl :=
  es.foldl (fun s e => s.turn cfg (.ready e.env)) s

/-- The worker is in its loop, on a connection. -/
def Working (s : Impl) : Prop := s.working = true ∧ s.connected = true

theorem Working.of_control {s t : Impl} (h : t.control = s.control) (hs : Working s) : Working t := by
  have hwork : t.working = s.working := congrArg (fun c => c.2.1) h
  have hconn : t.connected = s.connected := congrArg (fun c => c.2.2) h
  exact ⟨hwork.trans hs.1, hconn.trans hs.2⟩

/-- A turn of the receiver on the message of a request. -/
theorem turn_shows (cfg : Config) {env : Env} (hblock : env.block.isSome) {s : Impl} {m : Message}
    {tail : List WireByte} (hwork : Working s) (hm : m.WellFormed) (hstay : ¬ m.body.Ends cfg m.event)
    (hpossible : ∀ q, requestOf m.body = some q → q.Possible (owners s))
    (hfeed : s.feed = Feed.whole (m.wire ++ tail)) :
    Shows s (s.turn cfg (.ready env)) (requestOf m.body) ∧
      (s.turn cfg (.ready env)).feed = Feed.whole tail := by
  have hlen := m.length_wire
  have hle : m.units.sum ≤ (m.wire ++ tail).length := by
    rw [List.length_append]
    omega
  have hready : s.turn cfg (.ready env) = s.onReady cfg env := by
    simp [Impl.turn, Impl.step, hwork.1, hwork.2]
  have hmessage := onReady_message cfg env s m hm hblock (by rw [hfeed, Feed.bytes_whole])
    (by rw [hfeed]; exact Feed.uncut_whole hle)
  have hskip : s.feed.skipAll m.units = Feed.whole tail := by
    rw [hfeed, Feed.skipAll_whole hle, ← hlen, List.drop_left]
  rw [hready, hmessage, hskip, Message.act_rest cfg env m s _ hstay]
  obtain ⟨hshown, howners, hcontrol⟩ := act_shows cfg env m s hstay hpossible
  exact ⟨⟨hshown, howners, hcontrol⟩, rfl⟩

/-- The conditions of an agreement on an entry: what the log has in it, that sockets block, and that the
receiver gets memory for a handle. -/
structure Entry.Fair (cfg : Config) (renderNode : UInt32) (e : Entry) : Prop where
  regular : e.Regular cfg renderNode
  blocking : e.surroundings.Blocking
  block : e.env.block.isSome

/-- A run of both sides: what the emulator sends through a list of entries, and what the receiver does when
that is next on its connection. -/
theorem replay_shows (cfg : Config) (es : List Entry) {h h' : CmdHandler}
    (hok : replay es h = .ok () h') (hfair : ∀ e ∈ es, e.Fair cfg h.gfx.getRenderNode) :
    ∃ bytes, h'.outgoing = h.outgoing ++ bytes ∧ h'.gfx.renderNode = h.gfx.renderNode ∧
      ∀ (s : Impl) (tail : List WireByte), Working s → SameHandles h (owners s) →
        s.feed = Feed.whole (bytes ++ tail) →
        shown (read cfg s es) = shown s ++ Request.callbacks (owners s) (es.filterMap Entry.request) ∧
        SameHandles h' (owners (read cfg s es)) := by
  -- On the entries.  What the receiver does is said for every receiver with the same handles and for any
  -- bytes behind, so that the rest of the session can follow the first message.
  induction es generalizing h with
  | nil =>
    obtain ⟨-, rfl⟩ := Checked.pure_eq_ok.mp hok
    refine ⟨[], by simp, rfl, ?_⟩
    intro s tail _ hsame _
    exact ⟨by simp [read, Request.callbacks], hsame⟩
  | cons e es ih =>
    obtain ⟨_, t, hexchange, hrest⟩ := Checked.bind_eq_ok.mp hok
    have hthis := hfair e List.mem_cons_self
    obtain ⟨m, hsends⟩ := exchange_sends hthis.blocking hthis.regular hexchange
    have hnode : t.gfx.getRenderNode = h.gfx.getRenderNode :=
      congrArg Int32.toUInt32 hsends.renderNode
    obtain ⟨bytes, hout, hnodes, hread⟩ := ih hrest
      (by rw [hnode]; exact fun e he => hfair e (List.mem_cons_of_mem _ he))
    refine ⟨m.wire ++ bytes, ?_, hnodes.trans hsends.renderNode, ?_⟩
    · rw [hout, hsends.outgoing, List.append_assoc]
    · intro s tail hwork hsame hfeed
      rw [List.append_assoc] at hfeed
      obtain ⟨hshows, hleft⟩ := turn_shows cfg hthis.block hwork hsends.wellFormed hsends.stays
        (by rw [hsends.request]; exact hsends.possible _ hsame) hfeed
      rw [hsends.request] at hshows
      -- The turn took exactly the message, so the receiver stands where the rest of the bytes begin.
      set s₁ := s.turn cfg (.ready e.env) with hs₁
      have hsame₁ : SameHandles t (owners s₁) := by
        rw [hshows.owners]
        exact hsends.handles _ hsame
      obtain ⟨hshown, hend⟩ := hread s₁ tail (Working.of_control hshows.control hwork) hsame₁ hleft
      refine ⟨?_, hend⟩
      show shown (read cfg s₁ es) = _
      rw [hshown, hshows.shown, hshows.owners]
      -- Port and info requests are answered on the socket and call nothing.
      cases hrequest : e.request with
      | none => simp [hrequest]
      | some q => simp [hrequest, Request.callbacks]

/-- **Emulator and receiver agree.**  Through any session that the emulator gets through, a receiver that reads
what it sends makes the callback of each request, in order, and after every entry the two hold the same
remote handles. -/
theorem replay_agrees (cfg : Config) (done todo : List Entry) (h h' : CmdHandler) (s : Impl)
    (hok : replay (done ++ todo) h = .ok () h')
    (hfair : ∀ e ∈ done ++ todo, e.Fair cfg h.gfx.getRenderNode) (hfresh : h.outgoing = [])
    (hwork : Working s) (hkeys : ∀ r, r ∈ h.gfx.boList.keys ↔ r ∈ s.mHandles.keys) :
    ∃ t, replay done h = .ok () t ∧
      shown (read cfg (s.rest (Feed.whole h'.outgoing)) done) =
        shown s ++ Request.callbacks (owners s) (done.filterMap Entry.request) ∧
      ∀ r, r ∈ t.gfx.boList.keys ↔
        r ∈ (read cfg (s.rest (Feed.whole h'.outgoing)) done).mHandles.keys := by
  obtain ⟨t, hdone, htodo⟩ := replay_append.mp hok
  have hfairDone : ∀ e ∈ done, e.Fair cfg h.gfx.getRenderNode :=
    fun e he => hfair e (List.mem_append_left _ he)
  obtain ⟨bytes, hout, hnode, hread⟩ := replay_shows cfg done hdone hfairDone
  have hnode' : t.gfx.getRenderNode = h.gfx.getRenderNode := congrArg Int32.toUInt32 hnode
  obtain ⟨tail, hout', -, -⟩ := replay_shows cfg todo htodo
    (by rw [hnode']; exact fun e he => hfair e (List.mem_append_right _ he))
  have hstream : h'.outgoing = bytes ++ tail := by rw [hout', hout, hfresh, List.nil_append]
  have hsame : SameHandles h (owners s) := fun r => (hkeys r).trans (mem_keys_iff_owners s r)
  obtain ⟨hshown, hend⟩ := hread (s.rest (Feed.whole h'.outgoing)) tail hwork hsame (by rw [hstream]; rfl)
  refine ⟨t, hdone, hshown, ?_⟩
  intro r
  rw [hend r, mem_keys_iff_owners]

/-- A device on which every call succeeds, and a socket that takes everything. -/
def calmSurroundings : Surroundings where
  kernel := ⟨some 1, some 9, true, true, some 4096, true, true⟩
  send _ n := n
  install fd := fd
  fresh _ := 0

/-- An emulator that has just been connected to, with one pixel of content. -/
def freshEmulator : CmdHandler where
  socket := some true
  outgoing := []
  incoming := []
  received := []
  gfx := ⟨true, .empty, 0, []⟩
  inputStream := ⟨[1, 2, 3, 4], 0, false, false⟩
  srcWidth := 0
  srcHeight := 0

/-- One pixel. -/
def pixel : CrosGrallocHandle :=
  { Layout.crosGrallocHandle.read [] with numFds := 1, width := 1, height := 1, format := 1 }

/-- A buffer is created, displayed with a control block, and removed. -/
def createDisplay : List Entry :=
  [⟨[.bufferInfoEvent ⟨⟨evCreateBuffer, 228, 0, 0⟩, ⟨7⟩⟩, .grallocHandle pixel], evCreateBuffer,
      calmSurroundings, calmEnv⟩,
    ⟨[.bufferInfoEvent ⟨⟨evDisplayReq, 36, 0, 0⟩, ⟨7⟩⟩, .displayControl (Layout.displayControl.read [])],
      evDisplayReq, calmSurroundings, calmEnv⟩]

def remove : List Entry :=
  [⟨[.bufferInfoEvent ⟨⟨evRemoveBuffer, 24, 0, 0⟩, ⟨7⟩⟩], evRemoveBuffer, calmSurroundings, calmEnv⟩]

theorem fair_of_regular {cfg : Config} {renderNode : UInt32} {payload : List Struct} {eventType : UInt32}
    (h : Entry.Regular cfg renderNode ⟨payload, eventType, calmSurroundings, calmEnv⟩) :
    Entry.Fair cfg renderNode ⟨payload, eventType, calmSurroundings, calmEnv⟩ :=
  ⟨h, fun _ _ => Or.inr rfl, rfl⟩

def succeeds {ε σ α : Type} : EStateM.Result ε σ α → Bool
  | .ok _ _ => true
  | .error _ _ => false

/-- In front of the removal both sides hold the buffer. -/
theorem replay_agrees_createDisplay : ∃ h' t, replay (createDisplay ++ remove) freshEmulator = .ok () h' ∧
    replay createDisplay freshEmulator = .ok () t ∧
    shown (read anySession (atWork.rest (Feed.whole h'.outgoing)) createDisplay) =
      shown atWork ++ Request.callbacks (owners atWork) (createDisplay.filterMap Entry.request) ∧
    ∀ r, r ∈ t.gfx.boList.keys ↔
      r ∈ (read anySession (atWork.rest (Feed.whole h'.outgoing)) createDisplay).mHandles.keys := by
  have hrun : ∃ h', replay (createDisplay ++ remove) freshEmulator = .ok () h' := by
    have hsucceeds : succeeds (replay (createDisplay ++ remove) freshEmulator) = true := by decide +kernel
    cases hresult : replay (createDisplay ++ remove) freshEmulator with
    | ok u h' => exact ⟨h', rfl⟩
    | error e h' =>
      rw [hresult] at hsucceeds
      cases hsucceeds
  obtain ⟨h', hok⟩ := hrun
  have hfair : ∀ e ∈ createDisplay ++ remove, e.Fair anySession freshEmulator.gfx.getRenderNode := by
    intro e he
    simp only [createDisplay, remove, List.cons_append, List.nil_append, List.mem_cons,
      List.not_mem_nil, or_false] at he
    rcases he with rfl | rfl | rfl
    · apply fair_of_regular
      refine ⟨?_, ?_, ?_, fun hdisplay => absurd hdisplay (by decide),
        fun hinfo => absurd hinfo (by decide)⟩
      · rintro _ ⟨⟩
        rfl
      · rintro - _ ⟨⟩
        rfl
      · rintro - _ ⟨⟩
        rfl
    · apply fair_of_regular
      refine ⟨?_, fun hcreate => absurd hcreate (by decide), fun hcreate => absurd hcreate (by decide), ?_,
        fun hinfo => absurd hinfo (by decide)⟩
      · rintro _ ⟨⟩
        rfl
      · rintro - _ ⟨⟩
        decide
    · apply fair_of_regular
      refine ⟨?_, fun hcreate => absurd hcreate (by decide), fun hcreate => absurd hcreate (by decide),
        fun hdisplay => absurd hdisplay (by decide), fun hinfo => absurd hinfo (by decide)⟩
      rintro _ ⟨⟩
      rfl
  obtain ⟨t, hdone, hshown, hkeys⟩ := replay_agrees anySession createDisplay remove freshEmulator h' atWork hok
    hfair rfl ⟨rfl, rfl⟩ (fun _ => Iff.rfl)
  exact ⟨h', t, hok, hdone, hshown, hkeys⟩

end VhalClient.Emulator
