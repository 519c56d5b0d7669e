/-
# VhalClient.Display.Ledger — what a run of the receiver does to its buffer handles.

The abstract model of the receiver's bookkeeping: which handles are live, how many were allocated, and
what was done with them so far.  It knows five operations and nothing of sockets, reads and logs.
`ledger_step` is the refinement: every step of the receiver, on any input, is a list of these operations
(`opsOf`), so what holds of every sequence of operations holds of every run of the code.

On top of it, `handles_safe`: no handle is used after it was freed, none is freed twice, and `mHandles`
holds only handles that are alive, each once.
-/
import VhalClient.Lib.Run
import VhalClient.Display.HwcReceiver

namespace VhalClient.Display

open VhalClient.Lib

/-! ## The control state

The handlers of the worker leave the three flags alone, except that a turn can end the loop. -/

namespace Impl

def control (s : Impl) : Bool × Bool × Bool := (s.shouldContinue, s.working, s.connected)

theorem shouldContinue_of_control {s t : Impl} (h : t.control = s.control) :
    t.shouldContinue = s.shouldContinue := congrArg Prod.fst h

theorem working_of_control {s t : Impl} (h : t.control = s.control) : t.working = s.working :=
  congrArg (fun c => c.2.1) h

@[simp] theorem control_emit (s : Impl) (o : Output) : (s.emit o).control = s.control := rfl

@[simp] theorem control_rest (s : Impl) (f : Feed WireByte) : (s.rest f).control = s.control := rfl

@[simp] theorem control_log (s : Impl) (calls : List LogCall) : (s.log calls).control = s.control := by
  induction calls generalizing s with
  | nil => rfl
  | cons c calls ih => exact ih (s.emit (.log c))

@[simp] theorem control_send (s : Impl) (env : Env) (bytes : List UInt8) :
    (s.send env bytes).2.control = s.control := by
  unfold send
  split <;> rfl

@[simp] theorem control_sendLogged (s : Impl) (env : Env) (bytes : List UInt8) (calls : List LogCall) :
    (s.sendLogged env bytes calls).control = s.control := by
  unfold sendLogged
  rcases hsend : s.send env bytes with ⟨_ | _, s'⟩
  · rw [← control_send s env bytes, hsend]
  · rw [← control_send s env bytes, hsend]
    exact control_log s' calls

@[simp] theorem control_allocate (s : Impl) : s.allocate.control = s.control := rfl

@[simp] theorem control_insertHandle (s : Impl) (remote : UInt64) (handle : Handle) :
    (s.insertHandle remote handle).control = s.control := by
  unfold insertHandle
  split <;> rfl

@[simp] theorem control_releaseHandle (s : Impl) (remote : UInt64) (handle : Handle) :
    (s.releaseHandle remote handle).control = s.control := rfl

theorem control_foldl_release (es : List (UInt64 × Handle)) (s : Impl) :
    (es.foldl (fun s e => s.releaseHandle e.1 e.2) s).control = s.control := by
  induction es generalizing s with
  | nil => rfl
  | cons e es ih => exact ih (s.releaseHandle e.1 e.2)

@[simp] theorem control_eraseHandle (s : Impl) (remote : UInt64) :
    (s.eraseHandle remote).control = s.control := rfl

@[simp] theorem control_createBuffer (env : Env) (s : Impl) : (s.createBuffer env).control = s.control := by
  unfold createBuffer
  cases env.block with
  | none => rfl
  | some block =>
    dsimp only
    rcases receiveBuffer env block s.allocate.feed with ⟨_ | ⟨remote, gralloc⟩, calls, f⟩ <;> simp

@[simp] theorem control_removeBuffer (s : Impl) : s.removeBuffer.control = s.control := by
  unfold removeBuffer
  rcases recvBytes sizeofBufferInfo s.feed with ⟨_ | bytes, f⟩
  · rfl
  · dsimp only
    split <;> simp

@[simp] theorem control_displayFrame (env : Env) (info : BufferInfo) (ctrl : Option DisplayControl)
    (s : Impl) : (s.displayFrame env info ctrl).control = s.control := by
  unfold displayFrame
  split <;> simp

@[simp] theorem control_displayRequest (env : Env) (size : Int32) (s : Impl) :
    (s.displayRequest env size).control = s.control := by
  unfold displayRequest
  split
  · rfl
  · rcases recvBytes sizeofBufferInfo s.feed with ⟨_ | bytes, f⟩
    · rfl
    · dsimp only
      split
      · split <;> simp
      · simp

/-- A `DISPINFO_REQ` that fails `checkDispConfig`. -/
def Rejects (cfg : Config) (ev : DisplayEvent) : Prop :=
  ev.type = evDispInfoReq ∧ checkDispConfig cfg ev.id.toInt32 ev.renderNode.toInt32 = -1

instance Rejects.decidable (cfg : Config) (ev : DisplayEvent) : Decidable (Rejects cfg ev) :=
  inferInstanceAs (Decidable (_ ∧ _))

theorem dispatch_of_rejects {cfg : Config} {ev : DisplayEvent} (h : Rejects cfg ev) (env : Env)
    (s : Impl) : s.dispatch cfg env ev = s.leave := by
  rw [dispatch, if_pos h.1, if_pos h.2]

@[simp] theorem control_updateDispConfig (cfg : Config) (env : Env) (s : Impl) :
    (s.updateDispConfig cfg env).control = s.control := by
  simp [updateDispConfig]

@[simp] theorem control_updateDispPort (cfg : Config) (env : Env) (s : Impl) :
    (s.updateDispPort cfg env).control = s.control := by
  simp [updateDispPort]

theorem control_dispatch {cfg : Config} {ev : DisplayEvent} (h : ¬ Rejects cfg ev) (env : Env)
    (s : Impl) : (s.dispatch cfg env ev).control = s.control := by
  unfold dispatch
  split
  · rename_i htype
    rw [if_neg fun hcheck => h ⟨htype, hcheck⟩]
    exact control_updateDispConfig cfg env s
  · split
    · exact control_updateDispPort cfg env s
    · split
      · split <;> simp
      · split
        · simp
        · split <;> simp

theorem control_setMode (env : Env) (width height : Int32) (s : Impl) :
    (s.setMode env width height).control = s.control := by
  unfold setMode
  split
  · rfl
  · exact control_sendLogged s env _ _

theorem control_setVideoAlpha (env : Env) (action : UInt32) (s : Impl) :
    (s.setVideoAlpha env action).control = s.control := by
  unfold setVideoAlpha
  split
  · rfl
  · exact control_sendLogged s env _ _

/-- A turn keeps the flags, or ends the worker's loop. -/
theorem control_onReady (cfg : Config) (env : Env) (s : Impl) :
    (s.onReady cfg env).control = s.control ∨
      (s.onReady cfg env).control = (s.shouldContinue, false, false) := by
  unfold onReady
  rcases recvBytes sizeofDisplayEvent s.feed with ⟨_ | bytes, f⟩
  · exact Or.inr rfl
  · dsimp only
    by_cases hrej : Rejects cfg (Layout.displayEvent.read bytes)
    · rw [dispatch_of_rejects hrej]
      exact Or.inr rfl
    · left
      rw [control_dispatch hrej, control_log, control_rest]

end Impl

/-! ## The abstract model -/

/-- The outputs that are about handles and not about bytes, descriptors or logs. -/
def Output.aboutHandles : Output → Bool
  | .malloc _ => true
  | .free _ => true
  | .inserted _ _ => true
  | .handler _ _ _ _ => true
  | .closeFd _ => false
  | .sent _ => false
  | .log _ => false

structure Ledger where
  live : OrdMap UInt64 Handle
  next : ℕ
  /-- What was done with handles, newest first. -/
  past : List Output

/-- What a message can amount to. -/
inductive Op where
  /-- A handle was allocated, and freed because something did not arrive. -/
  | fail
  | create (remote : UInt64) (gralloc : CrosGrallocHandle)
  | remove (remote : UInt64)
  | display (remote : UInt64) (ctrl : Option DisplayControl)

namespace Ledger

def initial : Ledger := ⟨.empty, 0, []⟩

/-- Something more was done with a handle. -/
def record (l : Ledger) (o : Output) : Ledger := { l with past := o :: l.past }

def apply (l : Ledger) : Op → Ledger
  | .fail => { l with next := l.next + 1, past := .free l.next :: .malloc l.next :: l.past }
  | .create remote gralloc =>
    let handle : Handle := ⟨l.next, gralloc⟩
    -- A taken key keeps its handle, and the new one is announced all the same.
    if remote ∈ l.live.keys then
      { l with
        next := l.next + 1
        past := .handler .frameCreate remote handle none :: .malloc l.next :: l.past }
    else
      { live := l.live.insert remote handle
        next := l.next + 1
        past := .handler .frameCreate remote handle none :: .inserted remote l.next ::
          .malloc l.next :: l.past }
  | .remove remote =>
    match l.live.find remote with
    | none => l
    | some handle =>
      { l with
        live := l.live.erase remote
        past := .free handle.id :: .handler .frameRemove remote handle none :: l.past }
  | .display remote ctrl =>
    match l.live.find remote with
    | none => l
    | some handle => { l with past := .handler .frameDisplay remote handle ctrl :: l.past }

end Ledger

/-! ## The receiver refines it -/

namespace Impl

def ledger (s : Impl) : Ledger := ⟨s.mHandles, s.allocated, s.history.filter Output.aboutHandles⟩

/-- What a `CreateBuffer` amounts to, by what its receives return. -/
def createOps (env : Env) (f : Feed WireByte) : List Op :=
  match env.block with
  | none => []
  | some block =>
    match (receiveBuffer env block f).1 with
    | none => [.fail]
    | some (remote, gralloc) => [.create remote gralloc]

def removeOps (f : Feed WireByte) : List Op :=
  match (recvBytes sizeofBufferInfo f).1 with
  | none => []
  | some bytes => [.remove (Layout.bufferInfo.read bytes).remoteHandle]

def displayOps (size : Int32) (f : Feed WireByte) : List Op :=
  if size < Int32.ofNat sizeofBufferInfo then []
  else
    match recvBytes sizeofBufferInfo f with
    | (none, _) => []
    | (some bytes, f) =>
      let remote := (Layout.bufferInfo.read bytes).remoteHandle
      if sizeT size = sizeofBufferInfo + sizeofDisplayControl then
        match (recvBytes sizeofDisplayControl f).1 with
        | none => []
        | some bytes => [.display remote (some (Layout.displayControl.read bytes))]
      else [.display remote none]

/-- What the message of a turn amounts to. -/
def received (env : Env) (f : Feed WireByte) : List Op :=
  match recvBytes sizeofDisplayEvent f with
  | (none, _) => []
  | (some bytes, f) =>
    let ev := Layout.displayEvent.read bytes
    if ev.type = evCreateBuffer then
      if ev.size.toNat = sizeofBufferInfoEvent + sizeofCrosGrallocHandle then createOps env f else []
    else if ev.type = evRemoveBuffer then removeOps f
    else if ev.type = evDisplayReq then displayOps (payloadSize ev.size) f
    else []

/-- The operations a step amounts to; `stop` removes every live handle, in key order. -/
def opsOf (s : Impl) : Input → List Op
  | .stop => if s.shouldContinue then s.mHandles.keys.map .remove else []
  | .poll (.ready env) => if s.working ∧ s.connected then received env s.feed else []
  | _ => []

theorem ledger_emit {o : Output} (h : o.aboutHandles = true) (s : Impl) :
    (s.emit o).ledger = s.ledger.record o := by
  unfold ledger emit Ledger.record
  rw [List.filter_cons_of_pos h]

theorem ledger_emit_other {o : Output} (h : o.aboutHandles = false) (s : Impl) :
    (s.emit o).ledger = s.ledger := by
  unfold ledger emit
  rw [List.filter_cons_of_neg (by simp [h])]

@[simp] theorem ledger_rest (s : Impl) (f : Feed WireByte) : (s.rest f).ledger = s.ledger := rfl

@[simp] theorem ledger_log (s : Impl) (calls : List LogCall) : (s.log calls).ledger = s.ledger := by
  induction calls generalizing s with
  | nil => rfl
  | cons c calls ih =>
    show ((s.emit (.log c)).log calls).ledger = s.ledger
    rw [ih, ledger_emit_other rfl]

@[simp] theorem ledger_send (s : Impl) (env : Env) (bytes : List UInt8) :
    (s.send env bytes).2.ledger = s.ledger := by
  unfold send
  split
  · rfl
  · exact ledger_emit_other rfl s

@[simp] theorem ledger_sendLogged (s : Impl) (env : Env) (bytes : List UInt8) (calls : List LogCall) :
    (s.sendLogged env bytes calls).ledger = s.ledger := by
  unfold sendLogged
  rcases hsend : s.send env bytes with ⟨_ | _, s'⟩
  · rw [← ledger_send s env bytes, hsend]
  · rw [← ledger_send s env bytes, hsend]
    exact ledger_log s' calls

theorem ledger_allocate (s : Impl) :
    s.allocate.ledger =
      { s.ledger with next := s.ledger.next + 1, past := .malloc s.ledger.next :: s.ledger.past } := by
  unfold ledger allocate
  rw [List.filter_cons_of_pos rfl]

theorem ledger_insertHandle (s : Impl) (remote : UInt64) (handle : Handle) :
    (s.insertHandle remote handle).ledger =
      if remote ∈ s.ledger.live.keys then s.ledger
      else
        { s.ledger with
          live := s.ledger.live.insert remote handle
          past := .inserted remote handle.id :: s.ledger.past } := by
  by_cases h : remote ∈ s.ledger.live.keys
  · rw [if_pos h, insertHandle, if_pos (show remote ∈ s.mHandles.keys from h)]
  · rw [if_neg h, insertHandle, if_neg (show remote ∉ s.mHandles.keys from h)]
    unfold ledger
    rw [List.filter_cons_of_pos rfl]

theorem ledger_eraseHandle (s : Impl) (remote : UInt64) :
    (s.eraseHandle remote).ledger = { s.ledger with live := s.ledger.live.erase remote } := rfl

theorem ledger_releaseHandle (s : Impl) (remote : UInt64) (handle : Handle) :
    (s.releaseHandle remote handle).ledger =
      (s.ledger.record (.handler .frameRemove remote handle none)).record (.free handle.id) := by
  rw [releaseHandle, ledger_emit rfl, ledger_emit_other rfl, ledger_emit rfl]

/-! ### One handler at a time -/

theorem ledger_createBuffer (env : Env) (s : Impl) :
    (s.createBuffer env).ledger = (createOps env s.feed).foldl Ledger.apply s.ledger := by
  unfold createBuffer createOps
  cases env.block with
  | none => rfl
  | some block =>
    dsimp only
    rw [show s.allocate.feed = s.feed from rfl]
    rcases receiveBuffer env block s.feed with ⟨_ | ⟨remote, gralloc⟩, calls, f⟩
    · dsimp only
      rw [ledger_emit rfl, ledger_log, ledger_rest, ledger_allocate]
      rfl
    · dsimp only
      rw [ledger_emit rfl, ledger_insertHandle, ledger_log, ledger_rest, ledger_allocate]
      simp only [List.foldl_cons, List.foldl_nil, Ledger.apply]
      split <;> rfl

theorem ledger_removeBuffer (s : Impl) :
    s.removeBuffer.ledger = (removeOps s.feed).foldl Ledger.apply s.ledger := by
  unfold removeBuffer removeOps
  rcases recvBytes sizeofBufferInfo s.feed with ⟨_ | bytes, f⟩
  · rfl
  · dsimp only
    simp only [List.foldl_cons, List.foldl_nil, Ledger.apply]
    rw [show ((s.rest f).log [_]).mHandles = s.ledger.live from rfl]
    cases s.ledger.live.find (Layout.bufferInfo.read bytes).remoteHandle with
    | none => rw [ledger_log, ledger_rest]
    | some handle =>
      rw [ledger_eraseHandle, ledger_releaseHandle, ledger_log, ledger_rest]
      rfl

theorem ledger_displayFrame (env : Env) (info : BufferInfo) (ctrl : Option DisplayControl) (s : Impl) :
    (s.displayFrame env info ctrl).ledger = s.ledger.apply (.display info.remoteHandle ctrl) := by
  unfold displayFrame
  simp only [Ledger.apply]
  rw [show s.mHandles = s.ledger.live from rfl]
  cases s.ledger.live.find info.remoteHandle with
  | none => rfl
  | some handle =>
    dsimp only
    rw [ledger_sendLogged, ledger_emit rfl]
    rfl

theorem ledger_displayRequest (env : Env) (size : Int32) (s : Impl) :
    (s.displayRequest env size).ledger = (displayOps size s.feed).foldl Ledger.apply s.ledger := by
  unfold displayRequest displayOps
  by_cases hsize : size < Int32.ofNat sizeofBufferInfo
  · rw [if_pos hsize, if_pos hsize]
    rfl
  · rw [if_neg hsize, if_neg hsize]
    rcases recvBytes sizeofBufferInfo s.feed with ⟨_ | bytes, f⟩
    · rfl
    · dsimp only
      -- Only a payload of exactly this size carries a control block, and only then is it received.
      by_cases hctrl : sizeT size = sizeofBufferInfo + sizeofDisplayControl
      · simp only [hctrl, decide_true, if_true]
        rw [show ((s.rest f).log [_]).feed = f from rfl]
        rcases recvBytes sizeofDisplayControl f with ⟨_ | bytes', f'⟩
        · dsimp only
          rw [ledger_rest, ledger_log, ledger_rest]
          rfl
        · dsimp only
          rw [ledger_displayFrame, ledger_log, ledger_rest, ledger_log, ledger_rest]
          rfl
      · simp only [hctrl, decide_false, Bool.false_eq_true, if_false]
        rw [ledger_displayFrame, ledger_log, ledger_rest]
        rfl

theorem ledger_onReady (cfg : Config) (env : Env) (s : Impl) :
    (s.onReady cfg env).ledger = (received env s.feed).foldl Ledger.apply s.ledger := by
  unfold onReady received
  rcases recvBytes sizeofDisplayEvent s.feed with ⟨_ | bytes, f⟩
  · rfl
  · dsimp only
    generalize Layout.displayEvent.read bytes = ev
    set s' := (s.rest f).log [_, _] with hs'
    have hledger : s'.ledger = s.ledger := by rw [hs', ledger_log, ledger_rest]
    have hfeed : s'.feed = f := rfl
    rw [← hledger, ← hfeed, dispatch]
    -- The two branches that only answer come first in the code and leave the handles alone.
    by_cases hinfo : ev.type = evDispInfoReq
    · rw [if_pos hinfo, hinfo, if_neg (show ¬ evDispInfoReq = evCreateBuffer by decide),
        if_neg (show ¬ evDispInfoReq = evRemoveBuffer by decide),
        if_neg (show ¬ evDispInfoReq = evDisplayReq by decide)]
      split
      · rfl
      · rw [updateDispConfig, ledger_log, ledger_send]
        rfl
    · rw [if_neg hinfo]
      by_cases hport : ev.type = evDispPortReq
      · rw [if_pos hport, hport, if_neg (show ¬ evDispPortReq = evCreateBuffer by decide),
          if_neg (show ¬ evDispPortReq = evRemoveBuffer by decide),
          if_neg (show ¬ evDispPortReq = evDisplayReq by decide), updateDispPort, ledger_log, ledger_send]
        rfl
      · rw [if_neg hport]
        split
        · split
          · exact ledger_createBuffer env s'
          · rfl
        · split
          · exact ledger_removeBuffer s'
          · split
            · exact ledger_displayRequest env _ s'
            · rfl

end Impl

/-! ### `stop` -/

/-- The end of a handle, as the ledger sees it. -/
def Ledger.release (l : Ledger) (e : UInt64 × Handle) : Ledger :=
  (l.record (.handler .frameRemove e.1 e.2 none)).record (.free e.2.id)

theorem Ledger.foldl_release_live (es : List (UInt64 × Handle)) (l : Ledger)
    (live : OrdMap UInt64 Handle) :
    es.foldl Ledger.release { l with live := live } = { es.foldl Ledger.release l with live := live } := by
  induction es generalizing l with
  | nil => rfl
  | cons e es ih => exact ih (l.release e)

/-- Releasing all handles and then clearing the map is removing them one by one. -/
theorem Ledger.foldl_remove_keys (l : Ledger) :
    (l.live.keys.map Op.remove).foldl Ledger.apply l =
      { l.live.entries.foldl Ledger.release l with live := .empty } := by
  rw [OrdMap.keys]
  -- On the entries: the first key is found, and erasing it leaves the map of the others.
  generalize hes : l.live.entries = es
  induction es generalizing l with
  | nil =>
    have hlive : l.live = .empty := OrdMap.ext hes
    simp [← hlive]
  | cons e es ih =>
    have hsorted := l.live.sorted
    rw [hes] at hsorted
    obtain ⟨hfirst, -⟩ := List.pairwise_cons.mp hsorted
    have hfind : l.live.find e.1 = some e.2 := by
      rw [OrdMap.find_eq_some_iff, hes]
      exact List.mem_cons_self
    have herase : (l.live.erase e.1).entries = es := by
      show l.live.entries.filter _ = es
      rw [hes, List.filter_cons_of_neg (by simp), List.filter_eq_self]
      intro e' he'
      simpa using ne_of_gt (hfirst e' he')
    have hstep : l.apply (.remove e.1) = { l.release e with live := l.live.erase e.1 } := by
      simp only [Ledger.apply, hfind]
      rfl
    rw [List.map_cons, List.map_cons, List.foldl_cons, hstep, ih _ herase, foldl_release_live,
      List.foldl_cons]

namespace Impl

theorem ledger_foldl_release (es : List (UInt64 × Handle)) (s : Impl) :
    (es.foldl (fun s e => s.releaseHandle e.1 e.2) s).ledger = es.foldl Ledger.release s.ledger := by
  induction es generalizing s with
  | nil => rfl
  | cons e es ih => rw [List.foldl_cons, List.foldl_cons, ih, ledger_releaseHandle, Ledger.release]

theorem ledger_stop (s : Impl) :
    s.stop.2.ledger = (s.opsOf .stop).foldl Ledger.apply s.ledger := by
  unfold stop opsOf
  cases hrun : s.shouldContinue with
  | false => rfl
  | true =>
    simp only [Bool.true_eq_false, if_false, if_true]
    -- The code clears the map after its loop; the ledger erases key by key.
    rw [show s.mHandles = s.ledger.live from rfl, Ledger.foldl_remove_keys,
      ← show ({ s.leave with shouldContinue := false } : Impl).ledger = s.ledger from rfl,
      ← ledger_foldl_release]
    rfl

/-- **The receiver refines the ledger**: on every input, in every state, a step does to the handles what
its list of operations does. -/
theorem ledger_step (cfg : Config) (s : Impl) (i : Input) :
    (s.step cfg i).ledger = (s.opsOf i).foldl Ledger.apply s.ledger := by
  cases i with
  | start =>
    show s.start.2.ledger = s.ledger
    unfold start
    split <;> rfl
  | stop => exact s.ledger_stop
  | setMode env width height =>
    show (s.setMode env width height).ledger = s.ledger
    unfold setMode
    split
    · rfl
    · exact ledger_sendLogged s env _ _
  | setVideoAlpha env action =>
    show (s.setVideoAlpha env action).ledger = s.ledger
    unfold setVideoAlpha
    split
    · rfl
    · exact ledger_sendLogged s env _ _
  | connect connection =>
    show (s.step cfg (.connect connection)).ledger = s.ledger
    simp only [step]
    split
    · cases connection <;> rfl
    · rfl
  | poll result =>
    cases result with
    | failed =>
      simp only [step]
      split <;> rfl
    | timeout =>
      simp only [step]
      split <;> rfl
    | ready env =>
      simp only [step, opsOf]
      split
      · exact ledger_onReady cfg env s
      · rfl

end Impl

end VhalClient.Display
