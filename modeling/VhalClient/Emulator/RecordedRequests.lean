/-
# VhalClient.Emulator.RecordedRequests — what the records of a session say of its callbacks.

The log of a receiver is made of its records, and what its client saw is not in them: the logger is called where a
struct was received, the client where the message was handled.  For a session whose messages came whole the records
are enough.  Each of them asks for one request or none, and as long as no request is about a handle that is not
there, the callbacks of the client are those of the requests (`follows_session`).
-/
import VhalClient.Emulator.LogReplay
import VhalClient.Emulator.Session

namespace VhalClient.Emulator

open VhalClient.Lib VhalClient.Display

/-! ## The requests in the records -/

/-- The request of a message about a buffer, from what of it was recorded. -/
def requestOfParts (type : UInt32) (info : BufferInfo) (p : Parts) : Option Request :=
  if type = evCreateBuffer then p.gralloc.map (.create info.remoteHandle)
  else if type = evRemoveBuffer then some (.remove info.remoteHandle)
  else if type = evDisplayReq then some (.display info.remoteHandle p.ctrl)
  else none

def requestOfRecord : Record → Option Request
  | .received ev parts => parts.info.bind fun info => requestOfParts ev.type info parts
  | .replied _ _ => none

def recordedRequests (rs : List Record) : List Request := rs.filterMap requestOfRecord

/-- Whatever the header announces came. -/
def CameWhole : Record → Prop
  | .received ev parts =>
    (ev.type = evCreateBuffer ∨ ev.type = evRemoveBuffer ∨ ev.type = evDisplayReq → parts.info.isSome) ∧
      (ev.type = evCreateBuffer → parts.gralloc.isSome) ∧
      (ev.type = evDisplayReq → CmdHandler.HasCtrl ev.size → parts.ctrl.isSome)
  | .replied _ _ => True

theorem recordedRequests_append (rs ss : List Record) :
    recordedRequests (rs ++ ss) = recordedRequests rs ++ recordedRequests ss := List.filterMap_append

/-- Answers ask for nothing. -/
theorem recordedRequests_replies (replies : List Reply) (count : ℤ) :
    recordedRequests (replies.map (.replied · count)) = [] := by
  induction replies with
  | nil => rfl
  | cons reply replies ih => exact ih

/-- A message and the answers to it. -/
theorem recordedRequests_received {ev : DisplayEvent} {parts : Parts} {rs : List Record} {replies : List Reply}
    {count : ℤ} (h : rs = .received ev parts :: replies.map (.replied · count)) :
    recordedRequests rs = (requestOfRecord (.received ev parts)).toList := by
  have hrest := recordedRequests_replies replies count
  rw [h]
  show recordedRequests ([Record.received ev parts] ++ _) = _
  rw [recordedRequests_append, hrest, List.append_nil, recordedRequests]
  cases hrequest : requestOfRecord (.received ev parts) <;> simp [hrequest]

/-! ## Following them -/

/-- The client was shown the callbacks of the requests between the two states, and the handles are as they lead. -/
structure Follows (s t : Impl) (qs : List Request) : Prop where
  shown : shown t = shown s ++ Request.callbacks (owners s) qs
  owners : owners t = Request.ownersAfter (owners s) qs

theorem Follows.nothing {s t : Impl} (hshown : Emulator.shown t = Emulator.shown s)
    (hmap : t.mHandles = s.mHandles) : Follows s t [] where
  shown := hshown.trans (List.append_nil _).symm
  owners := owners_congr hmap

theorem Follows.trans {s t u : Impl} {qs rs : List Request} (h : Follows s t qs) (h' : Follows t u rs) :
    Follows s u (qs ++ rs) where
  shown := by rw [h'.shown, h.shown, h.owners, Request.callbacks_append, List.append_assoc]
  owners := by rw [h'.owners, h.owners, Request.ownersAfter_append]

/-- What is read and logged on the way is not shown. -/
theorem Follows.of_log {s u : Impl} {qs : List Request} (f : Feed WireByte) (calls : List LogCall)
    (h : Follows ((s.rest f).log calls) u qs) : Follows s u qs := by
  have hsame : Follows s ((s.rest f).log calls) [] :=
    .nothing (shown_log (s.rest f) calls) (mHandles_log (s.rest f) calls)
  exact hsame.trans h

theorem Shows.follows {s t : Impl} {q : Option Request} (h : Shows s t q) : Follows s t q.toList where
  shown := by rw [h.shown, Request.callbacks_toList]
  owners := by rw [h.owners, Request.ownersAfter_toList]

/-! ## One message -/

section Messages

variable (cfg : Config) (env : Env) (ev : DisplayEvent) (s : Impl)

theorem ctrl_createParts (f : Feed WireByte) : (Impl.createParts env f).ctrl = none := by
  unfold Impl.createParts
  split
  · rfl
  split
  · rfl
  dsimp only
  split
  · rfl
  split
  · rfl
  · rfl

/-- A buffer whose handle came with its descriptors is shown and kept. -/
theorem follows_createBuffer {info : BufferInfo} {gralloc : CrosGrallocHandle}
    (hinfo : (Impl.createParts env s.feed).info = some info)
    (hgralloc : (Impl.createParts env s.feed).gralloc = some gralloc) :
    Follows s (s.createBuffer env) [.create info.remoteHandle gralloc] := by
  have hparts : Impl.createParts env s.feed = ⟨some info, some gralloc, none⟩ := by
    rw [← hinfo, ← hgralloc, ← ctrl_createParts env s.feed]
  obtain ⟨block, calls, f, hblock, hbuffer⟩ := createParts_accepted hparts
  unfold Impl.createBuffer
  rw [hblock]
  dsimp only
  rw [show s.allocate.feed = s.feed from rfl, hbuffer]
  dsimp only
  set t := (s.allocate.rest f).log calls with ht
  have hshown : shown t = shown s := (shown_log (s.allocate.rest f) calls).trans (shown_allocate s)
  have hmap : t.mHandles = s.mHandles := mHandles_log (s.allocate.rest f) calls
  constructor
  · rw [shown_emit, shown_insertHandle, hshown]
    rfl
  · funext r
    show ((t.insertHandle info.remoteHandle ⟨s.allocated, gralloc⟩).mHandles.find r).map _ =
      Request.owners (owners s) (.create info.remoteHandle gralloc) r
    unfold Impl.insertHandle
    rw [hmap]
    by_cases hkey : info.remoteHandle ∈ s.mHandles.keys
    · -- The handle that is there stays.
      obtain ⟨old, hold⟩ := OrdMap.mem_keys_iff.mp hkey
      rw [if_pos hkey, hmap]
      by_cases hr : r = info.remoteHandle
      · simp [Request.owners, owners, hr, hold]
      · simp [Request.owners, owners, hr]
    · rw [if_neg hkey]
      have hnone : s.mHandles.find info.remoteHandle = none := OrdMap.find_eq_none_iff.mpr hkey
      show ((s.mHandles.insert info.remoteHandle _).find r).map _ = _
      rw [OrdMap.find_insert _ hkey]
      by_cases hr : r = info.remoteHandle
      · simp [Request.owners, owners, hr, hnone]
      · simp [Request.owners, owners, hr]

theorem follows_removeBuffer (htype : ev.type = evRemoveBuffer) {info : BufferInfo}
    (hinfo : (Impl.removeParts s.feed).info = some info) (hpossible : (owners s info.remoteHandle).isSome) :
    Follows s (s.dispatch cfg env ev) [.remove info.remoteHandle] := by
  unfold Impl.removeParts at hinfo
  rcases hread : recvBytes sizeofBufferInfo s.feed with ⟨_ | bytes, f⟩
  · rw [hread] at hinfo
    cases hinfo
  rw [hread] at hinfo
  obtain rfl := Option.some.inj hinfo
  have hact : s.dispatch cfg env ev =
      (Body.removeBuffer (Layout.bufferInfo.read bytes)).act cfg env ev (s.rest f) := by
    rw [Impl.dispatch, htype, if_neg (by decide), if_neg (by decide), if_neg (by decide), if_pos rfl,
      Impl.removeBuffer, hread]
    rfl
  have hshows := act_shows_removeBuffer cfg env ev (s.rest f) _ hpossible
  rw [hact]
  exact ⟨hshows.follows.shown, hshows.follows.owners⟩

/-- What is read of a whole `DISPLAY_REQ`. -/
theorem displayRecords_whole {s : Impl} (htype : ev.type = evDisplayReq) {parts : Parts} {rs : List Record}
    (hrecords : Impl.displayRecords env ev s.feed s = .received ev parts :: rs)
    (hwhole : CameWhole (.received ev parts)) :
    ∃ info f, parts.info = some info ∧
      s.dispatch cfg env ev = (Body.displayReq info parts.ctrl).act cfg env ev (s.rest f) := by
  obtain ⟨hinfo, -, hctrl⟩ := hwhole
  have hsome := hinfo (.inr (.inr htype))
  have hdispatch : s.dispatch cfg env ev = s.displayRequest env (Impl.payloadSize ev.size) := by
    rw [Impl.dispatch, htype, if_neg (by decide), if_neg (by decide), if_neg (by decide), if_neg (by decide),
      if_pos rfl]
  rw [hdispatch]
  have hhead {p : Parts} {rs' : List Record} (h : Record.received ev p :: rs' = .received ev parts :: rs) :
      p = parts := (Record.received.inj (List.cons.inj h).1).2
  unfold Impl.displayRecords at hrecords
  unfold Impl.displayRequest
  by_cases hshort : Impl.payloadSize ev.size < Int32.ofNat sizeofBufferInfo
  · rw [if_pos hshort] at hrecords
    rw [← hhead hrecords] at hsome
    cases hsome
  rw [if_neg hshort] at hrecords ⊢
  rcases hread : recvBytes sizeofBufferInfo s.feed with ⟨_ | bytes, f⟩
  · rw [hread] at hrecords
    rw [← hhead hrecords] at hsome
    cases hsome
  rw [hread] at hrecords
  dsimp only at hrecords ⊢
  by_cases hhas : sizeT (Impl.payloadSize ev.size) = sizeofBufferInfo + sizeofDisplayControl
  · have hfeed : ((s.rest f).log [.addBufferInfoStruct (Layout.bufferInfo.read bytes) 2]).feed = f := rfl
    rw [if_pos hhas] at hrecords
    rw [if_pos (decide_eq_true hhas), hfeed]
    rcases hread' : recvBytes sizeofDisplayControl f with ⟨_ | ctrlBytes, f'⟩
    · -- The control block was announced, and did not come.
      have hcame := hctrl htype hhas
      rw [hread'] at hrecords
      rw [← hhead hrecords] at hcame
      cases hcame
    · rw [hread'] at hrecords
      rw [← hhead hrecords]
      exact ⟨_, f', rfl, rfl⟩
  · rw [if_neg hhas] at hrecords
    rw [if_neg (by rw [decide_eq_true_iff]; exact hhas), ← hhead hrecords]
    exact ⟨_, f, rfl, rfl⟩

/-- **A message that came whole shows its client what its record asks for.** -/
theorem follows_dispatch {s : Impl} {parts : Parts} {rs : List Record}
    (hrecords : Impl.messageRecords cfg env ev s.feed s = .received ev parts :: rs)
    (hwhole : CameWhole (.received ev parts))
    (hfeasible : Request.Feasible (owners s) (requestOfRecord (.received ev parts)).toList) :
    Follows s (s.dispatch cfg env ev) (requestOfRecord (.received ev parts)).toList := by
  have hnothing (hinfo : ev.type ≠ evCreateBuffer) (hremove : ev.type ≠ evRemoveBuffer)
      (hdisplay : ev.type ≠ evDisplayReq) : requestOfRecord (.received ev parts) = none := by
    rw [requestOfRecord]
    cases parts.info with
    | none => rfl
    | some info =>
      show requestOfParts ev.type info parts = none
      rw [requestOfParts, if_neg hinfo, if_neg hremove, if_neg hdisplay]
  have hsent (bytes : List UInt8) (calls : List LogCall) : Follows s ((s.send env bytes).2.log calls) [] :=
    (shows_of_send env s bytes calls).follows
  by_cases hinfo : ev.type = evDispInfoReq
  · rw [hnothing (by rw [hinfo]; decide) (by rw [hinfo]; decide) (by rw [hinfo]; decide), Impl.dispatch,
      if_pos hinfo]
    split
    · exact .nothing rfl rfl
    · exact hsent _ _
  by_cases hport : ev.type = evDispPortReq
  · rw [hnothing (by rw [hport]; decide) (by rw [hport]; decide) (by rw [hport]; decide), Impl.dispatch,
      if_neg hinfo, if_pos hport]
    exact hsent _ _
  by_cases hcreate : ev.type = evCreateBuffer
  · obtain ⟨info, hsome⟩ := Option.isSome_iff_exists.mp (hwhole.1 (.inl hcreate))
    obtain ⟨gralloc, hgralloc⟩ := Option.isSome_iff_exists.mp (hwhole.2.1 hcreate)
    have hrequest : requestOfRecord (.received ev parts) = some (.create info.remoteHandle gralloc) := by
      rw [requestOfRecord, hsome]
      show requestOfParts ev.type info parts = _
      rw [requestOfParts, if_pos hcreate, hgralloc]
      rfl
    obtain ⟨-, hsize, hparts⟩ := Impl.messageRecords_gralloc hrecords (by rw [hgralloc]; simp)
    rw [hrequest, Impl.dispatch, if_neg hinfo, if_neg hport, if_pos hcreate, if_pos hsize]
    exact follows_createBuffer env s (by rw [hparts, hsome]) (by rw [hparts, hgralloc])
  by_cases hremove : ev.type = evRemoveBuffer
  · obtain ⟨info, hsome⟩ := Option.isSome_iff_exists.mp (hwhole.1 (.inr (.inl hremove)))
    have hrequest : requestOfRecord (.received ev parts) = some (.remove info.remoteHandle) := by
      rw [requestOfRecord, hsome]
      show requestOfParts ev.type info parts = _
      rw [requestOfParts, if_neg hcreate, if_pos hremove]
    rw [Impl.messageRecords, if_neg hinfo, if_neg hport, if_neg hcreate, if_pos hremove] at hrecords
    obtain ⟨-, rfl⟩ := Record.received.inj (List.cons.inj hrecords).1
    rw [hrequest] at hfeasible ⊢
    exact follows_removeBuffer cfg env ev s hremove hsome hfeasible.1
  by_cases hdisplay : ev.type = evDisplayReq
  · rw [Impl.messageRecords, if_neg hinfo, if_neg hport, if_neg hcreate, if_neg hremove, if_pos hdisplay]
      at hrecords
    obtain ⟨info, f, hsome, hact⟩ := displayRecords_whole cfg env ev hdisplay hrecords hwhole
    have hrequest : requestOfRecord (.received ev parts) = some (.display info.remoteHandle parts.ctrl) := by
      rw [requestOfRecord, hsome]
      show requestOfParts ev.type info parts = _
      rw [requestOfParts, if_neg hcreate, if_neg hremove, if_pos hdisplay]
    rw [hrequest] at hfeasible ⊢
    have hshows := act_shows_displayReq cfg env ev (s.rest f) info parts.ctrl hfeasible.1
    rw [hact]
    exact ⟨hshows.follows.shown, hshows.follows.owners⟩
  · rw [hnothing hcreate hremove hdisplay, Impl.dispatch, if_neg hinfo, if_neg hport, if_neg hcreate,
      if_neg hremove, if_neg hdisplay]
    exact .nothing rfl rfl

theorem messageRecords_congr (cfg : Config) (env : Env) (ev : DisplayEvent) (f : Feed WireByte) {s t : Impl}
    (h : t.mHandles = s.mHandles) :
    Impl.messageRecords cfg env ev f t = Impl.messageRecords cfg env ev f s := by
  have hacks (info : BufferInfo) := Impl.displayAcks_congr env info h
  unfold Impl.messageRecords Impl.displayRecords
  simp only [hacks]

end Messages

/-! ## A session -/

variable (cfg : Config)

/-- One step, unless it is `stop`, which tells the client about every buffer that is left. -/
theorem follows_step (s : Impl) (i : Input) (hstop : i ≠ .stop) (hwhole : ∀ r ∈ s.records cfg i, CameWhole r)
    (hfeasible : Request.Feasible (owners s) (recordedRequests (s.records cfg i))) :
    Follows s (s.step cfg i) (recordedRequests (s.records cfg i)) := by
  rcases Impl.records_cases cfg s i with ⟨replies, count, hreplies⟩ | ⟨env, bytes, f, rfl, hworking, hread, hmessage⟩
  · rw [hreplies, recordedRequests_replies]
    have hlogged (env : Env) (bytes : List UInt8) (calls : List LogCall) :
        Follows s (s.sendLogged env bytes calls) [] :=
      .nothing (shown_sendLogged s env bytes calls) (congrArg Ledger.live (Impl.ledger_sendLogged s env bytes calls))
    cases i with
    | start =>
      show Follows s s.start.2 []
      unfold Impl.start
      split
      · exact .nothing rfl rfl
      · exact .nothing rfl rfl
    | stop => exact absurd rfl hstop
    | setMode env width height =>
      show Follows s (s.setMode env width height) []
      unfold Impl.setMode
      split
      · exact .nothing rfl rfl
      · exact hlogged env _ _
    | setVideoAlpha env action =>
      show Follows s (s.setVideoAlpha env action) []
      unfold Impl.setVideoAlpha
      split
      · exact .nothing rfl rfl
      · exact hlogged env _ _
    | connect connection =>
      simp only [Impl.step]
      split
      · cases connection with
        | none => exact .nothing rfl rfl
        | some f => exact .nothing rfl rfl
      · exact .nothing rfl rfl
    | poll result =>
      simp only [Impl.step]
      split
      · rename_i hworking
        cases result with
        | failed => exact .nothing rfl rfl
        | timeout => exact .nothing rfl rfl
        | ready env =>
          simp only [Impl.records, if_pos hworking] at hreplies
          show Follows s (s.onReady cfg env) []
          unfold Impl.onReady
          rcases hread : recvBytes sizeofDisplayEvent s.feed with ⟨_ | bytes, f⟩
          · exact .nothing rfl rfl
          · -- A message is recorded as one that was received.
            obtain ⟨parts, rest, heq, -⟩ :=
              Impl.messageRecords_eq cfg env (Layout.displayEvent.read bytes) f s
            rw [hread] at hreplies
            dsimp only at hreplies
            rw [heq] at hreplies
            obtain ⟨reply, -, hreply⟩ := List.mem_map.mp (hreplies ▸ List.mem_cons_self)
            cases hreply
      · exact .nothing rfl rfl
  · obtain ⟨parts, replies, heq, -⟩ := Impl.messageRecords_eq cfg env (Layout.displayEvent.read bytes) f s
    have hreceived : s.records cfg (.poll (.ready env)) =
        .received (Layout.displayEvent.read bytes) parts :: replies.map (.replied · env.sent) :=
      hmessage.trans heq
    have hrequests := recordedRequests_received hreceived
    rw [hrequests] at hfeasible ⊢
    have hthis : CameWhole (.received (Layout.displayEvent.read bytes) parts) :=
      hwhole _ (by rw [hreceived]; exact List.mem_cons_self)
    have hready : s.step cfg (.poll (.ready env)) = s.onReady cfg env := if_pos hworking
    rw [hready, Impl.onReady, hread]
    dsimp only
    set calls := [LogCall.updateEventCount _, _] with hcalls
    have hlogged : ((s.rest f).log calls).mHandles = s.mHandles := mHandles_log (s.rest f) calls
    apply Follows.of_log f calls
    apply follows_dispatch cfg env _ ((messageRecords_congr cfg env _ f hlogged).trans heq) hthis
    rw [owners_congr hlogged]
    exact hfeasible

/-- **What the client was shown is in the log.** In a session without `stop` whose messages came whole, and in which
no request is about a handle that is not there, the client was shown the callbacks of the recorded requests. -/
theorem follows_session (s : Impl) (is : List Input) (hstop : Input.stop ∉ is)
    (hwhole : ∀ r ∈ Impl.session cfg s is, CameWhole r)
    (hfeasible : Request.Feasible (owners s) (recordedRequests (Impl.session cfg s is))) :
    Follows s (is.foldl (Impl.step cfg) s) (recordedRequests (Impl.session cfg s is)) := by
  induction is generalizing s with
  | nil => exact .nothing rfl rfl
  | cons i is ih =>
    rw [Impl.session, recordedRequests_append] at hfeasible ⊢
    obtain ⟨hfirst, hrest⟩ := (Request.feasible_append _ _ _).mp hfeasible
    obtain ⟨hnow, hlater⟩ := List.forall_mem_append.mp hwhole
    have hstep := follows_step cfg s i (fun h => hstop (h ▸ List.mem_cons_self)) hnow hfirst
    rw [← hstep.owners] at hrest
    exact hstep.trans (ih (s.step cfg i) (fun h => hstop (List.mem_cons_of_mem i h)) hlater hrest)

/-! ## The size field -/

/-- What the size field of a message is, by the structs that were recorded of it. -/
def Sized : Record → Prop
  | .received ev parts =>
    (parts.gralloc.isSome → ev.size.toNat = sizeofBufferInfoEvent + sizeofCrosGrallocHandle) ∧
      (ev.type = evDisplayReq → parts.info.isSome →
        ¬ Impl.payloadSize ev.size < Int32.ofNat sizeofBufferInfo) ∧
      (ev.type = evDisplayReq → parts.ctrl.isSome → CmdHandler.HasCtrl ev.size)
  | .replied _ _ => True

theorem sized_displayRecords (env : Env) (ev : DisplayEvent) (f : Feed WireByte) (s : Impl) {parts : Parts}
    {rs : List Record} (h : Impl.displayRecords env ev f s = .received ev parts :: rs) :
    (parts.info.isSome → ¬ Impl.payloadSize ev.size < Int32.ofNat sizeofBufferInfo) ∧
      (parts.ctrl.isSome → CmdHandler.HasCtrl ev.size) := by
  have hhead {p : Parts} {rs' : List Record} (h : Record.received ev p :: rs' = .received ev parts :: rs) :
      p = parts := (Record.received.inj (List.cons.inj h).1).2
  unfold Impl.displayRecords at h
  by_cases hshort : Impl.payloadSize ev.size < Int32.ofNat sizeofBufferInfo
  · rw [if_pos hshort] at h
    rw [← hhead h]
    exact ⟨Bool.noConfusion, Bool.noConfusion⟩
  rw [if_neg hshort] at h
  refine ⟨fun _ => hshort, ?_⟩
  rcases hinfo : recvBytes sizeofBufferInfo f with ⟨_ | bytes, f'⟩
  · rw [hinfo] at h
    rw [← hhead h]
    exact Bool.noConfusion
  rw [hinfo] at h
  dsimp only at h
  by_cases hhas : sizeT (Impl.payloadSize ev.size) = sizeofBufferInfo + sizeofDisplayControl
  · exact fun _ => hhas
  · rw [if_neg hhas] at h
    rw [← hhead h]
    exact Bool.noConfusion

theorem sized_records (cfg : Config) (s : Impl) (i : Input) : ∀ r ∈ s.records cfg i, Sized r := by
  intro r hr
  rcases Impl.records_cases cfg s i with ⟨replies, count, hreplies⟩ | ⟨env, bytes, f, -, -, -, hmessage⟩
  · rw [hreplies] at hr
    obtain ⟨reply, -, rfl⟩ := List.mem_map.mp hr
    trivial
  obtain ⟨parts, replies, heq, -⟩ := Impl.messageRecords_eq cfg env (Layout.displayEvent.read bytes) f s
  rw [hmessage, heq] at hr
  rcases List.mem_cons.mp hr with rfl | hr
  swap
  · obtain ⟨reply, -, rfl⟩ := List.mem_map.mp hr
    trivial
  have hdisplay (htype : (Layout.displayEvent.read bytes).type = evDisplayReq) :
      Impl.displayRecords env (Layout.displayEvent.read bytes) f s =
        .received (Layout.displayEvent.read bytes) parts :: replies.map (.replied · env.sent) := by
    rw [← heq, Impl.messageRecords, htype, if_neg (by decide), if_neg (by decide), if_neg (by decide),
      if_neg (by decide), if_pos rfl]
  refine ⟨?_, fun htype => (sized_displayRecords env _ f s (hdisplay htype)).1,
    fun htype => (sized_displayRecords env _ f s (hdisplay htype)).2⟩
  intro hgralloc
  exact (Impl.messageRecords_gralloc heq (Option.isSome_iff_ne_none.mp hgralloc)).2.1

theorem sized_session (cfg : Config) (s : Impl) (is : List Input) : ∀ r ∈ Impl.session cfg s is, Sized r :=
  along_records_iff.mp (along_of_forall (sized_records cfg) s is)

/-- A request that is long enough to carry a buffer info. -/
theorem le_size_of_payloadSize {size : UInt32}
    (hlong : ¬ Impl.payloadSize size < Int32.ofNat sizeofBufferInfo) : 24 ≤ size.toNat := by
  have hshort : ∀ n < 24, Impl.payloadSize (UInt32.ofNat n) < Int32.ofNat sizeofBufferInfo := by decide
  by_contra hlt
  apply hlong
  rw [← UInt32.ofNat_toNat (x := size)]
  exact hshort size.toNat (by omega)

end VhalClient.Emulator
