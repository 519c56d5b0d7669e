/-
# VhalClient.Camera.Threads — the two threads of a video sink, and the camera VHAL.

The client's thread calls `SendDataPacket`, `GetCameraCapabilty` and `SetCameraCapabilty`; the talker
connects, announces the user id, receives and notifies.  They share the socket and one condition variable.
An `Action` is one step of one of them, or of the server: a `Send`, which writes all its bytes at once, a
`wait`, the receipt of a response, a `notify_one`.  A run is any list of actions; one that its thread cannot
take changes nothing.  The commands of the server that are not responses are left out: they call the callback
and touch nothing that is shared.

Neither thing the threads share is guarded.  A request is sent before the lock is taken and the wait has no
predicate, so a response that is notified in between wakes nobody (`quickAnswer`).  A packet is written by
two sends, so the other thread can write between them (`dataAndUserId`).  Both theorems fence off exactly
these steps.
-/
import VhalClient.Lib.Run
import VhalClient.Camera.VideoSink

namespace VhalClient.Camera

open VhalClient.Lib

/-! ## Sends -/

/-- Whose packet it is: that of a call of the client, by its number, or the announcement of the talker. -/
inductive Owner where
  | client (call : ℕ)
  | talker
  deriving DecidableEq, Repr

/-- What one `Send` writes. -/
inductive Piece where
  | header (owner : Owner) (h : CameraHeader)
  | payload (owner : Owner) (bytes : List UInt8)
  deriving DecidableEq, Repr

def Piece.bytes : Piece → List UInt8
  | .header _ h => Layout.cameraHeader.write h
  | .payload _ bytes => bytes

/-- A packet on its way out: the header has been sent, the payload is next. -/
structure Draft where
  owner : Owner
  header : CameraHeader
  payload : List UInt8
  deriving DecidableEq, Repr

namespace Draft

/-- `SendDataPacket`: the size is narrowed to 32 bits. -/
def data (call : ℕ) (packet : List UInt8) : Draft :=
  ⟨.client call, ⟨cameraData, UInt32.ofNat packet.length⟩, packet⟩

/-- `SetCameraCapabilty`. -/
def info (call : ℕ) (infos : List CameraInfo) : Draft :=
  ⟨.client call, ⟨cameraInfo, UInt32.ofNat (infos.length * Layout.cameraInfo.size)⟩,
    infos.flatMap Layout.cameraInfo.write⟩

/-- The announcement. -/
def announcement (userId : Int32) : Draft := ⟨.talker, ⟨cameraUserId, 4⟩, Layout.int32.write userId⟩

/-- The header says how long the payload is. -/
def Fits (d : Draft) : Prop := d.header.size.toNat = d.payload.length

end Draft

/-! ## The threads -/

/-- Where the client's thread is. -/
inductive ClientPc where
  | idle
  /-- Between the two sends of `SendDataPacket`. -/
  | data (call : ℕ) (packet : List UInt8)
  /-- Between the two sends of `SetCameraCapabilty`. -/
  | info (call : ℕ) (infos : List CameraInfo)
  /-- The request is sent and the lock not taken yet. -/
  | sent (call : ℕ)
  | waiting (call : ℕ)
  deriving DecidableEq, Repr

/-- Where the talker is. -/
inductive TalkerPc where
  | connecting
  | userIdHeader
  | userIdPayload
  | polling
  /-- The response to a call is stored and not notified yet. -/
  | stored (call : ℕ)
  deriving DecidableEq, Repr

structure Threads where
  client : ClientPc
  talker : TalkerPc
  connected : Bool
  /-- What was written on each connection, the newest connection first. -/
  streams : List (List Piece)
  cmdCapability : Option CameraCapability
  /-- How many calls there have been. -/
  calls : ℕ
  /-- The calls whose request is at the server, and those whose response is on its way. -/
  requests : List ℕ
  responses : List (ℕ × Option CameraCapability)
  /-- The calls whose response was handled and notified. -/
  notified : List ℕ
  deriving DecidableEq, Repr

namespace Threads

def initial : Threads := ⟨.idle, .connecting, false, [], none, 0, [], [], []⟩

/-- One `Send` on the socket. -/
def write (s : Threads) (p : Piece) : Threads :=
  match s.streams with
  | [] => s
  | stream :: older => { s with streams := (stream ++ [p]) :: older }

end Threads

inductive Action where
  | sendDataPacket (packet : List UInt8)
  | getCameraCapabilty
  | setCameraCapabilty (infos : List CameraInfo)
  /-- The second send of the client's call. -/
  | sendPayload
  | wait
  /-- The wait returns without having been notified. -/
  | wakeUp
  /-- The server answers its oldest request: with capabilities, or with an acknowledgement. -/
  | answer (caps : Option CameraCapability)
  | connect
  /-- The next send of the announcement. -/
  | announce
  | receive
  | notify
  | close
  deriving DecidableEq, Repr

namespace Threads

/-- A call of the client up to its first send.  Without a connection the send fails, and the call returns. -/
def call (s : Threads) (header : CameraHeader) (pc : ClientPc) (asked : List ℕ) : Threads :=
  if s.client = .idle ∧ s.connected then
    { s.write (.header (.client s.calls) header) with
      client := pc
      calls := s.calls + 1
      requests := s.requests ++ asked }
  else s

/-- The second send. -/
def sendPayload (s : Threads) : Threads :=
  match s.client with
  | .data call packet =>
    if s.connected then { s.write (.payload (.client call) packet) with client := .idle }
    else { s with client := .idle }
  | .info call infos =>
    if s.connected then
      { s.write (.payload (.client call) (Draft.info call infos).payload) with
        client := .sent call
        requests := s.requests ++ [call] }
    else { s with client := .idle }
  | _ => s

/-- The next send of the announcement. -/
def announce (userId : Int32) (s : Threads) : Threads :=
  match s.talker with
  | .userIdHeader =>
    { s.write (.header .talker (Draft.announcement userId).header) with talker := .userIdPayload }
  | .userIdPayload =>
    { s.write (.payload .talker (Draft.announcement userId).payload) with talker := .polling }
  | _ => s

/-- The response is stored: capabilities in the struct the client will be given, an acknowledgement
nowhere. -/
def receive (s : Threads) : Threads :=
  match s.talker, s.responses with
  | .polling, (call, caps) :: responses =>
    { s with talker := .stored call, cmdCapability := caps.or s.cmdCapability, responses := responses }
  | _, _ => s

/-- `notify_one`: without a waiter it has no effect. -/
def notify (s : Threads) : Threads :=
  match s.talker with
  | .stored call =>
    { s with
      talker := .polling
      client := match s.client with
        | .waiting _ => .idle
        | pc => pc
      notified := call :: s.notified }
  | _ => s

def step (userId : Int32) (s : Threads) : Action → Threads
  | .sendDataPacket packet => s.call (Draft.data s.calls packet).header (.data s.calls packet) []
  | .getCameraCapabilty => s.call ⟨requestCapability, 0⟩ (.sent s.calls) [s.calls]
  | .setCameraCapabilty infos => s.call (Draft.info s.calls infos).header (.info s.calls infos) []
  | .sendPayload => s.sendPayload
  | .wait =>
    match s.client with
    | .sent call => { s with client := .waiting call }
    | _ => s
  | .wakeUp =>
    match s.client with
    | .waiting _ => { s with client := .idle }
    | _ => s
  | .answer caps =>
    match s.requests with
    | [] => s
    | call :: requests => { s with requests := requests, responses := s.responses ++ [(call, caps)] }
  | .connect =>
    if s.talker = .connecting then
      { s with
        connected := true
        streams := [] :: s.streams
        cmdCapability := none
        talker := if userId ≠ -1 then .userIdHeader else .polling }
    else s
  | .announce => s.announce userId
  | .receive => s.receive
  | .notify => s.notify
  | .close =>
    -- What is at the server or on its way is lost with the connection.
    if s.talker = .polling then
      { s with talker := .connecting, connected := false, requests := [], responses := [] }
    else s

/-! ## Wakeups -/

section Write

variable (s : Threads) (p : Piece)

@[simp] theorem write_client : (s.write p).client = s.client := by
  unfold write
  split <;> rfl

@[simp] theorem write_talker : (s.write p).talker = s.talker := by
  unfold write
  split <;> rfl

@[simp] theorem write_connected : (s.write p).connected = s.connected := by
  unfold write
  split <;> rfl

@[simp] theorem write_calls : (s.write p).calls = s.calls := by
  unfold write
  split <;> rfl

@[simp] theorem write_requests : (s.write p).requests = s.requests := by
  unfold write
  split <;> rfl

@[simp] theorem write_responses : (s.write p).responses = s.responses := by
  unfold write
  split <;> rfl

@[simp] theorem write_notified : (s.write p).notified = s.notified := by
  unfold write
  split <;> rfl

end Write

/-- The request of the call is complete, and at most its response is out. -/
def Asked (s : Threads) (call : ℕ) : Prop :=
  call ∈ s.requests ∨ call ∈ s.responses.map Prod.fst ∨ s.talker = .stored call ∨ call ∈ s.notified

/-- What the client's thread knows of its call. -/
def ClientInv (s : Threads) : ClientPc → Prop
  | .idle => True
  | .data call _ => call < s.calls ∧ ¬ s.Asked call
  | .info call _ => call < s.calls ∧ ¬ s.Asked call
  | .sent call => call < s.calls ∧ call ∉ s.notified
  | .waiting call => call < s.calls ∧ call ∉ s.notified

/-- Calls are numbered in order, and none is answered before it has asked. -/
structure Numbered (s : Threads) : Prop where
  asked_lt : ∀ call, s.Asked call → call < s.calls
  client : s.ClientInv s.client

/-- The response to a call is not notified between its last send and its wait. -/
def InTime (s : Threads) : Action → Prop
  | .notify => ∀ call, s.talker = .stored call → s.client ≠ .sent call
  | _ => True

variable {s t : Threads}

/-- Steps in which nobody asks and nobody is notified. -/
theorem Numbered.of_quiet (hs : s.Numbered) (hcalls : t.calls = s.calls) (hasked : ∀ c, t.Asked c → s.Asked c)
    (hnotified : t.notified = s.notified)
    (hclient : t.client = s.client ∨ t.client = .idle ∨ ∃ c, s.client = .sent c ∧ t.client = .waiting c) :
    t.Numbered := by
  refine ⟨fun c hc => hcalls ▸ hs.asked_lt c (hasked c hc), ?_⟩
  have hold := hs.client
  rcases hclient with heq | hidle | ⟨c, hsent, hwaiting⟩
  · rw [heq]
    cases hpc : s.client with
    | idle => trivial
    | data c packet =>
      rw [hpc] at hold
      exact ⟨hcalls ▸ hold.1, fun hc => hold.2 (hasked c hc)⟩
    | info c infos =>
      rw [hpc] at hold
      exact ⟨hcalls ▸ hold.1, fun hc => hold.2 (hasked c hc)⟩
    | sent c =>
      rw [hpc] at hold
      exact ⟨hcalls ▸ hold.1, hnotified ▸ hold.2⟩
    | waiting c =>
      rw [hpc] at hold
      exact ⟨hcalls ▸ hold.1, hnotified ▸ hold.2⟩
  · rw [hidle]
    trivial
  · rw [hsent] at hold
    rw [hwaiting]
    exact ⟨hcalls ▸ hold.1, hnotified ▸ hold.2⟩

/-- The number of a new call is fresh. -/
theorem numbered_call (hs : s.Numbered) (header : CameraHeader) {pc : ClientPc} {asked : List ℕ}
    (hpc : pc = .sent s.calls ∧ asked = [s.calls] ∨
      asked = [] ∧ ((∃ packet, pc = .data s.calls packet) ∨ ∃ infos, pc = .info s.calls infos)) :
    (s.call header pc asked).Numbered := by
  unfold call
  split
  swap
  · exact hs
  have hfresh : ¬ s.Asked s.calls := fun h => lt_irrefl _ (hs.asked_lt _ h)
  set t : Threads := { s.write (.header (.client s.calls) header) with
      client := pc
      calls := s.calls + 1
      requests := s.requests ++ asked } with ht
  have hasked (c : ℕ) : t.Asked c ↔ s.Asked c ∨ c ∈ asked := by
    simp [ht, Asked]
    tauto
  refine ⟨fun c hc => ?_, ?_⟩
  · show c < s.calls + 1
    rcases (hasked c).mp hc with hc | hc
    · exact Nat.lt_succ_of_lt (hs.asked_lt c hc)
    · rcases hpc with ⟨-, rfl⟩ | ⟨rfl, -⟩
      · rw [List.mem_singleton.mp hc]
        exact Nat.lt_succ_self _
      · cases hc
  · show t.ClientInv pc
    rcases hpc with ⟨rfl, -⟩ | ⟨rfl, ⟨packet, rfl⟩ | ⟨infos, rfl⟩⟩
    · exact ⟨Nat.lt_succ_self _, fun hc => hfresh (.inr (.inr (.inr (by simpa [ht] using hc))))⟩
    · exact ⟨Nat.lt_succ_self _, fun hc => hfresh (by simpa using (hasked _).mp hc)⟩
    · exact ⟨Nat.lt_succ_self _, fun hc => hfresh (by simpa using (hasked _).mp hc)⟩

theorem numbered_sendPayload (hs : s.Numbered) : s.sendPayload.Numbered := by
  unfold sendPayload
  split
  · split
    · exact hs.of_quiet (write_calls ..) (fun c hc => by simpa [Asked] using hc) (write_notified ..)
        (.inr (.inl rfl))
    · exact hs.of_quiet rfl (fun c hc => hc) rfl (.inr (.inl rfl))
  · rename_i call infos hpc
    split
    · have hcall := hs.client
      rw [hpc] at hcall
      refine ⟨fun c hc => ?_, ?_⟩
      · simp only [write_calls]
        have hc : s.Asked c ∨ c = call := by
          simp [Asked] at hc ⊢
          tauto
        rcases hc with hc | rfl
        · exact hs.asked_lt c hc
        · exact hcall.1
      · refine ⟨by simpa using hcall.1, fun hc => hcall.2 (.inr (.inr (.inr (by simpa using hc))))⟩
    · exact hs.of_quiet rfl (fun c hc => hc) rfl (.inr (.inl rfl))
  · exact hs

theorem numbered_notify (hs : s.Numbered) (hintime : s.InTime .notify) : s.notify.Numbered := by
  unfold notify
  split
  swap
  · exact hs
  rename_i call hstored
  have hcall : s.Asked call := .inr (.inr (.inl hstored))
  set t : Threads :=
    { s with
      talker := .polling
      client := match s.client with
        | .waiting _ => .idle
        | pc => pc
      notified := call :: s.notified } with ht
  have hasked (c : ℕ) (hc : t.Asked c) : s.Asked c := by
    rcases hc with hc | hc | hc | hc
    · exact .inl hc
    · exact .inr (.inl hc)
    · cases hc
    · rcases List.mem_cons.mp hc with rfl | hc
      · exact hcall
      · exact .inr (.inr (.inr hc))
  refine ⟨fun c hc => hs.asked_lt c (hasked c hc), ?_⟩
  have hold := hs.client
  rw [ht]
  dsimp only
  cases hpc : s.client with
  | idle => trivial
  | data c packet =>
    rw [hpc] at hold
    exact ⟨hold.1, fun hc => hold.2 (hasked c hc)⟩
  | info c infos =>
    rw [hpc] at hold
    exact ⟨hold.1, fun hc => hold.2 (hasked c hc)⟩
  | sent c =>
    -- This is the step that the condition is about.
    rw [hpc] at hold
    have hne : c ≠ call := by
      rintro rfl
      exact hintime c hstored hpc
    exact ⟨hold.1, List.not_mem_cons_of_ne_of_not_mem hne hold.2⟩
  | waiting c => trivial

theorem numbered_step (userId : Int32) (s : Threads) (a : Action) (hs : s.Numbered) (ha : s.InTime a) :
    (s.step userId a).Numbered := by
  cases a with
  | sendDataPacket packet => exact numbered_call hs _ (.inr ⟨rfl, .inl ⟨_, rfl⟩⟩)
  | getCameraCapabilty => exact numbered_call hs _ (.inl ⟨rfl, rfl⟩)
  | setCameraCapabilty infos => exact numbered_call hs _ (.inr ⟨rfl, .inr ⟨_, rfl⟩⟩)
  | sendPayload => exact numbered_sendPayload hs
  | wait =>
    rw [step]
    split
    · exact hs.of_quiet rfl (fun c hc => hc) rfl (.inr (.inr ⟨_, ‹_›, rfl⟩))
    · exact hs
  | wakeUp =>
    rw [step]
    split
    · exact hs.of_quiet rfl (fun c hc => hc) rfl (.inr (.inl rfl))
    · exact hs
  | answer caps =>
    rw [step]
    split
    · exact hs
    · rename_i call requests hrequests
      refine hs.of_quiet rfl (fun c hc => ?_) rfl (.inl rfl)
      rw [Asked, List.map_append, List.mem_append, List.map_singleton, List.mem_singleton] at hc
      rw [Asked, hrequests, List.mem_cons]
      tauto
  | connect =>
    rw [step]
    split
    · refine hs.of_quiet rfl (fun c hc => ?_) rfl (.inl rfl)
      have hne : (if userId ≠ -1 then TalkerPc.userIdHeader else .polling) ≠ .stored c := by
        split <;> simp
      rcases hc with hc | hc | hc | hc
      · exact .inl hc
      · exact .inr (.inl hc)
      · exact absurd hc hne
      · exact .inr (.inr (.inr hc))
    · exact hs
  | announce =>
    rw [step, announce]
    split
    · exact hs.of_quiet (write_calls ..) (fun c hc => by simpa [Asked, *] using hc) (write_notified ..)
        (.inl (write_client ..))
    · exact hs.of_quiet (write_calls ..) (fun c hc => by simpa [Asked, *] using hc) (write_notified ..)
        (.inl (write_client ..))
    · exact hs
  | receive =>
    rw [step, receive]
    split
    · rename_i call caps responses _ hresponses
      refine hs.of_quiet rfl (fun c hc => ?_) rfl (.inl rfl)
      rw [Asked, hresponses, List.map_cons, List.mem_cons]
      rcases hc with hc | hc | hc | hc
      · exact .inl hc
      · exact .inr (.inl (.inr hc))
      · exact .inr (.inl (.inl (TalkerPc.stored.inj hc).symm))
      · exact .inr (.inr (.inr hc))
    · exact hs
  | notify => exact numbered_notify hs ha
  | close =>
    rw [step]
    split
    · refine hs.of_quiet rfl (fun c hc => ?_) rfl (.inl rfl)
      rcases hc with hc | hc | hc | hc
      · cases hc
      · cases hc
      · cases hc
      · exact .inr (.inr (.inr hc))
    · exact hs

theorem numbered_initial : initial.Numbered := by
  refine ⟨fun c hc => ?_, trivial⟩
  rcases hc with hc | hc | hc | hc <;> cases hc

/-- The client does not wait for a response that has been notified. -/
def Answered (s : Threads) : Prop := ∀ call, s.client = .waiting call → call ∉ s.notified

/-- **No client waits for a response that has been notified**, in no state of a run in which no response is
notified between the last send of its call and the wait. -/
theorem answered_of_inTime (userId : Int32) (as : List Action)
    (hrun : Along (step userId) InTime initial as) :
    ∀ t ∈ as.scanl (step userId) initial, t.Answered := by
  intro t ht call hwaiting
  have hnumbered := Along.invariant (numbered_step userId) numbered_initial hrun t ht
  have hclient := hnumbered.client
  rw [hwaiting] at hclient
  exact hclient.2

/-- The client asks and waits, and the response comes then. -/
def slowAnswer : List Action := [.connect, .getCameraCapabilty, .wait, .answer none, .receive, .notify]

theorem answered_slowAnswer :
    Along (step (-1)) InTime initial slowAnswer ∧
    ∀ t ∈ slowAnswer.scanl (step (-1)) initial, t.Answered := by
  have hrun : Along (step (-1)) InTime initial slowAnswer := by
    refine ⟨trivial, trivial, trivial, trivial, trivial, ?_, trivial⟩
    intro call _ hsent
    cases hsent
  exact ⟨hrun, answered_of_inTime (-1) slowAnswer hrun⟩

/-- The response is handled before the client waits: nobody will wake it. -/
def quickAnswer : List Action := [.connect, .getCameraCapabilty, .answer none, .receive, .notify, .wait]

theorem not_answered_quickAnswer : ¬ ∀ t ∈ quickAnswer.scanl (step (-1)) initial, t.Answered := by
  intro hall
  have hlast := hall _ (foldl_mem_scanl initial quickAnswer)
  exact hlast 0 (by decide) (by decide)

end Threads

/-! ## Streams -/

/-- A packet as it is to be on the wire. -/
structure WholePacket where
  owner : Owner
  header : CameraHeader
  /-- A request for the capabilities is a header alone. -/
  payload : Option (List UInt8)
  size_eq : header.size.toNat = (payload.getD []).length

namespace WholePacket

def pieces (p : WholePacket) : List Piece :=
  .header p.owner p.header :: p.payload.toList.map (.payload p.owner)

def bytes (p : WholePacket) : List UInt8 := Layout.cameraHeader.write p.header ++ p.payload.getD []

theorem bytes_pieces (p : WholePacket) : p.pieces.flatMap Piece.bytes = p.bytes := by
  obtain ⟨owner, header, _ | payload, hsize⟩ := p <;> simp [pieces, bytes, Piece.bytes]

end WholePacket

/-- The stream is a list of whole packets: behind a header is the payload of the same call. -/
def Whole (stream : List Piece) : Prop :=
  ∃ packets : List WholePacket, stream = packets.flatMap WholePacket.pieces

theorem whole_nil : Whole [] := ⟨[], rfl⟩

theorem Whole.append {stream : List Piece} (h : Whole stream) (p : WholePacket) :
    Whole (stream ++ p.pieces) := by
  obtain ⟨packets, rfl⟩ := h
  exact ⟨packets ++ [p], by simp⟩

/-- The packet whose header is out. -/
def ClientPc.draft : ClientPc → Option Draft
  | .data call packet => some (.data call packet)
  | .info call infos => some (.info call infos)
  | _ => none

def TalkerPc.draft (userId : Int32) : TalkerPc → Option Draft
  | .userIdPayload => some (.announcement userId)
  | _ => none

/-- The header of a draft, and its payload behind it. -/
theorem Whole.append_draft {stream : List Piece} (h : Whole stream) {d : Draft} (hd : d.Fits) :
    Whole (stream ++ [.header d.owner d.header] ++ [.payload d.owner d.payload]) := by
  rw [List.append_assoc]
  exact h.append ⟨d.owner, d.header, some d.payload, hd⟩

namespace Threads

/-- No thread is between its two sends. -/
def Calm (userId : Int32) (s : Threads) : Prop := s.client.draft = none ∧ s.talker.draft userId = none

/-- One thread is between its two sends, and its header is the last thing on the connection. -/
def Midway (userId : Int32) (s : Threads) (d : Draft) : Prop :=
  (s.client.draft = some d ∧ s.talker.draft userId = none ∨
    s.client.draft = none ∧ s.talker.draft userId = some d) ∧
  d.Fits ∧ s.connected = true ∧
  ∃ stream older, s.streams = (stream ++ [.header d.owner d.header]) :: older ∧ Whole stream ∧
    ∀ stream ∈ older, Whole stream

structure Orderly (userId : Int32) (s : Threads) : Prop where
  connected_iff : s.connected = true ↔ s.talker ≠ .connecting
  streams_ne : s.connected = true → s.streams ≠ []
  whole : s.Calm userId ∧ (∀ stream ∈ s.streams, Whole stream) ∨ ∃ d, s.Midway userId d

/-- No thread writes, and the talker does not close, while the other is between its two sends; and no payload is
too long for its header. -/
def Alone (s : Threads) : Action → Prop
  | .sendDataPacket packet => s.talker ≠ .userIdPayload ∧ packet.length < 2 ^ 32
  | .getCameraCapabilty => s.talker ≠ .userIdPayload
  | .setCameraCapabilty infos =>
    s.talker ≠ .userIdPayload ∧ infos.length * Layout.cameraInfo.size < 2 ^ 32
  | .announce => s.talker = .userIdHeader → s.client.draft = none
  | .close => s.talker = .polling → s.client.draft = none
  | _ => True

variable {userId : Int32} {s t : Threads}

theorem draft_eq_none_of_ne {pc : TalkerPc} (h : pc ≠ .userIdPayload) : pc.draft userId = none := by
  cases pc <;> first | rfl | exact absurd rfl h

/-- Steps that neither send nor change the connection. -/
theorem Orderly.of_quiet (hs : s.Orderly userId) (hclient : t.client.draft = s.client.draft)
    (htalker : t.talker.draft userId = s.talker.draft userId)
    (hconnecting : t.talker = .connecting ↔ s.talker = .connecting) (hconnected : t.connected = s.connected)
    (hstreams : t.streams = s.streams) : t.Orderly userId := by
  refine ⟨?_, ?_, ?_⟩
  · rw [hconnected, hs.connected_iff]
    exact not_congr hconnecting.symm
  · rw [hconnected, hstreams]
    exact hs.streams_ne
  · rcases hs.whole with ⟨⟨hnone, hnone'⟩, hwhole⟩ | ⟨d, hside, hfits, hconn, hmid⟩
    · exact .inl ⟨⟨hclient.trans hnone, htalker.trans hnone'⟩, hstreams ▸ hwhole⟩
    · refine .inr ⟨d, ?_, hfits, hconnected ▸ hconn, hstreams ▸ hmid⟩
      rwa [hclient, htalker]

theorem streams_write {stream : List Piece} {older : List (List Piece)} (h : s.streams = stream :: older)
    (p : Piece) : (s.write p).streams = (stream ++ [p]) :: older := by
  rw [write, h]

/-- A thread that sends while no thread is midway finds whole packets on a connection. -/
theorem Orderly.exists_stream (hs : s.Orderly userId) (hconnected : s.connected = true)
    (hcalm : s.Calm userId) :
    ∃ stream older, s.streams = stream :: older ∧ Whole stream ∧ ∀ stream ∈ older, Whole stream := by
  rcases hstreams : s.streams with _ | ⟨stream, older⟩
  · exact absurd hstreams (hs.streams_ne hconnected)
  have hwhole : ∀ stream ∈ s.streams, Whole stream := by
    rcases hs.whole with ⟨-, hwhole⟩ | ⟨d, ⟨hclient, -⟩ | ⟨-, htalker⟩, -⟩
    · exact hwhole
    · rw [hcalm.1] at hclient
      cases hclient
    · rw [hcalm.2] at htalker
      cases htalker
  rw [hstreams] at hwhole
  exact ⟨stream, older, rfl, hwhole stream (List.mem_cons_self ..),
    fun stream h => hwhole stream (List.mem_cons_of_mem _ h)⟩

/-- A thread that is midway finds its header at the end of the connection. -/
theorem Orderly.exists_midway (hs : s.Orderly userId) {d : Draft}
    (hd : s.client.draft = some d ∨ s.talker.draft userId = some d) : s.Midway userId d := by
  rcases hs.whole with ⟨⟨hclient, htalker⟩, -⟩ | ⟨d', hside, hmid⟩
  · rw [hclient, htalker] at hd
    rcases hd with hd | hd <;> cases hd
  · have heq : d' = d := by
      rcases hside with ⟨hclient, htalker⟩ | ⟨hclient, htalker⟩ <;> rw [hclient, htalker] at hd
      · simpa using hd
      · simpa using hd
    rw [← heq]
    exact ⟨hside, hmid⟩

/-- The first send of a call with two. -/
theorem orderly_call_draft (hs : s.Orderly userId) (htalker : s.talker ≠ .userIdPayload) {d : Draft}
    {pc : ClientPc} (hpc : pc.draft = some d) (howner : d.owner = .client s.calls) (hfits : d.Fits) :
    (s.call d.header pc []).Orderly userId := by
  unfold call
  split
  swap
  · exact hs
  rename_i hidle
  have hdraft : s.talker.draft userId = none := draft_eq_none_of_ne htalker
  obtain ⟨stream, older, hstreams, hwhole, holder⟩ :=
    hs.exists_stream hidle.2 ⟨by rw [hidle.1]; rfl, hdraft⟩
  have hwritten := streams_write hstreams (.header (.client s.calls) d.header)
  refine ⟨?_, ?_, .inr ⟨d, .inl ⟨hpc, ?_⟩, hfits, ?_, stream, older, ?_, hwhole, holder⟩⟩
  · simpa using hs.connected_iff
  · intro _ hnil
    rw [hwritten] at hnil
    cases hnil
  · simpa using hdraft
  · simpa using hidle.2
  · rw [howner]
    exact hwritten

/-- The one send of a request for the capabilities. -/
theorem orderly_call_request (hs : s.Orderly userId) (htalker : s.talker ≠ .userIdPayload) :
    (s.call ⟨requestCapability, 0⟩ (.sent s.calls) [s.calls]).Orderly userId := by
  unfold call
  split
  swap
  · exact hs
  rename_i hidle
  have hdraft : s.talker.draft userId = none := draft_eq_none_of_ne htalker
  obtain ⟨stream, older, hstreams, hwhole, holder⟩ :=
    hs.exists_stream hidle.2 ⟨by rw [hidle.1]; rfl, hdraft⟩
  have hwritten := streams_write hstreams (.header (.client s.calls) ⟨requestCapability, 0⟩)
  refine ⟨?_, ?_, .inl ⟨⟨rfl, ?_⟩, ?_⟩⟩
  · simpa using hs.connected_iff
  · intro _ hnil
    rw [hwritten] at hnil
    cases hnil
  · simpa using hdraft
  · intro stream' h
    rw [hwritten] at h
    rcases List.mem_cons.mp h with rfl | h
    · exact hwhole.append ⟨.client s.calls, ⟨requestCapability, 0⟩, none, rfl⟩
    · exact holder stream' h

/-- The second send of a packet makes it whole. -/
theorem Midway.whole_write {d : Draft} (h : s.Midway userId d) :
    (s.write (.payload d.owner d.payload)).streams ≠ [] ∧
      ∀ stream ∈ (s.write (.payload d.owner d.payload)).streams, Whole stream := by
  obtain ⟨-, hfits, -, stream, older, hstreams, hwhole, holder⟩ := h
  rw [streams_write hstreams]
  refine ⟨by simp, ?_⟩
  intro stream' h
  rcases List.mem_cons.mp h with rfl | h
  · exact hwhole.append_draft hfits
  · exact holder stream' h

theorem orderly_sendPayload (hs : s.Orderly userId) : s.sendPayload.Orderly userId := by
  have hmidway {d : Draft} (hd : s.client.draft = some d) {pc : ClientPc} (hpc : pc.draft = none)
      {requests : List ℕ} :
      ({ s.write (.payload d.owner d.payload) with client := pc, requests := requests } : Threads).Orderly
        userId := by
    have hmid := hs.exists_midway (.inl hd)
    obtain ⟨hne, hwhole⟩ := hmid.whole_write
    have htalker : s.talker.draft userId = none := by
      rcases hmid.1 with ⟨-, h⟩ | ⟨h, -⟩
      · exact h
      · rw [hd] at h
        cases h
    refine ⟨?_, fun _ => hne, .inl ⟨⟨hpc, ?_⟩, hwhole⟩⟩
    · simpa using hs.connected_iff
    · simpa using htalker
  have hconnected {d : Draft} (hd : s.client.draft = some d) : s.connected = true :=
    (hs.exists_midway (.inl hd)).2.2.1
  unfold sendPayload
  split
  · rename_i call packet hpc
    have hd : s.client.draft = some (.data call packet) := by rw [hpc]; rfl
    rw [if_pos (hconnected hd)]
    exact hmidway hd rfl
  · rename_i call infos hpc
    have hd : s.client.draft = some (.info call infos) := by rw [hpc]; rfl
    rw [if_pos (hconnected hd)]
    exact hmidway hd rfl
  · exact hs

theorem fits_announcement (userId : Int32) : (Draft.announcement userId).Fits :=
  (Layout.int32.length_write userId).symm

theorem orderly_announce (hs : s.Orderly userId)
    (hclient : s.talker = .userIdHeader → s.client.draft = none) :
    (s.announce userId).Orderly userId := by
  unfold announce
  split
  · rename_i htalker
    have hconnected : s.connected = true := hs.connected_iff.mpr (by rw [htalker]; simp)
    obtain ⟨stream, older, hstreams, hwhole, holder⟩ :=
      hs.exists_stream hconnected ⟨hclient htalker, by rw [htalker]; rfl⟩
    have hwritten := streams_write hstreams (.header .talker (Draft.announcement userId).header)
    refine ⟨?_, ?_, .inr ⟨_, .inr ⟨?_, rfl⟩, fits_announcement userId, ?_, stream, older, hwritten, hwhole,
      holder⟩⟩
    · simpa using hconnected
    · intro _ hnil
      rw [hwritten] at hnil
      cases hnil
    · simpa using hclient htalker
    · simpa using hconnected
  · rename_i htalker
    have hdraft : s.talker.draft userId = some (.announcement userId) := by
      rw [htalker]
      rfl
    have hmid := hs.exists_midway (.inr hdraft)
    obtain ⟨hne, hwhole⟩ := hmid.whole_write
    have hnone : s.client.draft = none := by
      rcases hmid.1 with ⟨-, h⟩ | ⟨h, -⟩
      · rw [htalker] at h
        cases h
      · exact h
    refine ⟨?_, fun _ => hne, .inl ⟨⟨?_, rfl⟩, hwhole⟩⟩
    · simpa using hmid.2.2.1
    · simpa using hnone
  · exact hs

theorem fits_data (call : ℕ) {packet : List UInt8} (h : packet.length < 2 ^ 32) :
    (Draft.data call packet).Fits :=
  UInt32.toNat_ofNat_of_lt' h

theorem fits_info (call : ℕ) {infos : List CameraInfo} (h : infos.length * Layout.cameraInfo.size < 2 ^ 32) :
    (Draft.info call infos).Fits := by
  have hsize : (Draft.info call infos).header.size.toNat = infos.length * Layout.cameraInfo.size :=
    UInt32.toNat_ofNat_of_lt' h
  rw [Draft.Fits, hsize]
  exact (Layout.cameraInfo.length_flatMap_write infos).symm

theorem orderly_step (userId : Int32) (s : Threads) (a : Action) (hs : s.Orderly userId) (ha : s.Alone a) :
    (s.step userId a).Orderly userId := by
  cases a with
  | sendDataPacket packet => exact orderly_call_draft hs ha.1 rfl rfl (fits_data _ ha.2)
  | getCameraCapabilty => exact orderly_call_request hs ha
  | setCameraCapabilty infos => exact orderly_call_draft hs ha.1 rfl rfl (fits_info _ ha.2)
  | sendPayload => exact orderly_sendPayload hs
  | wait =>
    rw [step]
    split
    · exact hs.of_quiet (by simp [ClientPc.draft, *]) rfl Iff.rfl rfl rfl
    · exact hs
  | wakeUp =>
    rw [step]
    split
    · exact hs.of_quiet (by simp [ClientPc.draft, *]) rfl Iff.rfl rfl rfl
    · exact hs
  | answer caps =>
    rw [step]
    split
    · exact hs
    · exact hs.of_quiet rfl rfl Iff.rfl rfl rfl
  | connect =>
    rw [step]
    split
    · rename_i hconnecting
      have hnot : ¬ s.connected = true := fun h => hs.connected_iff.mp h hconnecting
      have hside : (if userId ≠ -1 then TalkerPc.userIdHeader else .polling) ≠ .connecting ∧
          (if userId ≠ -1 then TalkerPc.userIdHeader else .polling).draft userId = none := by
        split <;> simp [TalkerPc.draft]
      -- A thread that is midway has a connection.
      rcases hs.whole with ⟨hcalm, hwhole⟩ | ⟨d, -, -, hconnected, -⟩
      · refine ⟨?_, fun _ => List.cons_ne_nil _ _, .inl ⟨⟨hcalm.1, hside.2⟩, fun stream h => ?_⟩⟩
        · exact ⟨fun _ => hside.1, fun _ => rfl⟩
        · rcases List.mem_cons.mp h with rfl | h
          · exact whole_nil
          · exact hwhole stream h
      · exact absurd hconnected hnot
    · exact hs
  | announce => exact orderly_announce hs ha
  | receive =>
    rw [step, receive]
    split
    · exact hs.of_quiet rfl (by simp [TalkerPc.draft, *]) (by simp [*]) rfl rfl
    · exact hs
  | notify =>
    rw [step, notify]
    split
    · refine hs.of_quiet ?_ (by simp [TalkerPc.draft, *]) (by simp [*]) rfl rfl
      cases hpc : s.client <;> rfl
    · exact hs
  | close =>
    rw [step]
    split
    · rename_i hpolling
      have hnone : s.client.draft = none := ha hpolling
      rcases hs.whole with ⟨hcalm, hwhole⟩ | ⟨d, ⟨h, -⟩ | ⟨-, h⟩, -⟩
      · refine ⟨?_, fun h => ?_, .inl ⟨⟨hnone, rfl⟩, hwhole⟩⟩
        · simp
        · cases h
      · rw [hnone] at h
        cases h
      · rw [hpolling] at h
        cases h
    · exact hs

theorem orderly_initial (userId : Int32) : initial.Orderly userId where
  connected_iff := by decide
  streams_ne h := nomatch h
  whole := .inl ⟨⟨rfl, rfl⟩, fun _ h => nomatch h⟩

/-- Between packets, what was written on each connection is a list of whole packets, and so are its bytes. -/
def WholeStreams (userId : Int32) (s : Threads) : Prop :=
  s.Calm userId → ∀ stream ∈ s.streams, ∃ packets : List WholePacket,
    stream = packets.flatMap WholePacket.pieces ∧
    stream.flatMap Piece.bytes = packets.flatMap WholePacket.bytes

/-- **Every connection carries whole packets**, in every state of a run in which no thread writes or closes while
the other is between its two sends. -/
theorem wholeStreams_of_alone (userId : Int32) (as : List Action)
    (hrun : Along (step userId) Alone initial as) :
    ∀ t ∈ as.scanl (step userId) initial, t.WholeStreams userId := by
  intro t ht hcalm
  have horderly := Along.invariant (orderly_step userId) (orderly_initial userId) hrun t ht
  rcases horderly.whole with ⟨-, hwhole⟩ | ⟨d, ⟨h, -⟩ | ⟨-, h⟩, -⟩
  · intro stream hstream
    obtain ⟨packets, rfl⟩ := hwhole stream hstream
    refine ⟨packets, rfl, ?_⟩
    rw [List.flatMap_assoc]
    exact congrArg (packets.flatMap ·) (funext WholePacket.bytes_pieces)
  · rw [hcalm.1] at h
    cases h
  · rw [hcalm.2] at h
    cases h

/-- The talker announces the user, and then the client sends two bytes. -/
def userIdThenData : List Action := [.connect, .announce, .announce, .sendDataPacket [1, 2], .sendPayload]

theorem wholeStreams_userIdThenData :
    Along (step 7) Alone initial userIdThenData ∧
    ∀ t ∈ userIdThenData.scanl (step 7) initial, t.WholeStreams 7 := by
  have hrun : Along (step 7) Alone initial userIdThenData := by
    refine ⟨trivial, fun _ => rfl, fun _ => rfl, ⟨by decide, by decide⟩, trivial, trivial⟩
  exact ⟨hrun, wholeStreams_of_alone 7 userIdThenData hrun⟩

/-- The announcement comes between the header of the data and the data. -/
def dataAndUserId : List Action :=
  [.connect, .sendDataPacket [1, 2], .announce, .announce, .sendPayload]

theorem not_wholeStreams_dataAndUserId :
    ¬ ∀ t ∈ dataAndUserId.scanl (step 7) initial, t.WholeStreams 7 := by
  intro hall
  have hstreams : (dataAndUserId.foldl (step 7) initial).streams =
      [[.header (.client 0) ⟨cameraData, 2⟩, .header .talker ⟨cameraUserId, 4⟩,
        .payload .talker [7, 0, 0, 0], .payload (.client 0) [1, 2]]] := by decide
  have hlast := hall _ (foldl_mem_scanl initial dataAndUserId) ⟨by decide, by decide⟩
  rw [hstreams] at hlast
  obtain ⟨packets, hpackets, -⟩ := hlast _ (List.mem_singleton_self _)
  -- The first packet announces two bytes, and a header is next.
  rcases packets with _ | ⟨⟨owner, header, payload, hsize⟩, packets⟩
  · cases hpackets
  obtain ⟨hheader, hnext⟩ := List.cons.inj hpackets
  obtain ⟨-, rfl⟩ := Piece.header.inj hheader
  cases payload with
  | none => exact absurd hsize (by decide)
  | some bytes => cases (List.cons.inj hnext).1

end Threads

end VhalClient.Camera
