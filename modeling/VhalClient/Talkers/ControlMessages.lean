/-
# VhalClient.Talkers.ControlMessages — what the talkers are told.

The talkers of `SensorInterface` and `AudioSink` read one control message for each poll that reports input and hand it
to the client's callback.  `SensorInterface` reads with a single `recv` and drops the types it does not know; the
`Recv` of `AudioSink` goes on until it has a whole message.  Both close the connection when a message does not come
whole, so that they never read on from the middle of one.

A `Control` is what the two loops differ in, and a `Listener` the talker with what came on each of its connections and
the calls of the callback.  `control_delivered` is about every run over any number of connections: however the bytes
are cut, the calls made for a connection are the supported messages among those of which `Recv` stored all bytes.
-/
import VhalClient.Talkers.SensorPackets

namespace VhalClient.Talkers

open VhalClient.Lib VhalClient.Socket

/-! ## The supported types -/

namespace SensorInterface

def isValidCtrlPacket (sensorType : Int32) : Bool :=
  -- SENSOR_TYPE_ACCELEROMETER, SENSOR_TYPE_MAGNETIC_FIELD, SENSOR_TYPE_GYROSCOPE
  sensorType = 1 ∨ sensorType = 2 ∨ sensorType = 4 ∨
  -- and the same, uncalibrated
  sensorType = 35 ∨ sensorType = 14 ∨ sensorType = 16 ∨
  -- SENSOR_TYPE_LIGHT, SENSOR_TYPE_PROXIMITY, SENSOR_TYPE_AMBIENT_TEMPERATURE
  sensorType = 5 ∨ sensorType = 8 ∨ sensorType = 13

/-- `SENSOR_TYPE_MASK`, for a type that the shift is defined for. -/
def sensorTypeMask (x : UInt32) : UInt64 := 1 <<< x.toUInt64

def getSupportedSensorList : UInt64 :=
  sensorTypeMask 1 ||| sensorTypeMask 2 ||| sensorTypeMask 4 ||| sensorTypeMask 13 ||| sensorTypeMask 8 |||
    sensorTypeMask 5 ||| sensorTypeMask 35 ||| sensorTypeMask 14 ||| sensorTypeMask 16

/-- `IS_SENSOR_SUPPORTED` on `GetSupportedSensorList`. -/
def Supported (type : UInt32) : Prop := type < 64 ∧ getSupportedSensorList &&& sensorTypeMask type ≠ 0

instance (type : UInt32) : Decidable (Supported type) := inferInstanceAs (Decidable (_ ∧ _))

/-- The three places that name the supported types agree on the types of the mask. -/
theorem supported_small : ∀ n : Fin 64,
    (isValidCtrlPacket (UInt32.ofNat n).toInt32 = true ↔ Supported (UInt32.ofNat n)) ∧
      ((dataCount (UInt32.ofNat n)).isSome = true ↔ Supported (UInt32.ofNat n)) := by decide

theorem lt_of_isValidCtrlPacket {type : UInt32} (h : isValidCtrlPacket type.toInt32 = true) : type < 64 := by
  have htype (t : UInt32) (hsmall : t < 64) (heq : type.toInt32 = t.toInt32) : type < 64 := by
    have hsame : type = t := congrArg Int32.toUInt32 heq
    rwa [hsame]
  simp only [isValidCtrlPacket, decide_eq_true_eq] at h
  rcases h with h | h | h | h | h | h | h | h | h
  · exact htype 1 (by decide) h
  · exact htype 2 (by decide) h
  · exact htype 4 (by decide) h
  · exact htype 35 (by decide) h
  · exact htype 14 (by decide) h
  · exact htype 16 (by decide) h
  · exact htype 5 (by decide) h
  · exact htype 8 (by decide) h
  · exact htype 13 (by decide) h

theorem lt_of_dataCount {type : UInt32} {count : ℕ} (h : dataCount type = some count) : type < 64 := by
  unfold dataCount at h
  split at h
  · rename_i htype
    rcases htype with rfl | rfl | rfl <;> decide
  split at h
  · rename_i htype
    rcases htype with rfl | rfl | rfl <;> decide
  split at h
  · rename_i htype
    rcases htype with rfl | rfl | rfl <;> decide
  · cases h

theorem supported_of_lt {type : UInt32} (h : type < 64) :
    (isValidCtrlPacket type.toInt32 = true ↔ Supported type) ∧ ((dataCount type).isSome = true ↔ Supported type) := by
  have hsmall := supported_small ⟨type.toNat, UInt32.lt_iff_toNat_lt.mp h⟩
  rwa [UInt32.ofNat_toNat] at hsmall

/-- A control packet is passed on exactly if its type is in the list for the client. -/
theorem isValidCtrlPacket_iff (type : UInt32) : isValidCtrlPacket type.toInt32 = true ↔ Supported type := by
  constructor
  · intro h
    exact (supported_of_lt (lt_of_isValidCtrlPacket h)).1.mp h
  · intro h
    exact (supported_of_lt h.1).1.mpr h

/-- An event is sent exactly if its type is in the list for the client. -/
theorem dataCount_isSome_iff (type : UInt32) : (dataCount type).isSome = true ↔ Supported type := by
  constructor
  · intro h
    obtain ⟨count, hcount⟩ := Option.isSome_iff_exists.mp h
    exact (supported_of_lt (lt_of_dataCount hcount)).2.mp h
  · intro h
    exact (supported_of_lt h.1).2.mpr h

end SensorInterface

/-! ## The two loops -/

/-- `UnixStreamSocketClient::Recv`: one `recv`. -/
def unixRecv (size : ℕ) (f : Feed UInt8) : ℤ × List UInt8 :=
  match (f.recv size).1 with
  | .bytes b bs => ((b :: bs).length, b :: bs)
  | .eof => (0, [])
  | .error => (-1, [])

/-- `TcpStreamSocketClient::Recv`: as many as are needed, or as there are. -/
def tcpRecv (size : ℕ) (f : Feed UInt8) : ℤ × List UInt8 :=
  let bytes := (CommandChannel.recvAll size f).1
  (bytes.length, bytes)

/-- What the loops for control messages differ in. -/
structure Control (α : Type) where
  layout : Layout α
  size_pos : 0 < layout.size
  announcement : Bool → Stack → List (List UInt8)
  /-- `Recv` of a message: its count, and the bytes stored. -/
  recv : Feed UInt8 → ℤ × List UInt8
  length_recv_le : ∀ f, (recv f).2.length ≤ layout.size
  recv_eq_iff : ∀ f, (recv f).1 = layout.size ↔ (recv f).2.length = layout.size
  /-- The messages that the callback is called for. -/
  accepts : α → Bool

theorem length_unixRecv_le {size : ℕ} (hsize : 0 < size) (f : Feed UInt8) : (unixRecv size f).2.length ≤ size := by
  rcases f with _ | ⟨b, bs⟩ | -
  · exact Nat.zero_le size
  · show (bs.take (size - 1)).length + 1 ≤ size
    rw [List.length_take]
    omega
  · exact Nat.zero_le size

theorem unixRecv_eq_iff {size : ℕ} (hsize : 0 < size) (f : Feed UInt8) :
    (unixRecv size f).1 = size ↔ (unixRecv size f).2.length = size := by
  have hnone (n : ℤ) (hn : n ≤ 0) : n = size ↔ ([] : List UInt8).length = size := by
    rw [List.length_nil]
    omega
  rcases f with _ | ⟨b, bs⟩ | -
  · exact hnone 0 le_rfl
  · exact Nat.cast_inj
  · exact hnone (-1) (by omega)

theorem length_tcpRecv_le (size : ℕ) (f : Feed UInt8) : (tcpRecv size f).2.length ≤ size := by
  show (f.refill size size).1.length ≤ size
  rcases le_or_gt size f.bytes.length with hle | hlt
  · rw [(Feed.refill_of_le le_rfl hle).1]
    exact List.length_take_le _ _
  · rw [Feed.refill_of_lt le_rfl hlt]
    exact hlt.le

/-- `SensorInterface::CtrlPacket` -/
abbrev CtrlPacket := UInt32 × Int32 × Int32

namespace SensorInterface

def control (userId : Int32) : Control CtrlPacket where
  layout := Layout.ctrlPacket
  size_pos := by decide
  announcement := sendStreamerUserId userId
  recv := unixRecv Layout.ctrlPacket.size
  length_recv_le := length_unixRecv_le (by decide)
  recv_eq_iff := unixRecv_eq_iff (by decide)
  accepts p := isValidCtrlPacket p.1.toInt32

end SensorInterface

namespace AudioSink

def control (userId : Int32) : Control Audio.CtrlMessage where
  layout := Audio.Layout.ctrlMessage
  size_pos := by decide
  announcement := announcement userId
  recv := tcpRecv Audio.Layout.ctrlMessage.size
  length_recv_le := length_tcpRecv_le _
  recv_eq_iff _ := Nat.cast_inj
  accepts _ := true

end AudioSink

/-! ## The listener -/

/-- What came on a connection in messages and parts of messages, and the calls of the callback for it. -/
structure Heard (α : Type) where
  bytes : List UInt8
  calls : List α

/-- A talker, and what it heard on its connections, newest first. -/
structure Listener (α : Type) where
  talker : Talker
  heard : List (Heard α)

/-- What happens next: a move of the talker, with what the connection brings to a `Recv`, or the destructor's
store. -/
inductive ListenerMove where
  | talker (a : Answer) (arriving : Feed UInt8)
  | stop

namespace Heard

variable {α : Type} (c : Heard α)

def store (bytes : List UInt8) : Heard α := { c with bytes := c.bytes ++ bytes }

def call (msg : α) : Heard α := { c with calls := c.calls ++ [msg] }

end Heard

namespace Listener

variable {α : Type} (k : Control α)

def initial : Listener α := ⟨.initial, []⟩

def goto (l : Listener α) (pc : Pc) : Listener α := { l with talker := l.talker.goto pc }

/-- `socket_client_->Close()` -/
def close (l : Listener α) : Listener α := { l with talker := l.talker.close }

/-- The inner loop up to its condition, with the message. -/
def poll (a : Answer) (arriving : Feed UInt8) (l : Listener α) : Listener α :=
  if a.ret = -1 then l.goto .threw
  else if a.ret = 0 then l.goto .inner
  else if a.revents &&& pollIn ≠ 0 then
    let (received, bytes) := k.recv arriving
    let l := { l with heard := l.heard.modifyHead fun c => c.store bytes }
    if received ≠ k.layout.size then l.close.goto .outer
    else
      let ctrlMsg := k.layout.read bytes
      if k.accepts ctrlMsg then
        { l with heard := l.heard.modifyHead fun c => c.call ctrlMsg }.goto .inner
      else l.goto .inner
  else if a.revents &&& (pollErr ||| pollHup) ≠ 0 then l.close.goto .outer
  else l.goto .inner

/-- Whether the talker's move is a `Connect` that succeeds. -/
def connects (a : Answer) (t : Talker) : Bool :=
  match t.pc, t.client.connected, (t.client.connect a.dial).1 with
  | .connect, false, .returned true _ => true
  | _, _, _ => false

def work (a : Answer) (arriving : Feed UInt8) (l : Listener α) : Listener α :=
  match l.talker.pc with
  | .poll => l.poll k a arriving
  | _ =>
    ⟨l.talker.work k.announcement k.layout.size a,
      if connects a l.talker then ⟨[], []⟩ :: l.heard else l.heard⟩

def step (l : Listener α) : ListenerMove → Listener α
  | .talker a arriving => l.work k a arriving
  | .stop => { l with talker := { l.talker with shouldContinue := false } }

def run (ms : List ListenerMove) : Listener α := ms.foldl (step k) initial

end Listener

/-! ## The listener is the talker -/

/-- The move as the talker sees it, with the count of its `Recv`. -/
def ListenerMove.plain {α : Type} (k : Control α) : ListenerMove → Move
  | .talker a arriving => .talker { a with received := (k.recv arriving).1 }
  | .stop => .stop

namespace Listener

variable {α : Type} (k : Control α)

theorem talker_poll (a : Answer) (arriving : Feed UInt8) (l : Listener α) :
    (l.poll k a arriving).talker =
      l.talker.poll k.layout.size { a with received := (k.recv arriving).1 } := by
  unfold poll Talker.poll
  split
  · rfl
  split
  · rfl
  split
  · dsimp only
    split
    · rfl
    · split
      · rfl
      · rfl
  split
  · rfl
  · rfl

theorem talker_work (a : Answer) (arriving : Feed UInt8) (l : Listener α) :
    (l.work k a arriving).talker =
      l.talker.work k.announcement k.layout.size { a with received := (k.recv arriving).1 } := by
  obtain ⟨⟨flag, client, pc, trace⟩, heard⟩ := l
  cases pc with
  | poll => exact talker_poll k a arriving _
  | _ => rfl

variable {k}

/-- The talker of a listener's run is that of a run of its moves, by a step with the listener's members. -/
theorem talker_run {plain : Talker → Move → Talker}
    (htalker : ∀ t a, plain t (.talker a) = t.work k.announcement k.layout.size a)
    (hstop : ∀ t : Talker, plain t .stop = { t with shouldContinue := false }) (ms : List ListenerMove) :
    (run k ms).talker = (ms.map (ListenerMove.plain k)).foldl plain .initial := by
  rw [List.foldl_map]
  refine (List.foldl_hom Listener.talker fun l m => ?_).symm
  cases m with
  | talker a arriving => exact (htalker _ _).trans (talker_work k a arriving l).symm
  | stop => exact hstop l.talker

end Listener

theorem SensorInterface.talker_run (userId : Int32) (ms : List ListenerMove) :
    (Listener.run (control userId) ms).talker =
      (ms.map (ListenerMove.plain (control userId))).foldl (Class.sensorInterface.step userId) .initial :=
  Listener.talker_run (fun _ _ => rfl) (fun _ => rfl) ms

theorem AudioSink.talker_run (userId : Int32) (ms : List ListenerMove) :
    (Listener.run (control userId) ms).talker =
      (ms.map (ListenerMove.plain (control userId))).foldl (Class.audioSink.step userId) .initial :=
  Listener.talker_run (fun _ _ => rfl) (fun _ => rfl) ms

/-! ## One connection -/

namespace Heard

variable {α : Type} {k : Control α} {c : Heard α}

/-- The calls are for the accepted ones among the messages of which all bytes came. -/
def Sound (k : Control α) (c : Heard α) : Prop :=
  ∀ messages : List α, c.bytes <+: messages.flatMap k.layout.write →
    c.calls = (messages.take (c.bytes.length / k.layout.size)).filter k.accepts

/-- What came ends with a message. -/
def Whole (k : Control α) (c : Heard α) : Prop := ∃ n, c.bytes.length = n * k.layout.size

theorem whole_new (k : Control α) : Whole k ⟨[], []⟩ := ⟨0, (Nat.zero_mul _).symm⟩

theorem sound_new (k : Control α) : Sound k ⟨[], []⟩ := by
  intro messages _
  show [] = (messages.take (0 / k.layout.size)).filter k.accepts
  rw [Nat.zero_div, List.take_zero, List.filter_nil]

/-- The number of messages in what came, with `n` of them whole. -/
theorem div_size {n r : ℕ} (k : Control α) (h : r < k.layout.size) :
    (n * k.layout.size + r) / k.layout.size = n := by
  rw [Nat.mul_comm, Nat.mul_add_div k.size_pos, Nat.div_eq_of_lt h, Nat.add_zero]

/-- Messages of which some bytes are missing are not called for. -/
theorem Sound.store_short (h : Sound k c) (hwhole : Whole k c) {bytes : List UInt8}
    (hshort : bytes.length < k.layout.size) : Sound k (c.store bytes) := by
  intro messages hcame
  obtain ⟨n, hn⟩ := hwhole
  have hbefore := h messages ((List.prefix_append c.bytes bytes).trans hcame)
  have hdiv : (c.store bytes).bytes.length / k.layout.size = n := by
    show (c.bytes ++ bytes).length / k.layout.size = n
    rw [List.length_append, hn, div_size k hshort]
  have hdiv' : c.bytes.length / k.layout.size = n := by
    rw [hn, Nat.mul_div_cancel n k.size_pos]
  rw [hdiv]
  rw [hdiv'] at hbefore
  exact hbefore

/-- A message that came whole. -/
theorem Sound.store_whole (h : Sound k c) (hwhole : Whole k c) {bytes : List UInt8}
    (hlength : bytes.length = k.layout.size) :
    Whole k (c.store bytes) ∧
      Sound k (if k.accepts (k.layout.read bytes) then (c.store bytes).call (k.layout.read bytes)
        else c.store bytes) := by
  obtain ⟨n, hn⟩ := hwhole
  have hnext : (c.bytes ++ bytes).length = (n + 1) * k.layout.size := by
    rw [List.length_append, hn, hlength, Nat.succ_mul]
  refine ⟨⟨n + 1, hnext⟩, ?_⟩
  have hcalls : (if k.accepts (k.layout.read bytes) then (c.store bytes).call (k.layout.read bytes)
      else c.store bytes) =
        ⟨c.bytes ++ bytes, c.calls ++ [k.layout.read bytes].filter k.accepts⟩ := by
    rw [List.filter_singleton]
    cases k.accepts (k.layout.read bytes) with
    | true => rfl
    | false => exact congrArg (Heard.mk _) (List.append_nil _).symm
  rw [hcalls]
  intro messages hcame
  have hbefore := h messages ((List.prefix_append c.bytes bytes).trans hcame)
  rw [hn, Nat.mul_div_cancel n k.size_pos] at hbefore
  obtain ⟨hfront, -⟩ :=
    k.layout.eq_flatMap_take k.size_pos ((List.prefix_append c.bytes bytes).trans hcame) hn
  obtain ⟨hall, hle⟩ := k.layout.eq_flatMap_take k.size_pos hcame hnext
  have htake : messages.take (n + 1) = messages.take n ++ [messages[n]] :=
    (List.take_concat_get' messages n hle).symm
  have hmessage : bytes = k.layout.write messages[n] := by
    rw [htake, List.flatMap_append, ← hfront] at hall
    rw [List.append_cancel_left hall, List.flatMap_singleton]
  show c.calls ++ _ = (messages.take ((c.bytes ++ bytes).length / k.layout.size)).filter k.accepts
  rw [hnext, Nat.mul_div_cancel _ k.size_pos, htake, List.filter_append, ← hbefore, hmessage,
    k.layout.read_write]

end Heard

/-! ## Runs -/

namespace Listener

variable {α : Type} {k : Control α} {l : Listener α}

/-- The newest connection stands between two messages. -/
def Between (k : Control α) (l : Listener α) : Prop := ∃ c cs, l.heard = c :: cs ∧ c.Whole k

/-- The loop is at a message's front wherever it can come to a `Recv` of the same connection. -/
def AtFront (k : Control α) (l : Listener α) : Prop :=
  match l.talker.pc with
  | .outer => l.talker.client.connected = true → l.Between k
  | .connect => l.talker.client.connected = true → l.Between k
  | .announce _ => l.Between k
  | .poll => l.Between k
  | .inner => l.Between k
  | .returned => True
  | .threw => True

/-- What holds of a listener at any time. -/
structure Inv (k : Control α) (l : Listener α) : Prop where
  sound : ∀ c ∈ l.heard, c.Sound k
  connects : l.heard.length = l.talker.trace.count .connected
  front : l.AtFront k

theorem inv_initial (k : Control α) : Inv k initial := by
  refine ⟨?_, rfl, ?_⟩
  · intro c hc
    cases hc
  · intro hup
    cases hup

theorem Inv.goto (h : l.Inv k) {pc : Pc} (hfront : (l.goto pc).AtFront k) : (l.goto pc).Inv k :=
  ⟨h.sound, h.connects, hfront⟩

/-- Behind a `Close` the loop comes to no `Recv` of the connection. -/
theorem inv_close (hsound : ∀ c ∈ l.heard, c.Sound k)
    (hconnects : l.heard.length = l.talker.trace.count .connected) : (l.close.goto .outer).Inv k := by
  refine ⟨hsound, ?_, ?_⟩
  · show l.heard.length = (Event.closed :: l.talker.trace).count .connected
    rw [List.count_cons_of_ne (by simp), hconnects]
  · intro hup
    exact absurd ((StreamClient.connected_close l.talker.client).symm.trans hup) Bool.false_ne_true

theorem inv_poll (hfront : l.Between k) (h : l.Inv k) (a : Answer) (arriving : Feed UInt8) :
    (l.poll k a arriving).Inv k := by
  obtain ⟨c, cs, hheard, hwhole⟩ := hfront
  have hnewest : c.Sound k := h.sound c (hheard ▸ List.mem_cons_self)
  have hsound {d : Heard α} (hd : d.Sound k) : ∀ e ∈ d :: cs, e.Sound k := by
    intro e he
    rcases List.mem_cons.mp he with rfl | he
    · exact hd
    · exact h.sound e (hheard ▸ List.mem_cons_of_mem c he)
  have hconnects : cs.length + 1 = l.talker.trace.count .connected := by
    rw [← h.connects, hheard, List.length_cons]
  unfold poll
  split
  · exact h.goto trivial
  split
  · exact h.goto ⟨c, cs, hheard, hwhole⟩
  split
  · rw [hheard]
    dsimp only [List.modifyHead]
    split
    · -- Not the whole message: the bytes that came of it stay without a call.
      rename_i hcount
      have hshort := (k.length_recv_le arriving).lt_of_ne fun heq => hcount ((k.recv_eq_iff arriving).mpr heq)
      exact inv_close (hsound (hnewest.store_short hwhole hshort)) hconnects
    · rename_i hcount
      have hlength := (k.recv_eq_iff arriving).mp (not_not.mp hcount)
      obtain ⟨hwhole', hcalls⟩ := hnewest.store_whole hwhole hlength
      split
      · rename_i haccepts
        rw [if_pos haccepts] at hcalls
        exact ⟨hsound hcalls, hconnects, _, cs, rfl, hwhole'⟩
      · rename_i haccepts
        rw [if_neg haccepts] at hcalls
        exact ⟨hsound hcalls, hconnects, _, cs, rfl, hwhole'⟩
  split
  · exact inv_close h.sound h.connects
  · exact h.goto ⟨c, cs, hheard, hwhole⟩

/-- A move to a `Connect` and behind it. -/
theorem inv_connect (hpc : l.talker.pc = .connect) (h : l.Inv k) (a : Answer) (arriving : Feed UInt8) :
    (l.work k a arriving).Inv k := by
  have hfront := h.front
  rw [AtFront, hpc] at hfront
  rcases hup : l.talker.client.connected with _ | _
  · have hresult : ∀ ok msg, (l.talker.client.connect a.dial).1 = .returned ok msg →
        (l.talker.client.connect a.dial).2.connected = ok := fun ok msg => StreamClient.connected_connect
    rcases hconnect : l.talker.client.connect a.dial with ⟨result, client⟩
    rw [hconnect] at hresult
    unfold work
    simp only [hpc, Talker.work, connects, hup, if_true, Talker.dial, hconnect]
    rcases result with ⟨ok, msg⟩ | -
    · cases ok with
      | false =>
        refine ⟨h.sound, h.connects, fun hagain => ?_⟩
        exact absurd ((hresult false msg rfl).symm.trans hagain) Bool.false_ne_true
      | true =>
        refine ⟨?_, ?_, _, l.heard, rfl, Heard.whole_new k⟩
        · intro c hc
          rcases List.mem_cons.mp hc with rfl | hc
          · exact Heard.sound_new k
          · exact h.sound c hc
        · show l.heard.length + 1 = (Event.connected :: l.talker.trace).count .connected
          rw [List.count_cons_self, h.connects]
    · exact ⟨h.sound, h.connects, trivial⟩
  · unfold work
    simp only [hpc, Talker.work, connects, hup]
    exact ⟨h.sound, h.connects, hfront hup⟩

theorem inv_work (h : l.Inv k) (a : Answer) (arriving : Feed UInt8) : (l.work k a arriving).Inv k := by
  have hfront := h.front
  unfold AtFront at hfront
  cases hpc : l.talker.pc with
  | connect => exact inv_connect hpc h a arriving
  | poll =>
    rw [hpc] at hfront
    simp only [work, hpc]
    exact inv_poll hfront h a arriving
  | outer =>
    rw [hpc] at hfront
    simp only [work, hpc, Talker.work, connects]
    split
    · exact ⟨h.sound, h.connects, hfront⟩
    · exact ⟨h.sound, h.connects, trivial⟩
  | inner =>
    rw [hpc] at hfront
    simp only [work, hpc, Talker.work, connects]
    split
    · exact ⟨h.sound, h.connects, hfront⟩
    · exact ⟨h.sound, h.connects, fun _ => hfront⟩
  | announce rest =>
    rw [hpc] at hfront
    simp only [work, hpc, Talker.work, connects]
    cases rest with
    | nil => exact ⟨h.sound, h.connects, hfront⟩
    | cons bytes rest =>
      refine ⟨h.sound, ?_, hfront⟩
      show l.heard.length = (Event.sent _ bytes :: l.talker.trace).count .connected
      rw [List.count_cons_of_ne (by simp), h.connects]
  | returned =>
    simp only [work, hpc, Talker.work, connects]
    exact h
  | threw =>
    simp only [work, hpc, Talker.work, connects]
    exact h

theorem inv_run (k : Control α) (ms : List ListenerMove) : (run k ms).Inv k := by
  have halong : Along (step k) (fun _ _ => True) initial ms := along_of_forall (fun _ _ => trivial) _ ms
  refine halong.invariant_foldl (I := Inv k) ?_ (inv_initial k)
  intro l m h _
  cases m with
  | talker a arriving => exact inv_work h a arriving
  | stop => exact ⟨h.sound, h.connects, h.front⟩

end Listener

/-- **The client is told what came whole.** In every run of the talkers of `SensorInterface` and `AudioSink`, over any
number of connections, with the bytes cut in any way and the destructor's store anywhere: there is one record of
calls for each successful `Connect`, and of the messages sent on the connection the callback had those of which
`Recv` stored all bytes, once and in order; with `SensorInterface`, those of a type that `GetSupportedSensorList`
names, for which `SendDataPacket` has events. -/
theorem control_delivered (userId : Int32) (ms : List ListenerMove) :
    let sensor := Listener.run (SensorInterface.control userId) ms
    let sink := Listener.run (AudioSink.control userId) ms
    (sensor.heard.length = sensor.talker.trace.count .connected ∧
        ∀ c ∈ sensor.heard, ∀ packets : List CtrlPacket, c.bytes <+: packets.flatMap Layout.ctrlPacket.write →
          (c.calls = (packets.take (c.bytes.length / 12)).filter fun p => SensorInterface.Supported p.1) ∧
            ∀ p ∈ c.calls, (SensorInterface.dataCount p.1).isSome = true) ∧
      (sink.heard.length = sink.talker.trace.count .connected ∧
        ∀ c ∈ sink.heard, ∀ messages : List Audio.CtrlMessage,
          c.bytes <+: messages.flatMap Audio.Layout.ctrlMessage.write →
            c.calls = messages.take (c.bytes.length / 20)) := by
  intro sensor sink
  have hsensor := Listener.inv_run (SensorInterface.control userId) ms
  have hsink := Listener.inv_run (AudioSink.control userId) ms
  refine ⟨⟨hsensor.connects, ?_⟩, hsink.connects, ?_⟩
  · intro c hc packets hcame
    have hcalls := hsensor.sound c hc packets hcame
    have haccepts : (SensorInterface.control userId).accepts =
        fun p : CtrlPacket => decide (SensorInterface.Supported p.1) := by
      funext p
      exact Bool.eq_iff_iff.mpr ((SensorInterface.isValidCtrlPacket_iff p.1).trans decide_eq_true_iff.symm)
    rw [haccepts] at hcalls
    refine ⟨hcalls, ?_⟩
    intro p hp
    rw [hcalls, List.mem_filter, decide_eq_true_iff] at hp
    exact (SensorInterface.dataCount_isSome_iff p.1).mpr hp.2
  · intro c hc messages hcame
    have hcalls := hsink.sound c hc messages hcame
    rw [hcalls]
    exact List.filter_eq_self.mpr fun _ _ => rfl

end VhalClient.Talkers
