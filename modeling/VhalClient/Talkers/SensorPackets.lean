/-
# VhalClient.Talkers.SensorPackets — the sensor events on a connection.

`SendDataPacket` writes a header of 16 bytes and one, three or six floats behind it, by the type of the event;
`sendStreamerUserId` writes a header alone, with the user id where the count of the floats is.  The stream has
no other delimiters.

`stream_uniquely_decodable` is about any calls in any order: what stands on a connection can be cut up in one
way only into headers and the floats they announce, and the events so read are those that `SendDataPacket` was
given while connected, of a type it supports, in order.  `exists_calls_of_moves` says that the talker's thread, with the calls of the client's thread
anywhere between its moves, does nothing else.
-/
import VhalClient.Lib.Records
import VhalClient.Talkers.UserId

namespace VhalClient.Talkers

open VhalClient.Lib VhalClient.Socket

/-! ## `SendDataPacket` -/

/-- `SensorDataPacket`; a float is the word that it is in memory. -/
structure SensorDataPacket where
  type : UInt32
  timestampNs : Int64
  fdata : Vector UInt32 6
  deriving DecidableEq, Repr

namespace SensorInterface

/-- The `switch` over the type, with the values of `sensor_type_t`. -/
def dataCount (type : UInt32) : Option ℕ :=
  -- SENSOR_TYPE_ACCELEROMETER, SENSOR_TYPE_MAGNETIC_FIELD, SENSOR_TYPE_GYROSCOPE
  if type = 1 ∨ type = 2 ∨ type = 4 then some 3
  -- and the same, uncalibrated
  else if type = 35 ∨ type = 14 ∨ type = 16 then some 6
  -- SENSOR_TYPE_LIGHT, SENSOR_TYPE_PROXIMITY, SENSOR_TYPE_AMBIENT_TEMPERATURE
  else if type = 5 ∨ type = 8 ∨ type = 13 then some 1
  else none

/-- The bytes of a supported event. -/
def dataBytes (count : ℕ) (p : SensorDataPacket) : List UInt8 :=
  Layout.sensorEvent.write ⟨p.type, Int32.ofNat count, p.timestampNs.toUInt64⟩ ++
    (p.fdata.toList.take count).flatMap Layout.word32.write

/-- `SendDataPacket`: its `IOResult`, and what it gave to `Send`. -/
def sendDataPacket (connected : Bool) (send : List UInt8 → ℤ × String) (p : SensorDataPacket) :
    (ℤ × String) × List (List UInt8) :=
  if connected = false then ((0, "VHAL Not connected"), [])
  else
    match dataCount p.type with
    | none => ((-1, "Sensor Type not supported"), [])
    | some count =>
      let bytes := dataBytes count p
      if (send bytes).1 = -1 then (send bytes, [bytes]) else ((bytes.length, ""), [bytes])

end SensorInterface

/-! ## Calls -/

/-- A call of `SendDataPacket`: whether the client was connected, the event, and the `IOResult`. -/
structure DataCall where
  connected : Bool
  packet : SensorDataPacket
  result : ℤ × String

/-- Neither of the two reasons to reject the call: not connected, or an unsupported type. -/
def DataCall.Accepted (call : DataCall) : Prop :=
  call.connected = true ∧ (SensorInterface.dataCount call.packet.type).isSome = true

instance (call : DataCall) : Decidable call.Accepted :=
  inferInstanceAs (Decidable (call.connected = true ∧ (SensorInterface.dataCount call.packet.type).isSome = true))

/-- What was written since a `Connect`, and the calls of `SendDataPacket`, oldest first. -/
structure Link where
  written : List (List UInt8)
  calls : List DataCall

namespace Link

def bytes (c : Link) : List UInt8 := c.written.flatten

/-- The events of the accepted calls. -/
def accepted (c : Link) : List SensorDataPacket :=
  (c.calls.filter fun call => call.Accepted).map DataCall.packet

end Link

/-- The client, and the connections it made, newest first. -/
structure Sender where
  client : StreamClient
  connections : List Link

/-- What is done with the client: by the talker's thread, or a call of `SendDataPacket`. -/
inductive SenderCall where
  | connect (d : Dial)
  | close
  | userId (stack : Stack)
  | data (p : SensorDataPacket)

/-- A `Send` that accepts all bytes. -/
def sendAll (bytes : List UInt8) : ℤ × String := (bytes.length, "")

namespace Sender

def initial : Sender := ⟨.initial, []⟩

/-- Something happens on the newest connection. -/
def onNewest (f : Link → Link) : List Link → List Link
  | [] => []
  | c :: cs => f c :: cs

def step (userId : Int32) (s : Sender) : SenderCall → Sender
  | .connect d =>
    match s.client.connect d with
    | (.returned true _, c) => ⟨c, ⟨[], []⟩ :: s.connections⟩
    | (_, c) => ⟨c, s.connections⟩
  | .close => ⟨s.client.close, s.connections⟩
  | .userId stack =>
    let sends := SensorInterface.sendStreamerUserId userId s.client.connected stack
    ⟨s.client, onNewest (fun c => ⟨c.written ++ sends, c.calls⟩) s.connections⟩
  | .data p =>
    let (result, sends) := SensorInterface.sendDataPacket s.client.connected sendAll p
    let call : DataCall := ⟨s.client.connected, p, result⟩
    ⟨s.client, onNewest (fun c => ⟨c.written ++ sends, c.calls ++ [call]⟩) s.connections⟩

def run (userId : Int32) (calls : List SenderCall) : Sender := calls.foldl (step userId) initial

end Sender

/-! ## Reading the stream -/

/-- How many bytes follow a header: none behind a user id, and four for each value otherwise. -/
def bytesBehind (header : List UInt8) : Option ℕ :=
  let e := Layout.sensorEvent.read header
  if e.type = sensorTypeAdditionalInfo then some 0
  else if 0 ≤ e.userId then some (4 * e.userId.toInt.toNat)
  else none

/-- A header of 16 bytes, and the values it announces. -/
def sensorRecords : Set (List UInt8) := headed 16 bytesBehind

/-- An event as a reader has it. -/
structure ReceivedEvent where
  type : UInt32
  timestampNs : Int64
  data : List UInt32
  deriving DecidableEq, Repr

/-- The event of a record, if it is not about the user. -/
def readEvent (record : List UInt8) : Option ReceivedEvent :=
  let e := Layout.sensorEvent.read record
  if e.type = sensorTypeAdditionalInfo then none
  else some ⟨e.type, e.timestampNs.toInt64, Layout.word32.readList e.userId.toInt.toNat (record.drop 16)⟩

/-- What a reader should have of an event. -/
def SensorDataPacket.received (p : SensorDataPacket) : ReceivedEvent :=
  ⟨p.type, p.timestampNs, p.fdata.toList.take ((SensorInterface.dataCount p.type).getD 0)⟩

/-! ## One record -/

theorem length_write_sensorEvent (e : SensorEvent) : (Layout.sensorEvent.write e).length = 16 :=
  Layout.sensorEvent.length_write e

theorem userIdMessage_mem_sensorRecords (userId : Int32) (stack : Stack) :
    ∀ record ∈ SensorInterface.userIdMessage userId stack,
      record ∈ sensorRecords ∧ readEvent record = none := by
  intro record hrecord
  rw [SensorInterface.userIdMessage, List.mem_singleton] at hrecord
  subst hrecord
  have hlength := length_write_sensorEvent ⟨sensorTypeAdditionalInfo, userId, stack.timestampNs⟩
  refine ⟨⟨hlength.ge, ?_⟩, ?_⟩
  · rw [List.take_of_length_le hlength.le, hlength, bytesBehind, Layout.sensorEvent.read_write]
    exact if_pos rfl
  · rw [readEvent, Layout.sensorEvent.read_write]
    exact if_pos rfl

/-- The message about the user has a type of its own. -/
theorem ne_additionalInfo_of_dataCount {type : UInt32} {count : ℕ}
    (h : SensorInterface.dataCount type = some count) : type ≠ sensorTypeAdditionalInfo := by
  rintro rfl
  have hnone : SensorInterface.dataCount sensorTypeAdditionalInfo = none := by decide
  rw [hnone] at h
  cases h

/-- A packet has the values that its type calls for. -/
theorem dataCount_le {type : UInt32} {count : ℕ} (h : SensorInterface.dataCount type = some count) :
    count ≤ 6 := by
  unfold SensorInterface.dataCount at h
  split at h
  · cases h
    omega
  · split at h
    · cases h
      omega
    · split at h
      · cases h
        omega
      · cases h

variable {p : SensorDataPacket} {count : ℕ}

theorem length_take_fdata (hcount : count ≤ 6) : (p.fdata.toList.take count).length = count := by
  rw [List.length_take, Vector.length_toList]
  omega

theorem length_dataBytes (hcount : count ≤ 6) :
    (SensorInterface.dataBytes count p).length = 16 + 4 * count := by
  rw [SensorInterface.dataBytes, List.length_append, length_write_sensorEvent,
    Layout.length_flatMap_write, length_take_fdata hcount, Nat.mul_comm]
  rfl

/-- A supported event makes a record, from which it is read back. -/
theorem dataBytes_mem_sensorRecords (h : SensorInterface.dataCount p.type = some count) :
    SensorInterface.dataBytes count p ∈ sensorRecords ∧
      readEvent (SensorInterface.dataBytes count p) = some p.received := by
  have htype := ne_additionalInfo_of_dataCount h
  have hcount := dataCount_le h
  have hlength := length_dataBytes (p := p) hcount
  have htoInt : (Int32.ofNat count).toInt = count := (toInt_int32_ofNat_eq_iff count).mpr (by omega)
  have hnonneg : (0 : Int32) ≤ Int32.ofNat count := by
    rw [Int32.le_iff_toInt_le, htoInt]
    exact Int.natCast_nonneg count
  refine ⟨⟨by omega, ?_⟩, ?_⟩
  · rw [hlength, SensorInterface.dataBytes, List.take_left' (length_write_sensorEvent _), bytesBehind,
      Layout.sensorEvent.read_write]
    dsimp only
    rw [if_neg htype, if_pos hnonneg, htoInt, Int.toNat_natCast, Nat.add_sub_cancel_left]
  · have hdata := Layout.word32.readList_flatMap_write (p.fdata.toList.take count) []
    rw [length_take_fdata hcount, List.append_nil] at hdata
    rw [readEvent, SensorInterface.dataBytes, Layout.sensorEvent.read_write_append,
      List.drop_left' (length_write_sensorEvent _)]
    dsimp only
    rw [if_neg htype, htoInt, Int.toNat_natCast, hdata, SensorDataPacket.received, h, Option.getD_some,
      Int64.toInt64_toUInt64]

/-! ## One call -/

/-- What was written are records, and their events are the accepted ones; these calls, and no others, report
bytes. -/
structure Link.Sound (c : Link) : Prop where
  records : ∀ record ∈ c.written, record ∈ sensorRecords
  events : c.written.filterMap readEvent = c.accepted.map SensorDataPacket.received
  results : ∀ call ∈ c.calls, 0 < call.result.1 ↔ call.Accepted

namespace Link

theorem sound_new : Link.Sound ⟨[], []⟩ := by
  refine ⟨?_, rfl, ?_⟩
  · intro record hrecord
    cases hrecord
  · intro call hcall
    cases hcall

theorem accepted_append (c : Link) (written : List (List UInt8)) (call : DataCall) :
    Link.accepted ⟨written, c.calls ++ [call]⟩ = c.accepted ++ if call.Accepted then [call.packet] else [] := by
  rw [accepted, accepted, List.filter_append, List.map_append]
  by_cases hcall : call.Accepted
  · rw [if_pos hcall, List.filter_cons_of_pos (by simpa using hcall)]
    rfl
  · rw [if_neg hcall, List.filter_cons_of_neg (by simpa using hcall)]
    rfl

/-- Records without an event, behind those that are there. -/
theorem Sound.append_quiet {c : Link} (h : c.Sound) {sends : List (List UInt8)}
    (hsends : ∀ record ∈ sends, record ∈ sensorRecords ∧ readEvent record = none) :
    Link.Sound ⟨c.written ++ sends, c.calls⟩ := by
  refine ⟨?_, ?_, h.results⟩
  · intro record hrecord
    rcases List.mem_append.mp hrecord with hrecord | hrecord
    · exact h.records record hrecord
    · exact (hsends record hrecord).1
  · have hquiet : sends.filterMap readEvent = [] :=
      List.filterMap_eq_nil_iff.mpr fun record hrecord => (hsends record hrecord).2
    dsimp only
    rw [List.filterMap_append, hquiet, List.append_nil]
    exact h.events

theorem Sound.results_append {c : Link} (h : c.Sound) {call : DataCall}
    (hcall : 0 < call.result.1 ↔ call.Accepted) :
    ∀ other ∈ c.calls ++ [call], 0 < other.result.1 ↔ other.Accepted := by
  intro other hother
  rcases List.mem_append.mp hother with hother | hother
  · exact h.results other hother
  · rw [List.mem_singleton.mp hother]
    exact hcall

/-- A rejected call. -/
theorem Sound.append_rejected {c : Link} (h : c.Sound) {call : DataCall} (hresult : ¬ 0 < call.result.1)
    (hcall : ¬ call.Accepted) : Link.Sound ⟨c.written ++ [], c.calls ++ [call]⟩ := by
  rw [List.append_nil]
  refine ⟨h.records, ?_, h.results_append (iff_of_false hresult hcall)⟩
  rw [accepted_append, if_neg hcall, List.append_nil]
  exact h.events

/-- An accepted call. -/
theorem Sound.append_accepted {c : Link} (h : c.Sound) {p : SensorDataPacket} {count : ℕ}
    (hcount : SensorInterface.dataCount p.type = some count) {result : ℤ × String} (hresult : 0 < result.1) :
    Link.Sound ⟨c.written ++ [SensorInterface.dataBytes count p], c.calls ++ [⟨true, p, result⟩]⟩ := by
  obtain ⟨hrecord, hread⟩ := dataBytes_mem_sensorRecords hcount
  have hcall : DataCall.Accepted ⟨true, p, result⟩ := ⟨rfl, by rw [hcount]; rfl⟩
  refine ⟨?_, ?_, h.results_append (iff_of_true hresult hcall)⟩
  · intro record hmem
    rcases List.mem_append.mp hmem with hmem | hmem
    · exact h.records record hmem
    · rw [List.mem_singleton.mp hmem]
      exact hrecord
  · rw [accepted_append, if_pos hcall]
    dsimp only
    rw [List.filterMap_append, h.events, List.map_append, List.filterMap_cons_some hread]
    rfl

end Link

/-! The three results of `SendDataPacket`. -/

namespace SensorInterface

theorem sendDataPacket_not_connected (send : List UInt8 → ℤ × String) (p : SensorDataPacket) :
    sendDataPacket false send p = ((0, "VHAL Not connected"), []) := rfl

theorem sendDataPacket_not_supported (send : List UInt8 → ℤ × String) {p : SensorDataPacket}
    (h : dataCount p.type = none) :
    sendDataPacket true send p = ((-1, "Sensor Type not supported"), []) := by
  rw [sendDataPacket, if_neg Bool.false_ne_true.symm, h]

theorem sendDataPacket_supported {p : SensorDataPacket} {count : ℕ} (h : dataCount p.type = some count) :
    sendDataPacket true sendAll p = ((((16 + 4 * count : ℕ) : ℤ), ""), [dataBytes count p]) := by
  have hsent : (sendAll (dataBytes count p)).1 ≠ -1 := by
    rw [sendAll]
    dsimp only
    omega
  rw [sendDataPacket, if_neg Bool.false_ne_true.symm, h]
  dsimp only
  rw [if_neg hsent, length_dataBytes (dataCount_le h)]

/-- What `sendStreamerUserId` sends is about the user. -/
theorem sendStreamerUserId_quiet (userId : Int32) (connected : Bool) (stack : Stack) :
    ∀ record ∈ sendStreamerUserId userId connected stack,
      record ∈ sensorRecords ∧ readEvent record = none := by
  intro record hrecord
  unfold sendStreamerUserId at hrecord
  split at hrecord
  · cases hrecord
  · split at hrecord
    · exact userIdMessage_mem_sensorRecords userId stack record hrecord
    · cases hrecord

end SensorInterface

namespace Sender

/-- All connections are sound. -/
def Sound (s : Sender) : Prop := ∀ c ∈ s.connections, c.Sound

theorem sound_onNewest {f : Link → Link} (hf : ∀ c : Link, c.Sound → (f c).Sound)
    {cs : List Link} (h : ∀ c ∈ cs, c.Sound) : ∀ c ∈ onNewest f cs, c.Sound := by
  cases cs with
  | nil => exact h
  | cons newest older =>
    intro c hc
    rcases List.mem_cons.mp hc with rfl | hc
    · exact hf newest (h newest List.mem_cons_self)
    · exact h c (List.mem_cons_of_mem newest hc)

theorem sound_data (connected : Bool) (p : SensorDataPacket) (c : Link) (h : c.Sound) :
    Link.Sound
      ⟨c.written ++ (SensorInterface.sendDataPacket connected sendAll p).2,
        c.calls ++ [⟨connected, p, (SensorInterface.sendDataPacket connected sendAll p).1⟩]⟩ := by
  cases connected with
  | false =>
    rw [SensorInterface.sendDataPacket_not_connected]
    exact h.append_rejected (lt_irrefl 0) fun hcall => Bool.false_ne_true hcall.1
  | true =>
    rcases hcount : SensorInterface.dataCount p.type with _ | count
    · rw [SensorInterface.sendDataPacket_not_supported _ hcount]
      refine h.append_rejected (not_lt_of_gt neg_one_lt_zero) ?_
      rintro ⟨-, hsome⟩
      rw [hcount] at hsome
      cases hsome
    · rw [SensorInterface.sendDataPacket_supported hcount]
      refine h.append_accepted hcount ?_
      dsimp only
      omega

/-- A `Connect` makes a connection or none. -/
theorem connections_connect (s : Sender) (userId : Int32) (d : Dial) :
    (s.step userId (.connect d)).connections = s.connections ∨
      (s.step userId (.connect d)).connections = ⟨[], []⟩ :: s.connections := by
  rw [step]
  split
  · exact Or.inr rfl
  · exact Or.inl rfl

theorem sound_step {s : Sender} (h : s.Sound) (userId : Int32) (call : SenderCall) :
    (s.step userId call).Sound := by
  cases call with
  | connect d =>
    rcases connections_connect s userId d with heq | heq
    · rw [Sound, heq]
      exact h
    · rw [Sound, heq]
      intro c hc
      rcases List.mem_cons.mp hc with rfl | hc
      · exact Link.sound_new
      · exact h c hc
  | close => exact h
  | userId stack =>
    refine sound_onNewest (fun c hc => ?_) h
    exact hc.append_quiet (SensorInterface.sendStreamerUserId_quiet userId s.client.connected stack)
  | data p => exact sound_onNewest (sound_data s.client.connected p) h

theorem sound_run (userId : Int32) (calls : List SenderCall) : (run userId calls).Sound := by
  have hinit : initial.Sound := by
    intro c hc
    cases hc
  have halong : Along (step userId) (fun _ _ => True) initial calls := along_of_forall (fun _ _ => trivial) _ calls
  exact halong.invariant_foldl (I := Sound) (fun _ call h _ => sound_step h userId call) hinit

/-- A rejected call leaves the bytes on all connections as they were. -/
theorem bytes_data_of_rejected {s : Sender} (userId : Int32) {p : SensorDataPacket}
    (h : s.client.connected = false ∨ SensorInterface.dataCount p.type = none) :
    (s.step userId (.data p)).connections.map Link.bytes = s.connections.map Link.bytes := by
  have hsends : (SensorInterface.sendDataPacket s.client.connected sendAll p).2 = [] := by
    rcases hup : s.client.connected with _ | _
    · rfl
    · rcases h with hdown | hnone
      · rw [hup] at hdown
        cases hdown
      · rw [SensorInterface.sendDataPacket_not_supported _ hnone]
  rcases hconnections : s.connections with _ | ⟨c, cs⟩
  · simp [step, onNewest, hconnections]
  · simp [step, onNewest, hconnections, hsends, Link.bytes]

end Sender

/-- **The sensor stream is uniquely decodable.** After any calls, what stands on any of the connections can be
cut up into headers and the values they announce, and in one way only; the events so read are those of the
accepted calls on that connection, in order, and these calls alone report bytes.  A call that is rejected writes
nothing. -/
theorem stream_uniquely_decodable (userId : Int32) (calls : List SenderCall) :
    (∀ c ∈ (Sender.run userId calls).connections,
      ∃ records : List (List UInt8),
        ((∀ record ∈ records, record ∈ sensorRecords) ∧ records.flatten = c.bytes) ∧
          (∀ others : List (List UInt8), (∀ record ∈ others, record ∈ sensorRecords) →
            others.flatten = c.bytes → others = records) ∧
          records.filterMap readEvent = c.accepted.map SensorDataPacket.received ∧
          ∀ call ∈ c.calls, 0 < call.result.1 ↔ call.Accepted) ∧
      ∀ p : SensorDataPacket,
        (Sender.run userId calls).client.connected = false ∨ SensorInterface.dataCount p.type = none →
          ((Sender.run userId calls).step userId (.data p)).connections.map Link.bytes =
            (Sender.run userId calls).connections.map Link.bytes := by
  refine ⟨?_, fun p hp => Sender.bytes_data_of_rejected userId hp⟩
  intro c hc
  have hsound := Sender.sound_run userId calls c hc
  refine ⟨c.written, ⟨hsound.records, rfl⟩, ?_, hsound.events, hsound.results⟩
  intro others hothers hbytes
  exact uniquelyDecodable_headed (by decide) others c.written hothers hsound.records hbytes

/-! ## The two threads -/

/-- What happens next: to the talker's thread, or a call of the client's thread. -/
inductive SensorMove where
  | talker (m : Move)
  | data (p : SensorDataPacket)

namespace SensorInterface

def step (userId : Int32) (t : Talker) : SensorMove → Talker
  | .talker m => Class.sensorInterface.step userId t m
  | .data p =>
    let sends := (sendDataPacket t.client.connected sendAll p).2
    { t with trace := (sends.map (.sent t.client.connected)).reverse ++ t.trace }

/-- The calls made so far account for the client and for what was sent, and an announcement that is still to
come is that of a connection that is up. -/
structure Follows (userId : Int32) (t : Talker) (s : Sender) : Prop where
  client : s.client = t.client
  sessions : sessions t.trace = s.connections.map Link.written
  connection : t.client.connected = true → s.connections ≠ []
  announcing : ∀ rest, t.pc = .announce rest → rest = [] ∨
    t.client.connected = true ∧ ∃ stack, rest = sendStreamerUserId userId true stack

variable {userId : Int32} {t : Talker} {s : Sender}

theorem follows_initial (userId : Int32) : Follows userId .initial .initial := by
  refine ⟨rfl, rfl, ?_, ?_⟩
  · intro hup
    cases hup
  · intro rest hrest
    cases hrest

/-- A move that only goes on. -/
theorem Follows.goto (h : Follows userId t s) {pc : Pc} (hpc : ∀ rest, pc = .announce rest → rest = [] ∨
    t.client.connected = true ∧ ∃ stack, rest = sendStreamerUserId userId true stack) :
    Follows userId (t.goto pc) s :=
  ⟨h.client, h.sessions, h.connection, hpc⟩

theorem Follows.close (h : Follows userId t s) : Follows userId (t.close.goto .outer) (s.step userId .close) := by
  refine ⟨?_, h.sessions, ?_, ?_⟩
  · exact congrArg StreamClient.close h.client
  · intro hup
    have hdown : t.client.close.connected = false := StreamClient.connected_close t.client
    exact absurd (hdown.symm.trans hup) Bool.false_ne_true
  · intro rest hrest
    cases hrest

/-- A send on the connection that is up. -/
theorem sessions_sent {bytes : List UInt8} {cs : List Link} (up : Bool) {trace : List Event}
    (h : sessions trace = cs.map Link.written) (hne : cs ≠ []) (f : Link → Link)
    (hf : ∀ c, (f c).written = c.written ++ [bytes]) :
    sessions (.sent up bytes :: trace) = (Sender.onNewest f cs).map Link.written := by
  cases cs with
  | nil => exact absurd rfl hne
  | cons c cs =>
    rw [Talkers.sessions, h, Sender.onNewest, List.map_cons, List.map_cons, hf]

theorem map_written_onNewest {f : Link → Link} (hf : ∀ c, (f c).written = c.written)
    (cs : List Link) : (Sender.onNewest f cs).map Link.written = cs.map Link.written := by
  cases cs with
  | nil => rfl
  | cons c cs => rw [Sender.onNewest, List.map_cons, List.map_cons, hf]

theorem onNewest_ne_nil {f : Link → Link} {cs : List Link} (h : cs ≠ []) :
    Sender.onNewest f cs ≠ [] := by
  cases cs with
  | nil => exact absurd rfl h
  | cons c cs => exact List.cons_ne_nil _ _

theorem Follows.data (h : Follows userId t s) (p : SensorDataPacket) :
    Follows userId (step userId t (.data p)) (s.step userId (.data p)) := by
  refine ⟨h.client, ?_, fun hup => onNewest_ne_nil (h.connection hup), h.announcing⟩
  dsimp only [step, Sender.step]
  rw [h.client]
  -- What is sent, is sent on a connection.
  rcases hup : t.client.connected with _ | _
  · rw [sendDataPacket_not_connected]
    exact h.sessions.trans (map_written_onNewest (fun c => List.append_nil c.written) s.connections).symm
  · rcases hcount : dataCount p.type with _ | count
    · rw [sendDataPacket_not_supported _ hcount]
      exact h.sessions.trans (map_written_onNewest (fun c => List.append_nil c.written) s.connections).symm
    · rw [sendDataPacket_supported hcount]
      exact sessions_sent true h.sessions (h.connection hup) _ fun _ => rfl

/-- The announcement goes out in one send, if there is one. -/
theorem Follows.announce (h : Follows userId t s) {rest : List (List UInt8)} (hpc : t.pc = .announce rest) :
    ∃ calls : List SenderCall, Follows userId (t.announce rest) (calls.foldl (Sender.step userId) s) := by
  cases rest with
  | nil => exact ⟨[], h.goto fun rest hrest => by cases hrest⟩
  | cons bytes rest =>
    rcases h.announcing _ hpc with hnil | ⟨hup, stack, hsends⟩
    · cases hnil
    · have hrest : rest = [] := by
        unfold sendStreamerUserId at hsends
        split at hsends
        · cases hsends
        · split at hsends
          · exact (List.cons_eq_cons.mp hsends).2
          · cases hsends
      subst hrest
      refine ⟨[.userId stack], h.client, ?_, fun hup => onNewest_ne_nil (h.connection hup), ?_⟩
      · dsimp only [Talker.announce, List.foldl_cons, List.foldl_nil, Sender.step]
        rw [h.client, hup, ← hsends]
        exact sessions_sent true h.sessions (h.connection hup) _ fun _ => rfl
      · intro rest hrest
        injection hrest with hrest
        exact Or.inl hrest.symm

theorem Follows.dial (h : Follows userId t s) (d : Dial) (stack : Stack) :
    Follows userId
      (t.dial (fun t => t.goto (.announce (sendStreamerUserId userId t.client.connected stack))) d)
      (s.step userId (.connect d)) := by
  have hresult : ∀ ok msg, (t.client.connect d).1 = .returned ok msg →
      (t.client.connect d).2.connected = ok := fun ok msg => StreamClient.connected_connect
  have hthrew : (t.client.connect d).1 = .threw → (t.client.connect d).2.connected = true →
      t.client.connected = true := StreamClient.connected_of_threw
  rcases hconnect : t.client.connect d with ⟨result, c⟩
  rw [hconnect] at hresult hthrew
  match result with
  | .threw =>
    simp only [Talker.dial, Sender.step, h.client, hconnect]
    refine ⟨rfl, h.sessions, fun hup => h.connection (hthrew rfl hup), ?_⟩
    intro rest hrest
    cases hrest
  | .returned false msg =>
    simp only [Talker.dial, Sender.step, h.client, hconnect]
    refine ⟨rfl, h.sessions, ?_, ?_⟩
    · intro hup
      exact absurd ((hresult false msg rfl).symm.trans hup) Bool.false_ne_true
    · intro rest hrest
      cases hrest
  | .returned true msg =>
    have hup : c.connected = true := hresult true msg rfl
    simp only [Talker.dial, Sender.step, h.client, hconnect]
    refine ⟨rfl, ?_, fun _ => List.cons_ne_nil _ _, ?_⟩
    · exact congrArg (List.cons []) h.sessions
    · intro rest hrest
      injection hrest with hrest
      exact Or.inr ⟨hup, stack, by rw [← hrest, hup]⟩

/-- A turn of `poll`, which may close. -/
theorem Follows.poll (h : Follows userId t s) (sizeofMessage : ℤ) (a : Answer) :
    ∃ calls : List SenderCall, Follows userId (t.poll sizeofMessage a) (calls.foldl (Sender.step userId) s) := by
  have hgoto : ∀ pc : Pc, (∀ rest, pc ≠ .announce rest) →
      ∃ calls : List SenderCall, Follows userId (t.goto pc) (calls.foldl (Sender.step userId) s) :=
    fun pc hpc => ⟨[], h.goto fun rest hrest => absurd hrest (hpc rest)⟩
  have hclose : ∃ calls : List SenderCall,
      Follows userId (t.close.goto .outer) (calls.foldl (Sender.step userId) s) := ⟨[.close], h.close⟩
  unfold Talker.poll
  split
  · exact hgoto .threw (by simp)
  · split
    · exact hgoto .inner (by simp)
    · split
      · split
        · exact hclose
        · exact hgoto .inner (by simp)
      · split
        · exact hclose
        · exact hgoto .inner (by simp)

theorem Follows.work (h : Follows userId t s) (a : Answer) :
    ∃ calls : List SenderCall, Follows userId (work userId a t) (calls.foldl (Sender.step userId) s) := by
  have hgoto : ∀ pc : Pc, (∀ rest, pc ≠ .announce rest) →
      ∃ calls : List SenderCall, Follows userId (t.goto pc) (calls.foldl (Sender.step userId) s) :=
    fun pc hpc => ⟨[], h.goto fun rest hrest => absurd hrest (hpc rest)⟩
  unfold SensorInterface.work Talker.work
  dsimp only
  split
  · split
    · exact hgoto .connect (by simp)
    · exact hgoto .returned (by simp)
  · split
    · exact ⟨[.connect a.dial], h.dial a.dial a.stack⟩
    · rename_i hdown
      have hup : t.client.connected = true := by simpa using hdown
      refine ⟨[], h.goto fun rest hrest => ?_⟩
      injection hrest with hrest
      exact Or.inr ⟨hup, a.stack, by rw [← hrest, hup]⟩
  · rename_i rest hpc
    exact h.announce hpc
  · exact h.poll _ a
  · split
    · exact hgoto .poll (by simp)
    · exact hgoto .outer (by simp)
  · exact ⟨[], h⟩
  · exact ⟨[], h⟩

theorem Follows.step (h : Follows userId t s) (m : SensorMove) :
    ∃ calls : List SenderCall, Follows userId (step userId t m) (calls.foldl (Sender.step userId) s) := by
  cases m with
  | data p => exact ⟨[.data p], h.data p⟩
  | talker m =>
    cases m with
    | stop => exact ⟨[], h.client, h.sessions, h.connection, h.announcing⟩
    | talker a => exact h.work a

/-- **The talker makes calls in some order.** The talker's thread, with `SendDataPacket` called by another thread
between any two of its moves, sends on its connections what some calls in a row send. -/
theorem exists_calls_of_moves (userId : Int32) (moves : List SensorMove) :
    ∃ calls : List SenderCall,
      sessions (moves.foldl (SensorInterface.step userId) .initial).trace =
        (Sender.run userId calls).connections.map Link.written := by
  have hfollows : ∃ calls : List SenderCall,
      Follows userId (moves.foldl (SensorInterface.step userId) .initial) (Sender.run userId calls) := by
    induction moves using List.reverseRecOn with
    | nil => exact ⟨[], follows_initial userId⟩
    | append_singleton moves m ih =>
      obtain ⟨calls, h⟩ := ih
      obtain ⟨more, hnext⟩ := h.step m
      refine ⟨calls ++ more, ?_⟩
      rw [List.foldl_append, Sender.run, List.foldl_append]
      exact hnext
  obtain ⟨calls, h⟩ := hfollows
  exact ⟨calls, h.sessions⟩

end SensorInterface

end VhalClient.Talkers
