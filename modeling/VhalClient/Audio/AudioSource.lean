/-
# VhalClient.Audio.AudioSource — control messages and samples on one stream.

The talker of an `AudioSource` reads a `CtrlMessage` for each poll that reports input and hands it to the
client's callback.  The samples of a `kData` message come behind it on the same stream, and it is the
callback that reads them, with `ReadDataPacket`: if it reads more or less than the message announced, the
talker takes samples for control messages.

A callback is given by the reads it makes for a message.  `readSamples` is the one that reads what was
announced.  With it a packet (a message and its samples) is taken off the stream as a whole, so the talker
stays on the packets' boundaries however `recv` cuts the stream, and `serve_delivers_packets` follows by
induction over the polls.
-/
import VhalClient.CommandChannel.Talker
import VhalClient.Lib.Layout

namespace VhalClient.Audio

open VhalClient.Lib
open VhalClient.CommandChannel (Poll Ending Watched recvAll)

/-! ## The data -/

/-- `enum Command`. -/
inductive Command where
  | kOpen
  | kClose
  | kData
  | kStartstream
  | kStopstream
  | kUserId
  | kNone
  deriving DecidableEq, Repr

/-- The value of an enumerator; a message holds any 32-bit value. -/
def Command.code : Command → UInt32
  | kOpen => 0
  | kClose => 1
  | kData => 2
  | kStartstream => 3
  | kStopstream => 4
  | kUserId => 5
  | kNone => 6

/-- `audio_socket_configuration_info`. -/
structure AudioSocketConfigurationInfo where
  sampleRate : UInt32
  channelCount : UInt32
  format : UInt32
  frameCount : UInt32
  deriving DecidableEq, Repr

/-- `CtrlMessage`.  The union is its largest member. -/
structure CtrlMessage where
  cmd : UInt32
  asci : AudioSocketConfigurationInfo
  deriving DecidableEq, Repr

/-- `data_size` lies in the union where `sample_rate` does. -/
def CtrlMessage.dataSize (m : CtrlMessage) : UInt32 := m.asci.sampleRate

namespace Layout

def audioSocketConfigurationInfo : Layout AudioSocketConfigurationInfo :=
  (Lib.Layout.word32.prod (Lib.Layout.word32.prod (Lib.Layout.word32.prod Lib.Layout.word32))).map
    (fun p => ⟨p.1, p.2.1, p.2.2.1, p.2.2.2⟩)
    (fun i => (i.sampleRate, i.channelCount, i.format, i.frameCount)) fun _ => rfl

def ctrlMessage : Layout CtrlMessage :=
  (Lib.Layout.word32.prod audioSocketConfigurationInfo).map (fun p => ⟨p.1, p.2⟩)
    (fun m => (m.cmd, m.asci)) fun _ => rfl

end Layout

/-! ## The talker and the callback -/

/-- One `ReadDataPacket`: its `IOResult`, and the bytes it left in the buffer. -/
structure DataRead where
  result : ℤ × String
  bytes : List UInt8
  deriving DecidableEq, Repr

/-- A callback, by the lengths it calls `ReadDataPacket` with. -/
abbrev AudioCallback := CtrlMessage → List ℕ

/-- One call of the callback, with the reads it made. -/
structure Call where
  msg : CtrlMessage
  reads : List DataRead
  deriving DecidableEq, Repr

/-- The calls made on one connection, and how the loop stands. -/
structure Session where
  calls : List Call
  ending : Ending

section

/-! `strerror` is the text for a `recv` that returned no byte. -/

variable (strerror : String)

/-- What `ReadDataPacket` makes of the bytes `Recv` brought.  A count of zero is reported as -1, also when
no byte was asked for. -/
def dataRead (len : ℕ) (bytes : List UInt8) : DataRead :=
  if bytes.length = 0 then ⟨(-1, if len = 0 then "" else strerror), bytes⟩
  else ⟨(bytes.length, ""), bytes⟩

def readDataPacket (len : ℕ) (f : Feed UInt8) : DataRead × Feed UInt8 :=
  let (bytes, f) := recvAll len f
  (dataRead strerror len bytes, f)

/-- The reads of a callback, one after the other. -/
def runReads : List ℕ → Feed UInt8 → List DataRead × Feed UInt8
  | [], f => ([], f)
  | len :: lens, f =>
    let (r, f) := readDataPacket strerror len f
    let (rs, f) := runReads lens f
    (r :: rs, f)

/-- The `POLLIN` branch: the call of the callback, or nothing when the loop closes the socket instead. -/
def onReadable (callback : AudioCallback) (f : Feed UInt8) : Option Call × Feed UInt8 :=
  let (bytes, f) := recvAll Layout.ctrlMessage.size f
  if bytes.length ≠ Layout.ctrlMessage.size then (none, f)
  else
    let ctrlMsg := Layout.ctrlMessage.read bytes
    let (reads, f) := runReads strerror (callback ctrlMsg) f
    (some ⟨ctrlMsg, reads⟩, f)

/-- The `do … while (should_continue_)` loop on one connection, over the results of its polls. -/
def serve (callback : AudioCallback) : List Poll → Feed UInt8 → Session
  | [], _ => ⟨[], .polling⟩
  | .failed :: _, _ => ⟨[], .threw⟩
  | .timeout :: polls, f => serve callback polls f
  | .other :: polls, f => serve callback polls f
  | .hangup :: _, _ => ⟨[], .closed⟩
  | .readable :: polls, f =>
    match onReadable strerror callback f with
    | (none, _) => ⟨[], .closed⟩
    | (some call, f) =>
      let s := serve callback polls f
      { s with calls := call :: s.calls }

end

/-- The callback that reads on `kData` exactly what the message announces, and otherwise nothing. -/
def readSamples : AudioCallback := fun m =>
  if m.cmd = Command.kData.code then [m.dataSize.toNat] else []

/-! ## What is on the wire -/

/-- The number of sample bytes behind a message. -/
def CtrlMessage.samples (m : CtrlMessage) : ℕ :=
  if m.cmd = Command.kData.code then m.dataSize.toNat else 0

/-- A message and the samples that it announces. -/
structure Packet where
  msg : CtrlMessage
  pcm : List UInt8
  announced : pcm.length = msg.samples

def Packet.wire (p : Packet) : List UInt8 := Layout.ctrlMessage.write p.msg ++ p.pcm

def streamOf (packets : List Packet) : List UInt8 := packets.flatMap Packet.wire

/-- The call for a packet that came whole: a read of `n > 0` samples returns `n` with its bytes. -/
def Packet.call (p : Packet) : Call :=
  ⟨p.msg,
    if p.msg.cmd = Command.kData.code then
      [⟨(if p.msg.dataSize = 0 then -1 else p.msg.dataSize.toNat, ""), p.pcm⟩]
    else []⟩

/-- What the calls are when `received` is what came of the packets' stream. -/
structure Delivered (packets : List Packet) (received : List UInt8) (calls : List Call) : Prop where
  /-- The calls are for the messages that were sent, in order. -/
  messages : calls.map Call.msg <+: packets.map Packet.msg
  /-- There is a call for a message exactly if all its bytes came. -/
  complete : ∀ j < packets.length, j < calls.length ↔
    (streamOf (packets.take j)).length + Layout.ctrlMessage.size ≤ received.length
  /-- If all its samples came as well, the call reads them. -/
  reads : ∀ j p call, packets[j]? = some p → calls[j]? = some call →
    (streamOf (packets.take (j + 1))).length ≤ received.length → call = p.call

variable (strerror : String)

/-! ## One readable poll -/

/-- The call for a message when `bytes` have come behind it. -/
def callFor (m : CtrlMessage) (bytes : List UInt8) : Call :=
  ⟨m, if m.cmd = Command.kData.code then
    [dataRead strerror m.dataSize.toNat (bytes.take m.samples)] else []⟩

theorem callFor_packet (p : Packet) (rest : List UInt8) :
    callFor strerror p.msg (p.pcm ++ rest) = p.call := by
  have hpcm := p.announced
  rw [callFor, Packet.call, ← hpcm, List.take_left]
  by_cases hdata : p.msg.cmd = Command.kData.code
  · rw [CtrlMessage.samples, if_pos hdata] at hpcm
    rw [if_pos hdata, if_pos hdata, dataRead, hpcm]
    by_cases hzero : p.msg.dataSize = 0
    · simp [hzero]
    · have hne : p.msg.dataSize.toNat ≠ 0 := fun h => hzero (UInt32.toNat_inj.mp h)
      rw [if_neg hne, if_neg hzero]
  · rw [if_neg hdata, if_neg hdata]

/-- A complete message in front: it goes to the callback, which takes its samples off the stream. -/
theorem onReadable_of_message {f : Feed UInt8} (hs : f.Settled) {m : CtrlMessage} {rest : List UInt8}
    (hf : f.bytes = Layout.ctrlMessage.write m ++ rest) :
    ∃ f', onReadable strerror readSamples f = (some (callFor strerror m rest), f') ∧ f'.Settled ∧
      f'.bytes = rest.drop m.samples := by
  obtain ⟨htake, hdrop⟩ := Feed.refill_of_settled hs Layout.ctrlMessage.size
  rw [hf, List.take_left' (Layout.ctrlMessage.length_write m)] at htake
  rw [hf, Layout.ctrlMessage.drop_write_append] at hdrop
  have hs' : (f.refill Layout.ctrlMessage.size Layout.ctrlMessage.size).2.Settled :=
    Feed.settled_refill hs
  rw [onReadable]
  simp only [recvAll, htake, Lib.Layout.length_write, ne_eq, not_true_eq_false, if_false,
    Lib.Layout.read_write]
  by_cases hdata : m.cmd = Command.kData.code
  · have hsamples : m.samples = m.dataSize.toNat := if_pos hdata
    obtain ⟨hread, hrest⟩ := Feed.refill_of_settled hs' m.dataSize.toNat
    rw [hdrop] at hread hrest
    refine ⟨((f.refill Layout.ctrlMessage.size Layout.ctrlMessage.size).2.refill m.dataSize.toNat
      m.dataSize.toNat).2, ?_, Feed.settled_refill hs', ?_⟩
    · rw [readSamples, if_pos hdata, callFor, if_pos hdata, hsamples]
      simp only [runReads, readDataPacket, recvAll, hread]
    · rw [hsamples]
      exact hrest
  · have hsamples : m.samples = 0 := if_neg hdata
    refine ⟨_, ?_, hs', ?_⟩
    · rw [readSamples, if_neg hdata, callFor, if_neg hdata]
      rfl
    · rw [hsamples]
      exact hdrop

/-- A message that is not complete closes the socket. -/
theorem onReadable_of_short (callback : AudioCallback) {f : Feed UInt8}
    (h : f.bytes.length < Layout.ctrlMessage.size) : (onReadable strerror callback f).1 = none := by
  have hshort : (recvAll Layout.ctrlMessage.size f).1 = f.bytes :=
    Feed.refill_of_lt (Nat.le_refl _) h
  rw [onReadable]
  simp only [hshort]
  rw [if_pos (by omega)]

/-! ## The packets of a stream -/

/-- The calls for the packets when `received` is what came of their stream. -/
def callsFor : List Packet → List UInt8 → List Call
  | [], _ => []
  | p :: packets, received =>
    if received.length < Layout.ctrlMessage.size then []
    else
      let behind := received.drop Layout.ctrlMessage.size
      callFor strerror p.msg behind :: callsFor packets (behind.drop p.msg.samples)

theorem length_wire (p : Packet) : p.wire.length = Layout.ctrlMessage.size + p.msg.samples := by
  rw [Packet.wire, List.length_append, Layout.ctrlMessage.length_write, p.announced]

theorem streamOf_cons (p : Packet) (packets : List Packet) :
    streamOf (p :: packets) = Layout.ctrlMessage.write p.msg ++ (p.pcm ++ streamOf packets) := by
  rw [streamOf, List.flatMap_cons, Packet.wire, List.append_assoc]
  rfl

/-- What came of a stream whose first message is complete. -/
theorem prefix_cons {p : Packet} {packets : List Packet} {received : List UInt8}
    (h : received <+: streamOf (p :: packets)) (hlen : Layout.ctrlMessage.size ≤ received.length) :
    received = Layout.ctrlMessage.write p.msg ++ received.drop Layout.ctrlMessage.size ∧
      received.drop Layout.ctrlMessage.size <+: p.pcm ++ streamOf packets := by
  have hwrite := Layout.ctrlMessage.length_write p.msg
  rw [streamOf_cons] at h
  refine ⟨?_, ?_⟩
  · have htake : received.take Layout.ctrlMessage.size = Layout.ctrlMessage.write p.msg := by
      obtain ⟨rest, hrest⟩ := h
      have htakes := congrArg (List.take Layout.ctrlMessage.size) hrest
      rwa [List.take_append_of_le_length hlen, List.take_left' hwrite] at htakes
    conv_lhs => rw [← List.take_append_drop Layout.ctrlMessage.size received, htake]
  · have hdrop := h.drop Layout.ctrlMessage.size
    rwa [List.drop_left' hwrite] at hdrop

/-- Behind the first packet the stream goes on with the others. -/
theorem prefix_behind {p : Packet} {packets : List Packet} {behind : List UInt8}
    (h : behind <+: p.pcm ++ streamOf packets) : behind.drop p.msg.samples <+: streamOf packets := by
  have hdrop := h.drop p.msg.samples
  rwa [List.drop_left' p.announced] at hdrop

/-- **The loop makes the calls of the packets**, one for each poll that reports input. -/
theorem serve_calls {polls : List Poll} (hpolls : Watched polls) {f : Feed UInt8} (hs : f.Settled)
    {packets : List Packet} (hf : f.bytes <+: streamOf packets) :
    (serve strerror readSamples polls f).calls =
      (callsFor strerror packets f.bytes).take (polls.count .readable) := by
  induction polls generalizing f packets with
  | nil => simp [serve]
  | cons poll polls ih =>
    obtain ⟨hpoll, hpolls'⟩ := List.forall_mem_cons.mp hpolls
    cases poll with
    | failed => exact absurd rfl hpoll.1
    | hangup => exact absurd rfl hpoll.2
    | timeout => simpa [serve] using ih hpolls' hs hf
    | other => simpa [serve] using ih hpolls' hs hf
    | readable =>
      have hstop : f.bytes.length < Layout.ctrlMessage.size →
          (serve strerror readSamples (.readable :: polls) f).calls = [] := by
        intro hshort
        have hnone := onReadable_of_short strerror readSamples hshort
        rcases hread : onReadable strerror readSamples f with ⟨call, f'⟩
        rw [hread] at hnone
        obtain rfl : call = none := hnone
        simp only [serve, hread]
      cases packets with
      | nil =>
        have hempty : f.bytes = [] := List.prefix_nil.mp hf
        rw [hstop (by rw [hempty]; decide), callsFor, List.take_nil]
      | cons p packets =>
        rw [callsFor, List.count_cons_self]
        by_cases hshort : f.bytes.length < Layout.ctrlMessage.size
        · rw [hstop hshort, if_pos hshort, List.take_nil]
        · obtain ⟨hsplit, hbehind⟩ := prefix_cons hf (by omega)
          obtain ⟨f', hread, hs', hf'⟩ := onReadable_of_message strerror hs hsplit
          rw [if_neg hshort, List.take_succ_cons, ← hf']
          simp only [serve, hread]
          rw [ih hpolls' hs' (hf' ▸ prefix_behind hbehind)]

/-- From the whole stream come the calls of all packets. -/
theorem callsFor_streamOf (packets : List Packet) :
    callsFor strerror packets (streamOf packets) = packets.map Packet.call := by
  induction packets with
  | nil => rfl
  | cons p packets ih =>
    have hlong : ¬ (streamOf (p :: packets)).length < Layout.ctrlMessage.size := by
      rw [streamOf_cons, List.length_append, Layout.ctrlMessage.length_write]
      omega
    rw [callsFor, if_neg hlong, streamOf_cons, Layout.ctrlMessage.drop_write_append]
    simp only [callFor_packet, List.drop_left' p.announced, ih, List.map_cons]

theorem streamOf_take_succ (p : Packet) (packets : List Packet) (j : ℕ) :
    (streamOf ((p :: packets).take (j + 1))).length =
      Layout.ctrlMessage.size + p.msg.samples + (streamOf (packets.take j)).length := by
  rw [List.take_succ_cons, streamOf, List.flatMap_cons, List.length_append, length_wire]
  rfl

/-- From any part of the stream come the calls of the messages that are complete in it. -/
theorem delivered_callsFor {packets : List Packet} {received : List UInt8}
    (h : received <+: streamOf packets) :
    Delivered packets received (callsFor strerror packets received) := by
  induction packets generalizing received with
  | nil => exact ⟨List.prefix_rfl, by simp, by simp⟩
  | cons p packets ih =>
    have hsize : 0 < Layout.ctrlMessage.size := by decide
    rw [callsFor]
    by_cases hshort : received.length < Layout.ctrlMessage.size
    · -- Not even the first message is complete, and the others are behind it.
      rw [if_pos hshort]
      refine ⟨List.nil_prefix, ?_, by simp⟩
      intro j _
      exact iff_of_false (Nat.not_lt_zero j) (by omega)
    · obtain ⟨-, hbehind⟩ := prefix_cons h (by omega)
      have hrest := ih (prefix_behind hbehind)
      have hlen : ((received.drop Layout.ctrlMessage.size).drop p.msg.samples).length =
          received.length - (Layout.ctrlMessage.size + p.msg.samples) := by
        rw [List.length_drop, List.length_drop, Nat.sub_sub]
      rw [if_neg hshort]
      refine ⟨?_, ?_, ?_⟩
      · exact (List.prefix_cons_inj p.msg).mpr hrest.messages
      · intro j hj
        cases j with
        | zero => exact iff_of_true (Nat.succ_pos _) (by simpa [streamOf] using hshort)
        | succ j =>
          have hiff := hrest.complete j (Nat.lt_of_succ_lt_succ hj)
          rw [hlen] at hiff
          rw [streamOf_take_succ, List.length_cons, Nat.succ_lt_succ_iff, hiff]
          omega
      · intro j q call hq hcall hall
        rw [streamOf_take_succ] at hall
        cases j with
        | zero =>
          obtain rfl : p = q := by simpa using hq
          obtain rfl : callFor strerror p.msg _ = call := by simpa using hcall
          -- All the samples came, so what came behind the message starts with them.
          have hpcm : p.pcm <+: received.drop Layout.ctrlMessage.size := by
            refine List.prefix_of_prefix_length_le (List.prefix_append _ _) hbehind ?_
            rw [p.announced, List.length_drop]
            omega
          obtain ⟨rest, hbytes⟩ := hpcm
          rw [← hbytes, callFor_packet]
        | succ j =>
          refine hrest.reads j q call (by simpa using hq) (by simpa using hcall) ?_
          rw [hlen]
          omega

/-! ## A whole connection -/

/-- **The callback gets the messages, and reads their samples.**  For every sequence of packets and every
way `recv` cuts their stream, with polls enough to get through it: from the whole stream there is one call
for each message, in order, and each read of samples returns their number and their bytes.  If the stream
ends or breaks off early, there is a call for exactly the messages that are complete, and the reads of the
samples that came whole are the same. -/
theorem serve_delivers_packets (packets : List Packet) (f : Feed UInt8) (hs : f.Settled)
    (polls : List Poll) (hpolls : Watched polls) (hmany : packets.length ≤ polls.count .readable) :
    (f.bytes = streamOf packets →
      (serve strerror readSamples polls f).calls = packets.map Packet.call) ∧
    (f.bytes <+: streamOf packets →
      Delivered packets f.bytes (serve strerror readSamples polls f).calls) := by
  refine ⟨?_, ?_⟩
  · intro hf
    have hprefix : f.bytes <+: streamOf packets := hf ▸ List.prefix_refl (streamOf packets)
    rw [serve_calls strerror hpolls hs hprefix, hf, callsFor_streamOf,
      List.take_of_length_le (by simpa using hmany)]
  · intro hf
    have hdelivered := delivered_callsFor strerror hf
    have hfew : (callsFor strerror packets f.bytes).length ≤ polls.count .readable := by
      have hle := hdelivered.messages.length_le
      rw [List.length_map, List.length_map] at hle
      omega
    rw [serve_calls strerror hpolls hs hf, List.take_of_length_le hfew]
    exact hdelivered

/-- The stream is opened, and a message announces three samples. -/
def openAndData : List Packet :=
  [⟨⟨Command.kOpen.code, ⟨48000, 2, 1, 480⟩⟩, [], rfl⟩,
    ⟨⟨Command.kData.code, ⟨3, 0, 0, 0⟩⟩, [7, 8, 9], rfl⟩]

/-- The stream in chunks that end inside the first message and inside the samples. -/
def cutFeed : Feed UInt8 :=
  Feed.push ((streamOf openAndData).take 5) (Feed.push (((streamOf openAndData).drop 5).take 36)
    (Feed.push ((streamOf openAndData).drop 41) []))

theorem serve_cutFeed :
    (serve "" readSamples [.readable, .timeout, .readable, .readable] cutFeed).calls =
      [⟨⟨0, ⟨48000, 2, 1, 480⟩⟩, []⟩, ⟨⟨2, ⟨3, 0, 0, 0⟩⟩, [⟨(3, ""), [7, 8, 9]⟩]⟩] := by
  have hall := serve_delivers_packets "" openAndData cutFeed trivial
    [.readable, .timeout, .readable, .readable] (by decide) (by decide)
  exact hall.1 (by decide)

end VhalClient.Audio
