/-
# VhalClient.CommandChannel.Relay — what `SendDataPacket` writes, and what a talker reads.

What `SendDataPacket` writes to a service and what a talker reads from one are the same frames.  The services are
other programs; here the two ends of the format that the library has are put together, as if what is written were
delivered to the talker of another client.  For any messages of any types, sent one after the other by sockets that
take everything, what is written for a service is the frames of the messages of its type, and a talker that is
delivered them, however `recv` cuts the stream, calls back with exactly these messages if and only if each of them
has 1 to 65536 bytes (`relays_iff`).  The sender is told of success for all of them.  `relays_upTo` says what becomes
of the others: the first one closes the connection, and neither it nor any behind it is called back.
-/
import VhalClient.CommandChannel.SendPacket

namespace VhalClient.CommandChannel

open VhalClient.Lib

/-! ## Sending -/

/-- A call of `SendDataPacket`. -/
abbrev Packet := MsgType × List UInt8

/-- A call with sockets that take all they are given. -/
def sendWhole (p : Packet) : (ℤ × String) × Written :=
  sendDataPacket p.1 p.2 (.took 4 le_rfl id) (.took p.2.length le_rfl id)

/-- What stands on a service's connection behind some calls. -/
def writtenTo (t : Talker) (packets : List Packet) : List UInt8 := packets.flatMap fun p => (sendWhole p).2 t

/-- The messages for a service. -/
def messagesTo (t : Talker) (packets : List Packet) : List (List UInt8) :=
  (packets.filter fun p => p.1 = t.msgType).map Prod.snd

theorem write_messageLength (n : ℕ) : Layout.int32.write (messageLength n) = bytes32 (UInt32.ofNat n) := rfl

/-- One branch of `SendDataPacket`. -/
theorem sendFrame_whole (service : Talker) (message : List UInt8) :
    sendFrame service message (.took 4 le_rfl id) (.took message.length le_rfl id) =
      (((message.length : ℤ), ""), fun t => if t = service then encodeFrame message else []) := by
  have hframe : (Layout.int32.write (messageLength message.length)).take 4 ++ message.take message.length =
      encodeFrame message := by
    rw [write_messageLength, List.take_of_length_le (length_bytes32 _).le, List.take_length]
    rfl
  rw [sendFrame_took, hframe, ite_self]

/-- The sender is told that all went well, whatever the type and the size. -/
theorem sendWhole_result (p : Packet) : (sendWhole p).1 = ((p.2.length : ℤ), "") := by
  obtain ⟨msgType, message⟩ := p
  cases msgType with
  | kNone => rfl
  | kActivityMonitor => exact congrArg Prod.fst (sendFrame_whole .ams message)
  | kAicCommand => exact congrArg Prod.fst (sendFrame_whole .acs message)
  | kFileTransfer => exact congrArg Prod.fst (sendFrame_whole .ftc message)

/-- A service is sent the frames of the messages of its type. -/
theorem sendWhole_written (t : Talker) (p : Packet) :
    (sendWhole p).2 t = if p.1 = t.msgType then encodeFrame p.2 else [] := by
  obtain ⟨msgType, message⟩ := p
  have hbranch (service : Talker) (hsend : sendWhole (msgType, message) =
      sendFrame service message (.took 4 le_rfl id) (.took message.length le_rfl id))
      (htype : msgType = service.msgType) :
      (sendWhole (msgType, message)).2 t = if msgType = t.msgType then encodeFrame message else [] := by
    rw [hsend, sendFrame_whole, htype]
    cases t <;> cases service <;> rfl
  cases msgType with
  | kNone => cases t <;> rfl
  | kActivityMonitor => exact hbranch .ams rfl rfl
  | kAicCommand => exact hbranch .acs rfl rfl
  | kFileTransfer => exact hbranch .ftc rfl rfl

theorem writtenTo_eq (t : Talker) (packets : List Packet) :
    writtenTo t packets = (messagesTo t packets).flatMap encodeFrame := by
  induction packets with
  | nil => rfl
  | cons p packets ih =>
    have hwritten : writtenTo t (p :: packets) = (sendWhole p).2 t ++ writtenTo t packets := rfl
    rw [hwritten, ih, sendWhole_written, messagesTo, messagesTo, List.filter_cons]
    by_cases htype : p.1 = t.msgType
    · rw [if_pos htype, if_pos (decide_eq_true htype), List.map_cons, List.flatMap_cons]
    · rw [if_neg htype, if_neg (by rw [decide_eq_true_iff]; exact htype), List.nil_append]

/-! ## Receiving -/

theorem not_startsWithFrame_nil : ¬ StartsWithFrame [] := by
  rintro ⟨payload, rest, -, heq⟩
  have hlength := congrArg List.length heq
  rw [List.length_append, length_encodeFrame, List.length_nil] at hlength
  omega

/-- The frame of a message that no frame can have. -/
theorem not_startsWithFrame_of_bad {message rest : List UInt8} (hbad : ¬ FrameLength message.length)
    (hsize : message.length < 2 ^ 32) : ¬ StartsWithFrame (encodeFrame message ++ rest) := by
  rintro ⟨payload, rest', hgood, heq⟩
  have hsmall : payload.length < 2 ^ 32 := by
    have hmax := hgood.2
    rw [cmdChannelMsgSizeMax] at hmax
    omega
  -- the lengths in front of the two are the same word
  have hword : u32 (encodeFrame message ++ rest) = u32 (encodeFrame payload ++ rest') := congrArg u32 heq
  rw [encodeFrame, encodeFrame, List.append_assoc, List.append_assoc, u32_bytes32_append,
    u32_bytes32_append] at hword
  have hlength := congrArg UInt32.toNat hword
  rw [UInt32.toNat_ofNat_of_lt' hsize, UInt32.toNat_ofNat_of_lt' hsmall] at hlength
  exact hbad (hlength ▸ hgood)

/-- The messages up to the first one that is too long or empty are what a talker can make out. -/
theorem cut_takeWhile {messages : List (List UInt8)} (hsize : ∀ m ∈ messages, m.length < 2 ^ 32) :
    ∃ rest, Cut (messages.flatMap encodeFrame) (messages.takeWhile fun m => FrameLength m.length) rest := by
  induction messages with
  | nil => exact ⟨[], .nil not_startsWithFrame_nil⟩
  | cons m messages ih =>
    obtain ⟨hm, hrest⟩ := List.forall_mem_cons.mp hsize
    rw [List.flatMap_cons, List.takeWhile_cons]
    by_cases hgood : FrameLength m.length
    · obtain ⟨rest, hcut⟩ := ih hrest
      rw [if_pos (decide_eq_true hgood)]
      exact ⟨rest, hcut.cons hgood⟩
    · rw [if_neg (by rw [decide_eq_true_iff]; exact hgood)]
      exact ⟨_, .nil (not_startsWithFrame_of_bad hgood hm)⟩

theorem cut_of_frameLength {messages : List (List UInt8)} (hgood : ∀ m ∈ messages, FrameLength m.length) :
    Cut (messages.flatMap encodeFrame) messages [] :=
  ⟨hgood, (List.append_nil _).symm, not_startsWithFrame_nil⟩

/-! ## Both ends -/

section

variable (t : Talker) (packets : List Packet) (bufs : Buffers) {f : Feed UInt8} {polls : List Poll}

/-- **Messages in, messages out.** For any messages of any types, any way `recv` cuts what was written for a service
and any content of the reused buffer: each call of `SendDataPacket` reports its size, and a talker that is delivered
these bytes calls back with the messages of its type, in order, if and only if each of these can be framed. -/
theorem relays_iff (hf : f.bytes = writtenTo t packets) (hpolls : Watched polls)
    (hmany : (messagesTo t packets).length ≤ polls.count .readable) :
    (∀ p ∈ packets, (sendWhole p).1 = ((p.2.length : ℤ), "")) ∧
      ((t.serve polls bufs f).calls = (messagesTo t packets).map (CommandChannelMessage.mk t.msgType) ↔
        ∀ m ∈ messagesTo t packets, FrameLength m.length) := by
  rw [writtenTo_eq] at hf
  refine ⟨fun p _ => sendWhole_result p, ?_, ?_⟩
  · intro hcalls m hm
    obtain ⟨frames, rest, hcut⟩ := exists_cut f.bytes
    rw [(serve_of_cut t hpolls bufs hcut).1] at hcalls
    have hsame : frames.take (polls.count .readable) = messagesTo t packets :=
      List.map_injective_iff.mpr (fun _ _ h => (CommandChannelMessage.mk.inj h).2) hcalls
    rw [← hsame] at hm
    exact hcut.lengths m (List.mem_of_mem_take hm)
  · intro hgood
    have hcut : Cut f.bytes (messagesTo t packets) [] := hf ▸ cut_of_frameLength hgood
    rw [(serve_of_cut t hpolls bufs hcut).1, List.take_of_length_le hmany]

/-- **What becomes of the others.** If the sizes are below 2^32, the callbacks are the messages in front of the first
one that cannot be framed.  That one closes the connection, as the end of the stream does if there is none; the sender
is told of success for all of them. -/
theorem relays_upTo (hf : f.bytes = writtenTo t packets) (hpolls : Watched polls)
    (hsize : ∀ m ∈ messagesTo t packets, m.length < 2 ^ 32)
    (hmany : (messagesTo t packets).length < polls.count .readable) :
    (∀ p ∈ packets, (sendWhole p).1 = ((p.2.length : ℤ), "")) ∧
      (t.serve polls bufs f).calls = ((messagesTo t packets).takeWhile fun m => FrameLength m.length).map
        (CommandChannelMessage.mk t.msgType) ∧
      (t.serve polls bufs f).ending = .closed := by
  rw [writtenTo_eq] at hf
  obtain ⟨rest, hcut⟩ := cut_takeWhile hsize
  rw [← hf] at hcut
  have hfew : ((messagesTo t packets).takeWhile fun m => FrameLength m.length).length < polls.count .readable :=
    (List.takeWhile_prefix _).length_le.trans_lt hmany
  obtain ⟨hcalls, hclosed⟩ := serve_of_cut t hpolls bufs hcut
  refine ⟨fun p _ => sendWhole_result p, ?_, hclosed hfew⟩
  rw [hcalls, List.take_of_length_le hfew.le]

end

/-- A command, an empty message and a file's name, with a message of no type between them. -/
def threeCommands : List Packet :=
  [(.kAicCommand, [7, 8]), (.kNone, [1]), (.kAicCommand, []), (.kFileTransfer, [9]), (.kAicCommand, [5])]

/-- The commands in two chunks. -/
def commandFeed : Feed UInt8 := [.chunk 2 [0, 0, 0, 7, 8, 0], .chunk 0 [0, 0, 1, 0, 0, 0, 5]]

theorem relays_iff_threeCommands :
    (∀ p ∈ threeCommands, (sendWhole p).1 = ((p.2.length : ℤ), "")) ∧
      ((Talker.acs.serve (List.replicate 3 .readable) .initial commandFeed).calls =
          (messagesTo .acs threeCommands).map (CommandChannelMessage.mk Talker.acs.msgType) ↔
        ∀ m ∈ messagesTo .acs threeCommands, FrameLength m.length) :=
  relays_iff .acs threeCommands .initial (by decide) (by decide) (by decide)

theorem relays_upTo_threeCommands :
    (∀ p ∈ threeCommands, (sendWhole p).1 = ((p.2.length : ℤ), "")) ∧
      (Talker.acs.serve (List.replicate 4 .readable) .initial commandFeed).calls =
        ((messagesTo .acs threeCommands).takeWhile fun m => FrameLength m.length).map
          (CommandChannelMessage.mk Talker.acs.msgType) ∧
      (Talker.acs.serve (List.replicate 4 .readable) .initial commandFeed).ending = .closed :=
  relays_upTo .acs threeCommands .initial (by decide) (by decide) (by decide) (by decide)

end VhalClient.CommandChannel
