/-
# VhalClient.Camera.VideoSink — the packets of the camera and the talker that reads them.

The talker of a `VideoSink` polls its socket and reads one packet for each poll that reports input: a
`camera_header_t`, and then the body that the header's type asks for, whatever its `size` says.  Each of
the two is read with one `RecvPacket`, which asks for `MSG_WAITALL`, and a count other than the size of the
struct closes the connection.

`MSG_WAITALL` is 0x100.  On its way to `::recv` it passes a parameter of type `uint8_t`, and the client for
Unix sockets does not pass its flag on at all, so no `recv` waits (`recvFlags_waitall`) and a struct that
comes in two chunks ends the connection.  `serve_iff_uncut` says that the talker handles the packets that
were sent exactly when no chunk ends inside a header or a body.
-/
import VhalClient.CommandChannel.Talker
import VhalClient.Lib.Layout

namespace VhalClient.Camera

open VhalClient.Lib
open VhalClient.CommandChannel (Poll Ending Watched)

/-! ## The data -/

/-! `camera_packet_type_t`; a header holds any 32-bit value. -/

def requestCapability : UInt32 := 0

def capability : UInt32 := 1

def cameraConfig : UInt32 := 2

def cameraData : UInt32 := 3

def ack : UInt32 := 4

def cameraInfo : UInt32 := 5

def cameraUserId : UInt32 := 6

/-- `camera_header_t`. -/
structure CameraHeader where
  type : UInt32
  size : UInt32
  deriving DecidableEq, Repr

/-- `camera_capability_t`. -/
structure CameraCapability where
  codecType : UInt32
  resolution : UInt32
  maxNumberOfCameras : UInt32
  reserved : Vector UInt32 5
  deriving DecidableEq, Repr

/-- `camera_info_t`. -/
structure CameraInfo where
  cameraId : UInt32
  codecType : UInt32
  resolution : UInt32
  sensorOrientation : UInt32
  facing : UInt32
  reserved : Vector UInt32 3
  deriving DecidableEq, Repr

/-- `camera_config_t`. -/
structure CameraConfig where
  cameraId : UInt32
  codecType : UInt32
  resolution : UInt32
  reserved : Vector UInt32 5
  deriving DecidableEq, Repr

/-- `camera_config_cmd_t`. -/
structure CameraConfigCmd where
  version : UInt32
  cmd : UInt32
  cameraConfig : CameraConfig
  deriving DecidableEq, Repr

namespace Layout

def cameraHeader : Layout CameraHeader :=
  (Layout.word32.prod .word32).map (fun p => ⟨p.1, p.2⟩) (fun h => (h.type, h.size)) fun _ => rfl

def cameraCapability : Layout CameraCapability :=
  (Layout.word32.prod (.prod .word32 (.prod .word32 (.array .word32 5)))).map
    (fun p => ⟨p.1, p.2.1, p.2.2.1, p.2.2.2⟩)
    (fun c => (c.codecType, c.resolution, c.maxNumberOfCameras, c.reserved)) fun _ => rfl

/-- `CameraAck`, an `enum` without a type of its own. -/
def cameraAck : Layout UInt32 := .word32

def cameraInfo : Layout CameraInfo :=
  (Layout.word32.prod (.prod .word32 (.prod .word32 (.prod .word32 (.prod .word32 (.array .word32 3)))))).map
    (fun p => ⟨p.1, p.2.1, p.2.2.1, p.2.2.2.1, p.2.2.2.2.1, p.2.2.2.2.2⟩)
    (fun i => (i.cameraId, i.codecType, i.resolution, i.sensorOrientation, i.facing, i.reserved)) fun _ => rfl

def cameraConfig : Layout CameraConfig :=
  (Layout.word32.prod (.prod .word32 (.prod .word32 (.array .word32 5)))).map
    (fun p => ⟨p.1, p.2.1, p.2.2.1, p.2.2.2⟩)
    (fun c => (c.cameraId, c.codecType, c.resolution, c.reserved)) fun _ => rfl

def cameraConfigCmd : Layout CameraConfigCmd :=
  (Layout.word32.prod (.prod .word32 cameraConfig)).map (fun p => ⟨p.1, p.2.1, p.2.2⟩)
    (fun c => (c.version, c.cmd, c.cameraConfig)) fun _ => rfl

end Layout

example : Layout.cameraHeader.size = 8 ∧ Layout.cameraCapability.size = 32 ∧ Layout.cameraInfo.size = 32 ∧
    Layout.cameraConfigCmd.size = 40 := by decide

/-! ## The receive path -/

/-- The clients a sink can be made with. -/
inductive SocketClient where
  | unix
  | vsock
  deriving DecidableEq, Repr

/-- `MSG_WAITALL` as `<sys/socket.h>` defines it. -/
def msgWaitall : ℕ := 0x100

namespace SocketClient

/-- The flags a client's `Recv` calls `::recv` with; its own parameter is an `uint8_t`. -/
def recvFlags : SocketClient → UInt8 → ℕ
  | unix, _ => 0
  | vsock, flag => flag.toNat

end SocketClient

/-- `::recv`: with `MSG_WAITALL` it goes on until all has come, or until nothing more does. -/
def sysRecv (size flags : ℕ) (f : Feed UInt8) : Received UInt8 × Feed UInt8 :=
  if flags / msgWaitall % 2 = 1 then
    match f.recv size with
    | (.bytes b bs, f) =>
      let left := size - (bs.length + 1)
      let more := f.refill left left
      (.bytes b (bs ++ more.1), more.2)
    | r => r
  else f.recv size

/-- `RecvPacket`: the flags are an `int` where they are given, and an `uint8_t` where they arrive. -/
def recvPacket (client : SocketClient) (size : ℕ) (f : Feed UInt8) : Received UInt8 × Feed UInt8 :=
  sysRecv size (client.recvFlags (UInt8.ofNat msgWaitall)) f

/-- A read that has to bring a whole struct: the bytes that came, and whether their count is the right one. -/
def recvStruct (client : SocketClient) (size : ℕ) (f : Feed UInt8) : List UInt8 × Bool × Feed UInt8 :=
  match recvPacket client size f with
  | (.bytes b bs, f) => (b :: bs, bs.length + 1 = size, f)
  | (.eof, f) => ([], false, f)
  | (.error, f) => ([], false, f)

/-- A packet the talker has a case for. -/
inductive Packet where
  | capability (caps : CameraCapability)
  | ack (a : UInt32)
  | config (cmd : CameraConfigCmd)
  deriving DecidableEq, Repr

/-- What the talker of one connection has: the capabilities last received, and the stream. -/
structure Talker where
  cmdCapability : CameraCapability
  feed : Feed UInt8

/-- What a readable poll leads to: a packet handled, a header of an unknown type, or `Close`. -/
inductive Outcome where
  | handled (p : Packet)
  | invalid
  | closed
  deriving DecidableEq, Repr

namespace Talker

/-- `handle_capability`: it receives into the struct that the client will be given. -/
def handleCapability (client : SocketClient) (t : Talker) : Outcome × Talker :=
  let (bytes, ok, f) := recvStruct client Layout.cameraCapability.size t.feed
  let caps := Layout.cameraCapability.read (overwrite bytes (Layout.cameraCapability.write t.cmdCapability))
  (if ok then .handled (.capability caps) else .closed, ⟨caps, f⟩)

def handleAck (client : SocketClient) (t : Talker) : Outcome × Talker :=
  let (bytes, ok, f) := recvStruct client Layout.cameraAck.size t.feed
  (if ok then .handled (.ack (Layout.cameraAck.read bytes)) else .closed, { t with feed := f })

def handleCmd (client : SocketClient) (t : Talker) : Outcome × Talker :=
  let (bytes, ok, f) := recvStruct client Layout.cameraConfigCmd.size t.feed
  (if ok then .handled (.config (Layout.cameraConfigCmd.read bytes)) else .closed, { t with feed := f })

/-- `switch (cmd_header.type)`; the size of the header is not looked at. -/
def dispatch (client : SocketClient) (type : UInt32) (t : Talker) : Outcome × Talker :=
  if type = Camera.capability then t.handleCapability client
  else if type = Camera.ack then t.handleAck client
  else if type = Camera.cameraConfig then t.handleCmd client
  else (.invalid, t)

/-- A poll that reports input. -/
def onReadable (client : SocketClient) (t : Talker) : Outcome × Talker :=
  let (bytes, ok, f) := recvStruct client Layout.cameraHeader.size t.feed
  let t := { t with feed := f }
  if ok then t.dispatch client (Layout.cameraHeader.read bytes).type else (.closed, t)

/-- The loop over one connection: the packets handled, in order, and how it stands.  Behind a `Close` of its own
the loop polls the closed descriptor once more, which reports `POLLNVAL`, and leaves. -/
def serve (client : SocketClient) : List Poll → Talker → List Packet × Ending
  | [], _ => ([], .polling)
  | .failed :: _, _ => ([], .threw)
  | .timeout :: polls, t => serve client polls t
  | .other :: polls, t => serve client polls t
  | .hangup :: _, _ => ([], .closed)
  | .readable :: polls, t =>
    match t.onReadable client with
    | (.handled p, t) => (p :: (serve client polls t).1, (serve client polls t).2)
    | (.invalid, t) => serve client polls t
    | (.closed, _) => ([], .closed)

end Talker

/-! ## What is on the wire -/

namespace Packet

def type : Packet → UInt32
  | capability _ => Camera.capability
  | ack _ => Camera.ack
  | config _ => Camera.cameraConfig

def body : Packet → List UInt8
  | capability caps => Layout.cameraCapability.write caps
  | ack a => Layout.cameraAck.write a
  | config cmd => Layout.cameraConfigCmd.write cmd

/-- The size of the struct behind the header. -/
def bodySize : Packet → ℕ
  | capability _ => Layout.cameraCapability.size
  | ack _ => Layout.cameraAck.size
  | config _ => Layout.cameraConfigCmd.size

/-- A packet as the camera VHAL writes it, with any size in its header. -/
def wire (size : UInt32) (p : Packet) : List UInt8 := Layout.cameraHeader.write ⟨p.type, size⟩ ++ p.body

/-- The reads of a packet. -/
def units (p : Packet) : List ℕ := [Layout.cameraHeader.size, p.bodySize]

theorem length_body (p : Packet) : p.body.length = p.bodySize := by
  cases p with
  | capability caps => exact Layout.cameraCapability.length_write caps
  | ack a => exact Layout.cameraAck.length_write a
  | config cmd => exact Layout.cameraConfigCmd.length_write cmd

theorem bodySize_pos (p : Packet) : 0 < p.bodySize := by
  cases p <;> exact Nat.zero_lt_succ _

end Packet

/-! ## Reads -/

/-- The flag does not survive: no `::recv` is told to wait. -/
theorem recvFlags_waitall (client : SocketClient) : client.recvFlags (UInt8.ofNat msgWaitall) = 0 := by
  cases client <;> rfl

theorem recvPacket_eq (client : SocketClient) (size : ℕ) (f : Feed UInt8) :
    recvPacket client size f = f.recv size := by
  rw [recvPacket, recvFlags_waitall, sysRecv, if_neg (by decide)]

theorem recvStruct_of_uncut (client : SocketClient) {f : Feed UInt8} {bytes rest : List UInt8} {n : ℕ}
    (hpos : 0 < n) (hfront : n ≤ f.front) (hlen : bytes.length = n) (hf : f.bytes = bytes ++ rest) :
    recvStruct client n f = (bytes, true, f.skip n) ∧ (f.skip n).bytes = rest := by
  obtain ⟨b, bs, hrecv, htake⟩ := Feed.recv_of_le_front hpos hfront
  rw [hf, List.take_left' hlen] at htake
  have hcount : bs.length + 1 = n := by
    rw [← hlen, ← htake, List.length_cons]
  constructor
  · rw [recvStruct, recvPacket_eq, hrecv]
    simp [htake, hcount]
  · rw [Feed.bytes_skip (le_trans hfront (Feed.front_le_length f)), hf, List.drop_left' hlen]

/-- A chunk that ends inside the struct is all that is read of it. -/
theorem recvStruct_of_cut (client : SocketClient) {f : Feed UInt8} {n : ℕ} (hfront : f.front < n) :
    (recvStruct client n f).2.1 = false := by
  rw [recvStruct, recvPacket_eq]
  match f with
  | [] => rfl
  | .error :: f => rfl
  | .chunk b bs :: f =>
    simp only [Feed.front] at hfront
    simp only [Feed.recv, decide_eq_false_iff_not, List.length_take]
    omega

namespace Talker

variable (client : SocketClient) {t : Talker} {size : UInt32} {p : Packet} {rest : List UInt8}

theorem dispatch_type (t : Talker) (p : Packet) :
    t.dispatch client p.type =
      match p with
      | .capability _ => t.handleCapability client
      | .ack _ => t.handleAck client
      | .config _ => t.handleCmd client := by
  cases p <;> rfl

/-- A body that comes in one piece is handled. -/
theorem dispatch_of_uncut (hfront : p.bodySize ≤ t.feed.front) (hf : t.feed.bytes = p.body ++ rest) :
    ∃ caps, t.dispatch client p.type = (.handled p, ⟨caps, t.feed.skip p.bodySize⟩) ∧
      (t.feed.skip p.bodySize).bytes = rest := by
  obtain ⟨hread, hrest⟩ := recvStruct_of_uncut client p.bodySize_pos hfront p.length_body hf
  cases p with
  | capability caps =>
    refine ⟨caps, ?_, hrest⟩
    have hread : recvStruct client Layout.cameraCapability.size t.feed = _ := hread
    have hcaps (memory : List UInt8) : Layout.cameraCapability.read
        (overwrite (Packet.capability caps).body memory) = caps :=
      Layout.cameraCapability.read_write_append caps _
    rw [dispatch_type, handleCapability, hread]
    simp only [hcaps, if_true]
  | ack a =>
    refine ⟨t.cmdCapability, ?_, hrest⟩
    have hread : recvStruct client Layout.cameraAck.size t.feed = _ := hread
    have hack : Layout.cameraAck.read (Packet.ack a).body = a := Layout.cameraAck.read_write a
    rw [dispatch_type, handleAck, hread]
    simp only [hack, if_true]
  | config cmd =>
    refine ⟨t.cmdCapability, ?_, hrest⟩
    have hread : recvStruct client Layout.cameraConfigCmd.size t.feed = _ := hread
    have hcmd : Layout.cameraConfigCmd.read (Packet.config cmd).body = cmd :=
      Layout.cameraConfigCmd.read_write cmd
    rw [dispatch_type, handleCmd, hread]
    simp only [hcmd, if_true]

/-- A body that comes in more than one piece closes the connection. -/
theorem dispatch_of_cut (hfront : t.feed.front < p.bodySize) :
    (t.dispatch client p.type).1 = .closed := by
  have hread := recvStruct_of_cut client hfront
  cases p with
  | capability caps =>
    have hread : (recvStruct client Layout.cameraCapability.size t.feed).2.1 = false := hread
    rw [dispatch_type, handleCapability]
    simp only [hread]
    rfl
  | ack a =>
    have hread : (recvStruct client Layout.cameraAck.size t.feed).2.1 = false := hread
    rw [dispatch_type, handleAck]
    simp only [hread]
    rfl
  | config cmd =>
    have hread : (recvStruct client Layout.cameraConfigCmd.size t.feed).2.1 = false := hread
    rw [dispatch_type, handleCmd]
    simp only [hread]
    rfl

theorem onReadable_of_uncut (hcut : t.feed.Uncut p.units) (hf : t.feed.bytes = p.wire size ++ rest) :
    ∃ caps, t.onReadable client = (.handled p, ⟨caps, t.feed.skipAll p.units⟩) ∧
      (t.feed.skipAll p.units).bytes = rest := by
  obtain ⟨hheader, hbody, -⟩ := hcut
  rw [Packet.wire, List.append_assoc] at hf
  obtain ⟨hread, hf'⟩ := recvStruct_of_uncut client (by decide) hheader
    (Layout.cameraHeader.length_write ⟨p.type, size⟩) hf
  obtain ⟨caps, hdispatch, hrest⟩ :=
    dispatch_of_uncut client (t := ⟨t.cmdCapability, t.feed.skip Layout.cameraHeader.size⟩) hbody hf'
  refine ⟨caps, ?_, hrest⟩
  rw [onReadable, hread]
  simp only [if_true, Layout.read_write]
  exact hdispatch

theorem onReadable_of_cut (hcut : ¬ t.feed.Uncut p.units) (hf : t.feed.bytes = p.wire size ++ rest) :
    (t.onReadable client).1 = .closed := by
  rw [Packet.wire, List.append_assoc] at hf
  by_cases hheader : Layout.cameraHeader.size ≤ t.feed.front
  · obtain ⟨hread, hf'⟩ := recvStruct_of_uncut client (by decide) hheader
      (Layout.cameraHeader.length_write ⟨p.type, size⟩) hf
    have hbody : (t.feed.skip Layout.cameraHeader.size).front < p.bodySize := by
      by_contra hle
      exact hcut ⟨hheader, not_lt.mp hle, trivial⟩
    rw [onReadable, hread]
    simp only [if_true, Layout.read_write]
    exact dispatch_of_cut client
      (t := ⟨t.cmdCapability, t.feed.skip Layout.cameraHeader.size⟩) hbody
  · have hread := recvStruct_of_cut client (not_le.mp hheader)
    rw [onReadable]
    simp only [hread]
    rfl

/-! ## The loop -/

/-- **The talker handles the packets that were sent** exactly when no chunk ends inside a header or a body. -/
theorem serve_iff_uncut (client : SocketClient) (sent : List (UInt32 × Packet)) (t : Talker)
    (hf : t.feed.bytes = sent.flatMap fun e => e.2.wire e.1) (polls : List Poll)
    (hpolls : Watched polls) (hcount : polls.count .readable = sent.length) :
    serve client polls t = (sent.map Prod.snd, .polling) ↔
      t.feed.Uncut (sent.flatMap fun e => e.2.units) := by
  induction polls generalizing sent t with
  | nil =>
    obtain rfl : sent = [] := List.length_eq_zero_iff.mp hcount.symm
    exact ⟨fun _ => trivial, fun _ => rfl⟩
  | cons poll polls ih =>
    obtain ⟨hfirst, hrest⟩ := List.forall_mem_cons.mp hpolls
    cases poll with
    | failed => exact absurd rfl hfirst.1
    | hangup => exact absurd rfl hfirst.2
    | timeout => exact ih sent t hf hrest (by simpa using hcount)
    | other => exact ih sent t hf hrest (by simpa using hcount)
    | readable =>
      cases sent with
      | nil => simp at hcount
      | cons e sent =>
        rw [List.flatMap_cons] at hf
        rw [List.flatMap_cons, Feed.uncut_append, List.map_cons, serve]
        by_cases hcut : t.feed.Uncut e.2.units
        · obtain ⟨caps, hread, hbytes⟩ := onReadable_of_uncut client hcut hf
          have hnext := ih sent ⟨caps, t.feed.skipAll e.2.units⟩ hbytes hrest (by simpa using hcount)
          rw [hread, and_iff_right hcut, ← hnext]
          simp [Prod.ext_iff]
        · have hclosed := onReadable_of_cut client hcut hf
          rcases hread : t.onReadable client with ⟨outcome, t'⟩
          obtain rfl : outcome = .closed := by rwa [hread] at hclosed
          simp [hcut]

/-- An acknowledgement, and a command to open the first camera. -/
def ackAndOpen : List (UInt32 × Packet) :=
  [(4, .ack 1), (40, .config ⟨1, 11, 0, 1, 2, Vector.replicate 5 0⟩)]

/-- No capabilities, and the stream in one chunk. -/
def idleTalker (f : Feed UInt8) : Talker := ⟨⟨0, 0, 0, Vector.replicate 5 0⟩, f⟩

theorem serve_ackAndOpen :
    serve .vsock [.readable, .timeout, .readable]
      (idleTalker (Feed.whole (ackAndOpen.flatMap fun e => e.2.wire e.1))) =
        (ackAndOpen.map Prod.snd, .polling) := by
  set stream := ackAndOpen.flatMap fun e => e.2.wire e.1 with hstream
  have hunits : (ackAndOpen.flatMap fun e => e.2.units).sum ≤ stream.length := by
    decide
  exact (serve_iff_uncut .vsock ackAndOpen (idleTalker (Feed.whole stream)) (Feed.bytes_whole stream) _
    (by decide) (by decide)).mpr (Feed.uncut_whole hunits)

/-- An acknowledgement whose header comes in two chunks. -/
def cutAck : Feed UInt8 := .chunk 4 [0, 0] :: Feed.whole [0, 4, 0, 0, 0, 1, 0, 0, 0]

/-- Eight bytes are asked for with `MSG_WAITALL`, and three are taken for a failure. -/
theorem not_serve_cutAck :
    cutAck.bytes = (Packet.ack 1).wire 4 ∧
    serve .vsock [.readable] (idleTalker cutAck) ≠ ([.ack 1], .polling) ∧
    serve .unix [.readable] (idleTalker cutAck) ≠ ([.ack 1], .polling) := by
  decide

end Talker

end VhalClient.Camera
