/-
# VhalClient.CommandChannel.Talker — the three talker threads of CommandChannelInterface.

Each talker polls its socket and, when the poll reports input, reads one frame: a native `int` length
through `TcpStreamSocketClient::Recv`, then that many bytes into a buffer the talker reuses from frame
to frame and only ever grows.  The three threads are one loop at three sets of values (`msgType`, `buf`);
the file-transfer talker names the AIC-command talker's buffer, which is why the buffers are a record of
two and not of three.

The specification is `Cut`: the stream is a list of complete frames and a rest that starts with none.
`serve_delivers` says that a talker hands exactly the frames of that cut to the callback and then closes
the socket, however `recv` splits the stream and whatever the buffer held before.
-/
import VhalClient.Lib.Bytes
import VhalClient.Lib.Feed
import Mathlib.Data.Fintype.Basic

namespace VhalClient.CommandChannel

open VhalClient.Lib

/-! ## The data -/

/-- `enum MsgType`. -/
inductive MsgType where
  | kNone
  | kActivityMonitor
  | kAicCommand
  | kFileTransfer
  deriving DecidableEq, Repr

/-- `CommandChannelMessage`: the pointer and the size are the bytes they delimit at the call. -/
structure CommandChannelMessage where
  msgType : MsgType
  data : List UInt8
  deriving DecidableEq, Repr

def cmdChannelMsgSizeMax : ℕ := 65536

/-- The receive buffers of `Impl`.  There is none for the file-transfer talker. -/
structure Buffers where
  amsClientBuf : List UInt8
  acsClientBuf : List UInt8
  deriving DecidableEq, Repr

/-- The buffers as the member initialisers leave them. -/
def Buffers.initial : Buffers := ⟨List.replicate 1024 0, List.replicate 1024 0⟩

inductive Talker where
  | ams
  | acs
  | ftc
  deriving DecidableEq, Repr

instance : Fintype Talker where
  elems := {.ams, .acs, .ftc}
  complete t := by cases t <;> simp

/-- The two buffer members a talker can name. -/
inductive BufferName where
  | amsClientBuf
  | acsClientBuf
  deriving DecidableEq, Repr

namespace Talker

/-- The type the talker puts on its messages. -/
def msgType : Talker → MsgType
  | ams => .kActivityMonitor
  | acs => .kAicCommand
  | ftc => .kFileTransfer

/-- The buffer the talker's loop names. -/
def buffer : Talker → BufferName
  | ams => .amsClientBuf
  | acs => .acsClientBuf
  -- The class has no buffer for the file-transfer client.
  | ftc => .acsClientBuf

end Talker

namespace Buffers

def get (bufs : Buffers) : BufferName → List UInt8
  | .amsClientBuf => bufs.amsClientBuf
  | .acsClientBuf => bufs.acsClientBuf

def set (bufs : Buffers) (b : BufferName) (bytes : List UInt8) : Buffers :=
  match b with
  | .amsClientBuf => { bufs with amsClientBuf := bytes }
  | .acsClientBuf => { bufs with acsClientBuf := bytes }

@[simp] theorem get_set_same (bufs : Buffers) (b : BufferName) (bytes : List UInt8) :
    (bufs.set b bytes).get b = bytes := by
  cases b <;> rfl

theorem get_set_ne (bufs : Buffers) {b c : BufferName} (bytes : List UInt8) (h : c ≠ b) :
    (bufs.set b bytes).get c = bufs.get c := by
  cases b <;> cases c <;> first | rfl | exact absurd rfl h

end Buffers

/-! ## The receive path -/

/-- `if (n > buf.size()) buf.resize(n)`: new elements are zero, and the buffer never shrinks. -/
def grow (n : ℕ) (buf : List UInt8) : List UInt8 :=
  buf ++ List.replicate (n - buf.length) 0

namespace Talker

/-- Make room for `n` bytes in the talker's buffer and store what `Recv` returned. -/
def store (t : Talker) (bufs : Buffers) (n : ℕ) (bytes : List UInt8) : Buffers :=
  bufs.set t.buffer (overwrite bytes (grow n (bufs.get t.buffer)))

/-- The message handed to the callback: the first `dataSize` bytes of the talker's buffer. -/
def message (t : Talker) (bufs : Buffers) (dataSize : ℕ) : CommandChannelMessage :=
  ⟨t.msgType, (bufs.get t.buffer).take dataSize⟩

/-- A payload that came in whole is what the callback sees, whatever the buffer held. -/
theorem message_store (t : Talker) (bufs : Buffers) (payload : List UInt8) :
    t.message (t.store bufs payload.length payload) payload.length = ⟨t.msgType, payload⟩ := by
  simp [message, store, overwrite]

end Talker

/-- `TcpStreamSocketClient::Recv`: `recv` again until everything has come or nothing more does. -/
def recvAll (size : ℕ) (f : Feed UInt8) : List UInt8 × Feed UInt8 :=
  f.refill size size

/-- The `int` that lies in four bytes of memory; bytes that never came are the initial zeros. -/
def intOf (bytes : List UInt8) : ℤ := (u32 bytes).toBitVec.toInt

namespace Talker

/-- The body of the `POLLIN` branch: the message of the callback, or nothing when the loop closes the
socket instead. -/
def onReadable (t : Talker) (bufs : Buffers) (f : Feed UInt8) :
    Option CommandChannelMessage × Buffers × Feed UInt8 :=
  let header := recvAll 4 f
  let msgLength := intOf header.1
  if header.1.length ≠ 4 ∨ msgLength ≤ 0 ∨ msgLength > cmdChannelMsgSizeMax then
    (none, bufs, header.2)
  else
    -- The buffer is written before the count is checked.
    let payload := recvAll msgLength.toNat header.2
    let bufs' := t.store bufs msgLength.toNat payload.1
    if payload.1.length ≠ msgLength.toNat then
      (none, bufs', payload.2)
    else
      (some (t.message bufs' msgLength.toNat), bufs', payload.2)

end Talker

/-- What `poll` returns: -1, 0, `POLLIN` among the events, an error or hangup without it, or neither. -/
inductive Poll where
  | failed
  | timeout
  | readable
  | hangup
  | other
  deriving DecidableEq, Repr

/-- How a talker's loop over one connection stands: still polling, left after `Close`, or ended by the
exception thrown on a failed poll. -/
inductive Ending where
  | polling
  | closed
  | threw
  deriving DecidableEq, Repr

/-- The callbacks made on one connection, the buffers afterwards and how the loop stands. -/
structure Session where
  calls : List CommandChannelMessage
  bufs : Buffers
  ending : Ending

namespace Talker

/-- The `do … while (should_continue_)` loop on one connection, over the results of its polls. -/
def serve (t : Talker) : List Poll → Buffers → Feed UInt8 → Session
  | [], bufs, _ => ⟨[], bufs, .polling⟩
  | .failed :: _, bufs, _ => ⟨[], bufs, .threw⟩
  | .timeout :: polls, bufs, f => t.serve polls bufs f
  | .other :: polls, bufs, f => t.serve polls bufs f
  | .hangup :: _, bufs, _ => ⟨[], bufs, .closed⟩
  | .readable :: polls, bufs, f =>
    match t.onReadable bufs f with
    | (none, bufs', _) => ⟨[], bufs', .closed⟩
    | (some msg, bufs', f') =>
      let s := t.serve polls bufs' f'
      { s with calls := msg :: s.calls }

end Talker

/-- One turn of the outer loop: the connect fails, or there is a connection to serve. -/
inductive Attempt where
  | refused
  | connected (polls : List Poll) (f : Feed UInt8)

namespace Talker

/-- The whole thread: `Close` clears `Connected()`, so the outer loop connects again, with the buffer as
the last connection left it. -/
def thread (t : Talker) : List Attempt → Buffers → List CommandChannelMessage
  | [], _ => []
  | .refused :: attempts, bufs => t.thread attempts bufs
  | .connected polls f :: attempts, bufs =>
    let s := t.serve polls bufs f
    s.calls ++ if s.ending = .closed then t.thread attempts s.bufs else []

end Talker

/-! ## What is on the wire -/

/-- The lengths a frame may have. -/
def FrameLength (n : ℕ) : Prop := 1 ≤ n ∧ n ≤ cmdChannelMsgSizeMax

instance (n : ℕ) : Decidable (FrameLength n) := inferInstanceAs (Decidable (_ ∧ _))

/-- A frame as the service writes it. -/
def encodeFrame (payload : List UInt8) : List UInt8 :=
  bytes32 (UInt32.ofNat payload.length) ++ payload

/-- The stream starts with a complete frame. -/
def StartsWithFrame (stream : List UInt8) : Prop :=
  ∃ payload rest, FrameLength payload.length ∧ stream = encodeFrame payload ++ rest

/-- The stream is the complete frames of its longest such prefix, and a rest that starts with none. -/
structure Cut (stream : List UInt8) (frames : List (List UInt8)) (rest : List UInt8) : Prop where
  lengths : ∀ payload ∈ frames, FrameLength payload.length
  split : stream = frames.flatMap encodeFrame ++ rest
  stops : ¬ StartsWithFrame rest

theorem Cut.nil {stream : List UInt8} (h : ¬ StartsWithFrame stream) : Cut stream [] stream :=
  ⟨by simp, by simp, h⟩

theorem Cut.cons {payload stream : List UInt8} {frames : List (List UInt8)} {rest : List UInt8}
    (hlen : FrameLength payload.length) (h : Cut stream frames rest) :
    Cut (encodeFrame payload ++ stream) (payload :: frames) rest :=
  ⟨by simpa [hlen] using h.lengths, by simp [h.split], h.stops⟩

theorem length_encodeFrame (payload : List UInt8) :
    (encodeFrame payload).length = 4 + payload.length := by
  simp [encodeFrame]

/-- A frame has at least five bytes, so a stream has fewer frames than bytes. -/
theorem Cut.length_le {stream : List UInt8} {frames : List (List UInt8)} {rest : List UInt8}
    (h : Cut stream frames rest) : frames.length ≤ stream.length := by
  rw [h.split, List.length_append]
  suffices ∀ l : List (List UInt8), l.length ≤ (l.flatMap encodeFrame).length by
    have := this frames
    omega
  intro l
  induction l with
  | nil => simp
  | cons payload l ih =>
    rw [List.flatMap_cons, List.length_append, length_encodeFrame, List.length_cons]
    omega

/-! ## One readable poll -/

/-- `Recv` of `size` bytes when so many are on the way. -/
theorem recvAll_of_le {size : ℕ} {f : Feed UInt8} (h : size ≤ f.bytes.length) :
    (recvAll size f).1 = f.bytes.take size ∧ (recvAll size f).2.bytes = f.bytes.drop size :=
  Feed.refill_of_le (Nat.le_refl size) h

/-- `Recv` returns the count it was asked for exactly when so many bytes are on the way. -/
theorem length_recvAll_eq_iff {size : ℕ} {f : Feed UInt8} :
    (recvAll size f).1.length = size ↔ size ≤ f.bytes.length := by
  constructor
  · intro h
    by_contra hlt
    rw [recvAll, Feed.refill_of_lt (Nat.le_refl size) (by omega)] at h
    omega
  · intro h
    rw [(recvAll_of_le h).1, List.length_take]
    omega

/-- The talker's test of the length is the test of the frame format, and the accepted `int` is the
number in the four bytes: no negative length passes. -/
theorem intOf_accepted {header : List UInt8}
    (h : ¬ (intOf header ≤ 0 ∨ intOf header > cmdChannelMsgSizeMax)) :
    intOf header = (u32 header).toNat ∧ FrameLength (u32 header).toNat := by
  have hlt : (u32 header).toNat < 2 ^ 32 := (u32 header).toNat_lt
  simp only [intOf, FrameLength, cmdChannelMsgSizeMax, BitVec.toInt_eq_toNat_cond,
    UInt32.toNat_toBitVec, not_or, not_le, gt_iff_lt, not_lt] at h ⊢
  -- Below 2^31 the `int` is the number itself; from there on it is negative and was refused.
  split at h <;> rename_i hsign
  · rw [if_pos hsign]
    omega
  · omega

theorem intOf_frame {n : ℕ} (h : FrameLength n) : intOf (bytes32 (UInt32.ofNat n)) = n := by
  obtain ⟨-, hmax⟩ := h
  have hlt : n < 2 ^ 32 := by
    rw [cmdChannelMsgSizeMax] at hmax
    omega
  have hnat : (UInt32.ofNat n).toNat = n := UInt32.toNat_ofNat_of_lt' hlt
  rw [intOf, u32_bytes32, BitVec.toInt_eq_toNat_cond, UInt32.toNat_toBitVec, hnat, if_pos]
  rw [cmdChannelMsgSizeMax] at hmax
  omega

/-- A complete frame at the front of the stream: it is delivered, and exactly its bytes are gone. -/
theorem onReadable_of_frame (t : Talker) (bufs : Buffers) {f : Feed UInt8} {payload rest : List UInt8}
    (hlen : FrameLength payload.length) (hf : f.bytes = encodeFrame payload ++ rest) :
    ∃ bufs' f', t.onReadable bufs f = (some ⟨t.msgType, payload⟩, bufs', f') ∧ f'.bytes = rest := by
  have hheader : 4 ≤ f.bytes.length := by
    rw [hf, List.length_append, length_encodeFrame]
    omega
  obtain ⟨hfst, hsnd⟩ := recvAll_of_le hheader
  have hlength : (recvAll 4 f).1.length = 4 := length_recvAll_eq_iff.mpr hheader
  have hword : (recvAll 4 f).1 = bytes32 (UInt32.ofNat payload.length) := by
    rw [hfst, hf, encodeFrame, List.append_assoc, List.take_left' (length_bytes32 _)]
  have hafter : (recvAll 4 f).2.bytes = payload ++ rest := by
    rw [hsnd, hf, encodeFrame, List.append_assoc, List.drop_left' (length_bytes32 _)]
  have hpayload : payload.length ≤ (recvAll 4 f).2.bytes.length := by
    rw [hafter, List.length_append]
    omega
  obtain ⟨hdata, hrest⟩ := recvAll_of_le hpayload
  rw [hafter, List.take_left] at hdata
  rw [hafter, List.drop_left] at hrest
  have hint : intOf (recvAll 4 f).1 = payload.length := by rw [hword, intOf_frame hlen]
  have hok : ¬ ((recvAll 4 f).1.length ≠ 4 ∨ intOf (recvAll 4 f).1 ≤ 0 ∨
      intOf (recvAll 4 f).1 > cmdChannelMsgSizeMax) := by
    obtain ⟨hmin, hmax⟩ := hlen
    rw [hint, hlength]
    omega
  refine ⟨t.store bufs payload.length payload, (recvAll payload.length (recvAll 4 f).2).2, ?_, hrest⟩
  dsimp only [Talker.onReadable]
  rw [if_neg hok, hint, Int.toNat_natCast, hdata, if_neg (not_not.mpr rfl), Talker.message_store]

/-- No complete frame at the front of the stream (a length out of range, or a stream that ends inside
the length or the payload): nothing is delivered and the socket is closed. -/
theorem onReadable_of_noFrame (t : Talker) (bufs : Buffers) {f : Feed UInt8}
    (h : ¬ StartsWithFrame f.bytes) : (t.onReadable bufs f).1 = none := by
  dsimp only [Talker.onReadable]
  split
  · rfl
  · rename_i hok
    split
    · rfl
    · -- Both tests passed, so the stream does start with a frame: the one just read.
      rename_i hcount
      obtain ⟨hlength, hrange⟩ := not_or.mp hok
      obtain ⟨hint, hlen⟩ := intOf_accepted hrange
      rw [hint, Int.toNat_natCast, not_not, length_recvAll_eq_iff] at hcount
      rw [not_not, length_recvAll_eq_iff] at hlength
      obtain ⟨hfst, hsnd⟩ := recvAll_of_le hlength
      refine absurd ?_ h
      set n := (u32 (recvAll 4 f).1).toNat with hn
      have hpayload : ((f.bytes.drop 4).take n).length = n := by
        rw [List.length_take, ← hsnd]
        omega
      refine ⟨(f.bytes.drop 4).take n, (f.bytes.drop 4).drop n, by rwa [hpayload], ?_⟩
      have hword : bytes32 (UInt32.ofNat n) = f.bytes.take 4 := by
        rw [hn, UInt32.ofNat_toNat, hfst, bytes32_u32 (by rw [List.length_take]; omega)]
      rw [encodeFrame, hpayload, hword, List.append_assoc, List.take_append_drop,
        List.take_append_drop]

/-! ## A whole connection -/

/-- The polls of a stream socket that is watched for input only: they do not fail, and errors and the
end of the stream are reported with `POLLIN` set. -/
def Watched (polls : List Poll) : Prop := ∀ p ∈ polls, p ≠ .failed ∧ p ≠ .hangup

instance (polls : List Poll) : Decidable (Watched polls) := inferInstanceAs (Decidable (∀ _ ∈ _, _))

theorem exists_cut (stream : List UInt8) : ∃ frames rest, Cut stream frames rest := by
  -- On the length of the stream: a frame at the front leaves a shorter one.
  induction hn : stream.length using Nat.strong_induction_on generalizing stream with
  | _ n ih =>
    by_cases h : StartsWithFrame stream
    · obtain ⟨payload, rest, hlen, rfl⟩ := h
      have hshorter : rest.length < n := by
        rw [← hn, List.length_append, length_encodeFrame]
        omega
      obtain ⟨frames, rest', hcut⟩ := ih rest.length hshorter rest rfl
      exact ⟨payload :: frames, rest', hcut.cons hlen⟩
    · exact ⟨[], stream, Cut.nil h⟩

theorem Cut.tail {stream payload : List UInt8} {frames : List (List UInt8)} {rest : List UInt8}
    (h : Cut stream (payload :: frames) rest) :
    FrameLength payload.length ∧ ∃ stream', stream = encodeFrame payload ++ stream' ∧
      Cut stream' frames rest := by
  refine ⟨h.lengths payload (by simp), frames.flatMap encodeFrame ++ rest, ?_, ?_⟩
  · rw [h.split, List.flatMap_cons, List.append_assoc]
  · exact ⟨fun p hp => h.lengths p (List.mem_cons_of_mem _ hp), rfl, h.stops⟩

/-- Each readable poll delivers one more frame of the cut; the first one behind the last frame closes
the socket. -/
theorem serve_of_cut (t : Talker) {polls : List Poll} (hpolls : Watched polls) (bufs : Buffers)
    {f : Feed UInt8} {frames : List (List UInt8)} {rest : List UInt8} (hcut : Cut f.bytes frames rest) :
    (t.serve polls bufs f).calls =
        (frames.take (polls.count .readable)).map (CommandChannelMessage.mk t.msgType) ∧
      (frames.length < polls.count .readable → (t.serve polls bufs f).ending = .closed) := by
  induction polls generalizing bufs f frames with
  | nil => simp [Talker.serve]
  | cons poll polls ih =>
    obtain ⟨hpoll, hpolls'⟩ := List.forall_mem_cons.mp hpolls
    cases poll with
    | failed => exact absurd rfl hpoll.1
    | hangup => exact absurd rfl hpoll.2
    | timeout => simpa [Talker.serve] using ih hpolls' bufs hcut
    | other => simpa [Talker.serve] using ih hpolls' bufs hcut
    | readable =>
      rw [List.count_cons_self]
      cases frames with
      | nil =>
        -- Behind the last frame: whatever is left is refused, and no later poll is made.
        have hstops : ¬ StartsWithFrame f.bytes := by
          rw [hcut.split]
          exact hcut.stops
        have hnone := onReadable_of_noFrame t bufs hstops
        rw [Talker.serve]
        split
        · simp
        · rename_i hsome
          rw [hsome] at hnone
          exact absurd hnone (by simp)
      | cons payload frames =>
        obtain ⟨hlen, stream', hf, hcut'⟩ := hcut.tail
        obtain ⟨bufs', f', hread, hf'⟩ := onReadable_of_frame t bufs hlen hf
        obtain ⟨hcalls, hclosed⟩ := ih hpolls' bufs' (hf' ▸ hcut')
        simp only [Talker.serve, hread, hcalls, List.take_succ_cons, List.map_cons, List.length_cons,
          Nat.add_lt_add_iff_right, true_and]
        exact hclosed

/-- **A talker delivers exactly the complete frames, and then closes the socket.**  For every stream, every
way `recv` splits it, whether it ends or breaks off, and every content of the reused buffer: with polls
enough to get through the stream, the callbacks are the frames of its longest well-framed prefix, each
once, in order and with its payload bytes, and the loop ends in `Close`. -/
theorem serve_delivers (t : Talker) (bufs : Buffers) (f : Feed UInt8) (polls : List Poll)
    (hpolls : Watched polls) (hmany : f.bytes.length < polls.count .readable) :
    ∃ frames rest, Cut f.bytes frames rest ∧
      (t.serve polls bufs f).calls = frames.map (CommandChannelMessage.mk t.msgType) ∧
      (t.serve polls bufs f).ending = .closed := by
  obtain ⟨frames, rest, hcut⟩ := exists_cut f.bytes
  have hfew : frames.length < polls.count .readable := Nat.lt_of_le_of_lt hcut.length_le hmany
  obtain ⟨hcalls, hclosed⟩ := serve_of_cut t hpolls bufs hcut
  refine ⟨frames, rest, hcut, ?_, hclosed hfew⟩
  rw [hcalls, List.take_of_length_le hfew.le]

/-- A three-byte frame cut inside its length, a shorter frame behind it, then one byte of a third length
and an error. -/
def brokenFeed : Feed UInt8 :=
  [.chunk 3 [0], .chunk 0 [0, 7], .chunk 8 [9, 1, 0, 0, 0, 5, 2], .error]

/-- The broken feed on the file-transfer talker: the two complete frames are delivered. -/
theorem serve_brokenFeed :
    let s := Talker.ftc.serve (.timeout :: List.replicate 14 .readable) ⟨[], []⟩ brokenFeed
    (∃ frames rest, Cut brokenFeed.bytes frames rest ∧
      s.calls = frames.map (CommandChannelMessage.mk Talker.ftc.msgType) ∧ s.ending = .closed) ∧
    s.calls = [⟨.kFileTransfer, [7, 8, 9]⟩, ⟨.kFileTransfer, [5]⟩] :=
  ⟨serve_delivers .ftc ⟨[], []⟩ brokenFeed (.timeout :: List.replicate 14 .readable) (by decide)
    (by decide), by decide⟩

/-! ## The thread -/

/-- A turn of the outer loop that comes to its end: the frames are those of the turn's connection. -/
def Attempt.Served : Attempt → List (List UInt8) → Prop
  | .refused, frames => frames = []
  | .connected polls f, frames =>
    Watched polls ∧ frames.length < polls.count .readable ∧ ∃ rest, Cut f.bytes frames rest

/-- Over any number of refused connects and reconnects, the thread delivers the frames of its
connections one connection after the other: the buffer a connection leaves behind never shows. -/
theorem thread_delivers (t : Talker) (bufs : Buffers) {attempts : List Attempt}
    {frames : List (List (List UInt8))} (h : List.Forall₂ Attempt.Served attempts frames) :
    t.thread attempts bufs = frames.flatten.map (CommandChannelMessage.mk t.msgType) := by
  induction h generalizing bufs with
  | nil => rfl
  | @cons attempt fs attempts frames hserved _ ih =>
    cases attempt with
    | refused =>
      obtain rfl : fs = [] := hserved
      rw [Talker.thread, ih, List.flatten_cons, List.nil_append]
    | connected polls f =>
      obtain ⟨hpolls, hfew, rest, hcut⟩ := hserved
      obtain ⟨hcalls, hclosed⟩ := serve_of_cut t hpolls bufs hcut
      rw [List.take_of_length_le hfew.le] at hcalls
      simp only [Talker.thread, hcalls, hclosed hfew, if_true, ih, List.flatten_cons, List.map_append]

end VhalClient.CommandChannel
