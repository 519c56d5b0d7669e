/-
# VhalClient.Display.Messages — the messages of the display protocol and what the receiver makes of them.

A `Message` is a header and the body its type calls for.  `wire` is how it is sent, `units` are the reads
the receiver makes for it, and `act` is its meaning: what handling it does to the receiver, without a word
about bytes.  `onReady_message` connects the three: when the message is next on the connection and none
of the reads is cut short, a turn of the worker is the message's meaning, and exactly the message's bytes
are gone.
-/
import VhalClient.Display.HwcReceiver

namespace VhalClient.Display

open VhalClient.Lib
open Impl (payloadSize)

/-! ## Messages -/

/-- Bytes that carry no descriptors. -/
def plain (bytes : List UInt8) : List WireByte := bytes.map fun b => ⟨b, []⟩

@[simp] theorem length_plain (bytes : List UInt8) : (plain bytes).length = bytes.length :=
  List.length_map _

@[simp] theorem val_plain (bytes : List UInt8) : (plain bytes).map WireByte.val = bytes := by
  rw [plain, List.map_map]
  exact List.map_id bytes

theorem plain_append (bytes bytes' : List UInt8) :
    plain (bytes ++ bytes') = plain bytes ++ plain bytes' := List.map_append

/-- The 16 bytes that carry descriptors; their values do not matter. -/
def carrier (fds : List Int32) : List WireByte := ⟨0x88, fds⟩ :: plain (List.replicate 15 0)

theorem length_carrier (fds : List Int32) : (carrier fds).length = 16 := by
  simp [carrier]

/-- What follows the header. -/
inductive Body where
  | dispInfoReq
  | dispPortReq
  | createBuffer (info : BufferInfo) (gralloc : CrosGrallocHandle) (fds : List Int32)
  | removeBuffer (info : BufferInfo)
  | displayReq (info : BufferInfo) (ctrl : Option DisplayControl)

structure Message where
  event : DisplayEvent
  body : Body

namespace Body

def type : Body → UInt32
  | dispInfoReq => evDispInfoReq
  | dispPortReq => evDispPortReq
  | createBuffer _ _ _ => evCreateBuffer
  | removeBuffer _ => evRemoveBuffer
  | displayReq _ _ => evDisplayReq

/-- The body as it is sent. -/
def wire : Body → List WireByte
  | dispInfoReq => []
  | dispPortReq => []
  | createBuffer info gralloc fds =>
    plain (Layout.bufferInfo.write info) ++ plain (Layout.crosGrallocHandle.write gralloc) ++ carrier fds
  | removeBuffer info => plain (Layout.bufferInfo.write info)
  | displayReq info none => plain (Layout.bufferInfo.write info)
  | displayReq info (some ctrl) =>
    plain (Layout.bufferInfo.write info) ++ plain (Layout.displayControl.write ctrl)

/-- The structs the receiver reads for the body, each with one call. -/
def units : Body → List ℕ
  | dispInfoReq => []
  | dispPortReq => []
  | createBuffer _ _ _ => [8, 204, 16]
  | removeBuffer _ => [8]
  | displayReq _ none => [8]
  | displayReq _ (some _) => [8, 12]

/-- The header's size is one the receiver takes for this body. -/
def SizeFits (size : UInt32) : Body → Prop
  | dispInfoReq => True
  | dispPortReq => True
  | createBuffer _ gralloc fds =>
    size = 228 ∧ 1 ≤ sizeT gralloc.numFds ∧ sizeT gralloc.numFds ≤ 4 ∧ fds ≠ []
  | removeBuffer _ => True
  | displayReq _ ctrl => 24 ≤ size ∧ size.toNat < 2 ^ 31 ∧ (ctrl.isSome ↔ size = 36)

end Body

namespace Message

def wire (m : Message) : List WireByte := plain (Layout.displayEvent.write m.event) ++ m.body.wire

def units (m : Message) : List ℕ := 16 :: m.body.units

/-- Header and body belong together. -/
structure WellFormed (m : Message) : Prop where
  type : m.event.type = m.body.type
  size : m.body.SizeFits m.event.size

/-- The units are the message. -/
theorem length_wire (m : Message) : m.wire.length = m.units.sum := by
  obtain ⟨ev, body⟩ := m
  have hev : (Layout.displayEvent.write ev).length = 16 := Layout.displayEvent.length_write ev
  have hinfo (info : BufferInfo) : (Layout.bufferInfo.write info).length = 8 :=
    Layout.bufferInfo.length_write info
  cases body with
  | dispInfoReq => simp [wire, units, Body.wire, Body.units, hev]
  | dispPortReq => simp [wire, units, Body.wire, Body.units, hev]
  | createBuffer info gralloc fds =>
    have hgralloc : (Layout.crosGrallocHandle.write gralloc).length = 204 :=
      Layout.crosGrallocHandle.length_write gralloc
    simp [wire, units, Body.wire, Body.units, hev, hinfo, hgralloc, length_carrier]
  | removeBuffer info => simp [wire, units, Body.wire, Body.units, hev, hinfo]
  | displayReq info ctrl =>
    cases ctrl with
    | none => simp [wire, units, Body.wire, Body.units, hev, hinfo]
    | some ctrl =>
      have hctrl : (Layout.displayControl.write ctrl).length = 12 := Layout.displayControl.length_write ctrl
      simp [wire, units, Body.wire, Body.units, hev, hinfo, hctrl]

end Message

/-! ## Their meaning -/

namespace Body

/-- The gralloc handle the client is shown: its descriptors received, its format unified. -/
def received (env : Env) (gralloc : CrosGrallocHandle) (fds : List Int32) : CrosGrallocHandle :=
  let n := sizeT gralloc.numFds
  (gralloc.setFds ((List.range n).map fun i => (fds.take n).getD i (env.cmsg i))).unifyFormat

/-- What handling the body does. -/
def act (cfg : Config) (env : Env) (ev : DisplayEvent) (s : Impl) : Body → Impl
  | dispInfoReq =>
    if Impl.checkDispConfig cfg ev.id.toInt32 ev.renderNode.toInt32 = -1 then s.leave
    else s.updateDispConfig cfg env
  | dispPortReq => s.updateDispPort cfg env
  | createBuffer info gralloc fds =>
    let handle : Handle := ⟨s.allocated, received env gralloc fds⟩
    ((s.allocate.log [.addBufferInfoStruct info 2, .addGrallocHandleStruct handle.gralloc 2]).insertHandle
      info.remoteHandle handle).emit (.handler .frameCreate info.remoteHandle handle none)
  | removeBuffer info =>
    let s := s.log [.addBufferInfoStruct info 2]
    match s.mHandles.find info.remoteHandle with
    | none => s
    | some handle => (s.releaseHandle info.remoteHandle handle).eraseHandle info.remoteHandle
  | displayReq info ctrl =>
    ((s.log [.addBufferInfoStruct info 2]).log (ctrl.toList.map (.addDisplayControlStruct · 2))).displayFrame
      env info ctrl

end Body

/-- What handling the message does. -/
def Message.act (cfg : Config) (env : Env) (m : Message) (s : Impl) : Impl :=
  let type := translateEvType m.event.type
  m.body.act cfg env m.event (s.log [.updateEventCount type, .logGenericEventInfo type (some m.event)])

/-! ## Reading them -/

/-- A struct that comes in one piece is read as it was written. -/
theorem recvBytes_of_uncut {n : ℕ} {f : Feed WireByte} {bytes : List UInt8} {rest : List WireByte}
    (hpos : 0 < n) (hfront : n ≤ f.front) (hlen : bytes.length = n) (hf : f.bytes = plain bytes ++ rest) :
    recvBytes n f = (some bytes, f.skip n) ∧ (f.skip n).bytes = rest := by
  obtain ⟨b, bs, hrecv, htake⟩ := Feed.recv_of_le_front hpos hfront
  have hlen' : (plain bytes).length = n := by rw [length_plain, hlen]
  constructor
  · rw [recvBytes, hrecv]
    show (some ((b :: bs).map WireByte.val), f.skip n) = _
    rw [htake, hf, List.take_left' hlen', val_plain]
  · rw [Feed.bytes_skip (le_trans hfront (Feed.front_le_length f)), hf, List.drop_left' hlen']

/-- The descriptors that come with a carrier in one piece. -/
theorem recvFds_of_carrier (env : Env) {n : ℕ} {f : Feed WireByte} {fds : List Int32}
    {rest : List WireByte} (hmin : 1 ≤ n) (hmax : n ≤ 4) (hfds : fds ≠ []) (hfront : 16 ≤ f.front)
    (hf : f.bytes = carrier fds ++ rest) :
    recvFds env n f =
        (some ((List.range n).map fun i => (fds.take n).getD i (env.cmsg i)), f.skip 16) ∧
      (f.skip 16).bytes = rest := by
  have hlen : 16 ≤ f.bytes.length := le_trans hfront (Feed.front_le_length f)
  have hcarrier : recvCarrier f = (carrier fds, f.skip 16) := by
    rw [recvCarrier, Feed.refillUntil_of_le_front _ (by decide) hfront, hf, List.take_left' (length_carrier fds)]
  have hreceived : ((carrier fds).flatMap WireByte.fds).take n = fds.take n := by
    simp [carrier, plain]
  -- At least one descriptor came, so there is a control message header.
  have hsome : fds.take n ≠ [] := by
    cases fds with
    | nil => exact absurd rfl hfds
    | cons fd fds =>
      obtain ⟨k, rfl⟩ : ∃ k, n = k + 1 := ⟨n - 1, by omega⟩
      simp
  constructor
  · have hrange : ¬ (n = 0 ∨ n > drvMaxPlanes) := by
      rw [drvMaxPlanes]
      omega
    rw [recvFds, if_neg hrange]
    dsimp only
    rw [hcarrier, hreceived, if_neg hsome]
  · rw [Feed.bytes_skip hlen, hf, List.drop_left' (length_carrier fds)]

/-! ### One body at a time

In each, the header has been read already: the body is next on the connection. -/

section Bodies

variable (cfg : Config) (env : Env) (ev : DisplayEvent) {rest : List WireByte}

theorem receiveBuffer_wire (block : List UInt8) {f : Feed WireByte} {info : BufferInfo}
    {gralloc : CrosGrallocHandle} {fds : List Int32} (hmin : 1 ≤ sizeT gralloc.numFds)
    (hmax : sizeT gralloc.numFds ≤ 4) (hfds : fds ≠ [])
    (hf : f.bytes = (Body.createBuffer info gralloc fds).wire ++ rest)
    (hcut : f.Uncut (Body.createBuffer info gralloc fds).units) :
    Impl.receiveBuffer env block f =
      (some (info.remoteHandle, Body.received env gralloc fds),
        [.addBufferInfoStruct info 2, .addGrallocHandleStruct (Body.received env gralloc fds) 2],
        f.skipAll (Body.createBuffer info gralloc fds).units) := by
  obtain ⟨hinfo, hgralloc, hcarrier, -⟩ := hcut
  simp only [Body.wire, List.append_assoc] at hf
  obtain ⟨hread1, hf1⟩ := recvBytes_of_uncut (by decide) hinfo (Layout.bufferInfo.length_write info) hf
  obtain ⟨hread2, hf2⟩ := recvBytes_of_uncut (by decide) hgralloc
    (Layout.crosGrallocHandle.length_write gralloc) hf1
  obtain ⟨hread3, -⟩ := recvFds_of_carrier env hmin hmax hfds hcarrier hf2
  -- The block is overwritten from its first to its last byte that counts.
  have hblock : Layout.crosGrallocHandle.read (overwrite (Layout.crosGrallocHandle.write gralloc) block) =
      gralloc := Layout.crosGrallocHandle.read_write_append gralloc _
  unfold Impl.receiveBuffer
  rw [show sizeofBufferInfo = 8 from rfl, show sizeofCrosGrallocHandle = 204 from rfl, hread1]
  dsimp only
  rw [hread2]
  dsimp only
  rw [hblock, hread3, Layout.bufferInfo.read_write]
  rfl

theorem createBuffer_wire {s : Impl} (hblock : env.block.isSome) {info : BufferInfo}
    {gralloc : CrosGrallocHandle} {fds : List Int32} (hmin : 1 ≤ sizeT gralloc.numFds)
    (hmax : sizeT gralloc.numFds ≤ 4) (hfds : fds ≠ [])
    (hf : s.feed.bytes = (Body.createBuffer info gralloc fds).wire ++ rest)
    (hcut : s.feed.Uncut (Body.createBuffer info gralloc fds).units) :
    s.createBuffer env =
      (Body.createBuffer info gralloc fds).act cfg env ev
        (s.rest (s.feed.skipAll (Body.createBuffer info gralloc fds).units)) := by
  obtain ⟨block, hblock⟩ := Option.isSome_iff_exists.mp hblock
  unfold Impl.createBuffer
  rw [hblock]
  dsimp only
  rw [show s.allocate.feed = s.feed from rfl, receiveBuffer_wire env block hmin hmax hfds hf hcut]
  rfl

theorem removeBuffer_wire {s : Impl} {info : BufferInfo}
    (hf : s.feed.bytes = (Body.removeBuffer info).wire ++ rest)
    (hcut : s.feed.Uncut (Body.removeBuffer info).units) :
    s.removeBuffer =
      (Body.removeBuffer info).act cfg env ev (s.rest (s.feed.skipAll (Body.removeBuffer info).units)) := by
  obtain ⟨hinfo, -⟩ := hcut
  obtain ⟨hread, -⟩ := recvBytes_of_uncut (by decide) hinfo (Layout.bufferInfo.length_write info) hf
  unfold Impl.removeBuffer
  rw [show sizeofBufferInfo = 8 from rfl, hread]
  dsimp only
  rw [Layout.bufferInfo.read_write]
  rfl

end Bodies

/-! ### The size of a display request -/

theorem toInt_toInt32 {w : UInt32} (h : w.toNat < 2 ^ 31) : w.toInt32.toInt = w.toNat := by
  show w.toBitVec.toInt = _
  rw [BitVec.toInt_eq_toNat_cond, UInt32.toNat_toBitVec, if_pos (by omega)]

/-- An `int` that is not negative survives the conversion to `size_t`. -/
theorem sizeT_of_nonneg {n : Int32} (h : 0 ≤ n.toInt) : (sizeT n : ℤ) = n.toInt := by
  have hle : 0 ≤ n.toInt64 := by
    rw [Int64.le_iff_toInt_le, Int32.toInt_toInt64]
    simpa using h
  rw [sizeT, Int64.toNat_toUInt64_of_le hle]
  show ((n.toInt64.toInt.toNat : ℕ) : ℤ) = n.toInt
  rw [Int32.toInt_toInt64, Int.toNat_of_nonneg h]

theorem toInt_payloadSize (size : UInt32) (hmin : 16 ≤ size.toNat) (hmax : size.toNat < 2 ^ 31 + 16) :
    (payloadSize size).toInt = (size.toNat : ℤ) - 16 := by
  have hsub : (size - UInt32.ofNat sizeofDisplayEvent).toNat = size.toNat - 16 :=
    UInt32.toNat_sub_of_le _ _ (UInt32.le_iff_toNat_le.mpr hmin)
  rw [payloadSize, toInt_toInt32 (by omega), hsub]
  omega

/-- A size field between 24 and 2³¹ is a payload long enough for the buffer info, and 36 is the one with a
control block. -/
theorem payloadSize_fits {size : UInt32} (hmin : 24 ≤ size) (hmax : size.toNat < 2 ^ 31) :
    ¬ payloadSize size < Int32.ofNat sizeofBufferInfo ∧
      (sizeT (payloadSize size) = sizeofBufferInfo + sizeofDisplayControl ↔ size = 36) := by
  have hmin' : 24 ≤ size.toNat := UInt32.le_iff_toNat_le.mp hmin
  have hint := toInt_payloadSize size (by omega) (by omega)
  have hsize := sizeT_of_nonneg (n := payloadSize size) (by omega)
  constructor
  · rw [Int32.lt_iff_toInt_lt, hint, Int32.toInt_ofNat_of_lt (by decide), sizeofBufferInfo_eq]
    omega
  · rw [sizeofBufferInfo_eq, sizeofDisplayControl_eq, ← UInt32.toNat_inj]
    show _ ↔ size.toNat = 36
    omega

theorem displayRequest_wire (cfg : Config) (env : Env) (ev : DisplayEvent) {rest : List WireByte}
    {s : Impl} {size : UInt32} {info : BufferInfo} {ctrl : Option DisplayControl}
    (hsize : (Body.displayReq info ctrl).SizeFits size)
    (hf : s.feed.bytes = (Body.displayReq info ctrl).wire ++ rest)
    (hcut : s.feed.Uncut (Body.displayReq info ctrl).units) :
    s.displayRequest env (payloadSize size) =
      (Body.displayReq info ctrl).act cfg env ev
        (s.rest (s.feed.skipAll (Body.displayReq info ctrl).units)) := by
  obtain ⟨hmin, hmax, hctrl⟩ := hsize
  obtain ⟨hlong, hhas⟩ := payloadSize_fits hmin hmax
  unfold Impl.displayRequest
  rw [if_neg hlong]
  cases ctrl with
  | none =>
    have hno : ¬ sizeT (payloadSize size) = sizeofBufferInfo + sizeofDisplayControl := by
      rw [hhas, ← hctrl]
      simp
    obtain ⟨hinfo, -⟩ := hcut
    obtain ⟨hread, -⟩ := recvBytes_of_uncut (by decide) hinfo (Layout.bufferInfo.length_write info) hf
    rw [show recvBytes sizeofBufferInfo s.feed = _ from hread]
    dsimp only
    rw [Layout.bufferInfo.read_write]
    simp only [hno, decide_false, Bool.false_eq_true, if_false]
    rfl
  | some ctrl =>
    have hyes : sizeT (payloadSize size) = sizeofBufferInfo + sizeofDisplayControl := by
      rw [hhas, ← hctrl]
      rfl
    obtain ⟨hinfo, hcontrol, -⟩ := hcut
    simp only [Body.wire, List.append_assoc] at hf
    obtain ⟨hread, hf1⟩ := recvBytes_of_uncut (by decide) hinfo (Layout.bufferInfo.length_write info) hf
    obtain ⟨hread2, -⟩ := recvBytes_of_uncut (by decide) hcontrol
      (Layout.displayControl.length_write ctrl) hf1
    rw [show recvBytes sizeofBufferInfo s.feed = _ from hread]
    dsimp only
    rw [Layout.bufferInfo.read_write]
    simp only [hyes, decide_true, if_true]
    rw [show recvBytes sizeofDisplayControl
      ((s.rest (s.feed.skip 8)).log [.addBufferInfoStruct info 2]).feed = _ from hread2]
    dsimp only
    rw [Layout.displayControl.read_write]
    rfl

/-! ## A turn -/

/-- **A turn is the meaning of the message it reads**, when the message is next and none of its reads is
cut short. -/
theorem onReady_message (cfg : Config) (env : Env) (s : Impl) (m : Message) {rest : List WireByte}
    (hm : m.WellFormed) (hblock : env.block.isSome) (hf : s.feed.bytes = m.wire ++ rest)
    (hcut : s.feed.Uncut m.units) :
    s.onReady cfg env = m.act cfg env (s.rest (s.feed.skipAll m.units)) := by
  obtain ⟨ev, body⟩ := m
  obtain ⟨htype, hsize⟩ := hm
  obtain ⟨hheader, hcut⟩ := hcut
  rw [Message.wire, List.append_assoc] at hf
  obtain ⟨hread, hf'⟩ := recvBytes_of_uncut (by decide) hheader (Layout.displayEvent.length_write ev) hf
  unfold Impl.onReady
  rw [show recvBytes sizeofDisplayEvent s.feed = _ from hread]
  dsimp only at htype hsize hf' hcut ⊢
  rw [Layout.displayEvent.read_write, Impl.dispatch, Message.act, htype]
  cases body with
  | dispInfoReq => rfl
  | dispPortReq => rfl
  | createBuffer info gralloc fds =>
    -- The only case whose branch looks at the size before it reads.
    obtain ⟨hsize, hmin, hmax, hfds⟩ := hsize
    rw [hsize]
    exact createBuffer_wire cfg env ev hblock hmin hmax hfds hf' hcut
  | removeBuffer info => exact removeBuffer_wire cfg env ev hf' hcut
  | displayReq info ctrl => exact displayRequest_wire cfg env ev hsize hf' hcut

/-- A `CREATE_BUFFER` for a remote handle, with one descriptor and otherwise zeros. -/
def blankCreate (remote : UInt64) : Message where
  event := ⟨evCreateBuffer, 228, 0, 0⟩
  body := .createBuffer ⟨remote⟩ { Layout.crosGrallocHandle.read [] with numFds := 1 } [5]

/-- Surroundings in which everything succeeds. -/
def calmEnv : Env := ⟨some (List.replicate 204 0), fun _ => 0, 60⟩

/-- A receiver that takes part in any session. -/
def anySession : Config := ⟨-1, 1920, 1080, 0, 128⟩

/-- A receiver whose worker has just connected. -/
def atWork : Impl := { Impl.initial with shouldContinue := true, working := true, connected := true }

/-- The meaning of a message at work: the blank handle is stored with the descriptor that came along. -/
example : ((Impl.initial.rest (Feed.whole (blankCreate 7).wire)).onReady anySession calmEnv).mHandles.keys =
    [7] := by decide +kernel

end VhalClient.Display
