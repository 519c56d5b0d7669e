/-
# VhalClient.Display.Framing — the worker and the boundaries of the stream.

Every message of the display protocol says in its header how long it is.  The worker does not use that: each
branch of its `switch` takes from the stream what it expects and returns.  Here the stream is any list of
packets (any type, the size field right) that arrives in one piece, and `atMessage_iff_digested` says
exactly when the worker reads every header where a packet begins: when each packet it meets is one that
its branch takes whole.
-/
import VhalClient.Lib.Framing
import VhalClient.Lib.Run
import VhalClient.Display.Ledger
import VhalClient.Display.Messages

namespace VhalClient.Display

open VhalClient.Lib
open Impl (payloadSize)

/-! ## Packets -/

/-- A message of any type, with the size it has.  The carrier follows a `CREATE_BUFFER` only. -/
structure Packet where
  type : UInt32
  renderNode : UInt32
  id : UInt32
  payload : List UInt8
  carrier : Vector WireByte 16
  sizeFits : 16 + payload.length < 2 ^ 32

namespace Packet

def event (p : Packet) : DisplayEvent :=
  ⟨p.type, UInt32.ofNat (16 + p.payload.length), p.id, p.renderNode⟩

/-- What the header's size does not count. -/
def extra (p : Packet) : List WireByte := if p.type = evCreateBuffer then p.carrier.toList else []

def wire (p : Packet) : List WireByte :=
  plain (Layout.displayEvent.write p.event) ++ (plain p.payload ++ p.extra)

/-- The `numFds` of the gralloc handle in the payload of a `CREATE_BUFFER`. -/
def numFds (p : Packet) : Int32 := Layout.int32.read (p.payload.drop 12)

/-- The branch of the `switch` takes the whole packet, or ends the worker. -/
def Digested (cfg : Config) (env : Env) (behind : List Packet) (p : Packet) : Prop :=
  if p.type = evDispInfoReq then
    Impl.checkDispConfig cfg p.id.toInt32 p.renderNode.toInt32 = -1 ∨ p.payload = []
  else if p.type = evDispPortReq then p.payload = []
  else if p.type = evCreateBuffer then
    p.payload.length = 212 ∧ env.block.isSome ∧ 1 ≤ sizeT p.numFds ∧ sizeT p.numFds ≤ 4
  else if p.type = evRemoveBuffer then
    -- A short one is digested when it is the last: the read takes what there is.
    p.payload.length = 8 ∨ p.payload.length < 8 ∧ behind = []
  else if p.type = evDisplayReq then
    p.payload.length = 0 ∨ p.payload.length = 8 ∨ p.payload.length = 20
  else p.payload = []

theorem length_wire (p : Packet) : p.wire.length = 16 + (p.payload.length + p.extra.length) := by
  have hevent : (Layout.displayEvent.write p.event).length = 16 := Layout.displayEvent.length_write _
  simp [wire, hevent]

theorem le_length_wire (p : Packet) : 16 ≤ p.wire.length := by
  rw [length_wire]
  omega

theorem toNat_size (p : Packet) : p.event.size.toNat = 16 + p.payload.length :=
  UInt32.toNat_ofNat_of_lt' p.sizeFits

end Packet

/-! ## What each branch takes

On a stream in one piece a read takes what it asked for, or what there is. -/

theorem recvBytes_whole {n : ℕ} (hpos : 0 < n) (l : List WireByte) :
    recvBytes n (Feed.whole l) =
      (if l = [] then none else some ((l.take n).map WireByte.val), Feed.whole (l.drop n)) := by
  obtain ⟨k, rfl⟩ : ∃ k, n = k + 1 := ⟨n - 1, by omega⟩
  cases l with
  | nil => rfl
  | cons b bs => rfl

/-- A struct at the front of the stream is read as it was written. -/
theorem recvBytes_plain {n : ℕ} {bytes : List UInt8} (hpos : 0 < n) (hlen : bytes.length = n)
    (l : List WireByte) : recvBytes n (Feed.whole (plain bytes ++ l)) = (some bytes, Feed.whole l) := by
  have hlen' : (plain bytes).length = n := (length_plain bytes).trans hlen
  have hne : plain bytes ++ l ≠ [] := by
    rw [← List.length_pos_iff, List.length_append]
    omega
  rw [recvBytes_whole hpos, if_neg hne, List.take_left' hlen', List.drop_left' hlen', val_plain]

theorem feed_recvFds (env : Env) (n : ℕ) {l : List WireByte} (hlen : 16 ≤ l.length) :
    (recvFds env n (Feed.whole l)).2 =
      Feed.whole (l.drop (if 1 ≤ n ∧ n ≤ 4 then 16 else 0)) := by
  have hskip : (recvCarrier (Feed.whole l)).2 = Feed.whole (l.drop 16) := by
    rw [recvCarrier, Feed.refillUntil_of_le_front _ (by decide) (by rw [Feed.front_whole]; exact hlen),
      Feed.skip_whole hlen]
  by_cases hn : 1 ≤ n ∧ n ≤ 4
  · have hrange : ¬ (n = 0 ∨ n > drvMaxPlanes) := by
      rw [drvMaxPlanes]
      omega
    rw [recvFds, if_neg hrange, if_pos hn]
    dsimp only
    split <;> exact hskip
  · have hrange : n = 0 ∨ n > drvMaxPlanes := by
      rw [drvMaxPlanes]
      omega
    rw [recvFds, if_pos hrange, if_neg hn]
    rfl

namespace Impl

@[simp] theorem feed_log (s : Impl) (calls : List LogCall) : (s.log calls).feed = s.feed := by
  induction calls generalizing s with
  | nil => rfl
  | cons c calls ih => exact ih (s.emit (.log c))

@[simp] theorem feed_send (s : Impl) (env : Env) (bytes : List UInt8) :
    (s.send env bytes).2.feed = s.feed := by
  unfold send
  split <;> rfl

@[simp] theorem feed_insertHandle (s : Impl) (remote : UInt64) (handle : Handle) :
    (s.insertHandle remote handle).feed = s.feed := by
  unfold insertHandle
  split <;> rfl

@[simp] theorem feed_displayFrame (env : Env) (info : BufferInfo) (ctrl : Option DisplayControl)
    (s : Impl) : (s.displayFrame env info ctrl).feed = s.feed := by
  unfold displayFrame
  split
  · rfl
  · rename_i handle _
    set t := s.emit (.handler .frameDisplay info.remoteHandle handle ctrl) with ht
    dsimp only
    unfold sendLogged
    rcases hsend : t.send env _ with ⟨_ | _, t'⟩
    · exact (congrArg (fun r => r.2.feed) hsend).symm.trans (feed_send t env _)
    · exact (feed_log t' _).trans ((congrArg (fun r => r.2.feed) hsend).symm.trans (feed_send t env _))

/-- `RemoveBuffer` takes a buffer info. -/
theorem feed_removeBuffer {s : Impl} {l : List WireByte} (h : s.feed = Feed.whole l) :
    s.removeBuffer.feed = Feed.whole (l.drop 8) := by
  unfold removeBuffer
  rw [sizeofBufferInfo_eq, h, recvBytes_whole (by decide)]
  split
  · rename_i heq
    exact congrArg (fun r => (r.2 : Feed WireByte)) heq.symm
  · rename_i f heq
    have hf : f = Feed.whole (l.drop 8) := (congrArg (fun r => (r.2 : Feed WireByte)) heq).symm
    dsimp only
    split <;> exact hf

/-- `DisplayRequest` takes nothing, a buffer info, or a buffer info and a control block. -/
def displayTaken (size : Int32) : ℕ :=
  if size < Int32.ofNat sizeofBufferInfo then 0
  else if sizeT size = sizeofBufferInfo + sizeofDisplayControl then 20
  else 8

theorem feed_displayRequest (env : Env) (size : Int32) {s : Impl} {l : List WireByte}
    (h : s.feed = Feed.whole l) :
    (s.displayRequest env size).feed = Feed.whole (l.drop (displayTaken size)) := by
  unfold displayRequest displayTaken
  by_cases hshort : size < Int32.ofNat sizeofBufferInfo
  · rw [if_pos hshort, if_pos hshort]
    exact h
  · rw [if_neg hshort, if_neg hshort, h, sizeofBufferInfo_eq, sizeofDisplayControl_eq,
      recvBytes_whole (by decide)]
    cases l with
    | nil => simp [rest]
    | cons b bs =>
      rw [if_neg (List.cons_ne_nil b bs)]
      dsimp only
      by_cases hctrl : sizeT size = 8 + 12
      · rw [feed_log, if_pos hctrl]
        simp only [hctrl, decide_true, if_true]
        rw [show (s.rest (Feed.whole ((b :: bs).drop 8))).feed = Feed.whole ((b :: bs).drop 8) from rfl,
          recvBytes_whole (by decide), List.drop_drop]
        split
        · rename_i heq
          exact congrArg (fun r => (r.2 : Feed WireByte)) heq.symm
        · rename_i heq
          rw [feed_displayFrame, feed_log]
          exact congrArg (fun r => (r.2 : Feed WireByte)) heq.symm
      · rw [if_neg hctrl]
        simp only [hctrl, decide_false, Bool.false_eq_true, if_false]
        rw [feed_displayFrame, feed_log]
        rfl

/-- Only the first eight bytes of a gralloc handle say how many descriptors it has. -/
theorem numFds_read (bytes behind : List UInt8) (hlen : 8 ≤ bytes.length) :
    (Layout.crosGrallocHandle.read (bytes ++ behind)).numFds = Layout.int32.read (bytes.drop 4) := by
  show (u32 ((bytes ++ behind).drop 4)).toInt32 = (u32 (bytes.drop 4)).toInt32
  have htake : ((bytes ++ behind).drop 4).take 4 = (bytes.drop 4).take 4 := by
    rw [List.drop_append_of_le_length (by omega), List.take_append_of_le_length]
    rw [List.length_drop]
    omega
  rw [u32, u32, htake]

theorem feed_receiveBuffer (env : Env) (block : List UInt8) {payload : List UInt8}
    {behind : List WireByte} (hpayload : payload.length = 212) (hbehind : 16 ≤ behind.length) :
    (receiveBuffer env block (Feed.whole (plain payload ++ behind))).2.2 =
      Feed.whole (behind.drop
        (if 1 ≤ sizeT (Layout.int32.read (payload.drop 12)) ∧
            sizeT (Layout.int32.read (payload.drop 12)) ≤ 4 then 16 else 0)) := by
  -- The payload is a buffer info and a gralloc handle.
  obtain ⟨info, gralloc, rfl, hinfo, hgralloc⟩ : ∃ info gralloc : List UInt8,
      payload = info ++ gralloc ∧ info.length = 8 ∧ gralloc.length = 204 :=
    ⟨payload.take 8, payload.drop 8, (List.take_append_drop 8 payload).symm, by simp [hpayload],
      by simp [hpayload]⟩
  have hread1 := recvBytes_plain (by decide) hinfo (plain gralloc ++ behind)
  have hread2 := recvBytes_plain (by decide) hgralloc behind
  have hnum := numFds_read gralloc (block.drop gralloc.length) (by omega)
  have hoffset : (info ++ gralloc).drop 12 = gralloc.drop 4 := by
    rw [show 12 = info.length + 4 by omega, ← List.drop_drop, List.drop_left]
  unfold receiveBuffer
  rw [sizeofBufferInfo_eq, sizeofCrosGrallocHandle_eq, plain_append, List.append_assoc, hread1]
  dsimp only
  rw [hread2, hoffset]
  dsimp only
  rw [overwrite, hnum, ← feed_recvFds env _ hbehind]
  rcases recvFds env (sizeT (Layout.int32.read (gralloc.drop 4))) (Feed.whole behind) with ⟨_ | fds, f⟩
  · rfl
  · rfl

/-- `CreateBuffer` takes nothing without a block, and the carrier only for a sensible number of
descriptors. -/
def createTaken (env : Env) (numFds : Int32) : ℕ :=
  if env.block.isSome then 212 + if 1 ≤ sizeT numFds ∧ sizeT numFds ≤ 4 then 16 else 0 else 0

theorem feed_createBuffer (env : Env) {s : Impl} {payload : List UInt8} {behind : List WireByte}
    (h : s.feed = Feed.whole (plain payload ++ behind)) (hpayload : payload.length = 212)
    (hbehind : 16 ≤ behind.length) :
    (s.createBuffer env).feed =
      Feed.whole ((plain payload ++ behind).drop
        (createTaken env (Layout.int32.read (payload.drop 12)))) := by
  unfold createBuffer createTaken
  cases env.block with
  | none => exact h
  | some block =>
    have hfeed := feed_receiveBuffer env block hpayload hbehind
    rw [Option.isSome_some, if_pos rfl, ← List.drop_drop,
      List.drop_left' ((length_plain payload).trans hpayload), ← hfeed]
    dsimp only
    rw [show s.allocate.feed = _ from h]
    rcases receiveBuffer env block (Feed.whole (plain payload ++ behind)) with
      ⟨_ | ⟨remote, gralloc⟩, calls, f⟩
    · show ((s.allocate.rest f).log calls).feed = f
      rw [feed_log]
      rfl
    · show ((((s.allocate.rest f).log calls).insertHandle remote _)).feed = f
      rw [feed_insertHandle, feed_log]
      rfl

/-! ## A turn -/

/-- How many bytes behind the header a turn takes. -/
def taken (env : Env) (p : Packet) : ℕ :=
  if p.type = evDispInfoReq then 0
  else if p.type = evDispPortReq then 0
  else if p.type = evCreateBuffer then
    if p.payload.length = 212 then createTaken env p.numFds else 0
  else if p.type = evRemoveBuffer then 8
  else if p.type = evDisplayReq then displayTaken (payloadSize p.event.size)
  else 0

/-- A turn before a packet takes bytes from the stream, or ends the worker. -/
theorem feed_onReady (cfg : Config) (env : Env) {s : Impl} {p : Packet} {behind : List WireByte}
    (h : s.feed = Feed.whole (p.wire ++ behind)) :
    (s.onReady cfg env).feed =
      if p.type = evDispInfoReq ∧ checkDispConfig cfg p.id.toInt32 p.renderNode.toInt32 = -1 then []
      else Feed.whole ((p.wire ++ behind).drop (16 + taken env p)) := by
  have hevent : (Layout.displayEvent.write p.event).length = 16 := Layout.displayEvent.length_write _
  rw [Packet.wire, List.append_assoc] at h ⊢
  rw [← List.drop_drop, List.drop_left' ((length_plain _).trans hevent)]
  unfold onReady
  rw [sizeofDisplayEvent_eq, h, recvBytes_plain (by decide) hevent]
  dsimp only
  rw [Layout.displayEvent.read_write]
  set t := (s.rest (Feed.whole (plain p.payload ++ p.extra ++ behind))).log _ with ht
  have hfeed : t.feed = Feed.whole (plain p.payload ++ p.extra ++ behind) := by
    rw [ht, feed_log]
    rfl
  unfold dispatch taken
  rw [show p.event.type = p.type from rfl, show p.event.id = p.id from rfl,
    show p.event.renderNode = p.renderNode from rfl]
  by_cases hinfo : p.type = evDispInfoReq
  · rw [if_pos hinfo, if_pos hinfo]
    by_cases hcheck : checkDispConfig cfg p.id.toInt32 p.renderNode.toInt32 = -1
    · rw [if_pos hcheck, if_pos ⟨hinfo, hcheck⟩]
      rfl
    · rw [if_neg hcheck, if_neg (fun hboth => hcheck hboth.2), updateDispConfig, feed_log, feed_send]
      exact hfeed
  · have hstay : ¬ (p.type = evDispInfoReq ∧
        checkDispConfig cfg p.id.toInt32 p.renderNode.toInt32 = -1) := fun hboth => hinfo hboth.1
    rw [if_neg hinfo, if_neg hinfo, if_neg hstay]
    by_cases hport : p.type = evDispPortReq
    · rw [if_pos hport, if_pos hport, updateDispPort, feed_log, feed_send]
      exact hfeed
    rw [if_neg hport, if_neg hport]
    by_cases hcreate : p.type = evCreateBuffer
    · have hsize : p.event.size.toNat = sizeofBufferInfoEvent + sizeofCrosGrallocHandle ↔
          p.payload.length = 212 := by
        rw [p.toNat_size, show sizeofBufferInfoEvent + sizeofCrosGrallocHandle = 228 from rfl]
        omega
      rw [if_pos hcreate, if_pos hcreate]
      by_cases hpayload : p.payload.length = 212
      · have hextra : 16 ≤ (p.extra ++ behind).length := by simp [Packet.extra, hcreate]
        rw [if_pos (hsize.mpr hpayload), if_pos hpayload, List.append_assoc]
        rw [List.append_assoc] at hfeed
        exact feed_createBuffer env hfeed hpayload hextra
      · rw [if_neg (mt hsize.mp hpayload), if_neg hpayload]
        exact hfeed
    rw [if_neg hcreate, if_neg hcreate]
    by_cases hremove : p.type = evRemoveBuffer
    · rw [if_pos hremove, if_pos hremove]
      exact feed_removeBuffer hfeed
    rw [if_neg hremove, if_neg hremove]
    by_cases hdisplay : p.type = evDisplayReq
    · rw [if_pos hdisplay, if_pos hdisplay]
      exact feed_displayRequest env _ hfeed
    · rw [if_neg hdisplay, if_neg hdisplay]
      exact hfeed

/-- What `DisplayRequest` takes, by the length of the payload.  From 2³¹ on the length is negative as an
`int`. -/
theorem displayTaken_payloadSize (p : Packet) :
    displayTaken (payloadSize p.event.size) =
      if p.payload.length < 8 ∨ 2 ^ 31 ≤ p.payload.length then 0
      else if p.payload.length = 20 then 20 else 8 := by
  have hsize := p.toNat_size
  have hfits := p.sizeFits
  have hlt : payloadSize p.event.size < Int32.ofNat sizeofBufferInfo ↔
      (payloadSize p.event.size).toInt < 8 := by
    rw [Int32.lt_iff_toInt_lt, Int32.toInt_ofNat_of_lt (by decide), sizeofBufferInfo_eq]
    rfl
  unfold displayTaken
  by_cases hbig : 2 ^ 31 ≤ p.payload.length
  · -- Narrowed to `int` the length is negative, so `DisplayRequest` finds it too small.
    have hneg : (payloadSize p.event.size).toInt < 0 := by
      have hsub : (p.event.size - UInt32.ofNat sizeofDisplayEvent).toNat = p.event.size.toNat - 16 :=
        UInt32.toNat_sub_of_le _ _ (UInt32.le_iff_toNat_le.mpr (by simp [hsize]))
      show (p.event.size - UInt32.ofNat sizeofDisplayEvent).toBitVec.toInt < 0
      rw [BitVec.toInt_eq_toNat_cond, UInt32.toNat_toBitVec, hsub, hsize, if_neg (by omega)]
      omega
    rw [if_pos (hlt.mpr (by omega)), if_pos (Or.inr hbig)]
  · have hint := toInt_payloadSize p.event.size (by omega) (by omega)
    have hsizeT := sizeT_of_nonneg (n := payloadSize p.event.size) (by omega)
    by_cases hshort : p.payload.length < 8
    · rw [if_pos (hlt.mpr (by omega)), if_pos (Or.inl hshort)]
    · have hctrl : sizeT (payloadSize p.event.size) = sizeofBufferInfo + sizeofDisplayControl ↔
          p.payload.length = 20 := by
        rw [sizeofBufferInfo_eq, sizeofDisplayControl_eq]
        omega
      have hlong : ¬ (p.payload.length < 8 ∨ 2 ^ 31 ≤ p.payload.length) := by omega
      rw [if_neg (mt hlt.mp (by omega)), if_neg hlong]
      simp only [hctrl]

end Impl

namespace Packet

open Impl (taken createTaken displayTaken displayTaken_payloadSize)

/-- So many bytes behind the header end where the packet ends, or where the stream does. -/
def EndsAt (p : Packet) (behind : List Packet) (n : ℕ) : Prop :=
  n = p.payload.length + p.extra.length ∨ behind = [] ∧ p.payload.length + p.extra.length ≤ n

variable (env : Env) {packets behind : List Packet} {p : Packet}

theorem length_extra_of_ne (htype : p.type ≠ evCreateBuffer) : p.extra.length = 0 := by
  simp [extra, htype]

theorem length_extra_of_create (htype : p.type = evCreateBuffer) : p.extra.length = 16 := by
  simp [extra, htype]

theorem atBoundary_iff_endsAt {n : ℕ} (hsuffix : p :: behind <:+ packets)
    (hshort : n < 16 + (p.payload.length + p.extra.length)) :
    AtBoundary wire packets (((p :: behind).flatMap wire).drop (16 + n)) ↔ p.EndsAt behind n := by
  rw [atBoundary_drop_iff (by decide) le_length_wire hsuffix (by omega) (by rw [p.length_wire]; omega),
    p.length_wire, Nat.add_left_cancel_iff, Nat.add_le_add_iff_left]
  rfl

/-- A branch that takes nothing is at the end of an empty payload only. -/
theorem endsAt_zero_iff (hextra : p.extra.length = 0) : p.EndsAt behind 0 ↔ p.payload = [] := by
  have hempty : p.payload = [] ↔ p.payload.length = 0 := List.length_eq_zero_iff.symm
  rw [EndsAt, hextra, hempty]
  omega

theorem endsAt_create_iff (hextra : p.extra.length = 16) :
    p.EndsAt behind (if p.payload.length = 212 then createTaken env p.numFds else 0) ↔
      p.payload.length = 212 ∧ env.block.isSome ∧ 1 ≤ sizeT p.numFds ∧ sizeT p.numFds ≤ 4 := by
  rw [EndsAt, hextra]
  by_cases hpayload : p.payload.length = 212
  · rw [if_pos hpayload, hpayload, createTaken]
    by_cases hblock : env.block.isSome
    · by_cases hnum : 1 ≤ sizeT p.numFds ∧ sizeT p.numFds ≤ 4
      · simp [hblock, hnum]
      · -- The carrier stays.
        simp [hblock, hnum]
    · simp [hblock]
  · -- The size is not the one `CreateBuffer` is called for: payload and carrier stay.
    rw [if_neg hpayload]
    omega

theorem endsAt_remove_iff (hextra : p.extra.length = 0) :
    p.EndsAt behind 8 ↔ p.payload.length = 8 ∨ p.payload.length < 8 ∧ behind = [] := by
  rw [EndsAt, hextra]
  constructor
  · rintro (hlen | ⟨hlast, hle⟩)
    · exact Or.inl (by omega)
    · rcases Nat.lt_or_eq_of_le hle with hlt | heq
      · exact Or.inr ⟨by omega, hlast⟩
      · exact Or.inl (by omega)
  · rintro (hlen | ⟨hlt, hlast⟩)
    · exact Or.inl (by omega)
    · exact Or.inr ⟨hlast, by omega⟩

theorem endsAt_display_iff (hextra : p.extra.length = 0) :
    p.EndsAt behind (displayTaken (payloadSize p.event.size)) ↔
      p.payload.length = 0 ∨ p.payload.length = 8 ∨ p.payload.length = 20 := by
  rw [EndsAt, hextra, displayTaken_payloadSize]
  split
  · omega
  · split <;> omega

/-- No branch reaches behind the header of the next packet. -/
theorem taken_lt (p : Packet) : taken env p < 16 + (p.payload.length + p.extra.length) := by
  unfold taken
  split
  · omega
  split
  · omega
  split
  · rename_i hcreate
    rw [length_extra_of_create hcreate, createTaken]
    split
    · split
      · split <;> omega
      · omega
    · omega
  split
  · omega
  split
  · rw [displayTaken_payloadSize]
    split
    · omega
    · split <;> omega
  · omega

/-- The branch takes the packet and no more exactly when the packet is digested. -/
theorem atBoundary_iff_digested (cfg : Config) (hsuffix : p :: behind <:+ packets)
    (hstay : ¬ (p.type = evDispInfoReq ∧
      Impl.checkDispConfig cfg p.id.toInt32 p.renderNode.toInt32 = -1)) :
    AtBoundary wire packets (((p :: behind).flatMap wire).drop (16 + taken env p)) ↔
      p.Digested cfg env behind := by
  rw [atBoundary_iff_endsAt hsuffix (taken_lt env p)]
  unfold taken Digested
  by_cases hinfo : p.type = evDispInfoReq
  · have hcheck : ¬ Impl.checkDispConfig cfg p.id.toInt32 p.renderNode.toInt32 = -1 :=
      fun hcheck => hstay ⟨hinfo, hcheck⟩
    have hextra := length_extra_of_ne (p := p) (by rw [hinfo]; decide)
    rw [if_pos hinfo, if_pos hinfo, endsAt_zero_iff hextra]
    exact (or_iff_right hcheck).symm
  rw [if_neg hinfo, if_neg hinfo]
  by_cases hport : p.type = evDispPortReq
  · rw [if_pos hport, if_pos hport]
    exact endsAt_zero_iff (length_extra_of_ne (by rw [hport]; decide))
  rw [if_neg hport, if_neg hport]
  by_cases hcreate : p.type = evCreateBuffer
  · rw [if_pos hcreate, if_pos hcreate]
    exact endsAt_create_iff env (length_extra_of_create hcreate)
  rw [if_neg hcreate, if_neg hcreate]
  have hextra := length_extra_of_ne hcreate
  by_cases hremove : p.type = evRemoveBuffer
  · rw [if_pos hremove, if_pos hremove]
    exact endsAt_remove_iff hextra
  rw [if_neg hremove, if_neg hremove]
  by_cases hdisplay : p.type = evDisplayReq
  · rw [if_pos hdisplay, if_pos hdisplay]
    exact endsAt_display_iff hextra
  · rw [if_neg hdisplay, if_neg hdisplay]
    exact endsAt_zero_iff hextra

end Packet

namespace Impl

/-! ## A run -/

/-- The next header is read where a packet begins, or nothing is left to read. -/
def AtMessage (packets : List Packet) (s : Impl) : Prop :=
  ∃ left, s.feed = Feed.whole left ∧ AtBoundary Packet.wire packets left

theorem atMessage_of_closed {packets : List Packet} (s : Impl) (h : s.feed = []) : s.AtMessage packets :=
  ⟨[], h, atBoundary_of_suffix List.nil_suffix⟩

theorem atMessage_onReady_iff (cfg : Config) (env : Env) {packets behind : List Packet} {p : Packet}
    {s : Impl} (hsuffix : p :: behind <:+ packets)
    (hfeed : s.feed = Feed.whole ((p :: behind).flatMap Packet.wire)) :
    (s.onReady cfg env).AtMessage packets ↔ p.Digested cfg env behind := by
  have hnext := feed_onReady cfg env hfeed
  by_cases hleave : p.type = evDispInfoReq ∧
      checkDispConfig cfg p.id.toInt32 p.renderNode.toInt32 = -1
  · -- The worker leaves, so no further header is read.
    rw [if_pos hleave] at hnext
    have hdigested : p.Digested cfg env behind := by
      rw [Packet.Digested, if_pos hleave.1]
      exact Or.inl hleave.2
    exact iff_of_true (atMessage_of_closed _ hnext) hdigested
  · rw [if_neg hleave] at hnext
    rw [← Packet.atBoundary_iff_digested env cfg hsuffix hleave]
    constructor
    · rintro ⟨left, hleft, hbound⟩
      -- A stream in one piece is known by its bytes.
      have hbytes := congrArg Feed.bytes (hleft.symm.trans hnext)
      rw [Feed.bytes_whole, Feed.bytes_whole] at hbytes
      rwa [hbytes] at hbound
    · intro hbound
      exact ⟨_, hnext, hbound⟩

/-- A turn of the worker that finds a packet digests it. -/
def Digests (cfg : Config) (packets : List Packet) (s : Impl) : Poll → Prop
  | .ready env => s.working = true → s.connected = true → ∀ p behind, p :: behind <:+ packets →
    s.feed = Feed.whole ((p :: behind).flatMap Packet.wire) → p.Digested cfg env behind
  | _ => True

theorem atMessage_turn_iff (cfg : Config) (packets : List Packet) (s : Impl) (result : Poll)
    (h : s.AtMessage packets) :
    (s.turn cfg result).AtMessage packets ↔ s.Digests cfg packets result := by
  have hclosed : ∀ t : Impl, t.feed = [] → t.AtMessage packets := atMessage_of_closed
  unfold turn
  simp only [step]
  by_cases hwork : s.working ∧ s.connected
  · rw [if_pos hwork]
    cases result with
    | failed => simpa [Digests] using hclosed s.close rfl
    | timeout => simpa [Digests] using h
    | ready env =>
      obtain ⟨left, hfeed, hbound⟩ := h
      obtain ⟨ns, hns, rfl⟩ := exists_suffix_of_atBoundary hbound
      constructor
      · intro hnext _ _ p behind hsuffix hp
        exact (atMessage_onReady_iff cfg env hsuffix hp).mp hnext
      · intro hdigests
        cases ns with
        | nil =>
          apply hclosed
          unfold onReady
          rw [hfeed]
          rfl
        | cons p behind =>
          exact (atMessage_onReady_iff cfg env hns hfeed).mpr (hdigests hwork.1 hwork.2 p behind hns hfeed)
  · rw [if_neg hwork]
    cases result with
    | failed => simpa [Digests] using h
    | timeout => simpa [Digests] using h
    | ready env => exact ⟨fun _ hw hc => absurd ⟨hw, hc⟩ hwork, fun _ => h⟩

/-- **The worker reads every header where a packet begins exactly when every packet it meets is digested.** -/
theorem atMessage_iff_digests (cfg : Config) (packets : List Packet) (s : Impl) (polls : List Poll) :
    (∀ t ∈ polls.scanl (turn cfg) (s.rest (Feed.whole (packets.flatMap Packet.wire))),
        t.AtMessage packets) ↔
      Along (turn cfg) (fun s => s.Digests cfg packets)
        (s.rest (Feed.whole (packets.flatMap Packet.wire))) polls := by
  have hstart : (s.rest (Feed.whole (packets.flatMap Packet.wire))).AtMessage packets :=
    ⟨_, rfl, atBoundary_of_suffix List.suffix_rfl⟩
  exact forall_scanl_iff_along (fun s result => atMessage_turn_iff cfg packets s result) hstart

/-- A display request that is too short for a buffer info, and a display port request behind it. -/
def shortDisplay : Packet := ⟨evDisplayReq, 0, 0, [1, 2, 3, 4], Vector.replicate 16 ⟨0, []⟩, by decide⟩

def portRequest : Packet := ⟨evDispPortReq, 0, 0, [], Vector.replicate 16 ⟨0, []⟩, by decide⟩

/-- `DisplayRequest` returns early and leaves the four bytes, which begin the next header. -/
theorem not_atMessage_shortDisplay :
    ¬ ∀ t ∈ [Poll.ready calmEnv].scanl (turn anySession)
        (atWork.rest (Feed.whole ([shortDisplay, portRequest].flatMap Packet.wire))),
        t.AtMessage [shortDisplay, portRequest] := by
  intro hall
  have hnext := hall _ (foldl_mem_scanl _ _)
  have hiff := atMessage_onReady_iff anySession calmEnv
    (s := atWork.rest (Feed.whole ([shortDisplay, portRequest].flatMap Packet.wire))) List.suffix_rfl rfl
  have hdigested := hiff.mp hnext
  revert hdigested
  show ¬ shortDisplay.Digested anySession calmEnv [portRequest]
  simp [Packet.Digested, shortDisplay, evDisplayReq, evDispInfoReq, evDispPortReq, evCreateBuffer,
    evRemoveBuffer]

end Impl

end VhalClient.Display
