/-
# VhalClient.Display.Chunking — how the stream is cut, and what the client sees of it.

The header, the buffer info, the gralloc handle, the control block and the carrier of the descriptors are each
read with one call whose result is only compared with 0.  A call that returns fewer bytes than the struct has
leaves the rest of the struct to the next read, so what the client sees depends on how the stream was cut.
`MSG_WAITALL` does not help the carrier: its first piece brings the descriptors, and they end the call.
`effect_eq_of_uncut` says when the cuts are invisible: when none falls inside one of these structs.

The proof is a simulation: the run on the stream as it was cut and the run on the stream in one piece go
through the same states, but for what is left of the stream.
-/
import VhalClient.Display.Messages

namespace VhalClient.Display

open VhalClient.Lib

/-! ## Handling a message does not look at the stream -/

namespace Impl

theorem rest_congr {s t : Impl} (h : s.rest [] = t.rest []) (f : Feed WireByte) : s.rest f = t.rest f := by
  show (s.rest []).rest f = (t.rest []).rest f
  rw [h]

theorem log_rest (s : Impl) (f : Feed WireByte) (calls : List LogCall) :
    (s.rest f).log calls = (s.log calls).rest f := by
  induction calls generalizing s with
  | nil => rfl
  | cons c calls ih => exact ih (s.emit (.log c))

theorem send_rest (s : Impl) (f : Feed WireByte) (env : Env) (bytes : List UInt8) :
    (s.rest f).send env bytes = ((s.send env bytes).1, (s.send env bytes).2.rest f) := by
  unfold send
  split <;> rfl

theorem sendLogged_rest (s : Impl) (f : Feed WireByte) (env : Env) (bytes : List UInt8)
    (calls : List LogCall) :
    (s.rest f).sendLogged env bytes calls = (s.sendLogged env bytes calls).rest f := by
  unfold sendLogged
  rw [send_rest]
  rcases s.send env bytes with ⟨_ | _, t⟩
  · rfl
  · exact t.log_rest f calls

theorem insertHandle_rest (s : Impl) (f : Feed WireByte) (remote : UInt64) (handle : Handle) :
    (s.rest f).insertHandle remote handle = (s.insertHandle remote handle).rest f := by
  unfold insertHandle
  rw [show (s.rest f).mHandles = s.mHandles from rfl]
  split <;> rfl

theorem displayFrame_rest (s : Impl) (f : Feed WireByte) (env : Env) (info : BufferInfo)
    (ctrl : Option DisplayControl) :
    (s.rest f).displayFrame env info ctrl = (s.displayFrame env info ctrl).rest f := by
  unfold displayFrame
  rw [show (s.rest f).mHandles = s.mHandles from rfl]
  split
  · rfl
  · exact sendLogged_rest (s.emit _) f env _ _

end Impl

namespace Body

variable (cfg : Config) (env : Env) (ev : DisplayEvent) (s : Impl) (f : Feed WireByte)

/-- The body ends the worker. -/
def Ends (body : Body) : Prop :=
  body.type = evDispInfoReq ∧ Impl.checkDispConfig cfg ev.id.toInt32 ev.renderNode.toInt32 = -1

variable {cfg ev} in
theorem stays_of_type {body : Body} (h : body.type ≠ evDispInfoReq) : ¬ body.Ends cfg ev :=
  fun hends => h hends.1

theorem act_rest (body : Body) (hstay : ¬ body.Ends cfg ev) :
    body.act cfg env ev (s.rest f) = (body.act cfg env ev s).rest f := by
  cases body with
  | dispInfoReq =>
    have hcheck : ¬ Impl.checkDispConfig cfg ev.id.toInt32 ev.renderNode.toInt32 = -1 :=
      fun hcheck => hstay ⟨rfl, hcheck⟩
    simp only [act, if_neg hcheck, Impl.updateDispConfig, Impl.send_rest, Impl.log_rest]
  | dispPortReq => simp only [act, Impl.updateDispPort, Impl.send_rest, Impl.log_rest]
  | createBuffer info gralloc fds =>
    simp only [act]
    rw [show (s.rest f).allocate = s.allocate.rest f from rfl, Impl.log_rest, Impl.insertHandle_rest]
    rfl
  | removeBuffer info =>
    simp only [act, Impl.log_rest]
    rw [show ((s.log [.addBufferInfoStruct info 2]).rest f).mHandles =
      (s.log [.addBufferInfoStruct info 2]).mHandles from rfl]
    split <;> rfl
  | displayReq info ctrl =>
    simp only [act, Impl.log_rest, Impl.displayFrame_rest]

theorem act_of_ends (body : Body) (hends : body.Ends cfg ev) :
    body.act cfg env ev s = s.leave := by
  obtain ⟨htype, hcheck⟩ := hends
  cases body with
  | dispInfoReq => simp only [act, if_pos hcheck]
  | dispPortReq => exact absurd htype (by decide)
  | createBuffer info gralloc fds => exact absurd htype (show ¬ evCreateBuffer = evDispInfoReq by decide)
  | removeBuffer info => exact absurd htype (show ¬ evRemoveBuffer = evDispInfoReq by decide)
  | displayReq info ctrl => exact absurd htype (show ¬ evDisplayReq = evDispInfoReq by decide)

end Body

theorem Message.act_rest (cfg : Config) (env : Env) (m : Message) (s : Impl) (f : Feed WireByte)
    (hstay : ¬ m.body.Ends cfg m.event) : m.act cfg env (s.rest f) = (m.act cfg env s).rest f := by
  unfold Message.act
  dsimp only
  rw [Impl.log_rest, Body.act_rest _ _ _ _ _ _ hstay]

/-- Whatever follows on the stream, a message does the same. -/
theorem Message.act_rest_cases (cfg : Config) (env : Env) (m : Message) (s : Impl) :
    (∀ f, m.act cfg env (s.rest f) = (m.act cfg env s).rest f) ∨
      (∀ f, m.act cfg env (s.rest f) = (m.act cfg env s) ∧ (m.act cfg env s).feed = []) := by
  by_cases hends : m.body.Ends cfg m.event
  · right
    intro f
    unfold Message.act
    dsimp only
    rw [Impl.log_rest, Body.act_of_ends _ _ _ _ _ hends, Body.act_of_ends _ _ _ _ _ hends]
    exact ⟨rfl, rfl⟩
  · exact Or.inl fun f => m.act_rest cfg env s f hends

/-! ## The simulation -/

namespace Impl

/-- The two receivers are in the same state and have the same messages ahead; the stream of the first is cut
outside the structs, the stream of the second is not cut. -/
structure Alike (s t : Impl) (ms : List Message) : Prop where
  wellFormed : ∀ m ∈ ms, m.WellFormed
  bytes : s.feed.bytes = ms.flatMap Message.wire
  uncut : s.feed.Uncut (ms.flatMap Message.units)
  whole : t.feed = Feed.whole (ms.flatMap Message.wire)
  same : s.rest [] = t.rest []

/-- A connection with nothing left on it ends the worker. -/
theorem onReady_of_bytes_nil (cfg : Config) (env : Env) {s : Impl} (h : s.feed.bytes = []) :
    s.onReady cfg env = s.leave := by
  unfold onReady
  cases hfeed : s.feed with
  | nil => rfl
  | cons a f =>
    cases a with
    | chunk b bs => simp [hfeed, Feed.bytes] at h
    | error => rfl

theorem alike_of_closed {s : Impl} (h : s.feed = []) : Alike s s [] :=
  ⟨by simp, by rw [h]; rfl, trivial, h, rfl⟩

theorem leave_congr {s t : Impl} (h : s.rest [] = t.rest []) : s.leave = t.leave := by
  show (s.rest []).leave = (t.rest []).leave
  rw [h]

/-- **A turn on either stream is the same turn.** -/
theorem alike_onReady (cfg : Config) {env : Env} (hblock : env.block.isSome) {s t : Impl}
    {ms : List Message} (h : Alike s t ms) :
    ∃ ms', Alike (s.onReady cfg env) (t.onReady cfg env) ms' := by
  cases ms with
  | nil =>
    -- Nothing is ahead: both connections are at their end, and both workers leave.
    refine ⟨[], ?_⟩
    rw [onReady_of_bytes_nil cfg env h.bytes, onReady_of_bytes_nil cfg env (by rw [h.whole]; rfl),
      leave_congr h.same]
    exact alike_of_closed rfl
  | cons m ms =>
    have hm := h.wellFormed m List.mem_cons_self
    have hms : ∀ m ∈ ms, m.WellFormed := fun m hmem => h.wellFormed m (List.mem_cons_of_mem _ hmem)
    obtain ⟨hbytes, hcut⟩ := And.intro h.bytes h.uncut
    rw [List.flatMap_cons] at hbytes hcut
    obtain ⟨hthis, hnext⟩ := Feed.uncut_append.mp hcut
    have hlen := m.length_wire
    -- In one piece, the message is uncut as well.
    have hwhole : t.feed = Feed.whole (m.wire ++ ms.flatMap Message.wire) := by
      rw [h.whole, List.flatMap_cons]
    have hle : m.units.sum ≤ (m.wire ++ ms.flatMap Message.wire).length := by
      rw [List.length_append]
      omega
    have hs := onReady_message cfg env s m hm hblock hbytes hthis
    have ht := onReady_message cfg env t m hm hblock (by rw [hwhole, Feed.bytes_whole])
      (by rw [hwhole]; exact Feed.uncut_whole hle)
    rw [rest_congr h.same] at hs
    have hleft : (s.feed.skipAll m.units).bytes = ms.flatMap Message.wire := by
      rw [Feed.bytes_skipAll (by rw [hbytes]; exact hle), hbytes, ← hlen, List.drop_left]
    have hright : t.feed.skipAll m.units = Feed.whole (ms.flatMap Message.wire) := by
      rw [hwhole, Feed.skipAll_whole hle, ← hlen, List.drop_left]
    rcases m.act_rest_cases cfg env t with hstay | hends
    · refine ⟨ms, ?_⟩
      rw [hs, ht, hstay, hstay]
      exact ⟨hms, hleft, hnext, hright, rfl⟩
    · -- A worker that leaves closes its connection, with whatever was still on it.
      refine ⟨[], ?_⟩
      rw [hs, ht, (hends _).1, (hends _).1]
      exact alike_of_closed (hends []).2

theorem alike_turn (cfg : Config) {result : Poll} (hblock : ∀ env, result = .ready env → env.block.isSome)
    {s t : Impl} (h : ∃ ms, Alike s t ms) : ∃ ms, Alike (s.turn cfg result) (t.turn cfg result) ms := by
  obtain ⟨ms, h⟩ := h
  have hwork : (s.rest []).working = (t.rest []).working := by rw [h.same]
  have hconn : (s.rest []).connected = (t.rest []).connected := by rw [h.same]
  change s.working = t.working at hwork
  change s.connected = t.connected at hconn
  unfold turn
  simp only [step, hwork, hconn]
  split
  · cases result with
    | failed =>
      have hclose : s.close = t.close := by
        show (s.rest []).close = (t.rest []).close
        rw [h.same]
      refine ⟨[], ?_⟩
      dsimp only
      rw [hclose]
      exact alike_of_closed rfl
    | timeout => exact ⟨ms, h⟩
    | ready env => exact alike_onReady cfg (hblock env rfl) h
  · exact ⟨ms, h⟩

end Impl

/-! ## What the client and the server see -/

/-- Calls of the client's handler and bytes sent. -/
def Output.outside : Output → Bool
  | .handler _ _ _ _ => true
  | .sent _ => true
  | _ => false

namespace Impl

/-- The callbacks and acknowledgements so far, newest first, and the handles. -/
def effect (s : Impl) : List Output × OrdMap UInt64 Handle :=
  (s.history.filter Output.outside, s.mHandles)

/-- **The cuts are invisible**: whatever the messages, if no cut falls inside a struct, each of which is read
with one call, the run has the effect it has on the stream in one piece. -/
theorem effect_eq_of_uncut (cfg : Config) (s : Impl) (ms : List Message) (f : Feed WireByte)
    (polls : List Poll) (hms : ∀ m ∈ ms, m.WellFormed) (hf : f.bytes = ms.flatMap Message.wire)
    (hcut : f.Uncut (ms.flatMap Message.units))
    (hblock : ∀ env, Poll.ready env ∈ polls → env.block.isSome) :
    (polls.foldl (turn cfg) (s.rest f)).effect =
      (polls.foldl (turn cfg) (s.rest (Feed.whole f.bytes))).effect := by
  have hstart : ∃ ms, Alike (s.rest f) (s.rest (Feed.whole f.bytes)) ms :=
    ⟨ms, hms, hf, hcut, by rw [← hf]; rfl, rfl⟩
  obtain ⟨ms', hend⟩ := List.foldl_rel (r := fun s t => ∃ ms, Alike s t ms) hstart
    fun result hmem s t h => alike_turn cfg (fun env heq => hblock env (heq ▸ hmem)) h
  have heffect (s : Impl) : s.effect = (s.rest []).effect := rfl
  rw [heffect, hend.same]
  rfl

/-- The stream in two pieces. -/
def cutAt (n : ℕ) (l : List WireByte) : Feed WireByte := Feed.push (l.take n) (Feed.whole (l.drop n))

/-- A `CREATE_BUFFER` that comes in two pieces, the second of which is the carrier. -/
theorem effect_eq_cutCreate :
    (blankCreate 7).WellFormed ∧
    ([Poll.ready calmEnv].foldl (turn anySession) (atWork.rest (cutAt 228 (blankCreate 7).wire))).effect =
      ([Poll.ready calmEnv].foldl (turn anySession)
        (atWork.rest (Feed.whole (cutAt 228 (blankCreate 7).wire).bytes))).effect := by
  have hcreate : (blankCreate 7).WellFormed := ⟨rfl, rfl, by decide +kernel, by decide +kernel, by simp⟩
  refine ⟨hcreate, effect_eq_of_uncut anySession atWork [blankCreate 7] _ _ ?_ ?_ ?_ ?_⟩
  · simpa using hcreate
  · decide +kernel
  · exact ⟨by decide +kernel, by decide +kernel, by decide +kernel, by decide +kernel, trivial⟩
  · intro env hmem
    obtain rfl : env = calmEnv := by simpa using hmem
    rfl

def portMessage : Message := ⟨⟨evDispPortReq, 16, 0, 0⟩, .dispPortReq⟩

/-- A buffer is created and the display port is asked for. -/
def createAndPort : List Message := [blankCreate 7, portMessage]

/-- The display port request is never acknowledged: alone, when it is cut behind the first byte of its header; and
behind a `CREATE_BUFFER` that is cut inside its carrier. -/
theorem not_effect_eq_cut :
    portMessage.WellFormed ∧ (blankCreate 7).WellFormed ∧
    (cutAt 1 portMessage.wire).bytes = [portMessage].flatMap Message.wire ∧
    (cutAt 235 (createAndPort.flatMap Message.wire)).bytes = createAndPort.flatMap Message.wire ∧
    ¬ ((List.replicate 2 (Poll.ready calmEnv)).foldl (turn anySession)
        (atWork.rest (cutAt 1 portMessage.wire))).effect =
      ((List.replicate 2 (Poll.ready calmEnv)).foldl (turn anySession)
        (atWork.rest (Feed.whole (cutAt 1 portMessage.wire).bytes))).effect ∧
    ¬ ((List.replicate 3 (Poll.ready calmEnv)).foldl (turn anySession)
        (atWork.rest (cutAt 235 (createAndPort.flatMap Message.wire)))).effect =
      ((List.replicate 3 (Poll.ready calmEnv)).foldl (turn anySession)
        (atWork.rest (Feed.whole (cutAt 235 (createAndPort.flatMap Message.wire)).bytes))).effect := by
  have hcreate : (blankCreate 7).WellFormed := ⟨rfl, rfl, by decide +kernel, by decide +kernel, by simp⟩
  refine ⟨⟨rfl, trivial⟩, hcreate, by decide +kernel, by decide +kernel, ?_, ?_⟩
  · intro heq
    have hsent := congrArg Prod.fst heq
    revert hsent
    decide +kernel
  · intro heq
    have hsent := congrArg Prod.fst heq
    revert hsent
    decide +kernel

end Impl

end VhalClient.Display
