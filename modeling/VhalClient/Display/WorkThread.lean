/-
# VhalClient.Display.WorkThread — `start`, `stop` and `workThreadProc` between two client calls.

`Impl.step` runs a turn of the worker's loop at once and lets `stop` find it between two turns.  Here the
two threads are apart: the worker has a place in `workThreadProc` and moves from one test or system call
to the next, a client call can fall between any two of these moves, and `stop` is two moves, the store to
`should_continue_` and what comes behind `join`.  The members stay those of `Impl`, and the moves run the
functions of `Impl`.

`reaches_run` connects the two: whatever a run of `Impl.step` reaches, a run of the two threads reaches.
The question asked of the fine runs is whether `should_continue_` tells the truth.  The worker leaves its
loop in four ways, and three of them (a failed `read`, the end of the stream, a `DISPINFO_REQ` that fails
its check) leave the flag as it is.
-/
import VhalClient.Display.Lifetimes
import Mathlib.Logic.Relation
import Mathlib.Data.List.Induction

namespace VhalClient.Display

open VhalClient.Lib

/-! ## The two threads -/

/-- Where the worker is in its loop. -/
inductive Pc where
  /-- `while (should_continue_)` -/
  | loop
  /-- `while ((not socket_client_->Connected()) && (should_continue_))` -/
  | connect
  | poll
  | read
  /-- Behind the `read`, before the handlers. -/
  | dispatch (ev : DisplayEvent)
  deriving DecidableEq, Repr

/-- What the surroundings answer to one move of the worker: the connection `Connect` makes, if it makes
one; what `poll` returns; what the handlers meet. -/
structure Answer where
  connection : Option (Feed WireByte)
  ret : ℤ
  env : Env

/-- The members, the worker's place in its loop while it is in it, and whether the client is inside
`stop`, at `join`. -/
structure Threads where
  impl : Impl
  pc : Pc
  joining : Bool

inductive Move where
  | start
  | stop
  | setMode (env : Env) (width height : Int32)
  | setVideoAlpha (env : Env) (action : UInt32)
  /-- `join` returns. -/
  | joined
  | worker (answer : Answer)

namespace Threads

def initial : Threads := ⟨Impl.initial, .loop, false⟩

/-- `stop` up to `join`: the result is known when the flag is read. -/
def stop (t : Threads) : Threads :=
  if t.impl.shouldContinue = false then t
  else { t with impl := { t.impl with shouldContinue := false }, joining := true }

/-- `stop` behind `join`. -/
def joined (t : Threads) : Threads :=
  let s := t.impl.close
  let s := s.mHandles.entries.foldl (fun s e => s.releaseHandle e.1 e.2) s
  { t with impl := { s with mHandles := .empty }, joining := false }

/-- One move of the worker from its place. -/
def work (cfg : Config) (t : Threads) (answer : Answer) : Threads :=
  match t.pc with
  | .loop =>
    if t.impl.shouldContinue then { t with pc := .connect }
    else { t with impl := t.impl.leave }
  | .connect =>
    if t.impl.connected = false ∧ t.impl.shouldContinue then
      match answer.connection with
      | none => t
      | some f => { t with impl := { t.impl with connected := true, feed := f } }
    else { t with pc := .poll }
  | .poll =>
    if answer.ret < 0 then { t with impl := t.impl.close, pc := .loop }
    else if answer.ret = 0 then { t with pc := .loop }
    else { t with pc := .read }
  | .read =>
    match recvBytes sizeofDisplayEvent t.impl.feed with
    | (none, _) => { t with impl := t.impl.leave }
    | (some bytes, f) =>
      let ev := Layout.displayEvent.read bytes
      let type := translateEvType ev.type
      { t with
        impl := (t.impl.rest f).log [.updateEventCount type, .logGenericEventInfo type (some ev)]
        pc := .dispatch ev }
  | .dispatch ev => { t with impl := t.impl.dispatch cfg answer.env ev, pc := .loop }

/-- A call of the client happens while it is in no other call; the worker moves while it is in its loop;
`join` returns when it is not. -/
def step (cfg : Config) (t : Threads) : Move → Threads
  | .start =>
    if t.joining ∨ t.impl.shouldContinue then t else { t with impl := t.impl.start.2, pc := .loop }
  | .stop => if t.joining then t else t.stop
  | .setMode env width height =>
    if t.joining then t else { t with impl := t.impl.setMode env width height }
  | .setVideoAlpha env action =>
    if t.joining then t else { t with impl := t.impl.setVideoAlpha env action }
  | .joined => if t.joining ∧ t.impl.working = false then t.joined else t
  | .worker answer => if t.impl.working then t.work cfg answer else t

/-! ## What a move does to the flag and the worker -/

/-- The worker's next move leaves the loop. -/
def Ends (cfg : Config) (t : Threads) : Prop :=
  match t.pc with
  | .loop => t.impl.shouldContinue = false
  | .connect => False
  | .poll => False
  | .read => (recvBytes sizeofDisplayEvent t.impl.feed).1 = none
  | .dispatch ev => Impl.Rejects cfg ev

/-- No move of the worker writes `should_continue_`. -/
theorem shouldContinue_work (cfg : Config) (t : Threads) (a : Answer) :
    (t.work cfg a).impl.shouldContinue = t.impl.shouldContinue := by
  unfold work
  split
  · split <;> rfl
  · split
    · split <;> rfl
    · rfl
  · split
    · rfl
    · split <;> rfl
  · split
    · rfl
    · exact Impl.shouldContinue_of_control (Impl.control_log _ _)
  · rename_i ev hpc
    by_cases hrej : Impl.Rejects cfg ev
    · rw [Impl.dispatch_of_rejects hrej]
      rfl
    · exact Impl.shouldContinue_of_control (Impl.control_dispatch hrej a.env t.impl)

/-- A worker in its loop stays there unless its move is one that leaves. -/
theorem working_work (cfg : Config) (t : Threads) (a : Answer) (hwork : t.impl.working = true) :
    (t.work cfg a).impl.working = true ↔ ¬ t.Ends cfg := by
  unfold work Ends
  split
  · split
    · simp [*]
    · simp [Impl.leave, *]
  · split
    · split <;> simp [hwork]
    · simp [hwork]
  · split
    · simpa [Impl.close] using hwork
    · split <;> simpa using hwork
  · split
    · rename_i f hrecv
      rw [hrecv]
      simp [Impl.leave]
    · rename_i bytes f hrecv
      have hkeeps : ∀ calls, ((t.impl.rest f).log calls).working = true := fun calls =>
        (Impl.working_of_control (Impl.control_log (t.impl.rest f) calls)).trans hwork
      rw [hrecv]
      simp [hkeeps]
  · rename_i ev hpc
    by_cases hrej : Impl.Rejects cfg ev
    · simp [Impl.dispatch_of_rejects hrej, Impl.leave, hrej]
    · have hkeeps : (t.impl.dispatch cfg a.env ev).working = true :=
        (Impl.working_of_control (Impl.control_dispatch hrej a.env t.impl)).trans hwork
      simp [hkeeps, hrej]

/-! ## The turns of `Impl.step` are made of these moves -/

/-- Some move leads from one state to the other. -/
def Moves (cfg : Config) (t t' : Threads) : Prop := ∃ m, t.step cfg m = t'

/-- The client is in no call, and the worker, if there is one, is in front of its next `poll`. -/
structure Resting (t : Threads) : Prop where
  settled : t.impl.Settled
  client : t.joining = false
  place : t.impl.working = true → t.pc = .loop ∨ t.pc = .connect

/-- The answers that matter to no test. -/
def idle : Answer := ⟨none, 0, ⟨none, fun _ => 0, 0⟩⟩

theorem moves_worker (cfg : Config) {t : Threads} (hwork : t.impl.working = true) (a : Answer) :
    Moves cfg t (t.work cfg a) := ⟨.worker a, by rw [step, if_pos hwork]⟩

/-- A worker that is to go on comes to its inner loop. -/
theorem Resting.connect (cfg : Config) {t : Threads} (h : t.Resting) (hwork : t.impl.working = true) :
    Relation.ReflTransGen (Moves cfg) t { t with pc := .connect } := by
  rcases h.place hwork with hpc | hpc
  · have hmove := moves_worker cfg hwork idle
    rw [work, hpc] at hmove
    dsimp only at hmove
    rw [if_pos (h.settled.started hwork)] at hmove
    exact .single hmove
  · rw [← hpc]

/-- A state with these members is reached, with the client and the worker at their resting places. -/
def ReachesImpl (cfg : Config) (t : Threads) (s : Impl) : Prop :=
  ∃ t', Relation.ReflTransGen (Moves cfg) t t' ∧ t'.impl = s ∧ t'.joining = false ∧
    (s.working = true → t'.pc = .loop ∨ t'.pc = .connect)

theorem Resting.reaches_self (cfg : Config) {t : Threads} (h : t.Resting) :
    ReachesImpl cfg t t.impl := ⟨t, .refl, rfl, h.client, h.place⟩

theorem Resting.reaches_stop (cfg : Config) {t : Threads} (h : t.Resting) :
    ReachesImpl cfg t t.impl.stop.2 := by
  cases hflag : t.impl.shouldContinue with
  | false =>
    rw [Impl.stop, if_pos hflag]
    exact h.reaches_self cfg
  | true =>
    rw [Impl.stop, if_neg (by simp [hflag])]
    -- The state inside `stop`, with the worker at a place of its loop.
    let u (pc : Pc) : Threads :=
      { impl := { t.impl with shouldContinue := false }, pc := pc, joining := true }
    have hstop : ∀ pc, Moves cfg { t with pc := pc } (u pc) := by
      intro pc
      refine ⟨.stop, ?_⟩
      simp [step, stop, h.client, hflag, u]
    cases hwork : t.impl.working with
    | false =>
      -- The worker has left by itself: `join` returns at once.
      have hjoined : Moves cfg (u t.pc) (u t.pc).joined := ⟨.joined, by simp [step, u, hwork]⟩
      refine ⟨(u t.pc).joined, (Relation.ReflTransGen.single (hstop t.pc)).tail hjoined, ?_, rfl, ?_⟩
      · have hleft : { t.impl.leave with shouldContinue := false } = (u t.pc).impl.close := by
          simp [u, Impl.leave, Impl.close, hwork]
        rw [hleft]
        rfl
      · intro hrunning
        rw [Impl.working_of_control (Impl.control_foldl_release _ _)] at hrunning
        cases hrunning
    | true =>
      have hu : ∀ pc, (u pc).impl.working = true := fun _ => hwork
      have hpoll : Moves cfg (u .connect) (u .poll) := by
        have hmove := moves_worker cfg (hu .connect) idle
        simpa [work, u] using hmove
      have hloop : Moves cfg (u .poll) (u .loop) := moves_worker cfg (hu .poll) idle
      let v : Threads := { u .loop with impl := (u .loop).impl.leave }
      have hleave : Moves cfg (u .loop) v := moves_worker cfg (hu .loop) idle
      have hjoined : Moves cfg v v.joined := ⟨.joined, rfl⟩
      have hreach := (h.connect cfg hwork).tail (hstop .connect)
      exact ⟨v.joined, (((hreach.tail hpoll).tail hloop).tail hleave).tail hjoined, rfl, rfl,
        fun _ => .inl rfl⟩

theorem Resting.reaches_connect (cfg : Config) {t : Threads} (h : t.Resting)
    (connection : Option (Feed WireByte)) :
    ReachesImpl cfg t (t.impl.step cfg (.connect connection)) := by
  simp only [Impl.step]
  split
  · rename_i hfree
    let u : Threads := { t with pc := .connect }
    have hmove := moves_worker cfg (show u.impl.working = true from hfree.1)
      { idle with connection := connection }
    have htest : u.impl.connected = false ∧ u.impl.shouldContinue := ⟨hfree.2, h.settled.started hfree.1⟩
    rw [show u.work cfg _ = _ from if_pos htest] at hmove
    refine ⟨_, (h.connect cfg hfree.1).tail hmove, ?_⟩
    cases connection with
    | none => exact ⟨rfl, h.client, fun _ => .inr rfl⟩
    | some f => exact ⟨rfl, h.client, fun _ => .inr rfl⟩
  · exact h.reaches_self cfg

theorem Resting.reaches_poll (cfg : Config) {t : Threads} (h : t.Resting) (result : Poll) :
    ReachesImpl cfg t (t.impl.step cfg (.poll result)) := by
  simp only [Impl.step]
  split
  · rename_i hup
    let u (pc : Pc) : Threads := { t with pc := pc }
    have hu : ∀ pc, (u pc).impl.working = true := fun _ => hup.1
    have hpoll : Relation.ReflTransGen (Moves cfg) t (u .poll) := by
      have hmove := moves_worker cfg (hu .connect) idle
      simp only [work, u, hup.2, Bool.true_eq_false, false_and, if_false] at hmove
      exact (h.connect cfg hup.1).tail hmove
    cases result with
    | failed =>
      have hmove := moves_worker cfg (hu .poll) { idle with ret := -1 }
      exact ⟨_, hpoll.tail hmove, rfl, h.client, fun _ => .inl rfl⟩
    | timeout =>
      have hmove := moves_worker cfg (hu .poll) idle
      exact ⟨_, hpoll.tail hmove, rfl, h.client, fun _ => .inl rfl⟩
    | ready env =>
      have hread : Moves cfg (u .poll) (u .read) := moves_worker cfg (hu .poll) { idle with ret := 1 }
      have hmove := moves_worker cfg (hu .read) idle
      simp only [work, u] at hmove
      simp only [Impl.onReady]
      rcases hrecv : recvBytes sizeofDisplayEvent t.impl.feed with ⟨_ | bytes, f⟩
      · simp only [hrecv] at hmove
        exact ⟨_, (hpoll.tail hread).tail hmove, rfl, h.client, fun hwork => by cases hwork⟩
      · simp only [hrecv] at hmove
        refine ⟨_, ((hpoll.tail hread).tail hmove).tail
          (moves_worker cfg ?_ { idle with env := env }), rfl, h.client, fun _ => .inl rfl⟩
        exact (Impl.working_of_control (Impl.control_log _ _)).trans hup.1
  · exact h.reaches_self cfg

theorem Resting.reaches_step (cfg : Config) {t : Threads} (h : t.Resting) (i : Input) :
    ReachesImpl cfg t (t.impl.step cfg i) := by
  cases i with
  | start =>
    simp only [Impl.step, Impl.start]
    split
    · exact h.reaches_self cfg
    · rename_i hflag
      have hmove : Moves cfg t { t with impl := t.impl.start.2, pc := .loop } :=
        ⟨.start, by simp [step, h.client, hflag]⟩
      refine ⟨_, .single hmove, ?_, h.client, fun _ => .inl rfl⟩
      rw [Impl.start, if_neg hflag]
  | stop => exact h.reaches_stop cfg
  | setMode env width height =>
    have hmove : Moves cfg t { t with impl := t.impl.setMode env width height } :=
      ⟨.setMode env width height, by simp [step, h.client]⟩
    refine ⟨_, .single hmove, rfl, h.client, fun hwork => h.place ?_⟩
    exact (Impl.working_of_control (Impl.control_setMode env width height t.impl)).symm.trans hwork
  | setVideoAlpha env action =>
    have hmove : Moves cfg t { t with impl := t.impl.setVideoAlpha env action } :=
      ⟨.setVideoAlpha env action, by simp [step, h.client]⟩
    refine ⟨_, .single hmove, rfl, h.client, fun hwork => h.place ?_⟩
    exact (Impl.working_of_control (Impl.control_setVideoAlpha env action t.impl)).symm.trans hwork
  | connect connection => exact h.reaches_connect cfg connection
  | poll result => exact h.reaches_poll cfg result

/-- **The two threads refine into turns.** Whatever a run of `Impl.step` reaches, the two threads reach:
what holds in every state of theirs holds in every state of the coarser machine. -/
theorem reaches_run (cfg : Config) (is : List Input) :
    ∃ t, Relation.ReflTransGen (Moves cfg) initial t ∧ t.impl = is.foldl (Impl.step cfg) Impl.initial ∧
      t.Resting := by
  induction is using List.reverseRecOn with
  | nil =>
    exact ⟨initial, .refl, rfl, fun _ => ⟨rfl, rfl⟩, rfl, fun _ => .inl rfl⟩
  | append_singleton is i ih =>
    obtain ⟨t, hreach, himpl, hrest⟩ := ih
    obtain ⟨t', hturn, himpl', hclient, hplace⟩ := hrest.reaches_step cfg i
    refine ⟨t', hreach.trans hturn, ?_, ?_, hclient, ?_⟩
    · rw [List.foldl_concat, ← himpl, himpl']
    · rw [himpl']
      exact Impl.settled_step cfg t.impl i hrest.settled
    · rw [himpl']
      exact hplace

/-! ## Does the flag tell the truth? -/

/-- What a client of `start` relies on: `should_continue_` is set only while a worker is in its loop,
"Already started" is said only then, and without a worker `start` makes one. -/
structure Truthful (cfg : Config) (t : Threads) : Prop where
  running : t.impl.shouldContinue = true → t.impl.working = true
  refused : t.impl.start.1 = (-1, "ERROR: Already started!") → t.impl.working = true
  restarts : t.impl.working = false → t.joining = false →
    t.impl.start.1 = (0, "") ∧ (t.step cfg .start).impl.working = true

/-- The last two follow from the first. -/
theorem truthful_iff (cfg : Config) (t : Threads) :
    t.Truthful cfg ↔ (t.impl.shouldContinue = true → t.impl.working = true) := by
  constructor
  · intro h
    exact h.running
  · intro h
    cases hflag : t.impl.shouldContinue with
    | true =>
      have hwork := h hflag
      refine ⟨fun _ => hwork, fun _ => hwork, ?_⟩
      intro hnone
      rw [hwork] at hnone
      cases hnone
    | false =>
      have hstart : t.impl.start = ((0, ""), { t.impl with shouldContinue := true, working := true }) := by
        rw [Impl.start, hflag]
        rfl
      refine ⟨h, fun hrefused => ?_, fun _ hclient => ⟨?_, ?_⟩⟩
      · rw [hstart] at hrefused
        cases hrefused
      · rw [hstart]
      · simp [step, hclient, hflag, hstart]

/-- The worker does not leave its loop by itself: no `read` of a header returns 0 or less and no
`DISPINFO_REQ` fails its check, except when `stop` has already cleared the flag. -/
def Stays (cfg : Config) (t : Threads) : Move → Prop
  | .worker _ => t.impl.shouldContinue = true →
    match t.pc with
    | .read => (recvBytes sizeofDisplayEvent t.impl.feed).1 ≠ none
    | .dispatch ev => ¬ Impl.Rejects cfg ev
    | _ => True
  | _ => True

theorem stays_worker (cfg : Config) (t : Threads) (a : Answer) :
    t.Stays cfg (.worker a) ↔ (t.impl.shouldContinue = true → ¬ t.Ends cfg) := by
  unfold Stays Ends
  cases t.pc <;> simp

theorem running_of_control {s s' : Impl} (hkeeps : s'.control = s.control)
    (h : s.shouldContinue = true → s.working = true) :
    s'.shouldContinue = true → s'.working = true := by
  rw [Impl.shouldContinue_of_control hkeeps, Impl.working_of_control hkeeps]
  exact h

/-- One move keeps the flag true exactly when the worker does not leave by itself. -/
theorem running_step (cfg : Config) (t : Threads) (m : Move)
    (h : t.impl.shouldContinue = true → t.impl.working = true) :
    ((t.step cfg m).impl.shouldContinue = true → (t.step cfg m).impl.working = true) ↔
      t.Stays cfg m := by
  cases m with
  | start =>
    refine iff_of_true ?_ trivial
    simp only [step]
    split
    · exact h
    · rename_i hstart
      intro _
      have hflag : t.impl.shouldContinue = false := by simpa using fun hset => hstart (.inr hset)
      rw [Impl.start, hflag]
      rfl
  | stop =>
    refine iff_of_true ?_ trivial
    simp only [step, stop]
    split
    · exact h
    · split
      · exact h
      · exact fun hset => by cases hset
  | setMode env width height =>
    refine iff_of_true ?_ trivial
    simp only [step]
    split
    · exact h
    · exact running_of_control (Impl.control_setMode env width height t.impl) h
  | setVideoAlpha env action =>
    refine iff_of_true ?_ trivial
    simp only [step]
    split
    · exact h
    · exact running_of_control (Impl.control_setVideoAlpha env action t.impl) h
  | joined =>
    refine iff_of_true ?_ trivial
    simp only [step]
    split
    · have hkeeps : t.joined.impl.control = t.impl.close.control :=
        Impl.control_foldl_release t.impl.close.mHandles.entries t.impl.close
      exact running_of_control hkeeps h
    · exact h
  | worker a =>
    rw [stays_worker]
    simp only [step]
    split
    · rename_i hwork
      rw [shouldContinue_work, working_work cfg t a hwork]
    · rename_i hwork
      have hflag : ¬ t.impl.shouldContinue = true := fun hset => hwork (h hset)
      exact iff_of_true h fun hset => absurd hset hflag

/-- **The flag over whole runs.** However client calls and moves of the worker interleave,
`should_continue_` tells the truth in every state exactly when the worker never leaves its loop by
itself. -/
theorem truthful_iff_stays (cfg : Config) (ms : List Move) :
    (∀ t ∈ ms.scanl (step cfg) initial, t.Truthful cfg) ↔ Along (step cfg) (Stays cfg) initial ms := by
  simp only [truthful_iff]
  refine forall_scanl_iff_along (fun t m h => running_step cfg t m h) ?_
  intro hset
  cases hset

/-- The server closes the connection: the worker is gone, and `start` answers "Already started". -/
theorem not_truthful_disconnect :
    ¬ ∀ (cfg : Config) (ms : List Move), ∀ t ∈ ms.scanl (step cfg) initial, t.Truthful cfg := by
  intro h
  let cfg : Config := ⟨-1, 1280, 720, 0, 128⟩
  let a : Answer := ⟨some [], 1, ⟨none, fun _ => 0, 1⟩⟩
  -- `start`, then: enter the loop, connect, leave the inner loop, poll, read 0 bytes.
  let ms : List Move := [.start, .worker a, .worker a, .worker a, .worker a, .worker a]
  have hlast := h cfg ms (ms.foldl (step cfg) initial) (foldl_mem_scanl initial ms)
  have hnone : (ms.foldl (step cfg) initial).impl.working = false := rfl
  have hsays : (ms.foldl (step cfg) initial).impl.start.1 = (-1, "ERROR: Already started!") := rfl
  rw [hlast.refused hsays] at hnone
  cases hnone

end Threads

end VhalClient.Display
