/-
# VhalClient.Talkers.Termination — the end of the thread the destructor joins.

The destructor of each of the four classes clears `should_continue_` and joins the talker's thread, which may be
anywhere: in front of a `Connect`, between the sends of an announcement, behind a `poll`.  `thread_ends` says that
from any place in any run the thread has seven moves left at most, whatever the socket answers, and that it is an
exception of `poll` or `Connect` if it ends otherwise than by returning.  A move is one test or call that comes back;
`poll` has a timeout of a second, but a `Recv` over TCP waits as long as the other end does.
-/
import VhalClient.Talkers.UserId

namespace VhalClient.Talkers

open VhalClient.Lib VhalClient.Socket

namespace Move

/-- A move of the talker's own. -/
def isTalker : Move → Bool
  | talker _ => true
  | stop => false

/-- In the move neither `poll` nor `socket` fails. -/
def Fair : Move → Prop
  | talker a => a.ret ≠ -1 ∧ 0 ≤ a.dial.socket
  | stop => True

end Move

namespace Talker

/-- The moves a talker can still make when it is not to continue. -/
def movesLeft (t : Talker) : ℕ :=
  match t.pc with
  | .outer => 1
  | .connect => 7
  | .announce rest => 4 + rest.length
  | .poll => 3
  | .inner => 2
  | .returned => 0
  | .threw => 0

theorem ended_of_movesLeft {t : Talker} (h : t.movesLeft = 0) : t.pc = .returned ∨ t.pc = .threw := by
  unfold movesLeft at h
  split at h
  all_goals first
    | omega
    | simp [*]

variable {t : Talker}

/-- What a move of the talker's own does to the moves left, and when it ends in an exception. -/
structure Advances (a : Answer) (t u : Talker) : Prop where
  bounded : t.movesLeft ≤ 7 → u.movesLeft ≤ 7
  flag : u.shouldContinue = t.shouldContinue
  fewer : t.shouldContinue = false → u.movesLeft ≤ t.movesLeft - 1
  threw : u.pc = .threw → t.pc = .threw ∨ a.ret = -1 ∨ a.dial.socket < 0

theorem socket_of_threw {d : Dial} {c : StreamClient} (h : (c.connect d).1 = .threw) : d.socket < 0 := by
  unfold StreamClient.connect at h
  dsimp only at h
  split at h
  · assumption
  · cases h

/-- A `Connect`, if what follows on success is the announcement. -/
theorem advances_dial {next : Talker → Talker} {a : Answer} (hpc : t.pc = .connect)
    (hmoves : ∀ t, (next t).movesLeft ≤ 6) (hflag : ∀ t, (next t).shouldContinue = t.shouldContinue)
    (hthrew : ∀ t, (next t).pc ≠ .threw) : Advances a t (t.dial next a.dial) := by
  have hleft : t.movesLeft = 7 := by rw [movesLeft, hpc]
  have hsocket : (t.client.connect a.dial).1 = .threw → a.dial.socket < 0 := socket_of_threw
  unfold dial
  rcases hconnect : t.client.connect a.dial with ⟨result, c⟩
  rw [hconnect] at hsocket
  match result with
  | .threw => exact ⟨fun _ => Nat.zero_le 7, rfl, fun _ => Nat.zero_le _, fun _ => .inr (.inr (hsocket rfl))⟩
  | .returned false msg =>
    refine ⟨fun _ => Nat.one_le_ofNat, rfl, fun _ => ?_, fun h => nomatch h⟩
    rw [hleft]
    exact Nat.one_le_ofNat
  | .returned true msg =>
    have hnext := hmoves { t with client := c, trace := .connected :: t.trace }
    refine ⟨fun _ => hnext.trans (Nat.le_succ 6), hflag _, fun _ => ?_, fun h => absurd h (hthrew _)⟩
    rw [hleft]
    exact hnext

theorem movesLeft_announce (rest : List (List UInt8)) (t : Talker) :
    (t.announce rest).movesLeft = 3 + rest.length := by
  cases rest with
  | nil => rfl
  | cons bytes rest =>
    show 4 + rest.length = 3 + (rest.length + 1)
    omega

theorem advances_announce {rest : List (List UInt8)} (a : Answer) (hpc : t.pc = .announce rest) :
    Advances a t (t.announce rest) := by
  have hmoves := movesLeft_announce rest t
  have hleft : t.movesLeft = 4 + rest.length := by rw [movesLeft, hpc]
  refine ⟨fun h => by omega, ?_, fun _ => by omega, ?_⟩
  · cases rest <;> rfl
  · intro h
    cases rest <;> cases h

/-- Behind a `poll` that does not throw the talker is at the end of its inner loop, or behind it. -/
theorem advances_of_polled {a : Answer} {u : Talker} (hpc : t.pc = .poll)
    (hflag : u.shouldContinue = t.shouldContinue)
    (h : u.pc = .inner ∨ u.pc = .outer ∨ u.pc = .threw ∧ a.ret = -1) : Advances a t u := by
  have hleft : t.movesLeft = 3 := by rw [movesLeft, hpc]
  have hmoves : u.movesLeft ≤ 2 := by
    rcases h with h | h | ⟨h, -⟩
    all_goals simp [movesLeft, h]
  refine ⟨fun _ => hmoves.trans (by omega), hflag, fun _ => by omega, ?_⟩
  intro hthrew
  rcases h with h | h | ⟨-, hret⟩
  · cases h.symm.trans hthrew
  · cases h.symm.trans hthrew
  · exact .inr (.inl hret)

theorem advances_poll {a : Answer} (sizeofMessage : ℤ) (hpc : t.pc = .poll) :
    Advances a t (t.poll sizeofMessage a) := by
  unfold poll
  split
  · exact advances_of_polled hpc rfl (.inr (.inr ⟨rfl, ‹_›⟩))
  · split
    · exact advances_of_polled hpc rfl (.inl rfl)
    · split
      · split
        · exact advances_of_polled hpc rfl (.inr (.inl rfl))
        · exact advances_of_polled hpc rfl (.inl rfl)
      · split
        · exact advances_of_polled hpc rfl (.inr (.inl rfl))
        · exact advances_of_polled hpc rfl (.inl rfl)

/-- The tests of `should_continue_`, in front of either loop. -/
theorem advances_test {a : Answer} {on off : Pc} (hon : (t.goto on).movesLeft ≤ 7) (honThrew : on ≠ .threw)
    (hoff : (t.goto off).movesLeft ≤ t.movesLeft - 1) (hoffThrew : off ≠ .threw) :
    Advances a t (if t.shouldContinue then t.goto on else t.goto off) := by
  split
  · rename_i hflag
    exact ⟨fun _ => hon, rfl, fun h => absurd (h.symm.trans hflag) Bool.false_ne_true, fun h => absurd h honThrew⟩
  · exact ⟨fun h => hoff.trans (by omega), rfl, fun _ => hoff, fun h => absurd h hoffThrew⟩

theorem advances_ended {a : Answer} (h : t.movesLeft = 0) : Advances a t t :=
  ⟨id, rfl, fun _ => h.le.trans (Nat.zero_le _), .inl⟩

theorem advances_work {announcement : Bool → Stack → List (List UInt8)}
    (hann : ∀ up stack, (announcement up stack).length ≤ 2) (sizeofMessage : ℤ) (a : Answer) (t : Talker) :
    Advances a t (t.work announcement sizeofMessage a) := by
  obtain ⟨flag, client, pc, trace⟩ := t
  cases pc with
  | outer => exact advances_test (le_refl 7) (by simp) (le_refl 0) (by simp)
  | connect =>
    have hmoves (t : Talker) :
        (t.goto (.announce (announcement t.client.connected a.stack))).movesLeft ≤ 6 := by
      have hlength := hann t.client.connected a.stack
      show 4 + (announcement t.client.connected a.stack).length ≤ 6
      omega
    rw [work]
    dsimp only
    split
    · exact advances_dial rfl hmoves (fun _ => rfl) (by simp [Talker.goto])
    · exact ⟨fun _ => (hmoves _).trans (Nat.le_succ 6), rfl, fun _ => hmoves _, by simp [Talker.goto]⟩
  | announce rest => exact advances_announce a rfl
  | poll => exact advances_poll sizeofMessage rfl
  | inner => exact advances_test (show 3 ≤ 7 by omega) (by simp) (le_refl 1) (by simp)
  | returned => exact advances_ended rfl
  | threw => exact advances_ended rfl

end Talker

namespace VideoSink

open Talker

theorem advances_poll {a : Answer} {t : Talker} (hpc : t.pc = .poll) : Advances a t (poll a t) := by
  unfold poll
  split
  · exact advances_of_polled hpc rfl (.inr (.inr ⟨rfl, ‹_›⟩))
  · split
    · exact advances_of_polled hpc rfl (.inl rfl)
    · split
      · split
        · exact advances_of_polled hpc rfl (.inr (.inl rfl))
        · exact advances_of_polled hpc rfl (.inl rfl)
      · split
        · exact advances_of_polled hpc rfl (.inl rfl)
        · split
          · exact advances_of_polled hpc rfl (.inl rfl)
          · exact advances_of_polled hpc rfl (.inl rfl)

theorem length_announcement (userId : Int32) : (announcement userId).length ≤ 2 := by
  unfold announcement
  split
  · exact le_refl 2
  · exact Nat.zero_le 2

theorem advances_work (userId : Int32) (a : Answer) (t : Talker) : Advances a t (work userId a t) := by
  obtain ⟨flag, client, pc, trace⟩ := t
  cases pc with
  | outer => exact advances_test (le_refl 7) (by simp) (le_refl 0) (by simp)
  | connect =>
    have hmoves (t : Talker) : (t.goto (.announce (announcement userId))).movesLeft ≤ 6 := by
      have hlength := length_announcement userId
      show 4 + (announcement userId).length ≤ 6
      omega
    rw [work]
    dsimp only
    split
    · exact advances_dial rfl hmoves (fun _ => rfl) (by simp [Talker.goto])
    · exact ⟨fun _ => show 3 ≤ 7 by omega, rfl, fun _ => show 3 ≤ 7 - 1 by omega, by simp [Talker.goto]⟩
  | announce rest => exact advances_announce a rfl
  | poll => exact advances_poll rfl
  | inner => exact advances_test (show 3 ≤ 7 by omega) (by simp) (le_refl 1) (by simp)
  | returned => exact advances_ended rfl
  | threw => exact advances_ended rfl

end VideoSink

/-! ## Runs -/

theorem length_sendStreamerUserId (userId : Int32) (up : Bool) (stack : Stack) :
    (SensorInterface.sendStreamerUserId userId up stack).length ≤ 2 := by
  unfold SensorInterface.sendStreamerUserId
  split
  · exact Nat.zero_le 2
  · split
    · exact Nat.one_le_ofNat
    · exact Nat.zero_le 2

/-- The announcement of `AudioSink` and `AudioSource`. -/
theorem length_ctrlUserId_if (userId : Int32) (stack : Stack) :
    (if userId ≠ -1 then ctrlUserId userId stack else []).length ≤ 2 := by
  split
  · exact Nat.one_le_ofNat
  · exact Nat.zero_le 2

theorem Class.advances_work (cls : Class) (userId : Int32) (a : Answer) (t : Talker) :
    Talker.Advances a t (cls.work userId a t) := by
  cases cls with
  | sensorInterface => exact Talker.advances_work (length_sendStreamerUserId userId) _ a t
  | audioSink => exact Talker.advances_work (fun _ => length_ctrlUserId_if userId) _ a t
  | audioSource => exact Talker.advances_work (fun _ => length_ctrlUserId_if userId) _ a t
  | videoSink => exact VideoSink.advances_work userId a t

variable (cls : Class) (userId : Int32)

/-- In a run nobody has more than seven moves left if he is not to continue. -/
theorem movesLeft_run_le (ms : List Move) : (ms.foldl (cls.step userId) .initial).movesLeft ≤ 7 := by
  have halong : Along (cls.step userId) (fun _ _ => True) .initial ms := along_of_forall (fun _ _ => trivial) _ ms
  refine halong.invariant_foldl (I := fun t => t.movesLeft ≤ 7) ?_ (show 1 ≤ 7 by omega)
  intro t m h _
  cases m with
  | talker a => exact (cls.advances_work userId a t).bounded h
  | stop => exact h

/-- Without a failing `poll` or `socket` nothing is thrown. -/
theorem not_threw_run {ms : List Move} (hfair : ∀ m ∈ ms, m.Fair) :
    (ms.foldl (cls.step userId) .initial).pc ≠ .threw := by
  induction ms using List.reverseRecOn with
  | nil => exact fun h => nomatch h
  | append_singleton ms m ih =>
    obtain ⟨hms, hm⟩ := List.forall_mem_append.mp hfair
    have hbefore := ih hms
    rw [List.foldl_append, List.foldl_cons, List.foldl_nil]
    cases m with
    | stop => exact hbefore
    | talker a =>
      obtain ⟨hret, hsocket⟩ := hm (.talker a) (List.mem_singleton_self _)
      intro hthrew
      rcases (cls.advances_work userId a _).threw hthrew with h | h | h
      · exact hbefore h
      · exact hret h
      · omega

/-- **The thread the destructor joins ends.** In every run of each of the four talkers, with any answers of the socket,
the thread has ended when it has made seven moves since the destructor cleared the flag; and it has returned, if no
`poll` failed and no `Connect` was without a socket.  A call that blocks for good is not a move that was made. -/
theorem thread_ends (before after : List Move) (hmoves : 7 ≤ after.countP Move.isTalker) :
    (((before ++ .stop :: after).foldl (cls.step userId) .initial).pc = .returned ∨
        ((before ++ .stop :: after).foldl (cls.step userId) .initial).pc = .threw) ∧
      ((∀ m ∈ before ++ .stop :: after, m.Fair) →
        ((before ++ .stop :: after).foldl (cls.step userId) .initial).pc = .returned) := by
  have hended : ((before ++ .stop :: after).foldl (cls.step userId) .initial).movesLeft = 0 := by
    rw [List.foldl_append, List.foldl_cons]
    generalize ht : cls.step userId (before.foldl (cls.step userId) .initial) .stop = t
    have hflag : t.shouldContinue = false := by rw [← ht]; rfl
    have hleft : t.movesLeft ≤ 7 := by
      rw [← ht]
      exact movesLeft_run_le cls userId before
    have hkeep (t : Talker) (m : Move) (h : t.shouldContinue = false) :
        (cls.step userId t m).shouldContinue = false := by
      cases m with
      | talker a => exact (cls.advances_work userId a t).flag.trans h
      | stop => rfl
    have hcount := measure_foldl_le Talker.movesLeft Move.isTalker hkeep ?_ ?_ hflag after
    · omega
    · intro t m h htalker
      cases m with
      | talker a => exact (cls.advances_work userId a t).fewer h
      | stop => cases htalker
    · intro t m _ hidle
      cases m with
      | talker a => cases hidle
      | stop => exact le_rfl
  have hpc := Talker.ended_of_movesLeft hended
  exact ⟨hpc, fun hfair => hpc.resolve_right (not_threw_run cls userId hfair)⟩

/-- The camera's talker, stopped in front of its first `Connect`, makes its announcement of two sends before it
returns. -/
theorem thread_ends_beforeConnect :
    (([Move.talker lively] ++ Move.stop :: List.replicate 7 (.talker lively)).foldl
        (Class.videoSink.step 7) .initial).pc = .returned :=
  (thread_ends .videoSink 7 [.talker lively] (List.replicate 7 (.talker lively)) (by decide)).2 (by
    simp [Move.Fair, lively])

end VhalClient.Talkers
