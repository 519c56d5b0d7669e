/-
# VhalClient.CommandChannel.Interleaving — the three talkers at once.

Each talker alternates two atomic steps: it receives a payload into the buffer its loop names, and it
invokes the callback on the first bytes of that buffer.  A run is any interleaving of these steps, and
every callback is recorded with the payload its own socket delivered, so "the callback sees its own
payload" is a property of the record.

The activity-monitor talker owns its buffer and is safe under every interleaving (`ams_ownPayload`).  The
file-transfer talker receives into the AIC-command talker's buffer: between the receive and the callback
of one of them the other can replace the bytes (`not_ownPayload_ftc_over_acs`), and as long as no receive
falls into such a gap every callback is right (`ownPayload_of_undisturbed`).
-/
import VhalClient.Lib.Run
import VhalClient.CommandChannel.Talker
import Mathlib.Logic.Function.Basic

namespace VhalClient.CommandChannel

open VhalClient.Lib

/-! ## The three processes -/

/-- One callback: what it saw, and what came in on the talker's own socket. -/
structure Call where
  talker : Talker
  seen : CommandChannelMessage
  own : List UInt8
  deriving DecidableEq

/-- The shared members, and for each talker the payload it has received and not yet handed on.  The
program keeps only the payload's length; the payload itself is there to be compared with. -/
structure State where
  bufs : Buffers
  pending : Talker → Option (List UInt8)
  calls : List Call

def State.initial : State := ⟨Buffers.initial, fun _ => none, []⟩

inductive Step where
  | receive (t : Talker) (payload : List UInt8)
  | callback (t : Talker)
  deriving DecidableEq

namespace State

/-- A step of one talker.  A talker whose loop is at the other step, or a payload whose length the loop
refuses, makes no step. -/
def step (s : State) : Step → State
  | .receive t payload =>
    if s.pending t = none ∧ FrameLength payload.length then
      { s with
        bufs := t.store s.bufs payload.length payload
        pending := Function.update s.pending t (some payload) }
    else s
  | .callback t =>
    match s.pending t with
    | none => s
    | some payload =>
      { s with
        pending := Function.update s.pending t none
        calls := s.calls ++ [⟨t, t.message s.bufs payload.length, payload⟩] }

/-- Every callback of the run saw the payload of its own socket. -/
def OwnPayload (s : State) : Prop :=
  ∀ c ∈ s.calls, c.seen = ⟨c.talker.msgType, c.own⟩

instance (s : State) : Decidable s.OwnPayload := inferInstanceAs (Decidable (∀ _ ∈ _, _))

/-- The step does not receive into the buffer of a talker that still has a payload to hand on. -/
def Undisturbed (s : State) : Step → Prop
  | .receive u _ => ∀ t, t ≠ u → t.buffer = u.buffer → s.pending t = none
  | .callback _ => True

instance (s : State) : DecidablePred s.Undisturbed
  | .receive u _ => inferInstanceAs (Decidable (∀ t, t ≠ u → t.buffer = u.buffer → s.pending t = none))
  | .callback _ => inferInstanceAs (Decidable True)

/-- The step does not receive over a payload that is `t`'s to hand on. -/
def Spares (t : Talker) (s : State) : Step → Prop
  | .receive u _ => t ≠ u → t.buffer = u.buffer → s.pending t = none
  | .callback _ => True

/-! ## One talker -/

/-- The buffer holds the payload the talker is about to hand on, and its callbacks were right so far. -/
structure Faithful (t : Talker) (s : State) : Prop where
  pending : ∀ payload, s.pending t = some payload →
    t.message s.bufs payload.length = ⟨t.msgType, payload⟩
  calls : ∀ c ∈ s.calls, c.talker = t → c.seen = ⟨t.msgType, c.own⟩

theorem faithful_initial (t : Talker) : Faithful t initial := by
  constructor
  · intro payload h
    cases h
  · intro c h
    cases h

/-- Storing into another buffer leaves the talker's bytes alone. -/
theorem message_store_of_ne {t u : Talker} (bufs : Buffers) (n k : ℕ) (bytes : List UInt8)
    (h : t.buffer ≠ u.buffer) : t.message (u.store bufs n bytes) k = t.message bufs k := by
  rw [Talker.message, Talker.message, Talker.store, Buffers.get_set_ne _ _ h]

/-- **One step keeps a talker faithful** unless it receives over the talker's pending payload. -/
theorem faithful_step (t : Talker) (s : State) (i : Step) (hs : Faithful t s) (hi : Spares t s i) :
    Faithful t (s.step i) := by
  cases i with
  | receive u payload =>
    rw [step]
    split
    · refine ⟨?_, hs.calls⟩
      intro p hp
      by_cases htu : t = u
      · -- The talker's own receive: the fresh payload is the one the callback will see.
        subst htu
        simp only [Function.update_self, Option.some.injEq] at hp
        subst hp
        exact t.message_store s.bufs payload
      · simp only [Function.update_of_ne htu] at hp
        -- On a shared buffer there is nothing pending to spoil; another buffer is not touched.
        by_cases hbuf : t.buffer = u.buffer
        · exact absurd hp (by simp [hi htu hbuf])
        · show t.message (u.store s.bufs payload.length payload) p.length = _
          rw [message_store_of_ne _ _ _ _ hbuf, hs.pending p hp]
    · exact hs
  | callback u =>
    rw [step]
    split
    · exact hs
    · rename_i payload hpayload
      refine ⟨?_, ?_⟩
      · intro p hp
        by_cases htu : t = u
        · subst htu
          simp at hp
        · simp only [Function.update_of_ne htu] at hp
          exact hs.pending p hp
      · intro c hc hct
        rw [List.mem_append, List.mem_singleton] at hc
        rcases hc with hc | rfl
        · exact hs.calls c hc hct
        · obtain rfl : u = t := hct
          exact hs.pending payload hpayload

/-- The activity-monitor talker names a buffer no other talker names, so nothing disturbs it: under every
interleaving its callbacks see what its socket delivered. -/
theorem ams_ownPayload (steps : List Step) :
    ∀ s ∈ steps.scanl step initial, ∀ c ∈ s.calls, c.talker = .ams →
      c.seen = ⟨.kActivityMonitor, c.own⟩ := by
  have hspares : ∀ s i, Spares .ams s i := by
    intro s i
    cases i with
    | receive u payload => cases u <;> simp [Spares, Talker.buffer]
    | callback u => trivial
  intro s hs
  exact ((along_of_forall hspares initial steps).invariant (faithful_step .ams) (faithful_initial .ams)
    s hs).calls

/-! ## All three -/

/-- **Every callback sees its own payload, in every state of every run in which no talker receives into a
buffer that another talker has still to hand on.** -/
theorem ownPayload_of_undisturbed (steps : List Step) (h : Along step Undisturbed initial steps) :
    ∀ s ∈ steps.scanl step initial, s.OwnPayload := by
  have hstep : ∀ s i, (∀ t, Faithful t s) → Undisturbed s i → ∀ t, Faithful t (s.step i) := by
    intro s i hs hi t
    apply faithful_step t s i (hs t)
    cases i with
    | receive u payload => exact hi t
    | callback u => trivial
  intro s hs c hc
  have hfaithful := h.invariant (I := fun s => ∀ t, Faithful t s) hstep faithful_initial s hs
  exact (hfaithful c.talker).calls c hc rfl

/-- All three talkers at work, the shared buffer handed over only between a callback and a receive. -/
def takingTurns : List Step :=
  [.receive .acs [1, 2, 3], .receive .ams [9], .callback .acs, .receive .ftc [4], .callback .ams,
    .callback .ftc]

theorem ownPayload_takingTurns :
    Along step Undisturbed initial takingTurns ∧
      ∀ s ∈ takingTurns.scanl step initial, s.OwnPayload :=
  ⟨by decide, ownPayload_of_undisturbed takingTurns (by decide)⟩

/-- A file-transfer payload that arrives between the receive and the callback of an AIC command: the
callback gets the file's bytes as the command. -/
theorem not_ownPayload_ftc_over_acs :
    ¬ ∀ s ∈ [Step.receive .acs [1, 2, 3], .receive .ftc [7, 8, 9], .callback .acs].scanl step initial,
      s.OwnPayload := by
  decide

end State

end VhalClient.CommandChannel
