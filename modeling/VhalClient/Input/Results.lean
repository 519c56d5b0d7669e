/-
# VhalClient.Input.Results — what `onInputMessage` tells its caller.

The interface documents `{0, ""}` for "all commands were injected successfully" and `{-1, "error msg"}` for a command
that failed.  The code has an `error_msg` that nothing assigns, drops the result of `ProcessOneCommand`, which in turn
drops the results of the `Send*` operations, and always answers `{0, ""}`.

`Hand` is what it would take to know better: the contacts that are down and the counter, and for each line whether
it can be played on them.  It is a model of its own, which reads no result of the code; `play_hand` ties it to the
code, line by line.  So the documented answer is given exactly for the messages that can be played to their end
(`reports_iff_plays`).
-/
import VhalClient.Input.Safety
import VhalClient.Input.Slots

namespace VhalClient.Input

open VhalClient.Lib

variable (overlong : ℤ → Int32)

/-! ## The documented result -/

/-- A command as `ProcessOneCommand` reads it. -/
structure Line where
  letter : Letter
  args : List Int32
  deriving DecidableEq

def lineOf (cmd : List UInt8) : Line :=
  ⟨letterOf (cmd.headD 0), sscanf overlong (letterOf (cmd.headD 0)).arity cmd⟩

namespace Line

variable (l : Line)

/-- The arguments of `d` and `m`, and the slot of `u`, with the defaults of the source. -/
def slot : Int32 := l.args.getD 0 (-1)
def x : Int32 := l.args.getD 1 (-1)
def y : Int32 := l.args.getD 2 (-1)
def pressure : Int32 := l.args.getD 3 (-1)

/-- The argument of `w`. -/
def ms : Int32 := l.args.getD 0 0

/-- What the line came to: the answer of its `Send*` operation, false when that was not called because of the
arguments; a wait is good when it is made, and a line with another letter is no command. -/
def sent (s : Receiver) : Bool :=
  match l.letter with
  | .commit => (sendCommit s).1
  | .reset => (sendReset s).1
  | .down => !badContact l.slot l.x l.y l.pressure && (sendDown s l.slot l.x l.y l.pressure).1
  | .up => !badSlot l.slot && (sendUp s l.slot).1
  | .move => !badContact l.slot l.x l.y l.pressure && (sendMove s l.slot l.x l.y l.pressure).1
  | .wait => !decide (l.ms ≤ 0)
  | .other => false

end Line

/-- Every line of the message took effect, in the state it met. -/
def AllSent (s : Receiver) (msg : List UInt8) : Prop :=
  Along (runCommand overlong) (fun s cmd => (lineOf overlong cmd).sent s = true) s (commandsOf msg)

instance AllSent.decidable (s : Receiver) (msg : List UInt8) : Decidable (AllSent overlong s msg) :=
  inferInstanceAs (Decidable (Along _ _ _ _))

/-- The result of the call is the documented one. -/
structure Reports (s : Receiver) (msg : List UInt8) : Prop where
  success : (onInputMessage overlong s msg).1 = (0, "") → AllSent overlong s msg
  failure : ¬ AllSent overlong s msg → ∃ error, error ≠ "" ∧ (onInputMessage overlong s msg).1 = (-1, error)

/-! ## A hand -/

/-- The contacts that are down, and the counter, which a reset leaves as it is. -/
structure Hand where
  down : Finset (Fin kMaxSlot)
  count : UInt32
  deriving DecidableEq

instance ContactInRange.decidable (x y p : Int32) : Decidable (ContactInRange x y p) :=
  decidable_of_iff
    ((0 ≤ x.toInt ∧ x.toInt ≤ kMaxPositionX) ∧ (0 ≤ y.toInt ∧ y.toInt ≤ kMaxPositionY) ∧
      (0 ≤ p.toInt ∧ p.toInt ≤ kMaxPressure))
    ⟨fun h => ⟨h.1, h.2.1, h.2.2⟩, fun h => ⟨h.x, h.y, h.pressure⟩⟩

namespace Hand

/-- A finger goes down.  On a contact that is down already, or with a full counter, the others are forgotten. -/
def press (h : Hand) (i : Fin kMaxSlot) : Hand :=
  ⟨insert i (if i ∈ h.down ∨ kMaxSlot ≤ h.count.toNat then ∅ else h.down), h.count + 1⟩

def lift (h : Hand) (i : Fin kMaxSlot) : Hand := ⟨h.down.erase i, h.count - 1⟩

/-- The lines `d`, `u` and `m`, where they can be played. -/
def playDown (h : Hand) (slot x y p : Int32) : Option Hand := do
  let i ← slotIndex slot
  if ContactInRange x y p then some (h.press i) else none

def playUp (h : Hand) (slot : Int32) : Option Hand := do
  let i ← slotIndex slot
  if h.count ≠ 0 ∧ i ∈ h.down then some (h.lift i) else none

def playMove (h : Hand) (slot x y p : Int32) : Option Hand := do
  let i ← slotIndex slot
  if ContactInRange x y p ∧ i ∈ h.down then some h else none

/-- One line, if it can be played. -/
def play (h : Hand) (l : Line) : Option Hand :=
  match l.letter with
  | .commit => some h
  | .reset => some { h with down := ∅ }
  | .down => h.playDown l.slot l.x l.y l.pressure
  | .up => h.playUp l.slot
  | .move => h.playMove l.slot l.x l.y l.pressure
  | .wait => if 0 < l.ms.toInt then some h else none
  | .other => none

/-- The lines can be played to the end. -/
def Plays (h : Hand) (ls : List Line) : Prop := (ls.foldlM play h).isSome = true

end Hand

/-- The hand of a receiver. -/
def Receiver.hand (s : Receiver) : Hand := ⟨s.enabledSlots, s.mEnabledSlots⟩

/-! ## What the operations answer -/

theorem sendDown_answers (s : Receiver) (slot x y p : Int32) :
    (sendDown s slot x y p).1 = (slotIndex slot).isSome := by
  unfold sendDown slotIndex
  split <;> rfl

theorem sendUp_answers (s : Receiver) {slot : Int32} {i : Fin kMaxSlot} (hi : slotIndex slot = some i) :
    (sendUp s slot).1 = true ↔ s.lifts i := by
  obtain ⟨hlt, hidx⟩ := exists_of_slotIndex hi
  have hrefuses := refuses_iff_not_lifts s i
  rw [sendUp, dif_pos hlt, hidx]
  by_cases hl : s.lifts i
  · rw [if_neg (fun h => hrefuses.mp h hl)]
    exact iff_of_true rfl hl
  · rw [if_pos (hrefuses.mpr hl)]
    exact iff_of_false Bool.false_ne_true hl

theorem sendMove_answers (s : Receiver) {slot : Int32} {i : Fin kMaxSlot} (hi : slotIndex slot = some i)
    (x y p : Int32) : (sendMove s slot x y p).1 = (s.mContacts i).enabled := by
  obtain ⟨hlt, hidx⟩ := exists_of_slotIndex hi
  rw [sendMove, dif_pos hlt, hidx]
  cases (s.mContacts i).enabled <;> rfl

theorem badSlot_of_slotIndex {slot : Int32} {i : Fin kMaxSlot} (hi : slotIndex slot = some i) :
    badSlot slot = false := by
  have hlt := i.isLt
  have hval := Bounds.toInt_of_slotIndex hi
  simp only [badSlot, Bool.or_eq_false_iff, decide_eq_false_iff_not]
  exact checked_iff.mpr (by omega)

/-! ## The hand follows the receiver -/

theorem runCommand_lineOf (s : Receiver) (cmd : List UInt8) :
    runCommand overlong s cmd =
      perform s (touchOf (lineOf overlong cmd).letter (lineOf overlong cmd).args).2 := runCommand_eq overlong s cmd

theorem hand_sendReset (s : Receiver) : (sendReset s).2.hand = { s.hand with down := ∅ } := by
  obtain ⟨hslots, hcount⟩ := enabled_sendReset s
  rw [Receiver.hand, hslots, hcount]
  rfl

theorem hand_sendDown (s : Receiver) {slot : Int32} {i : Fin kMaxSlot} (hi : slotIndex slot = some i)
    (x y p : Int32) : (sendDown s slot x y p).2.hand = s.hand.press i := by
  rw [Receiver.hand, enabled_sendDown s hi, sendDown_mEnabledSlots s hi, Hand.press]
  simp only [Receiver.hand, Receiver.downResets, mem_enabledSlots]
  congr

theorem hand_sendUp (s : Receiver) {slot : Int32} {i : Fin kMaxSlot} (hi : slotIndex slot = some i)
    (hl : s.lifts i) : (sendUp s slot).2.hand = s.hand.lift i := by
  rw [Receiver.hand, enabled_sendUp s hi hl, sendUp_mEnabledSlots s hi hl, Hand.lift]
  rfl

theorem hand_sendMove (s : Receiver) (slot x y p : Int32) : (sendMove s slot x y p).2.hand = s.hand := by
  rw [sendMove_eq]
  rfl

theorem not_of_answered {bad answer : Bool} (h : (!bad && answer) = true) : ¬ bad = true := by
  cases bad
  · exact Bool.false_ne_true
  · cases h

/-- A contact that passes the check for `d` and `m` on a slot of the table. -/
theorem badContact_of_slotIndex {slot : Int32} {i : Fin kMaxSlot} (hi : slotIndex slot = some i) (x y p : Int32) :
    badContact slot x y p = false ↔ ContactInRange x y p := by
  rw [badContact_eq_false_iff, badSlot_of_slotIndex hi]
  exact and_iff_right rfl

theorem playDown_hand (s : Receiver) (slot x y p : Int32) :
    s.hand.playDown slot x y p =
      if !badContact slot x y p && (sendDown s slot x y p).1 then some (sendDown s slot x y p).2.hand else none := by
  rw [sendDown_answers, Hand.playDown]
  cases hi : slotIndex slot with
  | none => simp
  | some i =>
    rw [hand_sendDown s hi]
    by_cases hr : ContactInRange x y p
    · simp [hr, (badContact_of_slotIndex hi x y p).mpr hr]
    · simp [hr, badContact_of_slotIndex hi x y p]

theorem playUp_hand (s : Receiver) (slot : Int32) :
    s.hand.playUp slot = if !badSlot slot && (sendUp s slot).1 then some (sendUp s slot).2.hand else none := by
  rw [Hand.playUp]
  cases hi : slotIndex slot with
  | none => simp [sendUp, not_lt_of_slotIndex hi]
  | some i =>
    have hlifts : s.hand.count ≠ 0 ∧ i ∈ s.hand.down ↔ s.lifts i := by
      simp [Receiver.hand, Receiver.lifts]
    by_cases hl : s.lifts i
    · simp [hl, hlifts, (sendUp_answers s hi).mpr hl, badSlot_of_slotIndex hi, hand_sendUp s hi hl]
    · simp [hl, hlifts, sendUp_answers s hi]

theorem playMove_hand (s : Receiver) (slot x y p : Int32) :
    s.hand.playMove slot x y p =
      if !badContact slot x y p && (sendMove s slot x y p).1 then some (sendMove s slot x y p).2.hand else none := by
  rw [Hand.playMove, hand_sendMove]
  cases hi : slotIndex slot with
  | none => simp [sendMove, not_lt_of_slotIndex hi]
  | some i =>
    have hdown : i ∈ s.hand.down ↔ (s.mContacts i).enabled = true := mem_enabledSlots
    rw [sendMove_answers s hi]
    by_cases hr : ContactInRange x y p
    · simp [hr, (badContact_of_slotIndex hi x y p).mpr hr, hdown]
    · simp [hr, badContact_of_slotIndex hi x y p]

/-- **One line.** It can be played on the receiver's hand exactly when it takes effect, and the hand is then the
one after it. -/
theorem play_hand (s : Receiver) (l : Line) :
    s.hand.play l = if l.sent s then some (perform s (touchOf l.letter l.args).2).hand else none := by
  obtain ⟨letter, args⟩ := l
  cases letter with
  | commit => rfl
  | other => rfl
  | reset => exact congrArg some (hand_sendReset s).symm
  | wait =>
    have hms : 0 < (Line.mk .wait args).ms.toInt ↔ (!decide ((Line.mk .wait args).ms ≤ 0)) = true := by
      rw [Bool.not_eq_true', decide_eq_false_iff_not, Int32.le_iff_toInt_le, Int.not_le]
      rfl
    refine if_congr hms ?_ rfl
    rw [touchOf]
    split <;> rfl
  | down =>
    refine (playDown_hand s _ _ _ _).trans (ite_congr rfl (fun h => ?_) fun _ => rfl)
    have hgood : ¬ badContact (args.getD 0 (-1)) (args.getD 1 (-1)) (args.getD 2 (-1)) (args.getD 3 (-1)) = true :=
      not_of_answered h
    rw [touchOf, if_neg hgood]
    rfl
  | up =>
    refine (playUp_hand s _).trans (ite_congr rfl (fun h => ?_) fun _ => rfl)
    have hgood : ¬ badSlot (args.getD 0 (-1)) = true := not_of_answered h
    rw [touchOf, if_neg hgood]
    rfl
  | move =>
    refine (playMove_hand s _ _ _ _).trans (ite_congr rfl (fun h => ?_) fun _ => rfl)
    have hgood : ¬ badContact (args.getD 0 (-1)) (args.getD 1 (-1)) (args.getD 2 (-1)) (args.getD 3 (-1)) = true :=
      not_of_answered h
    rw [touchOf, if_neg hgood]
    rfl

/-! ## A message -/

/-- The lines of a message take effect exactly when they can be played on the hand the receiver has. -/
theorem along_sent_iff_plays (s : Receiver) (cmds : List (List UInt8)) :
    Along (runCommand overlong) (fun s cmd => (lineOf overlong cmd).sent s = true) s cmds ↔
      s.hand.Plays (cmds.map (lineOf overlong)) := by
  induction cmds generalizing s with
  | nil => exact iff_of_true (along_nil s) rfl
  | cons cmd cmds ih =>
    rw [along_cons, ih, runCommand_lineOf, Hand.Plays, Hand.Plays, List.map_cons, List.foldlM_cons, play_hand]
    by_cases hsent : (lineOf overlong cmd).sent s = true
    · rw [if_pos hsent]
      exact and_iff_right hsent
    · rw [if_neg hsent]
      exact iff_of_false (fun h => hsent h.1) (by simp)

/-- **What the caller is told.** For every state and every message, the result is the documented one exactly when
the lines of the message can be played on the contacts that are down before it. -/
theorem reports_iff_plays (s : Receiver) (msg : List UInt8) :
    Reports overlong s msg ↔ s.hand.Plays ((commandsOf msg).map (lineOf overlong)) := by
  rw [← along_sent_iff_plays]
  constructor
  · exact fun h => h.success rfl
  · exact fun hall => ⟨fun _ => hall, fun hnot => absurd hall hnot⟩

/-- `u 0` to a receiver with no contact: `SendUp` answers false, and the caller is told `{0, ""}`. -/
theorem not_reports_liftNothing :
    ¬ ∀ (overlong : ℤ → Int32) (s : Receiver) (msg : List UInt8), Reports overlong s msg := by
  intro h
  have hsent := (h (fun _ => 0) {} (ascii ['u', ' ', '0', '\n'])).success rfl
  exact absurd hsent (by decide)

end VhalClient.Input
