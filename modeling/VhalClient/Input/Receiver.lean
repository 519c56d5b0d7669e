/-
# VhalClient.Input.Receiver — the touch half of `VirtualInputReceiver`.

The embedding of `virtual_input_receiver.cc`: the contact table, the `Send*` operations on it,
`ProcessOneCommand` with its `sscanf` argument reading and range checks, and the line splitting of
`onInputMessage`.  Every `Send*` operation ignores the result of `SendEvent`, so the receiver's own
state never depends on whether a write succeeded; `events` is the list of `SendEvent` calls in order,
which is what reaches the device when all writes succeed.  The event time stamp is not modelled.

`Touch` is the typed form of one command.  `processOneCommand` is written after the source's
`switch`; `processOneCommand_eq` splits it into reading a `Touch` out of the text (`interpret`) and
performing it on the table (`perform`), and everything about the table is proved about `perform`.
-/
import VhalClient.Lib.Scanf
import Mathlib.Data.Fintype.Card
import Mathlib.Data.Fintype.Pi
import Mathlib.Logic.Function.Basic

namespace VhalClient.Input

open VhalClient.Lib.Scanf

/-! ## Constants and state -/

abbrev kMaxSlot : ℕ := 10
def kMaxPositionX : ℕ := 32767
def kMaxPositionY : ℕ := 32767
def kMaxPressure : ℕ := 255

def EV_SYN : UInt16 := 0x00
def EV_KEY : UInt16 := 0x01
def EV_ABS : UInt16 := 0x03
def SYN_REPORT : UInt16 := 0x00
def BTN_TOUCH : UInt16 := 0x14a
def ABS_MT_SLOT : UInt16 := 0x2f
def ABS_MT_TOUCH_MAJOR : UInt16 := 0x30
def ABS_MT_WIDTH_MAJOR : UInt16 := 0x32
def ABS_MT_POSITION_X : UInt16 := 0x35
def ABS_MT_POSITION_Y : UInt16 := 0x36
def ABS_MT_TRACKING_ID : UInt16 := 0x39
def ABS_MT_PRESSURE : UInt16 := 0x3a

/-- `struct input_event` without its time stamp. -/
structure InputEvent where
  type : UInt16
  code : UInt16
  value : Int32
  deriving DecidableEq

structure Contact where
  enabled : Bool := false
  trackingId : Int32 := 0
  deriving DecidableEq

/-- `contact.enabled = false`, the other fields kept. -/
def Contact.released (c : Contact) : Contact := { c with enabled := false }

@[simp] theorem Contact.released_enabled (c : Contact) : c.released.enabled = false := rfl

theorem Contact.released_eq_self {c : Contact} (h : c.enabled = false) : c.released = c := by
  cases c
  cases h
  rfl

structure Receiver where
  mContacts : Fin kMaxSlot → Contact := fun _ => {}
  mTrackingId : Int32 := 0
  mEnabledSlots : UInt32 := 0
  events : List InputEvent := []
  deriving DecidableEq

/-! ## The `Send*` operations -/

def sendEvent (s : Receiver) (type code : UInt16) (value : Int32) : Receiver :=
  { s with events := s.events ++ [⟨type, code, value⟩] }

/-- The body of the loop of `SendReset` for one slot, with the flag `report`. -/
def resetSlot (acc : (Fin kMaxSlot → Contact) × Bool) (slot : Fin kMaxSlot) :
    (Fin kMaxSlot → Contact) × Bool :=
  if (acc.1 slot).enabled then
    (Function.update acc.1 slot (acc.1 slot).released, true)
  else acc

/-- `SendReset`: it clears every `enabled` flag, and neither touches `mEnabledSlots` nor emits a
tracking id. -/
def sendReset (s : Receiver) : Bool × Receiver :=
  let acc := (List.finRange kMaxSlot).foldl resetSlot (s.mContacts, false)
  let s := { s with mContacts := acc.1 }
  (true, if acc.2 then sendEvent s EV_SYN SYN_REPORT 0 else s)

/-- The five events that describe a contact, sent by `SendDown` and `SendMove` alike. -/
def sendShape (s : Receiver) (x y pressure : Int32) : Receiver :=
  let s := sendEvent s EV_ABS ABS_MT_TOUCH_MAJOR 4
  let s := sendEvent s EV_ABS ABS_MT_WIDTH_MAJOR 6
  let s := sendEvent s EV_ABS ABS_MT_PRESSURE pressure
  let s := sendEvent s EV_ABS ABS_MT_POSITION_X x
  sendEvent s EV_ABS ABS_MT_POSITION_Y y

def sendDown (s : Receiver) (slot x y pressure : Int32) : Bool × Receiver :=
  if h : slot.toUInt32.toNat < kMaxSlot then
    let i : Fin kMaxSlot := ⟨slot.toUInt32.toNat, h⟩
    -- A slot that is down already, or a full counter, resets the whole table.
    let s := if (s.mContacts i).enabled || kMaxSlot ≤ s.mEnabledSlots.toNat then (sendReset s).2 else s
    let s := { s with
      mContacts := Function.update s.mContacts i ⟨true, s.mTrackingId⟩
      mTrackingId := s.mTrackingId + 1
      mEnabledSlots := s.mEnabledSlots + 1 }
    let s := sendEvent s EV_ABS ABS_MT_SLOT slot
    let s := sendEvent s EV_ABS ABS_MT_TRACKING_ID (s.mContacts i).trackingId
    let s := if s.mEnabledSlots == 1 then sendEvent s EV_KEY BTN_TOUCH 1 else s
    (true, sendShape s x y pressure)
  else (false, s)

def sendUp (s : Receiver) (slot : Int32) : Bool × Receiver :=
  if h : slot.toUInt32.toNat < kMaxSlot then
    let i : Fin kMaxSlot := ⟨slot.toUInt32.toNat, h⟩
    if s.mEnabledSlots == 0 || !(s.mContacts i).enabled then (false, s)
    else
      let s := { s with
        mContacts := Function.update s.mContacts i (s.mContacts i).released
        mEnabledSlots := s.mEnabledSlots - 1 }
      let s := sendEvent s EV_ABS ABS_MT_SLOT slot
      let s := sendEvent s EV_ABS ABS_MT_TRACKING_ID (-1)
      (true, if s.mEnabledSlots == 0 then sendEvent s EV_KEY BTN_TOUCH 0 else s)
  else (false, s)

def sendMove (s : Receiver) (slot x y pressure : Int32) : Bool × Receiver :=
  if h : slot.toUInt32.toNat < kMaxSlot then
    if (s.mContacts ⟨slot.toUInt32.toNat, h⟩).enabled then
      (true, sendShape (sendEvent s EV_ABS ABS_MT_SLOT slot) x y pressure)
    else (false, s)
  else (false, s)

def sendCommit (s : Receiver) : Bool × Receiver := (true, sendEvent s EV_SYN SYN_REPORT 0)

/-! ## `ProcessOneCommand` -/

/-- The `case` labels of the `switch` over `cmd[0]`. -/
inductive Letter where
  | commit | reset | down | up | move | wait | other
  deriving DecidableEq

def letterOf (b : UInt8) : Letter :=
  if b = 'c'.toUInt8 then .commit
  else if b = 'r'.toUInt8 then .reset
  else if b = 'd'.toUInt8 then .down
  else if b = 'u'.toUInt8 then .up
  else if b = 'm'.toUInt8 then .move
  else if b = 'w'.toUInt8 then .wait
  else .other

/-- `std::string::c_str` as a C string: the bytes before the first NUL. -/
def cStr (cmd : List UInt8) : List UInt8 := cmd.takeWhile (· != 0)

/-- The values `sscanf(cmd.c_str(), "%c %d ...")` with `n` integer conversions stores: `%c` takes
the first character. -/
def sscanf (overlong : ℤ → Int32) (n : ℕ) (cmd : List UInt8) : List Int32 :=
  scanInts overlong n (cStr cmd).tail

/-- The parameter check that `d` and `m` share. -/
def badContact (slot x y pressure : Int32) : Bool :=
  -- `slot > kMaxSlot`: the number `kMaxSlot` passes here, and is refused where the table is indexed.
  slot < 0 || kMaxSlot < slot.toUInt32.toNat || x < 0 || kMaxPositionX < x.toUInt32.toNat ||
    y < 0 || kMaxPositionY < y.toUInt32.toNat || pressure < 0 ||
    kMaxPressure < pressure.toUInt32.toNat

def badSlot (slot : Int32) : Bool := slot < 0 || kMaxSlot < slot.toUInt32.toNat

/-- `ProcessOneCommand`.  `SendWait` only sleeps, so it leaves the state as it is. -/
def processOneCommand (overlong : ℤ → Int32) (s : Receiver) (cmd : List UInt8) : Bool × Receiver :=
  match letterOf (cmd.headD 0) with
  | .commit => (true, (sendCommit s).2)
  | .reset => (true, (sendReset s).2)
  | .down =>
    let args := sscanf overlong 4 cmd
    let slot := args.getD 0 (-1)
    let x := args.getD 1 (-1)
    let y := args.getD 2 (-1)
    let pressure := args.getD 3 (-1)
    if badContact slot x y pressure then (false, s) else (true, (sendDown s slot x y pressure).2)
  | .up =>
    let slot := (sscanf overlong 1 cmd).getD 0 (-1)
    if badSlot slot then (false, s) else (true, (sendUp s slot).2)
  | .move =>
    let args := sscanf overlong 4 cmd
    let slot := args.getD 0 (-1)
    let x := args.getD 1 (-1)
    let y := args.getD 2 (-1)
    let pressure := args.getD 3 (-1)
    if badContact slot x y pressure then (false, s) else (true, (sendMove s slot x y pressure).2)
  | .wait =>
    let ms := (sscanf overlong 1 cmd).getD 0 0
    if ms ≤ 0 then (false, s) else (true, s)
  -- `default` only logs.
  | .other => (true, s)

/-! ## `onInputMessage` -/

/-- `std::string::find` of one byte from a position. -/
def find (msg : List UInt8) (b : UInt8) (start : ℕ) : Option ℕ :=
  ((msg.drop start).findIdx? (· == b)).map (start + ·)

/-- `std::string::substr(pos, count)` for a position inside the string. -/
def substr (msg : List UInt8) (pos count : ℕ) : List UInt8 := (msg.drop pos).take count

/-- `begin = end + 1`, and past a carriage return. -/
def nextStart (msg : List UInt8) (stop : ℕ) : ℕ :=
  if msg[stop + 1]? = some 13 then stop + 2 else stop + 1

/-- The offsets `(begin, end)` of the rounds of the `while (true)` loop of `onInputMessage` from
`begin` on.  `fuel` bounds the rounds; every round passes a line feed, so the length of the message
is enough. -/
def roundsFrom (msg : List UInt8) : ℕ → ℕ → List (ℕ × ℕ)
  | 0, _ => []
  | fuel + 1, start =>
    match find msg 10 start with
    | none => []
    | some stop => (start, stop) :: roundsFrom msg fuel (nextStart msg stop)

def roundsOf (msg : List UInt8) : List (ℕ × ℕ) := roundsFrom msg (msg.length + 1) 0

/-- The commands handed to `ProcessOneCommand`: `msg.substr(begin, end)`.  `substr` takes a count,
and the source passes the end offset. -/
def commandsOf (msg : List UInt8) : List (List UInt8) :=
  (roundsOf msg).map fun r => substr msg r.1 r.2

/-- The bytes of ASCII text. -/
def ascii (text : List Char) : List UInt8 := text.map Char.toUInt8

/-- One command of a message: the result of `ProcessOneCommand` is dropped. -/
def runCommand (overlong : ℤ → Int32) (s : Receiver) (cmd : List UInt8) : Receiver :=
  (processOneCommand overlong s cmd).2

/-- `IOResult onInputMessage(msg)`: it always returns `{0, ""}`. -/
def onInputMessage (overlong : ℤ → Int32) (s : Receiver) (msg : List UInt8) :
    (ℤ × String) × Receiver :=
  ((0, ""), (commandsOf msg).foldl (runCommand overlong) s)

/-! ## Typed commands -/

/-- What one command does to the contact table. -/
inductive Touch where
  | commit
  | reset
  | down (slot x y pressure : Int32)
  | up (slot : Int32)
  | move (slot x y pressure : Int32)
  | idle
  deriving DecidableEq

def perform (s : Receiver) : Touch → Receiver
  | .commit => (sendCommit s).2
  | .reset => (sendReset s).2
  | .down slot x y pressure => (sendDown s slot x y pressure).2
  | .up slot => (sendUp s slot).2
  | .move slot x y pressure => (sendMove s slot x y pressure).2
  | .idle => s

/-- The result and the `Touch` that a letter with converted arguments stands for. -/
def touchOf (letter : Letter) (args : List Int32) : Bool × Touch :=
  match letter with
  | .commit => (true, .commit)
  | .reset => (true, .reset)
  | .down =>
    if badContact (args.getD 0 (-1)) (args.getD 1 (-1)) (args.getD 2 (-1)) (args.getD 3 (-1)) then
      (false, .idle)
    else (true, .down (args.getD 0 (-1)) (args.getD 1 (-1)) (args.getD 2 (-1)) (args.getD 3 (-1)))
  | .up => if badSlot (args.getD 0 (-1)) then (false, .idle) else (true, .up (args.getD 0 (-1)))
  | .move =>
    if badContact (args.getD 0 (-1)) (args.getD 1 (-1)) (args.getD 2 (-1)) (args.getD 3 (-1)) then
      (false, .idle)
    else (true, .move (args.getD 0 (-1)) (args.getD 1 (-1)) (args.getD 2 (-1)) (args.getD 3 (-1)))
  | .wait => if args.getD 0 0 ≤ 0 then (false, .idle) else (true, .idle)
  | .other => (true, .idle)

/-- The number of `%d` conversions in the format a letter is read with. -/
def Letter.arity : Letter → ℕ
  | .down | .move => 4
  | .up | .wait => 1
  | .commit | .reset | .other => 0

def interpret (overlong : ℤ → Int32) (cmd : List UInt8) : Bool × Touch :=
  let letter := letterOf (cmd.headD 0)
  touchOf letter (sscanf overlong letter.arity cmd)

/-- **`ProcessOneCommand` reads, then performs.** -/
theorem processOneCommand_eq (overlong : ℤ → Int32) (s : Receiver) (cmd : List UInt8) :
    processOneCommand overlong s cmd =
      ((interpret overlong cmd).1, perform s (interpret overlong cmd).2) := by
  cases hl : letterOf (cmd.headD 0)
  case commit => simp only [processOneCommand, interpret, hl, touchOf, perform]
  case reset => simp only [processOneCommand, interpret, hl, touchOf, perform]
  case other => simp only [processOneCommand, interpret, hl, touchOf, perform]
  all_goals
    simp only [processOneCommand, interpret, hl, touchOf, Letter.arity]
    split <;> simp only [*, perform]

theorem runCommand_eq (overlong : ℤ → Int32) (s : Receiver) (cmd : List UInt8) :
    runCommand overlong s cmd = perform s (interpret overlong cmd).2 := by
  rw [runCommand, processOneCommand_eq]

/-! ## The operations as equations -/

@[simp] theorem sendEvent_mContacts (s : Receiver) (t c : UInt16) (v : Int32) :
    (sendEvent s t c v).mContacts = s.mContacts := rfl

@[simp] theorem sendEvent_mEnabledSlots (s : Receiver) (t c : UInt16) (v : Int32) :
    (sendEvent s t c v).mEnabledSlots = s.mEnabledSlots := rfl

@[simp] theorem sendEvent_mTrackingId (s : Receiver) (t c : UInt16) (v : Int32) :
    (sendEvent s t c v).mTrackingId = s.mTrackingId := rfl

@[simp] theorem sendEvent_events (s : Receiver) (t c : UInt16) (v : Int32) :
    (sendEvent s t c v).events = s.events ++ [⟨t, c, v⟩] := rfl

/-- Some contact is down. -/
def Receiver.touched (s : Receiver) : Prop := ∃ i, (s.mContacts i).enabled = true

instance (s : Receiver) : Decidable s.touched :=
  inferInstanceAs (Decidable (∃ i, (s.mContacts i).enabled = true))

/-- One round of the loop of `SendReset` releases its slot and leaves the others alone. -/
theorem resetSlot_fst (acc : (Fin kMaxSlot → Contact) × Bool) (j : Fin kMaxSlot) :
    (resetSlot acc j).1 = Function.update acc.1 j (acc.1 j).released := by
  unfold resetSlot
  split
  case isTrue => rfl
  case isFalse h =>
    rw [Contact.released_eq_self (by simpa using h), Function.update_eq_self]

theorem resetSlot_snd (acc : (Fin kMaxSlot → Contact) × Bool) (j : Fin kMaxSlot) :
    (resetSlot acc j).2 = (acc.2 || (acc.1 j).enabled) := by
  unfold resetSlot
  split <;> simp_all

/-- The loop of `SendReset` over a list of slots: it releases exactly the listed slots. -/
theorem foldl_resetSlot_fst (slots : List (Fin kMaxSlot)) (acc : (Fin kMaxSlot → Contact) × Bool)
    (i : Fin kMaxSlot) :
    (slots.foldl resetSlot acc).1 i = if i ∈ slots then (acc.1 i).released else acc.1 i := by
  induction slots generalizing acc with
  | nil => simp
  | cons j slots ih =>
    rw [List.foldl_cons, ih, resetSlot_fst]
    by_cases hij : i = j
    · subst hij
      simp [Contact.released]
    · simp [hij]

/-- The flag `report` ends up set exactly when it was, or one of the listed slots was enabled. -/
theorem foldl_resetSlot_snd (slots : List (Fin kMaxSlot)) (acc : (Fin kMaxSlot → Contact) × Bool) :
    (slots.foldl resetSlot acc).2 = true ↔
      acc.2 = true ∨ ∃ i ∈ slots, (acc.1 i).enabled = true := by
  induction slots generalizing acc with
  | nil => simp
  | cons j slots ih =>
    -- A round only ever clears flags, so what is enabled after it was enabled before.
    have hrest : ∀ i, ((resetSlot acc j).1 i).enabled = true → (acc.1 i).enabled = true := by
      intro i hi
      rw [resetSlot_fst] at hi
      by_cases hij : i = j
      · subst hij; simp at hi
      · simpa [hij] using hi
    rw [List.foldl_cons, ih, resetSlot_snd, Bool.or_eq_true]
    constructor
    · rintro ((h | h) | ⟨i, hi, he⟩)
      · exact Or.inl h
      · exact Or.inr ⟨j, by simp, h⟩
      · exact Or.inr ⟨i, by simp [hi], hrest i he⟩
    · rintro (h | ⟨i, hi, he⟩)
      · exact Or.inl (Or.inl h)
      · by_cases hij : i = j
        · exact Or.inl (Or.inr (hij ▸ he))
        · refine Or.inr ⟨i, (List.mem_cons.mp hi).resolve_left hij, ?_⟩
          rw [resetSlot_fst, Function.update_of_ne hij]
          exact he

/-- **`SendReset` in closed form.** -/
theorem sendReset_eq (s : Receiver) :
    (sendReset s).2 =
      { s with
        mContacts := fun i => (s.mContacts i).released
        events := s.events ++ if s.touched then [⟨EV_SYN, SYN_REPORT, 0⟩] else [] } := by
  have hc : ((List.finRange kMaxSlot).foldl resetSlot (s.mContacts, false)).1 =
      fun i => (s.mContacts i).released := by
    funext i
    rw [foldl_resetSlot_fst, if_pos (List.mem_finRange i)]
  have hr : ((List.finRange kMaxSlot).foldl resetSlot (s.mContacts, false)).2 = true ↔
      s.touched := by
    rw [foldl_resetSlot_snd]
    simp [Receiver.touched]
  unfold sendReset
  simp only [hc]
  by_cases ht : s.touched
  · rw [if_pos (hr.mpr ht), if_pos ht]; rfl
  · rw [if_neg (fun h => ht (hr.mp h)), if_neg ht]; simp

/-- The slot number of a command as an index of `mContacts`, when it is one. -/
def slotIndex (slot : Int32) : Option (Fin kMaxSlot) :=
  if h : slot.toUInt32.toNat < kMaxSlot then some ⟨slot.toUInt32.toNat, h⟩ else none

theorem slotIndex_eq_some {slot : Int32} {i : Fin kMaxSlot} :
    slotIndex slot = some i ↔ slot.toUInt32.toNat = i := by
  unfold slotIndex
  split
  case isTrue h => simp [Fin.ext_iff]
  case isFalse h =>
    refine iff_of_false (by simp) fun hi => h ?_
    rw [hi]
    exact i.isLt

theorem exists_of_slotIndex {slot : Int32} {i : Fin kMaxSlot} (hi : slotIndex slot = some i) :
    ∃ h : slot.toUInt32.toNat < kMaxSlot, (⟨slot.toUInt32.toNat, h⟩ : Fin kMaxSlot) = i := by
  have hval : slot.toUInt32.toNat = i := slotIndex_eq_some.mp hi
  have hlt : slot.toUInt32.toNat < kMaxSlot := hval ▸ i.isLt
  exact ⟨hlt, Fin.ext hval⟩

theorem not_lt_of_slotIndex {slot : Int32} (hi : slotIndex slot = none) :
    ¬ slot.toUInt32.toNat < kMaxSlot := by
  intro hlt
  rw [slotIndex, dif_pos hlt] at hi
  cases hi

/-- `SendDown` runs `SendReset` first. -/
def Receiver.downResets (s : Receiver) (i : Fin kMaxSlot) : Prop :=
  (s.mContacts i).enabled = true ∨ kMaxSlot ≤ s.mEnabledSlots.toNat

instance (s : Receiver) (i : Fin kMaxSlot) : Decidable (s.downResets i) :=
  inferInstanceAs (Decidable (_ ∨ _))

/-- The state `SendDown` works on after its conditional reset. -/
def Receiver.beforeDown (s : Receiver) (i : Fin kMaxSlot) : Receiver :=
  if s.downResets i then (sendReset s).2 else s

@[simp] theorem beforeDown_mEnabledSlots (s : Receiver) (i : Fin kMaxSlot) :
    (s.beforeDown i).mEnabledSlots = s.mEnabledSlots := by
  unfold Receiver.beforeDown
  split
  · rw [sendReset_eq]
  · rfl

@[simp] theorem beforeDown_mTrackingId (s : Receiver) (i : Fin kMaxSlot) :
    (s.beforeDown i).mTrackingId = s.mTrackingId := by
  unfold Receiver.beforeDown
  split
  · rw [sendReset_eq]
  · rfl

def shapeEvents (x y pressure : Int32) : List InputEvent :=
  [⟨EV_ABS, ABS_MT_TOUCH_MAJOR, 4⟩, ⟨EV_ABS, ABS_MT_WIDTH_MAJOR, 6⟩,
    ⟨EV_ABS, ABS_MT_PRESSURE, pressure⟩, ⟨EV_ABS, ABS_MT_POSITION_X, x⟩,
    ⟨EV_ABS, ABS_MT_POSITION_Y, y⟩]

theorem sendShape_eq (s : Receiver) (x y pressure : Int32) :
    sendShape s x y pressure = { s with events := s.events ++ shapeEvents x y pressure } := by
  simp [sendShape, sendEvent, shapeEvents]

/-- **`SendDown` on a valid slot, in closed form.** -/
theorem sendDown_eq (s : Receiver) {slot : Int32} {i : Fin kMaxSlot} (hi : slotIndex slot = some i)
    (x y p : Int32) :
    (sendDown s slot x y p).2 =
      { mContacts := Function.update (s.beforeDown i).mContacts i ⟨true, s.mTrackingId⟩
        mTrackingId := s.mTrackingId + 1
        mEnabledSlots := s.mEnabledSlots + 1
        events := (s.beforeDown i).events ++
          [⟨EV_ABS, ABS_MT_SLOT, slot⟩, ⟨EV_ABS, ABS_MT_TRACKING_ID, s.mTrackingId⟩] ++
          (if s.mEnabledSlots + 1 = 1 then [⟨EV_KEY, BTN_TOUCH, 1⟩] else []) ++
          shapeEvents x y p } := by
  obtain ⟨hlt, hidx⟩ := exists_of_slotIndex hi
  have hbefore : (if (s.mContacts i).enabled || kMaxSlot ≤ s.mEnabledSlots.toNat then
      (sendReset s).2 else s) = s.beforeDown i :=
    if_congr (by simp [Receiver.downResets]) rfl rfl
  unfold sendDown
  simp only [dif_pos hlt, hidx, hbefore, sendShape_eq, sendEvent, beforeDown_mEnabledSlots,
    beforeDown_mTrackingId, Function.update_self, beq_iff_eq]
  split <;> simp

/-- A down for a slot outside the table is refused. -/
theorem sendDown_of_none (s : Receiver) {slot : Int32} (hi : slotIndex slot = none) (x y p : Int32) :
    (sendDown s slot x y p).2 = s := by
  rw [sendDown, dif_neg (not_lt_of_slotIndex hi)]

/-- `SendUp` lifts the contact: the conditions of its first `if`, negated. -/
def Receiver.lifts (s : Receiver) (i : Fin kMaxSlot) : Prop :=
  s.mEnabledSlots ≠ 0 ∧ (s.mContacts i).enabled = true

theorem refuses_iff_not_lifts (s : Receiver) (i : Fin kMaxSlot) :
    (s.mEnabledSlots == 0 || !(s.mContacts i).enabled) = true ↔ ¬ s.lifts i := by
  unfold Receiver.lifts
  cases (s.mContacts i).enabled <;> simp

/-- **`SendUp` that lifts a contact, in closed form.** -/
theorem sendUp_eq (s : Receiver) {slot : Int32} {i : Fin kMaxSlot} (hi : slotIndex slot = some i)
    (hl : s.lifts i) :
    (sendUp s slot).2 =
      { s with
        mContacts := Function.update s.mContacts i (s.mContacts i).released
        mEnabledSlots := s.mEnabledSlots - 1
        events := s.events ++
          [⟨EV_ABS, ABS_MT_SLOT, slot⟩, ⟨EV_ABS, ABS_MT_TRACKING_ID, -1⟩] ++
          (if s.mEnabledSlots - 1 = 0 then [⟨EV_KEY, BTN_TOUCH, 0⟩] else []) } := by
  obtain ⟨hlt, hidx⟩ := exists_of_slotIndex hi
  have hcond : (s.mEnabledSlots == 0 || !(s.mContacts i).enabled) = false := by
    rw [← Bool.not_eq_true, refuses_iff_not_lifts, not_not]
    exact hl
  unfold sendUp
  simp only [dif_pos hlt, hidx, hcond, Bool.false_eq_true, if_false, sendEvent, beq_iff_eq]
  split <;> simp

/-- An up lifts a contact, or it is refused. -/
theorem sendUp_cases (s : Receiver) (slot : Int32) :
    (∃ i, slotIndex slot = some i ∧ s.lifts i) ∨ sendUp s slot = (false, s) := by
  cases hi : slotIndex slot with
  | none => exact Or.inr (dif_neg (not_lt_of_slotIndex hi))
  | some i =>
    by_cases hl : s.lifts i
    · exact Or.inl ⟨i, rfl, hl⟩
    · obtain ⟨hlt, hidx⟩ := exists_of_slotIndex hi
      refine Or.inr ?_
      rw [sendUp, dif_pos hlt, hidx, if_pos ((refuses_iff_not_lifts s i).mpr hl)]

/-- `SendMove` only emits events, those of the contact after its slot. -/
theorem sendMove_eq (s : Receiver) (slot x y p : Int32) :
    (sendMove s slot x y p).2 =
      { s with events := s.events ++
          if ∃ i, slotIndex slot = some i ∧ (s.mContacts i).enabled = true then
            ⟨EV_ABS, ABS_MT_SLOT, slot⟩ :: shapeEvents x y p
          else [] } := by
  unfold sendMove slotIndex
  split
  case isTrue hlt =>
    simp only [Option.some.injEq, exists_eq_left']
    split <;> simp [sendShape_eq, sendEvent]
  case isFalse hlt => simp

end VhalClient.Input
