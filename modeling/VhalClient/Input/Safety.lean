/-
# VhalClient.Input.Safety — no text drives the receiver out of its arrays or its ranges.

`Input.Receiver` indexes the contact table by `Fin kMaxSlot` and counts the rounds of `onInputMessage` off the
message, so it cannot even say that the C++ reads outside an array or does not come back.  Here the same code is
written down once more with raw indices: `mContacts[slot]` with the signed `slot` of the source, `cmd[0]`,
`msg[begin]`, `msg.substr(begin, end)`, and a loop that may run out of rounds.  Each of these can fault, and
`Bounds.onInputMessage` is the whole call in `Except Fault`.

`onInputMessage_safe` says that it never does: for every state and every text it returns what `Input.onInputMessage`
returns, and every event it emits is in the ranges that `getTouchInfo` advertises.
-/
import VhalClient.Input.Lines

namespace VhalClient.Input

/-! ## `getTouchInfo` -/

/-- `struct TouchInfo` -/
structure TouchInfo where
  version : UInt32
  max_contacts : Int32
  max_x : Int32
  max_y : Int32
  max_pressure : Int32
  pid : Int32

/-- What `getTouchInfo` fills in; `pid` is what `getpid` returns. -/
def touchInfo (pid : Int32) : TouchInfo where
  max_contacts := .ofNat kMaxSlot
  max_pressure := .ofNat kMaxPressure
  max_x := .ofNat kMaxPositionX
  max_y := .ofNat kMaxPositionY
  pid := pid
  version := 1

/-- `getTouchInfo`: the answer, and what the pointer shows to afterwards. -/
def getTouchInfo (pid : Int32) : Option TouchInfo → Bool × Option TouchInfo
  | none => (false, none)
  | some _ => (true, some (touchInfo pid))

/-- The largest value an answer of `getTouchInfo` advertises for an axis; slots are numbered from 0. -/
def TouchInfo.maximum (info : TouchInfo) (axis : UInt16) : Option ℤ :=
  if axis = ABS_MT_SLOT then some (info.max_contacts.toInt - 1)
  else if axis = ABS_MT_POSITION_X then some info.max_x.toInt
  else if axis = ABS_MT_POSITION_Y then some info.max_y.toInt
  else if axis = ABS_MT_PRESSURE then some info.max_pressure.toInt
  else none

/-- The event is in the ranges of an answer of `getTouchInfo`. -/
def TouchInfo.Covers (info : TouchInfo) (e : InputEvent) : Prop :=
  e.type = EV_ABS → ∀ m, info.maximum e.code = some m → 0 ≤ e.value.toInt ∧ e.value.toInt ≤ m

/-! ## The code with raw indices -/

/-- What an access or a loop can do other than return. -/
inductive Fault where
  /-- `mContacts[slot]` outside the array -/
  | contact (slot : ℤ)
  /-- a character behind the terminating NUL of a string -/
  | text (pos : ℕ)
  /-- `std::out_of_range` from `substr` -/
  | outOfRange (pos : ℕ)
  /-- the loop of `onInputMessage` goes on -/
  | unfinished
  deriving DecidableEq

namespace Bounds

/-- `mContacts[slot]`, read. -/
def contact (s : Receiver) (slot : ℤ) : Except Fault Contact :=
  if h : 0 ≤ slot ∧ slot.toNat < kMaxSlot then .ok (s.mContacts ⟨slot.toNat, h.2⟩) else .error (.contact slot)

/-- `mContacts[slot] = c` -/
def setContact (s : Receiver) (slot : ℤ) (c : Contact) : Except Fault Receiver :=
  if h : 0 ≤ slot ∧ slot.toNat < kMaxSlot then
    .ok { s with mContacts := Function.update s.mContacts ⟨slot.toNat, h.2⟩ c }
  else .error (.contact slot)

/-- `std::string::operator[]`: at the length it is the terminating NUL. -/
def charAt (text : List UInt8) (pos : ℕ) : Except Fault UInt8 :=
  if pos ≤ text.length then .ok (text.getD pos 0) else .error (.text pos)

/-- `std::string::substr` -/
def substr (text : List UInt8) (pos count : ℕ) : Except Fault (List UInt8) :=
  if pos ≤ text.length then .ok (Input.substr text pos count) else .error (.outOfRange pos)

/-- The body of the loop of `SendReset`. -/
def resetSlot (acc : Receiver × Bool) (slot : ℕ) : Except Fault (Receiver × Bool) := do
  let c ← contact acc.1 slot
  if c.enabled then
    let s ← setContact acc.1 slot c.released
    pure (s, true)
  else pure acc

def sendReset (s : Receiver) : Except Fault (Bool × Receiver) := do
  let acc ← (List.range kMaxSlot).foldlM resetSlot (s, false)
  pure (true, if acc.2 then sendEvent acc.1 EV_SYN SYN_REPORT 0 else acc.1)

def sendDown (s : Receiver) (slot x y pressure : Int32) : Except Fault (Bool × Receiver) := do
  if kMaxSlot ≤ slot.toUInt32.toNat then
    return (false, s)
  let c ← contact s slot.toInt
  let s ← if c.enabled || kMaxSlot ≤ s.mEnabledSlots.toNat then Prod.snd <$> sendReset s else pure s
  let c ← contact s slot.toInt
  let s ← setContact s slot.toInt { c with enabled := true }
  let c ← contact s slot.toInt
  let s ← setContact s slot.toInt { c with trackingId := s.mTrackingId }
  let s := { s with mTrackingId := s.mTrackingId + 1, mEnabledSlots := s.mEnabledSlots + 1 }
  let s := sendEvent s EV_ABS ABS_MT_SLOT slot
  let c ← contact s slot.toInt
  let s := sendEvent s EV_ABS ABS_MT_TRACKING_ID c.trackingId
  let s := if s.mEnabledSlots == 1 then sendEvent s EV_KEY BTN_TOUCH 1 else s
  return (true, sendShape s x y pressure)

def sendUp (s : Receiver) (slot : Int32) : Except Fault (Bool × Receiver) := do
  if s.mEnabledSlots == 0 then
    return (false, s)
  if kMaxSlot ≤ slot.toUInt32.toNat then
    return (false, s)
  let c ← contact s slot.toInt
  if !c.enabled then
    return (false, s)
  let s ← setContact s slot.toInt c.released
  let s := { s with mEnabledSlots := s.mEnabledSlots - 1 }
  let s := sendEvent s EV_ABS ABS_MT_SLOT slot
  let s := sendEvent s EV_ABS ABS_MT_TRACKING_ID (-1)
  return (true, if s.mEnabledSlots == 0 then sendEvent s EV_KEY BTN_TOUCH 0 else s)

def sendMove (s : Receiver) (slot x y pressure : Int32) : Except Fault (Bool × Receiver) := do
  if kMaxSlot ≤ slot.toUInt32.toNat then
    return (false, s)
  let c ← contact s slot.toInt
  if !c.enabled then
    return (false, s)
  return (true, sendShape (sendEvent s EV_ABS ABS_MT_SLOT slot) x y pressure)

/-- `ProcessOneCommand`.  `sscanf` reads the C string of `cmd`, which `c_str` terminates. -/
def processOneCommand (overlong : ℤ → Int32) (s : Receiver) (cmd : List UInt8) :
    Except Fault (Bool × Receiver) := do
  let type ← charAt cmd 0
  match letterOf type with
  | .commit => return (true, (sendCommit s).2)
  | .reset =>
    let r ← sendReset s
    return (true, r.2)
  | .down =>
    let args := sscanf overlong 4 cmd
    let slot := args.getD 0 (-1)
    let x := args.getD 1 (-1)
    let y := args.getD 2 (-1)
    let pressure := args.getD 3 (-1)
    if badContact slot x y pressure then return (false, s)
    let r ← sendDown s slot x y pressure
    return (true, r.2)
  | .up =>
    let slot := (sscanf overlong 1 cmd).getD 0 (-1)
    if badSlot slot then return (false, s)
    let r ← sendUp s slot
    return (true, r.2)
  | .move =>
    let args := sscanf overlong 4 cmd
    let slot := args.getD 0 (-1)
    let x := args.getD 1 (-1)
    let y := args.getD 2 (-1)
    let pressure := args.getD 3 (-1)
    if badContact slot x y pressure then return (false, s)
    let r ← sendMove s slot x y pressure
    return (true, r.2)
  | .wait =>
    let ms := (sscanf overlong 1 cmd).getD 0 0
    if ms ≤ 0 then return (false, s)
    return (true, s)
  | .other => return (true, s)

/-- The `while (true)` loop of `onInputMessage` from `begin` on, for at most `rounds` rounds. -/
def lines (overlong : ℤ → Int32) (msg : List UInt8) : ℕ → ℕ → Receiver → Except Fault Receiver
  | 0, _, _ => .error .unfinished
  | rounds + 1, start, s =>
    match find msg 10 start with
    | none => .ok s
    | some stop => do
      let cmd ← substr msg start stop
      let r ← processOneCommand overlong s cmd
      let b ← charAt msg (stop + 1)
      lines overlong msg rounds (if b = 13 then stop + 2 else stop + 1) r.2

/-- `onInputMessage`, with one round more than the message has bytes. -/
def onInputMessage (overlong : ℤ → Int32) (s : Receiver) (msg : List UInt8) :
    Except Fault ((ℤ × String) × Receiver) := do
  let s ← lines overlong msg (msg.length + 1) 0 s
  return ((0, ""), s)

/-! ## No fault -/

@[simp] theorem ok_bind {α β : Type} (a : α) (f : α → Except Fault β) : (Except.ok a >>= f) = f a := rfl

@[simp] theorem pure_ok {α : Type} (a : α) : (pure a : Except Fault α) = .ok a := rfl

/-- A slot number that the cast to `uint32_t` lets through is the index it stands for. -/
theorem toInt_of_slotIndex {slot : Int32} {i : Fin kMaxSlot} (hi : slotIndex slot = some i) :
    slot.toInt = (i : ℕ) := by
  have hnat : slot.toBitVec.toNat = i := slotIndex_eq_some.mp hi
  have hlt : (i : ℕ) < 10 := i.isLt
  rw [← Int32.toInt_toBitVec, BitVec.toInt_eq_toNat_of_lt (by omega), hnat]

@[simp] theorem contact_coe (s : Receiver) (i : Fin kMaxSlot) : contact s (i : ℕ) = .ok (s.mContacts i) := by
  rw [contact, dif_pos ⟨by omega, by simp⟩]
  rfl

@[simp] theorem setContact_coe (s : Receiver) (i : Fin kMaxSlot) (c : Contact) :
    setContact s (i : ℕ) c = .ok { s with mContacts := Function.update s.mContacts i c } := by
  rw [setContact, dif_pos ⟨by omega, by simp⟩]
  rfl

theorem resetSlot_ok (s : Receiver) (table : Fin kMaxSlot → Contact) (report : Bool) (i : Fin kMaxSlot) :
    resetSlot ({ s with mContacts := table }, report) (i : ℕ) =
      .ok ({ s with mContacts := (Input.resetSlot (table, report) i).1 }, (Input.resetSlot (table, report) i).2) := by
  unfold resetSlot Input.resetSlot
  simp only [contact_coe, setContact_coe, ok_bind]
  cases (table i).enabled <;> rfl

theorem sendReset_ok (s : Receiver) : sendReset s = .ok (Input.sendReset s) := by
  have hloop : ∀ (slots : List (Fin kMaxSlot)) (acc : (Fin kMaxSlot → Contact) × Bool),
      (slots.map Fin.val).foldlM resetSlot ({ s with mContacts := acc.1 }, acc.2) =
        .ok ({ s with mContacts := (slots.foldl Input.resetSlot acc).1 }, (slots.foldl Input.resetSlot acc).2) := by
    intro slots
    induction slots with
    | nil => exact fun _ => rfl
    | cons i slots ih =>
      intro acc
      rw [List.map_cons, List.foldlM_cons, resetSlot_ok, List.foldl_cons, ok_bind]
      exact ih _
  have hall := hloop (List.finRange kMaxSlot) (s.mContacts, false)
  rw [List.map_coe_finRange_eq_range] at hall
  unfold sendReset
  rw [hall]
  rfl

theorem sendDown_ok (s : Receiver) (slot x y p : Int32) :
    sendDown s slot x y p = .ok (Input.sendDown s slot x y p) := by
  unfold sendDown Input.sendDown
  cases hi : slotIndex slot with
  | none =>
    have hout := not_lt_of_slotIndex hi
    rw [if_pos (by omega), dif_neg hout]
    rfl
  | some i =>
    obtain ⟨hlt, hidx⟩ := exists_of_slotIndex hi
    rw [if_neg (by omega), dif_pos hlt, toInt_of_slotIndex hi, hidx]
    simp only [contact_coe, sendReset_ok, ok_bind, setContact_coe, pure_ok]
    by_cases hreset : ((s.mContacts i).enabled || decide (kMaxSlot ≤ s.mEnabledSlots.toNat)) = true
    · simp [hreset]
    · simp [hreset]

theorem sendUp_ok (s : Receiver) (slot : Int32) : sendUp s slot = .ok (Input.sendUp s slot) := by
  unfold sendUp Input.sendUp
  cases hi : slotIndex slot with
  | none =>
    have hout := not_lt_of_slotIndex hi
    rw [if_pos (show kMaxSlot ≤ slot.toUInt32.toNat by omega), dif_neg hout]
    split <;> rfl
  | some i =>
    obtain ⟨hlt, hidx⟩ := exists_of_slotIndex hi
    rw [if_neg (show ¬ kMaxSlot ≤ slot.toUInt32.toNat by omega), dif_pos hlt, toInt_of_slotIndex hi, hidx]
    simp only [contact_coe, ok_bind, setContact_coe, pure_ok]
    by_cases hzero : s.mEnabledSlots = 0
    · simp [hzero]
    · cases he : (s.mContacts i).enabled <;> simp [hzero]

theorem sendMove_ok (s : Receiver) (slot x y p : Int32) :
    sendMove s slot x y p = .ok (Input.sendMove s slot x y p) := by
  unfold sendMove Input.sendMove
  cases hi : slotIndex slot with
  | none =>
    have hout := not_lt_of_slotIndex hi
    rw [if_pos (by omega), dif_neg hout]
    rfl
  | some i =>
    obtain ⟨hlt, hidx⟩ := exists_of_slotIndex hi
    rw [if_neg (by omega), dif_pos hlt, toInt_of_slotIndex hi, hidx]
    simp only [contact_coe, ok_bind, pure_ok]
    cases (s.mContacts i).enabled <;> rfl

theorem processOneCommand_ok (overlong : ℤ → Int32) (s : Receiver) (cmd : List UInt8) :
    processOneCommand overlong s cmd = .ok (Input.processOneCommand overlong s cmd) := by
  have hfirst : charAt cmd 0 = .ok (cmd.headD 0) := by
    cases cmd <;> rfl
  unfold processOneCommand Input.processOneCommand
  rw [hfirst, ok_bind]
  cases letterOf (cmd.headD 0) with
  | commit => rfl
  | other => rfl
  | reset => rw [sendReset_ok]; rfl
  | down =>
    simp only [sendDown_ok, ok_bind, pure_ok]
    split <;> rfl
  | up =>
    simp only [sendUp_ok, ok_bind, pure_ok]
    split <;> rfl
  | move =>
    simp only [sendMove_ok, ok_bind, pure_ok]
    split <;> rfl
  | wait =>
    simp only [pure_ok]
    split <;> rfl

theorem charAt_succ {msg : List UInt8} {stop : ℕ} (h : stop < msg.length) :
    charAt msg (stop + 1) = .ok (msg.getD (stop + 1) 0) := if_pos h

/-- Stepping over a carriage return: the NUL behind the text is none. -/
theorem next_eq (msg : List UInt8) (stop : ℕ) :
    (if msg.getD (stop + 1) 0 = 13 then stop + 2 else stop + 1) = nextStart msg stop := by
  unfold nextStart
  rw [List.getD_eq_getElem?_getD]
  cases msg[stop + 1]? with
  | none => rfl
  | some b => simp

theorem nextStart_le {msg : List UInt8} {stop : ℕ} (h : stop < msg.length) :
    nextStart msg stop ≤ msg.length := by
  unfold nextStart
  split
  case isTrue hcr =>
    obtain ⟨hlt, _⟩ := List.getElem?_eq_some_iff.mp hcr
    omega
  case isFalse => omega

/-- **The loop comes back.** Every round passes a line feed and starts inside the message, so one round more than
there are bytes left is enough. -/
theorem lines_ok (overlong : ℤ → Int32) (msg : List UInt8) {rounds start : ℕ} (s : Receiver)
    (hstart : start ≤ msg.length) (henough : msg.length < rounds + start) :
    lines overlong msg rounds start s =
      .ok (((roundsFrom msg rounds start).map fun r => Input.substr msg r.1 r.2).foldl (runCommand overlong) s) := by
  induction rounds generalizing start s with
  | zero => omega
  | succ rounds ih =>
    rw [lines, roundsFrom]
    cases hf : find msg 10 start with
    | none => rfl
    | some stop =>
      obtain ⟨hle, hlt, _⟩ := find_eq_some hf
      have hnext := lt_nextStart msg stop
      simp only [substr, if_pos hstart, ok_bind, processOneCommand_ok, charAt_succ hlt, next_eq]
      exact ih _ (nextStart_le hlt) (by omega)

theorem onInputMessage_ok (overlong : ℤ → Int32) (s : Receiver) (msg : List UInt8) :
    onInputMessage overlong s msg = .ok (Input.onInputMessage overlong s msg) := by
  unfold onInputMessage
  rw [lines_ok overlong msg s (Nat.zero_le _) (by omega)]
  rfl

end Bounds

/-! ## The emitted values -/

theorem covers_of_le (pid : Int32) {axis : UInt16} {v : Int32} {m : ℤ}
    (hm : (touchInfo pid).maximum axis = some m) (hv : 0 ≤ v.toInt ∧ v.toInt ≤ m) :
    (touchInfo pid).Covers ⟨EV_ABS, axis, v⟩ := by
  intro _ m' hm'
  obtain rfl : m = m' := Option.some.inj (hm.symm.trans hm')
  exact hv

/-- No range is advertised for the other axes. -/
theorem covers_of_none (pid : Int32) {axis : UInt16} (v : Int32) (hm : (touchInfo pid).maximum axis = none) :
    (touchInfo pid).Covers ⟨EV_ABS, axis, v⟩ := by
  intro _ m hsome
  rw [hm] at hsome
  cases hsome

theorem covers_of_type (pid : Int32) {type : UInt16} (code : UInt16) (v : Int32) (h : type ≠ EV_ABS) :
    (touchInfo pid).Covers ⟨type, code, v⟩ := fun htype => absurd htype h

/-- An event that is emitted under a condition and describes no axis. -/
theorem covers_of_mem_ite (pid : Int32) {type code : UInt16} {v : Int32} (h : type ≠ EV_ABS) {c : Prop} [Decidable c]
    {e : InputEvent} (he : e ∈ if c then [⟨type, code, v⟩] else []) : (touchInfo pid).Covers e := by
  split at he
  · obtain rfl := List.mem_singleton.mp he
    exact covers_of_type pid _ _ h
  · cases he

/-- The two comparisons of a parameter check, the second one behind a cast, are the range of the value. -/
theorem checked_iff {v : Int32} {bound : ℕ} :
    (¬ v < 0 ∧ ¬ bound < v.toUInt32.toNat) ↔ 0 ≤ v.toInt ∧ v.toInt ≤ bound := by
  have hsign : ¬ v < 0 ↔ 0 ≤ v.toInt := by
    rw [Int32.lt_iff_toInt_lt]
    exact Int.not_lt
  have hnat : 0 ≤ v.toInt → v.toInt = v.toUInt32.toNat := by
    intro hnonneg
    have hcond := BitVec.toInt_eq_toNat_cond v.toBitVec
    have hbits : v.toBitVec.toNat < 2 ^ 32 := v.toBitVec.isLt
    rw [Int32.toInt_toBitVec] at hcond
    split at hcond
    · exact hcond
    · omega
  rw [hsign]
  refine and_congr_right ?_
  intro hnonneg
  have heq := hnat hnonneg
  omega

/-- The position and the pressure of a contact are in range. -/
structure ContactInRange (x y pressure : Int32) : Prop where
  x : 0 ≤ x.toInt ∧ x.toInt ≤ kMaxPositionX
  y : 0 ≤ y.toInt ∧ y.toInt ≤ kMaxPositionY
  pressure : 0 ≤ pressure.toInt ∧ pressure.toInt ≤ kMaxPressure

/-- What `d` and `m` check: the slot, where `kMaxSlot` itself passes, and the rest. -/
theorem badContact_eq_false_iff {slot x y p : Int32} :
    badContact slot x y p = false ↔ badSlot slot = false ∧ ContactInRange x y p := by
  simp only [badContact, badSlot, Bool.or_eq_false_iff, decide_eq_false_iff_not]
  constructor
  · rintro ⟨⟨⟨⟨⟨⟨⟨hs0, hs⟩, hx0⟩, hx⟩, hy0⟩, hy⟩, hp0⟩, hp⟩
    exact ⟨⟨hs0, hs⟩, checked_iff.mp ⟨hx0, hx⟩, checked_iff.mp ⟨hy0, hy⟩, checked_iff.mp ⟨hp0, hp⟩⟩
  · rintro ⟨⟨hs0, hs⟩, h⟩
    obtain ⟨hx0, hx⟩ := checked_iff.mpr h.x
    obtain ⟨hy0, hy⟩ := checked_iff.mpr h.y
    obtain ⟨hp0, hp⟩ := checked_iff.mpr h.pressure
    exact ⟨⟨⟨⟨⟨⟨⟨hs0, hs⟩, hx0⟩, hx⟩, hy0⟩, hy⟩, hp0⟩, hp⟩

theorem contactInRange_of_checked {slot x y p : Int32} (h : ¬ badContact slot x y p = true) :
    ContactInRange x y p := (badContact_eq_false_iff.mp (by simpa using h)).2

/-- The numbers of a command are in range, where it has any. -/
def Touch.InRange : Touch → Prop
  | .down _ x y p => ContactInRange x y p
  | .move _ x y p => ContactInRange x y p
  | _ => True

theorem inRange_interpret (overlong : ℤ → Int32) (cmd : List UInt8) : (interpret overlong cmd).2.InRange := by
  unfold interpret
  generalize sscanf overlong _ cmd = args
  cases letterOf (cmd.headD 0) with
  | commit => trivial
  | reset => trivial
  | other => trivial
  | up =>
    simp only [touchOf]
    split <;> trivial
  | wait =>
    simp only [touchOf]
    split <;> trivial
  | down =>
    simp only [touchOf]
    split
    case isTrue => trivial
    case isFalse hgood => exact contactInRange_of_checked hgood
  | move =>
    simp only [touchOf]
    split
    case isTrue => trivial
    case isFalse hgood => exact contactInRange_of_checked hgood

theorem covers_slot (pid : Int32) {slot : Int32} {i : Fin kMaxSlot} (hi : slotIndex slot = some i) :
    (touchInfo pid).Covers ⟨EV_ABS, ABS_MT_SLOT, slot⟩ := by
  have hlt : (i : ℕ) < 10 := i.isLt
  refine covers_of_le pid (m := 9) rfl ?_
  rw [Bounds.toInt_of_slotIndex hi]
  omega

theorem covers_shapeEvents (pid : Int32) {x y p : Int32} (h : ContactInRange x y p) :
    ∀ e ∈ shapeEvents x y p, (touchInfo pid).Covers e := by
  simp only [shapeEvents, List.forall_mem_cons]
  refine ⟨covers_of_none pid _ rfl, covers_of_none pid _ rfl, ?_, ?_, ?_, by simp⟩
  · exact covers_of_le pid rfl h.pressure
  · exact covers_of_le pid rfl h.x
  · exact covers_of_le pid rfl h.y

/-- Between the two states only events in the advertised ranges were emitted. -/
def Emits (pid : Int32) (s t : Receiver) : Prop :=
  ∃ emitted, t.events = s.events ++ emitted ∧ ∀ e ∈ emitted, (touchInfo pid).Covers e

variable {pid : Int32}

theorem Emits.refl (s : Receiver) : Emits pid s s := ⟨[], by simp, by simp⟩

theorem Emits.trans {s t u : Receiver} (hst : Emits pid s t) (htu : Emits pid t u) : Emits pid s u := by
  obtain ⟨es, hes, hcover⟩ := hst
  obtain ⟨fs, hfs, hcover'⟩ := htu
  refine ⟨es ++ fs, by rw [hfs, hes, List.append_assoc], ?_⟩
  intro e he
  rcases List.mem_append.mp he with he | he
  · exact hcover e he
  · exact hcover' e he

theorem emits_sendReset (s : Receiver) : Emits pid s (sendReset s).2 := by
  rw [sendReset_eq]
  exact ⟨_, rfl, fun e he => covers_of_mem_ite pid (by decide) he⟩

theorem emits_beforeDown (s : Receiver) (i : Fin kMaxSlot) : Emits pid s (s.beforeDown i) := by
  unfold Receiver.beforeDown
  split
  · exact emits_sendReset s
  · exact .refl s

theorem emits_sendDown (s : Receiver) (slot : Int32) {x y p : Int32} (h : ContactInRange x y p) :
    Emits pid s (sendDown s slot x y p).2 := by
  cases hi : slotIndex slot with
  | none => rw [sendDown_of_none s hi]; exact .refl s
  | some i =>
    refine (emits_beforeDown s i).trans ?_
    rw [sendDown_eq s hi]
    refine ⟨_, by rw [List.append_assoc, List.append_assoc], ?_⟩
    intro e he
    simp only [List.mem_append, List.mem_cons, List.not_mem_nil, or_false] at he
    rcases he with (rfl | rfl) | he | he
    · exact covers_slot pid hi
    · exact covers_of_none pid _ rfl
    · exact covers_of_mem_ite pid (by decide) he
    · exact covers_shapeEvents pid h e he

theorem emits_sendUp (s : Receiver) (slot : Int32) : Emits pid s (sendUp s slot).2 := by
  rcases sendUp_cases s slot with ⟨i, hi, hlift⟩ | hrefused
  · rw [sendUp_eq s hi hlift]
    refine ⟨_, by rw [List.append_assoc], ?_⟩
    intro e he
    simp only [List.mem_append, List.mem_cons, List.not_mem_nil, or_false] at he
    rcases he with (rfl | rfl) | he
    · exact covers_slot pid hi
    · exact covers_of_none pid _ rfl
    · exact covers_of_mem_ite pid (by decide) he
  · rw [hrefused]
    exact .refl s

theorem emits_sendMove (s : Receiver) (slot : Int32) {x y p : Int32} (h : ContactInRange x y p) :
    Emits pid s (sendMove s slot x y p).2 := by
  rw [sendMove_eq]
  refine ⟨_, rfl, ?_⟩
  intro e he
  split at he
  case isTrue hdown =>
    obtain ⟨i, hi, -⟩ := hdown
    rcases List.mem_cons.mp he with rfl | he
    · exact covers_slot pid hi
    · exact covers_shapeEvents pid h e he
  case isFalse => cases he

theorem emits_perform (s : Receiver) {t : Touch} (ht : t.InRange) : Emits pid s (perform s t) := by
  cases t with
  | idle => exact .refl s
  | commit =>
    refine ⟨_, rfl, ?_⟩
    intro e he
    obtain rfl := List.mem_singleton.mp he
    exact covers_of_type pid _ _ (by decide)
  | reset => exact emits_sendReset s
  | down slot x y p => exact emits_sendDown s slot ht
  | up slot => exact emits_sendUp s slot
  | move slot x y p => exact emits_sendMove s slot ht

theorem emits_foldl (pid : Int32) (overlong : ℤ → Int32) (s : Receiver) (cmds : List (List UInt8)) :
    Emits pid s (cmds.foldl (runCommand overlong) s) := by
  induction cmds generalizing s with
  | nil => exact .refl s
  | cons cmd cmds ih =>
    have hfirst : Emits pid s (runCommand overlong s cmd) := by
      rw [runCommand_eq]
      exact emits_perform s (inRange_interpret overlong cmd)
    exact hfirst.trans (ih _)

/-- **No text does harm.** From every state and for every byte string, whatever `sscanf` stores for a number that
does not fit: the call comes back without an access outside `msg`, `cmd` or `mContacts`, it does what
`Input.onInputMessage` says, and every event it emits is in the ranges of the answer of `getTouchInfo`. -/
theorem onInputMessage_safe (overlong : ℤ → Int32) (s : Receiver) (msg : List UInt8) (pid : Int32)
    (info : TouchInfo) :
    Bounds.onInputMessage overlong s msg = .ok (onInputMessage overlong s msg) ∧
      ∃ emitted, (onInputMessage overlong s msg).2.events = s.events ++ emitted ∧
        ∃ filled, getTouchInfo pid (some info) = (true, some filled) ∧ ∀ e ∈ emitted, filled.Covers e := by
  obtain ⟨emitted, hevents, hcover⟩ := emits_foldl pid overlong s (commandsOf msg)
  exact ⟨Bounds.onInputMessage_ok overlong s msg, emitted, hevents, touchInfo pid, rfl, hcover⟩

/-- The advertised ranges. -/
example (pid : Int32) :
    [ABS_MT_SLOT, ABS_MT_POSITION_X, ABS_MT_POSITION_Y, ABS_MT_PRESSURE].map (touchInfo pid).maximum =
      [some 9, some 32767, some 32767, some 255] := rfl

end VhalClient.Input
