/-
# VhalClient.Input.Multitouch — what an evdev reader makes of the emitted events.

`View` is the state a reader of the Linux multitouch protocol B rebuilds from the event stream:
`ABS_MT_SLOT` selects a slot, `ABS_MT_TRACKING_ID` starts a contact there when it is not negative and
ends it otherwise, `BTN_TOUCH` is the touch key.  This is the abstract side; the receiver's contact
table is the other one, and `Receiver.ConsumerAgrees` is the simulation relation between them.

The relation survives every command that does not reset a live table (`agrees_perform`, one case per
command), so along every such run with fewer than 2^31 downs the two stay in step
(`consumerAgrees_of_resetFree`).  `SendReset` itself emits no tracking id, which is why a reset of a
live table leaves the reader with fingers that are no longer there.
-/
import VhalClient.Input.Slots

namespace VhalClient.Input

open VhalClient.Lib

/-! ## The reader -/

structure View where
  slot : Int32 := 0
  active : Int32 → Option Int32 := fun _ => none
  touch : Bool := false

/-- One event of the protocol. -/
def View.event (v : View) (e : InputEvent) : View :=
  if e.type = EV_ABS ∧ e.code = ABS_MT_SLOT then { v with slot := e.value }
  else if e.type = EV_ABS ∧ e.code = ABS_MT_TRACKING_ID then
    { v with active := Function.update v.active v.slot (if 0 ≤ e.value then some e.value else none) }
  else if e.type = EV_KEY ∧ e.code = BTN_TOUCH then { v with touch := e.value != 0 }
  else v

def View.events (v : View) (es : List InputEvent) : View := es.foldl View.event v

/-- The reader's view of everything the receiver has emitted. -/
def Receiver.view (s : Receiver) : View := View.events {} s.events

@[simp] theorem View.events_nil (v : View) : v.events [] = v := rfl

@[simp] theorem View.events_append (v : View) (es fs : List InputEvent) :
    v.events (es ++ fs) = (v.events es).events fs := by
  simp [View.events]

theorem View.event_slot (v : View) (n : Int32) :
    v.event ⟨EV_ABS, ABS_MT_SLOT, n⟩ = { v with slot := n } := rfl

theorem View.event_trackingId (v : View) (n : Int32) :
    v.event ⟨EV_ABS, ABS_MT_TRACKING_ID, n⟩ =
      { v with active := Function.update v.active v.slot (if 0 ≤ n then some n else none) } := rfl

/-- Position, size and pressure do not concern the set of contacts. -/
@[simp] theorem View.events_shapeEvents (v : View) (x y p : Int32) :
    v.events (shapeEvents x y p) = v := rfl

/-- The events of a down leave the contact with its tracking id in the selected slot and the touch
key pressed, if the key is pressed already or the down presses it. -/
theorem View.events_down (v : View) (slot : Int32) {id : Int32} (hid : 0 ≤ id) {first : Prop}
    [Decidable first] (hkey : first ∨ v.touch = true) (x y p : Int32) :
    v.events ([⟨EV_ABS, ABS_MT_SLOT, slot⟩, ⟨EV_ABS, ABS_MT_TRACKING_ID, id⟩] ++
        (if first then [⟨EV_KEY, BTN_TOUCH, 1⟩] else []) ++ shapeEvents x y p) =
      { slot := slot, active := Function.update v.active slot (some id), touch := true } := by
  have htwo : v.events [⟨EV_ABS, ABS_MT_SLOT, slot⟩, ⟨EV_ABS, ABS_MT_TRACKING_ID, id⟩] =
      { slot := slot, active := Function.update v.active slot (some id), touch := v.touch } := by
    simp [View.events, View.event_slot, View.event_trackingId, hid]
  simp only [View.events_append, View.events_shapeEvents, htwo]
  by_cases hf : first
  · rw [if_pos hf]
    rfl
  · rw [if_neg hf, View.events_nil, hkey.resolve_left hf]

/-- The events of an up leave no contact in the selected slot; the touch key goes up with the last
one. -/
theorem View.events_up (v : View) (slot : Int32) {last : Prop} [Decidable last]
    (hkey : v.touch = true) :
    v.events ([⟨EV_ABS, ABS_MT_SLOT, slot⟩, ⟨EV_ABS, ABS_MT_TRACKING_ID, -1⟩] ++
        if last then [⟨EV_KEY, BTN_TOUCH, 0⟩] else []) =
      { slot := slot, active := Function.update v.active slot none, touch := decide (¬ last) } := by
  have htwo : v.events [⟨EV_ABS, ABS_MT_SLOT, slot⟩, ⟨EV_ABS, ABS_MT_TRACKING_ID, -1⟩] =
      { slot := slot, active := Function.update v.active slot none, touch := true } := by
    rw [← hkey]
    rfl
  rw [View.events_append, htwo]
  by_cases hl : last
  · rw [if_pos hl, decide_eq_false (fun h => h hl)]
    rfl
  · rw [if_neg hl, decide_eq_true hl]
    rfl

/-! ## The simulation relation -/

/-- The tracking id the table holds for a slot number: none unless the contact is enabled. -/
def Receiver.contactId (s : Receiver) (slot : Int32) : Option Int32 :=
  match slotIndex slot with
  | none => none
  | some i => if (s.mContacts i).enabled then some (s.mContacts i).trackingId else none

/-- The reader sees exactly the enabled contacts, with their tracking ids, and the touch key is
pressed exactly while there is one. -/
structure Receiver.ConsumerAgrees (s : Receiver) : Prop where
  active : ∀ slot, s.view.active slot = s.contactId slot
  touch : s.view.touch = true ↔ s.touched

theorem consumerAgrees_init : ({} : Receiver).ConsumerAgrees where
  active slot := by
    unfold Receiver.contactId
    split <;> rfl
  touch := by simp [Receiver.view, View.events, Receiver.touched]

theorem slotIndex_inj {a b : Int32} {i : Fin kMaxSlot} (ha : slotIndex a = some i)
    (hb : slotIndex b = some i) : a = b := by
  rw [slotIndex_eq_some] at ha hb
  have hbits : a.toUInt32 = b.toUInt32 := UInt32.toNat_inj.mp (ha.trans hb.symm)
  simpa using congrArg UInt32.toInt32 hbits

/-- Changing one contact changes the id of its slot number alone. -/
theorem contactId_update (s : Receiver) {slot : Int32} {i : Fin kMaxSlot}
    (hi : slotIndex slot = some i) (c : Contact) (n : Int32) (k : UInt32) (evs : List InputEvent) :
    (Receiver.mk (Function.update s.mContacts i c) n k evs).contactId =
      Function.update s.contactId slot (if c.enabled then some c.trackingId else none) := by
  funext a
  by_cases ha : a = slot
  · subst ha
    simp [Receiver.contactId, hi]
  · rw [Function.update_of_ne ha]
    unfold Receiver.contactId
    cases hj : slotIndex a with
    | none => rfl
    | some j =>
      have hji : j ≠ i := fun h => ha (slotIndex_inj (h ▸ hj) hi)
      simp [Function.update_of_ne hji]

theorem sendReset_of_not_touched {s : Receiver} (h : ¬ s.touched) : (sendReset s).2 = s := by
  have hsame : (fun i => (s.mContacts i).released) = s.mContacts := by
    funext i
    refine Contact.released_eq_self ?_
    by_contra hne
    exact h ⟨i, by simpa using hne⟩
  rw [sendReset_eq, hsame, if_neg h, List.append_nil]

/-- An exact counter is zero exactly when no contact is enabled. -/
theorem Receiver.SlotsExact.eq_zero_iff {s : Receiver} (hs : s.SlotsExact) :
    s.mEnabledSlots = 0 ↔ ¬ s.touched := by
  rw [touched_iff_nonempty, Finset.not_nonempty_iff_eq_empty, ← Finset.card_eq_zero, ← hs,
    ← UInt32.toNat_inj]
  rfl

/-! ## One command -/

theorem add_one_eq_one_iff {n : UInt32} : n + 1 = 1 ↔ n = 0 := by
  constructor
  · intro h
    rw [← UInt32.add_sub_cancel n 1, h]
    rfl
  · intro h
    rw [h]
    rfl

/-- What the reader sees of a down whose touch key is right: the first contact presses it, or it is down. -/
theorem view_sendDown {s : Receiver} {slot : Int32} {i : Fin kMaxSlot} (hi : slotIndex slot = some i)
    (hid : 0 ≤ s.mTrackingId) (hkey : s.mEnabledSlots + 1 = 1 ∨ (s.beforeDown i).view.touch = true)
    (x y p : Int32) :
    (sendDown s slot x y p).2.view =
      { slot := slot
        active := Function.update (s.beforeDown i).view.active slot (some s.mTrackingId)
        touch := true } := by
  rw [sendDown_eq s hi]
  simp only [Receiver.view, List.append_assoc]
  rw [View.events_append, ← List.append_assoc]
  exact View.events_down _ slot hid hkey x y p

/-- What it sees of an up: the touch key goes up with the contact that brings the counter to zero. -/
theorem view_sendUp {s : Receiver} {slot : Int32} {i : Fin kMaxSlot} (hi : slotIndex slot = some i)
    (hl : s.lifts i) (hkey : s.view.touch = true) :
    (sendUp s slot).2.view =
      { slot := slot, active := Function.update s.view.active slot none
        touch := decide (¬ s.mEnabledSlots - 1 = 0) } := by
  rw [sendUp_eq s hi hl]
  simp only [Receiver.view, List.append_assoc]
  rw [View.events_append]
  exact View.events_up s.view slot hkey

/-- A down on a free slot. -/
theorem agrees_sendDown {s : Receiver} (hs : s.SlotsExact) (ha : s.ConsumerAgrees)
    {slot : Int32} {i : Fin kMaxSlot} (hi : slotIndex slot = some i)
    (hfree : (s.mContacts i).enabled = false) (hid : 0 ≤ s.mTrackingId) (x y p : Int32) :
    (sendDown s slot x y p).2.ConsumerAgrees := by
  have hbefore : s.beforeDown i = s := if_neg (hs.not_downResets hfree)
  -- The touch key goes down with the first contact and is already down otherwise.
  have hkey : s.mEnabledSlots + 1 = 1 ∨ s.view.touch = true := by
    rw [add_one_eq_one_iff, hs.eq_zero_iff, ha.touch]
    exact (Classical.em s.touched).symm
  have hview : (sendDown s slot x y p).2.view =
      { slot := slot, active := Function.update s.view.active slot (some s.mTrackingId)
        touch := true } := by
    rw [view_sendDown hi hid (by rwa [hbefore]), hbefore]
  refine ⟨?_, ?_⟩
  · intro a
    rw [hview, sendDown_eq s hi, hbefore, contactId_update s hi]
    simp only [if_true, funext ha.active]
  · rw [hview, sendDown_eq s hi]
    simp only [true_iff]
    exact ⟨i, by simp⟩

/-- An up that lifts a contact. -/
theorem agrees_sendUp {s : Receiver} (hs : s.SlotsExact) (ha : s.ConsumerAgrees)
    {slot : Int32} {i : Fin kMaxSlot} (hi : slotIndex slot = some i) (hl : s.lifts i) :
    (sendUp s slot).2.ConsumerAgrees := by
  have hs' : (sendUp s slot).2.SlotsExact :=
    (slotsExact_perform_iff hs (.up slot)).mpr (by simp [Touch.resetsLive])
  -- The touch key goes up with the last contact, which is the one that brings the counter to zero.
  have hlast := hs'.eq_zero_iff
  rw [sendUp_mEnabledSlots s hi hl] at hlast
  have hview := view_sendUp hi hl (ha.touch.mpr ⟨i, hl.2⟩)
  refine ⟨?_, ?_⟩
  · intro a
    rw [hview, sendUp_eq s hi hl, contactId_update s hi]
    simp [funext ha.active]
  · rw [hview, decide_eq_true_iff, hlast, not_not]

/-- **One command.** With an exact counter and tracking ids that have not wrapped, a command that
does not reset a live table keeps the reader in step. -/
theorem agrees_perform {s : Receiver} (hs : s.SlotsExact) (ha : s.ConsumerAgrees)
    (hid : 0 ≤ s.mTrackingId) (t : Touch) (hfree : ¬ t.resetsLive s) :
    (perform s t).ConsumerAgrees := by
  cases t with
  | idle => exact ha
  | commit =>
    refine ⟨fun slot => ?_, ?_⟩ <;>
      simp only [perform, sendCommit, Receiver.view, sendEvent_events, View.events_append]
    · exact ha.active slot
    · exact ha.touch
  | reset =>
    rw [perform, sendReset_of_not_touched hfree]
    exact ha
  | move slot x y p =>
    rw [perform, sendMove_eq]
    refine ⟨fun a => ?_, ?_⟩ <;> simp only [Receiver.view, View.events_append]
    · split
      · exact ha.active a
      · exact ha.active a
    · split
      · exact ha.touch
      · exact ha.touch
  | up slot =>
    rcases sendUp_cases s slot with ⟨i, hi, hlift⟩ | hrefused
    · exact agrees_sendUp hs ha hi hlift
    · rw [perform, hrefused]
      exact ha
  | down slot x y p =>
    cases hi : slotIndex slot with
    | none => rw [perform, sendDown_of_none s hi]; exact ha
    | some i =>
      have hf : (s.mContacts i).enabled = false := by
        by_contra hne
        exact hfree ⟨i, hi, by simpa using hne⟩
      exact agrees_sendDown hs ha hi hf hid x y p

/-! ## Whole runs -/

def Touch.isDown : Touch → Bool
  | .down _ _ _ _ => true
  | _ => false

/-- The number of accepted down commands of a run. -/
def downs (overlong : ℤ → Int32) (cmds : List (List UInt8)) : ℕ :=
  cmds.countP fun cmd => (interpret overlong cmd).2.isDown

/-- A down that `SendDown` accepts: its slot is one of the table. -/
def Touch.startsContact : Touch → Bool
  | .down slot _ _ _ => (slotIndex slot).isSome
  | _ => false

theorem Touch.isDown_of_startsContact {t : Touch} (h : t.startsContact = true) : t.isDown = true := by
  cases t <;> first | rfl | cases h

/-- The tracking id counter counts the accepted downs. -/
theorem mTrackingId_perform (s : Receiver) (t : Touch) :
    (perform s t).mTrackingId = if t.startsContact then s.mTrackingId + 1 else s.mTrackingId := by
  cases t with
  | commit => rfl
  | idle => rfl
  | reset => rw [perform, sendReset_eq]; rfl
  | move slot x y p => rw [perform, sendMove_eq]; rfl
  | up slot =>
    rcases sendUp_cases s slot with ⟨i, hi, hlift⟩ | hrefused
    · rw [perform, sendUp_eq s hi hlift]
      rfl
    · rw [perform, hrefused]
      rfl
  | down slot x y p =>
    cases hi : slotIndex slot with
    | none => rw [perform, sendDown_of_none s hi, Touch.startsContact, hi]; rfl
    | some i => rw [perform, sendDown_eq s hi, Touch.startsContact, hi]; rfl

theorem toInt_add_one {n : Int32} (h0 : 0 ≤ n.toInt) (hn : n.toInt + 1 < 2 ^ 31) :
    (n + 1).toInt = n.toInt + 1 := by
  rw [Int32.toInt_add, show (1 : Int32).toInt = 1 from rfl]
  exact Int.bmod_eq_of_le (by omega) (by omega)

/-- The number of downs of a run that `SendDown` accepts. -/
def acceptedDowns (overlong : ℤ → Int32) (cmds : List (List UInt8)) : ℕ :=
  cmds.countP fun cmd => (interpret overlong cmd).2.startsContact

theorem acceptedDowns_le_downs (overlong : ℤ → Int32) (cmds : List (List UInt8)) :
    acceptedDowns overlong cmds ≤ downs overlong cmds :=
  List.countP_mono_left fun _ _ h => Touch.isDown_of_startsContact h

/-- The tracking id counter is not negative, and the command does not make it wrap. -/
structure Receiver.HasIdFor (s : Receiver) (t : Touch) : Prop where
  nonneg : 0 ≤ s.mTrackingId.toInt
  room : t.startsContact = true → s.mTrackingId.toInt + 1 < 2 ^ 31

/-- The downs still to come are the budget of the tracking ids. -/
theorem along_hasIdFor (overlong : ℤ → Int32) {s : Receiver} {cmds : List (List UInt8)}
    (h0 : 0 ≤ s.mTrackingId.toInt)
    (hn : s.mTrackingId.toInt + (acceptedDowns overlong cmds : ℕ) < 2 ^ 31) :
    Along (runCommand overlong) (fun s cmd => s.HasIdFor (interpret overlong cmd).2) s cmds := by
  induction cmds generalizing s with
  | nil => exact along_nil s
  | cons cmd cmds ih =>
    rw [acceptedDowns, List.countP_cons] at hn
    have hroom : (interpret overlong cmd).2.startsContact = true → s.mTrackingId.toInt + 1 < 2 ^ 31 := by
      intro hstarts
      rw [if_pos hstarts] at hn
      push_cast at hn
      omega
    refine ⟨⟨h0, hroom⟩, ?_⟩
    rw [runCommand_eq]
    have hid := mTrackingId_perform s (interpret overlong cmd).2
    by_cases hstarts : (interpret overlong cmd).2.startsContact = true
    · rw [if_pos hstarts] at hid hn
      have hnext := toInt_add_one h0 (hroom hstarts)
      push_cast at hn
      refine ih ?_ ?_
      · rw [hid, hnext]
        omega
      · rw [hid, hnext, acceptedDowns]
        omega
    · rw [if_neg hstarts] at hid hn
      refine ih ?_ ?_
      · rw [hid]
        exact h0
      · rw [hid]
        exact hn

/-- From a fresh receiver, whose counter is zero. -/
theorem along_hasIdFor_init (overlong : ℤ → Int32) {cmds : List (List UInt8)}
    (hdowns : acceptedDowns overlong cmds < 2 ^ 31) :
    Along (runCommand overlong) (fun s cmd => s.HasIdFor (interpret overlong cmd).2) {} cmds := by
  have hbudget : (acceptedDowns overlong cmds : ℤ) < 2 ^ 31 := by exact_mod_cast hdowns
  exact along_hasIdFor overlong (by decide) (by simpa using hbudget)

/-- **The reader stays in step.** For every sequence of commands with fewer than 2^31 downs in which
no command resets a live table, after every command the reader's view is the contact table. -/
theorem consumerAgrees_of_resetFree (overlong : ℤ → Int32) (cmds : List (List UInt8))
    (hdowns : downs overlong cmds < 2 ^ 31) (hfree : ResetFree overlong {} cmds) :
    ∀ s ∈ cmds.scanl (runCommand overlong) {}, s.ConsumerAgrees := by
  -- The run carries the exact counter along, and tracking ids that do not wrap to negative numbers,
  -- which the reader would take for lifted fingers.
  have hstep : ∀ s cmd, s.SlotsExact ∧ s.ConsumerAgrees →
      ¬ (interpret overlong cmd).2.resetsLive s ∧ s.HasIdFor (interpret overlong cmd).2 →
      (runCommand overlong s cmd).SlotsExact ∧ (runCommand overlong s cmd).ConsumerAgrees := by
    rintro s cmd ⟨hs, ha⟩ ⟨hcmd, hid⟩
    have hnonneg : 0 ≤ s.mTrackingId := by
      rw [Int32.le_iff_toInt_le]
      exact hid.nonneg
    rw [runCommand_eq]
    exact ⟨(slotsExact_perform_iff hs _).mpr hcmd, agrees_perform hs ha hnonneg _ hcmd⟩
  have haccepted : acceptedDowns overlong cmds < 2 ^ 31 :=
    Nat.lt_of_le_of_lt (acceptedDowns_le_downs overlong cmds) hdowns
  have hrun := Along.and hfree (along_hasIdFor_init overlong haccepted)
  intro s hs
  exact (hrun.invariant hstep ⟨slotsExact_init, consumerAgrees_init⟩ s hs).2

instance (overlong : ℤ → Int32) (s : Receiver) (cmds : List (List UInt8)) :
    Decidable (ResetFree overlong s cmds) :=
  inferInstanceAs (Decidable (Along _ _ _ _))

/-- Two fingers go down, one moves, both lift. -/
def twoFingers : List (List UInt8) :=
  [ascii ['d', ' ', '0', ' ', '1', ' ', '1', ' ', '1'],
    ascii ['d', ' ', '9', ' ', '2', ' ', '2', ' ', '2'],
    ascii ['m', ' ', '0', ' ', '5', ' ', '5', ' ', '1'], ascii ['c'],
    ascii ['u', ' ', '0'], ascii ['u', ' ', '9'], ascii ['c'], ascii ['r']]

theorem consumerAgrees_twoFingers :
    ResetFree (fun _ => 0) {} twoFingers ∧
      ∀ s ∈ twoFingers.scanl (runCommand fun _ => 0) {}, s.ConsumerAgrees :=
  ⟨by decide, consumerAgrees_of_resetFree (fun _ => 0) twoFingers (by decide) (by decide)⟩

/-- After `d 0 1 1 1` and `r` the table is empty, and the reader still has a contact on slot 0. -/
theorem not_consumerAgrees_after_reset :
    ¬ ∀ (overlong : ℤ → Int32) (cmds : List (List UInt8)), downs overlong cmds < 2 ^ 31 →
      ∀ s ∈ cmds.scanl (runCommand overlong) {}, s.ConsumerAgrees := by
  intro h
  have hlast := h (fun _ => 0) [ascii ['d', ' ', '0', ' ', '1', ' ', '1', ' ', '1'], ascii ['r']]
    (by decide) _ (foldl_mem_scanl _ _)
  exact absurd (hlast.active 0) (by decide)

end VhalClient.Input
