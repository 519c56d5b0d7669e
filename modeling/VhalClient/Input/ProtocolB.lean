/-
# VhalClient.Input.ProtocolB — the emitted events are a multitouch protocol B stream.

`ConsumerAgrees` needs a run without live resets.  Here no command is excluded: a reset forgets
contacts that the reader keeps, and `mEnabledSlots` goes on counting them.  What is left is weaker and
holds of every run with fewer than 2^31 accepted downs (`Receiver.Streams`): an enabled contact is one
the reader has with the same tracking id, every tracking id the reader has was given out once, and
the touch key follows the counter, not the table.

From this every event is admissible for the reader that meets it (`View.Admits`), which is the
protocol: sizes, positions and lifts belong to a contact, and the touch key goes down and up in turn.
-/
import VhalClient.Input.Multitouch

namespace VhalClient.Input

open VhalClient.Lib

/-! ## The protocol, on the events alone -/

/-- The axes that describe a contact. -/
def contactAxes : List UInt16 :=
  [ABS_MT_TOUCH_MAJOR, ABS_MT_WIDTH_MAJOR, ABS_MT_PRESSURE, ABS_MT_POSITION_X, ABS_MT_POSITION_Y]

/-- The event describes the contact of the selected slot, or ends it. -/
def InputEvent.concernsContact (e : InputEvent) : Prop :=
  e.type = EV_ABS ∧ (e.code ∈ contactAxes ∨ (e.code = ABS_MT_TRACKING_ID ∧ e.value = -1))

def InputEvent.isTouchKey (e : InputEvent) : Prop := e.type = EV_KEY ∧ e.code = BTN_TOUCH

instance (e : InputEvent) : Decidable e.concernsContact :=
  inferInstanceAs (Decidable (_ ∧ _))

instance (e : InputEvent) : Decidable e.isTouchKey :=
  inferInstanceAs (Decidable (_ ∧ _))

/-- The values of the `BTN_TOUCH` events, in order. -/
def touchKeys (es : List InputEvent) : List Int32 :=
  (es.filter fun e => e.isTouchKey).map InputEvent.value

/-- The selected slot has a contact: its last tracking id is not negative. -/
def View.inContact (v : View) : Prop := (v.active v.slot).isSome = true

/-- The event keeps to the protocol when a reader in state `v` meets it. -/
structure View.Admits (v : View) (e : InputEvent) : Prop where
  contact : e.concernsContact → v.inContact
  key : e.isTouchKey → e.value = if v.touch then 0 else 1

/-- A valid stream: what concerns a contact comes while the selected slot has one, and the touch
key events are 1, 0, 1, 0 and so on. -/
structure ProtocolB (es : List InputEvent) : Prop where
  contact : ∀ before e after, es = before ++ e :: after → e.concernsContact →
    (View.events {} before).inContact
  keys : ∀ k value, (touchKeys es)[k]? = some value → value = if k % 2 = 0 then 1 else 0

theorem View.touch_event (v : View) (e : InputEvent) :
    (v.event e).touch = if e.isTouchKey then e.value != 0 else v.touch := by
  have habs : ¬ EV_KEY = EV_ABS := by decide
  by_cases hkey : e.isTouchKey
  · have hnot : ∀ code, ¬ (e.type = EV_ABS ∧ e.code = code) := fun code h => habs (hkey.1 ▸ h.1)
    have hpos : e.type = EV_KEY ∧ e.code = BTN_TOUCH := hkey
    rw [View.event, if_neg (hnot _), if_neg (hnot _), if_pos hpos, if_pos hkey]
  · have hnot : ¬ (e.type = EV_KEY ∧ e.code = BTN_TOUCH) := hkey
    rw [View.event, if_neg hkey, if_neg hnot]
    split
    · rfl
    · split <;> rfl

/-- Touch key events that are admissible one after the other alternate, from the state the key is
in. -/
theorem touchKeys_alternate {v : View} {es : List InputEvent}
    (h : Along View.event View.Admits v es) (k : ℕ) {value : Int32}
    (hk : (touchKeys es)[k]? = some value) :
    value = if (k % 2 = 0 ↔ v.touch = true) then 0 else 1 := by
  induction es generalizing v k with
  | nil => cases hk
  | cons e es ih =>
    obtain ⟨he, hrest⟩ := h
    have htouch := v.touch_event e
    by_cases hkey : e.isTouchKey
    · have hkeys : touchKeys (e :: es) = e.value :: touchKeys es := by simp [touchKeys, hkey]
      have hvalue := he.key hkey
      rw [hkeys] at hk
      rw [if_pos hkey] at htouch
      cases k with
      | zero =>
        obtain rfl : e.value = value := by simpa using hk
        simpa using hvalue
      | succ k =>
        -- The key is now in the other state, and the index is one further.
        have hflip : (v.event e).touch = !v.touch := by
          rw [htouch, hvalue]
          cases v.touch <;> rfl
        rw [ih hrest k (by simpa using hk), hflip]
        refine if_congr ?_ rfl rfl
        have hparity : (k + 1) % 2 = 0 ↔ ¬ k % 2 = 0 := by omega
        cases v.touch <;> simp [hparity]
    · have hkeys : touchKeys (e :: es) = touchKeys es := by simp [touchKeys, hkey]
      rw [if_neg hkey] at htouch
      rw [hkeys] at hk
      rw [ih hrest k hk, htouch]

theorem protocolB_of_along {es : List InputEvent} (h : Along View.event View.Admits {} es) :
    ProtocolB es where
  contact := by
    rintro before e after rfl he
    exact h.at_split.contact he
  keys := by
    intro k value hk
    rw [touchKeys_alternate h k hk]
    by_cases hk2 : k % 2 = 0 <;> simp [hk2]

/-! ## What the commands emit -/

theorem not_isTouchKey_abs (code : UInt16) (value : Int32) :
    ¬ InputEvent.isTouchKey ⟨EV_ABS, code, value⟩ := by
  rintro ⟨h, -⟩
  exact absurd (show EV_ABS = EV_KEY from h) (by decide)

theorem View.admits_slot (v : View) (slot : Int32) : v.Admits ⟨EV_ABS, ABS_MT_SLOT, slot⟩ where
  contact := by
    rintro ⟨-, h | ⟨h, -⟩⟩
    · exact absurd (show ABS_MT_SLOT ∈ contactAxes from h) (by decide)
    · exact absurd (show ABS_MT_SLOT = ABS_MT_TRACKING_ID from h) (by decide)
  key h := absurd h (not_isTouchKey_abs _ _)

theorem View.admits_trackingId (v : View) {id : Int32} (hid : 0 ≤ id) :
    v.Admits ⟨EV_ABS, ABS_MT_TRACKING_ID, id⟩ where
  contact := by
    rintro ⟨-, h | ⟨-, h⟩⟩
    · exact absurd (show ABS_MT_TRACKING_ID ∈ contactAxes from h) (by decide)
    · have hneg : id = -1 := h
      rw [hneg] at hid
      exact absurd hid (by decide)
  key h := absurd h (not_isTouchKey_abs _ _)

theorem View.admits_sync (v : View) : v.Admits ⟨EV_SYN, SYN_REPORT, 0⟩ where
  contact h := absurd h.1 (by decide)
  key h := absurd h.1 (by decide)

/-- Any event of the contact of the selected slot. -/
theorem View.admits_contact {v : View} (hv : v.inContact) (code : UInt16) (value : Int32) :
    v.Admits ⟨EV_ABS, code, value⟩ where
  contact _ := hv
  key h := absurd h (not_isTouchKey_abs _ _)

theorem View.admits_key {v : View} {value : Int32} (h : value = if v.touch then 0 else 1) :
    v.Admits ⟨EV_KEY, BTN_TOUCH, value⟩ where
  contact hc := absurd (show EV_KEY = EV_ABS from hc.1) (by decide)
  key _ := h

theorem along_shapeEvents {v : View} (hv : v.inContact) (x y p : Int32) :
    Along View.event View.Admits v (shapeEvents x y p) := by
  -- None of the five events changes the reader's state.
  refine ⟨?_, ?_, ?_, ?_, ?_, along_nil _⟩
  all_goals exact View.admits_contact hv _ _

theorem along_down (v : View) (slot : Int32) {id : Int32} (hid : 0 ≤ id) {first : Prop}
    [Decidable first] (hkey : first ↔ v.touch = false) (x y p : Int32) :
    Along View.event View.Admits v ([⟨EV_ABS, ABS_MT_SLOT, slot⟩, ⟨EV_ABS, ABS_MT_TRACKING_ID, id⟩] ++
      (if first then [⟨EV_KEY, BTN_TOUCH, 1⟩] else []) ++ shapeEvents x y p) := by
  have hstart : v.events [⟨EV_ABS, ABS_MT_SLOT, slot⟩, ⟨EV_ABS, ABS_MT_TRACKING_ID, id⟩] =
      { slot := slot, active := Function.update v.active slot (some id), touch := v.touch } := by
    simp [View.events, View.event_slot, View.event_trackingId, hid]
  have hopen : (v.events ([⟨EV_ABS, ABS_MT_SLOT, slot⟩, ⟨EV_ABS, ABS_MT_TRACKING_ID, id⟩] ++
      if first then [⟨EV_KEY, BTN_TOUCH, 1⟩] else [])).inContact := by
    rw [View.events_append, hstart]
    split
    · simp [View.inContact, View.events, View.event, EV_KEY, EV_ABS]
    · simp [View.inContact]
  refine (along_append _ _ _).mpr ⟨(along_append _ _ _).mpr ⟨?_, ?_⟩, along_shapeEvents hopen x y p⟩
  · exact ⟨v.admits_slot slot, View.admits_trackingId _ hid, along_nil _⟩
  · split
    · refine ⟨View.admits_key ?_, along_nil _⟩
      rw [show List.foldl View.event v _ = _ from hstart, hkey.mp ‹_›]
      rfl
    · exact along_nil _

theorem along_up {v : View} {slot : Int32} (hslot : (v.active slot).isSome = true) {last : Prop}
    [Decidable last] (hkey : v.touch = true) :
    Along View.event View.Admits v ([⟨EV_ABS, ABS_MT_SLOT, slot⟩, ⟨EV_ABS, ABS_MT_TRACKING_ID, -1⟩] ++
      if last then [⟨EV_KEY, BTN_TOUCH, 0⟩] else []) := by
  refine (along_append _ _ _).mpr ⟨⟨v.admits_slot slot, ?_, along_nil _⟩, ?_⟩
  · exact View.admits_contact (by rw [View.event_slot]; exact hslot) _ _
  · split
    · refine ⟨View.admits_key ?_, along_nil _⟩
      have htouch : (v.events [⟨EV_ABS, ABS_MT_SLOT, slot⟩,
          ⟨EV_ABS, ABS_MT_TRACKING_ID, -1⟩]).touch = v.touch := rfl
      rw [show (List.foldl View.event v _).touch = _ from htouch, hkey]
      rfl
    · exact along_nil _

/-! ## The invariant -/

/-- The tracking ids on a reader's slots were given out below `n`, and no two slots have the same. -/
structure IdsBelow (active : Int32 → Option Int32) (n : Int32) : Prop where
  below : ∀ slot id, active slot = some id → id < n
  distinct : ∀ a b id, active a = some id → active b = some id → a = b

/-- The next id goes to a slot, whatever the slot had. -/
theorem IdsBelow.start {active : Int32 → Option Int32} {n m : Int32} (h : IdsBelow active n)
    (hnm : n < m) (slot : Int32) : IdsBelow (Function.update active slot (some n)) m := by
  refine ⟨?_, ?_⟩
  · intro a id ha
    by_cases haslot : a = slot
    · obtain rfl : n = id := by simpa [haslot] using ha
      exact hnm
    · exact Int32.lt_trans (h.below a id (by simpa [haslot] using ha)) hnm
  · intro a b id ha hb
    -- The new id is above all the others, so it is on no other slot.
    by_cases haslot : a = slot <;> by_cases hbslot : b = slot
    · rw [haslot, hbslot]
    · obtain rfl : n = id := by simpa [haslot] using ha
      exact (Int32.lt_irrefl (h.below b n (by simpa [hbslot] using hb))).elim
    · obtain rfl : n = id := by simpa [hbslot] using hb
      exact (Int32.lt_irrefl (h.below a n (by simpa [haslot] using ha))).elim
    · exact h.distinct a b id (by simpa [haslot] using ha) (by simpa [hbslot] using hb)

/-- A slot loses its id. -/
theorem IdsBelow.stop {active : Int32 → Option Int32} {n : Int32} (h : IdsBelow active n)
    (slot : Int32) : IdsBelow (Function.update active slot none) n := by
  have hkept : ∀ a id, Function.update active slot none a = some id → active a = some id := by
    intro a id ha
    by_cases haslot : a = slot
    · simp [haslot] at ha
    · simpa [haslot] using ha
  exact ⟨fun a id ha => h.below a id (hkept a id ha),
    fun a b id ha hb => h.distinct a b id (hkept a id ha) (hkept b id hb)⟩

/-- The emitted events keep to the protocol, and the table, the counters and the reader's state
belong together as far as that needs. -/
structure Receiver.Streams (s : Receiver) : Prop where
  admitted : Along View.event View.Admits {} s.events
  shown : ∀ slot id, s.contactId slot = some id → s.view.active slot = some id
  ids : IdsBelow s.view.active s.mTrackingId
  touch : s.view.touch = true ↔ s.mEnabledSlots ≠ 0
  counted : s.mEnabledSlots.toNat ≤ s.mTrackingId.toInt

theorem streams_init : ({} : Receiver).Streams where
  admitted := along_nil _
  shown slot id h := by
    rw [← consumerAgrees_init.active] at h
    exact h
  ids :=
    { below := fun _ _ h => nomatch h
      distinct := fun _ _ _ h => nomatch h }
  touch := by decide
  counted := by decide

/-- Events that keep to the protocol and change neither the reader's contacts nor its touch key. -/
theorem Receiver.Streams.emit {s : Receiver} (hs : s.Streams) {es : List InputEvent}
    (hes : Along View.event View.Admits s.view es) (hactive : (s.view.events es).active = s.view.active)
    (htouch : (s.view.events es).touch = s.view.touch) :
    { s with events := s.events ++ es }.Streams := by
  have hview : Receiver.view { s with events := s.events ++ es } = s.view.events es :=
    View.events_append _ _ _
  refine ⟨(along_append _ _ _).mpr ⟨hs.admitted, hes⟩, ?_, ?_, ?_, hs.counted⟩
  · intro slot id h
    rw [hview, hactive]
    exact hs.shown slot id h
  · rw [hview, hactive]
    exact hs.ids
  · rw [hview, htouch]
    exact hs.touch

theorem streams_sendCommit {s : Receiver} (hs : s.Streams) : (sendCommit s).2.Streams :=
  hs.emit ⟨s.view.admits_sync, along_nil _⟩ rfl rfl

theorem streams_sendMove {s : Receiver} (hs : s.Streams) (slot x y p : Int32) :
    (sendMove s slot x y p).2.Streams := by
  rw [sendMove_eq]
  split
  case isFalse => exact hs.emit (along_nil _) rfl rfl
  case isTrue h =>
    obtain ⟨i, hi, he⟩ := h
    have hid : s.contactId slot = some (s.mContacts i).trackingId := by
      simp [Receiver.contactId, hi, he]
    have hopen : (s.view.event ⟨EV_ABS, ABS_MT_SLOT, slot⟩).inContact := by
      rw [View.event_slot, View.inContact, hs.shown slot _ hid]
      rfl
    exact hs.emit ⟨s.view.admits_slot slot, along_shapeEvents hopen x y p⟩ rfl rfl

/-- A reset only takes contacts away from the table. -/
theorem streams_sendReset {s : Receiver} (hs : s.Streams) : (sendReset s).2.Streams := by
  have hes : Along View.event View.Admits s.view
      (if s.touched then [⟨EV_SYN, SYN_REPORT, 0⟩] else []) := by
    split
    · exact ⟨s.view.admits_sync, along_nil _⟩
    · exact along_nil _
  have hview : s.view.events (if s.touched then [⟨EV_SYN, SYN_REPORT, 0⟩] else []) = s.view := by
    split <;> rfl
  have hquiet := hs.emit hes (by rw [hview]) (by rw [hview])
  rw [sendReset_eq]
  refine ⟨hquiet.admitted, ?_, hquiet.ids, hquiet.touch, hquiet.counted⟩
  intro slot id h
  unfold Receiver.contactId at h
  split at h
  · cases h
  · cases h

theorem streams_beforeDown {s : Receiver} (hs : s.Streams) (i : Fin kMaxSlot) :
    (s.beforeDown i).Streams := by
  unfold Receiver.beforeDown
  split
  · exact streams_sendReset hs
  · exact hs

/-- An accepted down, with a tracking id that has not wrapped. -/
theorem streams_sendDown {s : Receiver} (hs : s.Streams) {slot : Int32} {i : Fin kMaxSlot}
    (hi : slotIndex slot = some i) (h0 : 0 ≤ s.mTrackingId.toInt)
    (hn : s.mTrackingId.toInt + 1 < 2 ^ 31) (x y p : Int32) :
    (sendDown s slot x y p).2.Streams := by
  have hid : 0 ≤ s.mTrackingId := by
    rw [Int32.le_iff_toInt_le]
    exact h0
  have hnext : (s.mTrackingId + 1).toInt = s.mTrackingId.toInt + 1 := toInt_add_one h0 hn
  -- The counter is at most the tracking id, so it does not wrap either.
  have hcount : (s.mEnabledSlots + 1).toNat = s.mEnabledSlots.toNat + 1 := by
    have hle := hs.counted
    rw [UInt32.toNat_add, show (1 : UInt32).toNat = 1 from rfl]
    exact Nat.mod_eq_of_lt (by omega)
  have hb := streams_beforeDown hs i
  have hfirst : s.mEnabledSlots + 1 = 1 ↔ (s.beforeDown i).view.touch = false := by
    rw [add_one_eq_one_iff, ← Bool.not_eq_true, hb.touch, beforeDown_mEnabledSlots, not_not]
  have hpressed : s.mEnabledSlots + 1 = 1 ∨ (s.beforeDown i).view.touch = true := by
    rw [hfirst]
    exact (Bool.eq_false_or_eq_true _).symm
  have hview := view_sendDown hi hid hpressed x y p
  have hlt : s.mTrackingId < s.mTrackingId + 1 := by
    rw [Int32.lt_iff_toInt_lt, hnext]
    omega
  refine ⟨?_, ?_, ?_, ?_, ?_⟩
  · rw [sendDown_eq s hi]
    simp only [List.append_assoc]
    rw [along_append, ← List.append_assoc]
    exact ⟨hb.admitted, along_down _ slot hid hfirst x y p⟩
  · intro a id h
    rw [sendDown_eq s hi, contactId_update _ hi, if_pos rfl] at h
    rw [hview]
    by_cases ha : a = slot
    · subst ha
      simpa using h
    · rw [Function.update_of_ne ha] at h
      simpa [ha] using hb.shown a id h
  · have hids := hb.ids
    rw [beforeDown_mTrackingId] at hids
    rw [hview, sendDown_eq s hi]
    exact hids.start hlt slot
  · rw [hview, sendDown_mEnabledSlots s hi]
    refine iff_of_true rfl ?_
    intro hzero
    rw [hzero] at hcount
    cases hcount
  · have hle := hs.counted
    rw [sendDown_eq s hi]
    simp only [hcount, hnext]
    omega

/-- An up that lifts a contact. -/
theorem streams_sendUp {s : Receiver} (hs : s.Streams) {slot : Int32} {i : Fin kMaxSlot}
    (hi : slotIndex slot = some i) (hl : s.lifts i) : (sendUp s slot).2.Streams := by
  have hid : s.contactId slot = some (s.mContacts i).trackingId := by
    simp [Receiver.contactId, hi, hl.2]
  have hkey : s.view.touch = true := hs.touch.mpr hl.1
  have hview := view_sendUp hi hl hkey
  refine ⟨?_, ?_, ?_, ?_, ?_⟩
  · rw [sendUp_eq s hi hl]
    simp only [List.append_assoc]
    rw [along_append]
    refine ⟨hs.admitted, along_up ?_ hkey⟩
    rw [show (List.foldl View.event {} s.events).active slot = _ from hs.shown slot _ hid]
    rfl
  · intro a id h
    rw [sendUp_eq s hi hl, contactId_update s hi] at h
    rw [hview]
    by_cases ha : a = slot
    · subst ha
      simp at h
    · rw [Function.update_of_ne ha] at h
      simpa [ha] using hs.shown a id h
  · rw [hview, sendUp_eq s hi hl]
    exact hs.ids.stop slot
  · rw [hview, sendUp_mEnabledSlots s hi hl, decide_eq_true_iff]
  · have hle := hs.counted
    rw [sendUp_eq s hi hl]
    simp only [toNat_sub_one hl.1]
    omega

/-! ## Whole runs -/

/-- **One command**, whatever it is, as long as the tracking id does not wrap. -/
theorem streams_perform {s : Receiver} (hs : s.Streams) (t : Touch) (hid : s.HasIdFor t) :
    (perform s t).Streams := by
  cases t with
  | idle => exact hs
  | commit => exact streams_sendCommit hs
  | reset => exact streams_sendReset hs
  | move slot x y p => exact streams_sendMove hs slot x y p
  | up slot =>
    rcases sendUp_cases s slot with ⟨i, hi, hlift⟩ | hrefused
    · exact streams_sendUp hs hi hlift
    · rw [perform, hrefused]
      exact hs
  | down slot x y p =>
    cases hi : slotIndex slot with
    | none => rw [perform, sendDown_of_none s hi]; exact hs
    | some i =>
      have hroom := hid.room (by simp [Touch.startsContact, hi])
      exact streams_sendDown hs hi hid.nonneg hroom x y p

/-- No two slots that are enabled at the same time have the same tracking id. -/
def Receiver.DistinctIds (s : Receiver) : Prop :=
  ∀ i j, (s.mContacts i).enabled = true → (s.mContacts j).enabled = true →
    (s.mContacts i).trackingId = (s.mContacts j).trackingId → i = j

theorem Receiver.Streams.distinctIds {s : Receiver} (hs : s.Streams) : s.DistinctIds := by
  -- Every index is that of some slot number, under which the reader has the contact.
  have hnumber : ∀ i : Fin kMaxSlot, slotIndex (Int32.ofNat i) = some i := by decide
  have hshown : ∀ i, (s.mContacts i).enabled = true →
      s.view.active (Int32.ofNat i) = some (s.mContacts i).trackingId := by
    intro i hi
    refine hs.shown _ _ ?_
    simp [Receiver.contactId, hnumber i, hi]
  intro i j hi hj hid
  have hsame := hs.ids.distinct _ _ _ (hshown i hi) (hid ▸ hshown j hj)
  have hindex := hnumber i
  rw [hsame, hnumber j] at hindex
  exact (Option.some.inj hindex).symm

/-- **The emitted stream is protocol B.** For every sequence of messages with fewer than 2^31
accepted downs, whatever their text, the events emitted so far are a valid stream and the enabled
contacts have different tracking ids, after every message and after every command of one. -/
theorem protocolB_onInputMessage (overlong : ℤ → Int32) (msgs : List (List UInt8))
    (hdowns : acceptedDowns overlong (commandsOfAll msgs) < 2 ^ 31) :
    ProtocolB (msgs.foldl (fun s msg => (onInputMessage overlong s msg).2) {}).events ∧
      ∀ s ∈ (commandsOfAll msgs).scanl (runCommand overlong) {},
        ProtocolB s.events ∧ s.DistinctIds := by
  have hstep : ∀ s cmd, s.Streams → s.HasIdFor (interpret overlong cmd).2 →
      (runCommand overlong s cmd).Streams := by
    intro s cmd hs hid
    rw [runCommand_eq]
    exact streams_perform hs _ hid
  have hrun := (along_hasIdFor_init overlong hdowns).invariant hstep streams_init
  refine ⟨?_, ?_⟩
  · rw [foldl_onInputMessage]
    exact protocolB_of_along (hrun _ (foldl_mem_scanl _ _)).admitted
  · intro s hs
    exact ⟨protocolB_of_along (hrun s hs).admitted, (hrun s hs).distinctIds⟩

/-- A down, a reset, a down on the same slot, its lift and a lift without a contact. -/
theorem protocolB_acrossReset :
    ProtocolB ([ascii ['d', ' ', '0', ' ', '1', ' ', '1', ' ', '1', '\n', 'r', '\n'],
        ascii ['d', ' ', '0', ' ', '2', ' ', '2', ' ', '2', '\n', 'u', ' ', '0', '\n'],
        ascii ['u', ' ', '0', '\n', 'c', '\n']].foldl
      (fun s msg => (onInputMessage (fun _ => 0) s msg).2) {}).events :=
  (protocolB_onInputMessage (fun _ => 0) _ (by decide)).1

end VhalClient.Input
