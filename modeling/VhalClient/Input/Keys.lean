/-
# VhalClient.Input.Keys — `onKeyCode`, and its events between those of the touch messages.

`onKeyCode` presses the modifiers of its mask, presses and releases the scan code and releases the modifiers, each
with a commit of its own.  Its events go down the same pipe as those of `onInputMessage`, so there are two things to
say about a run of both, in any order, and each is about the reader of one kind of event in the presence of the
other.

A `Keyboard` is what a reader takes the keys for: which are held, and for each stroke what was held then.
`keyboard_run` says that it reads the key codes of the run with their modifiers, whatever messages come between
them, and that nothing is ever held behind a call.  `protocolB_iff_clear` is about the reader of the touch events:
it is served as in `protocolB_onInputMessage` unless `onKeyCode` is asked for the touch key itself while the
receiver counts a contact.
-/
import VhalClient.Input.ProtocolB

namespace VhalClient.Input

open VhalClient.Lib

/-! ## `onKeyCode` -/

def KEY_LEFTCTRL : UInt16 := 29
def KEY_LEFTSHIFT : UInt16 := 42
def KEY_LEFTALT : UInt16 := 56

/-- `KEY_STATE_MASK`, as far as `onKeyCode` reads it. -/
inductive KeyState where
  | shift | control | mod1

def KeyState.mask : KeyState → UInt32
  | .shift => (1 : UInt32) <<< 0
  | .control => (1 : UInt32) <<< 2
  | .mod1 => (1 : UInt32) <<< 3

/-- `SendEvent(EV_KEY, code, value); SendCommit();` -/
def sendKey (s : Receiver) (code : UInt16) (value : Int32) : Receiver :=
  (sendCommit (sendEvent s EV_KEY code value)).2

/-- `IOResult onKeyCode(scanCode, mask)`: it always returns `{0, ""}`. -/
def onKeyCode (s : Receiver) (scanCode : UInt16) (mask : UInt32) : (ℤ × String) × Receiver :=
  let s := if mask &&& KeyState.shift.mask ≠ 0 then sendKey s KEY_LEFTSHIFT 1 else s
  let s := if mask &&& KeyState.control.mask ≠ 0 then sendKey s KEY_LEFTCTRL 1 else s
  let s := if mask &&& KeyState.mod1.mask ≠ 0 then sendKey s KEY_LEFTALT 1 else s
  let s := sendKey s scanCode 1
  let s := sendKey s scanCode 0
  let s := if mask &&& KeyState.shift.mask ≠ 0 then sendKey s KEY_LEFTSHIFT 0 else s
  let s := if mask &&& KeyState.control.mask ≠ 0 then sendKey s KEY_LEFTCTRL 0 else s
  let s := if mask &&& KeyState.mod1.mask ≠ 0 then sendKey s KEY_LEFTALT 0 else s
  ((0, ""), s)

/-- The modifiers of a mask, in the order in which they are pressed. -/
def modifiers (mask : UInt32) : List UInt16 :=
  (if mask &&& KeyState.shift.mask ≠ 0 then [KEY_LEFTSHIFT] else []) ++
    (if mask &&& KeyState.control.mask ≠ 0 then [KEY_LEFTCTRL] else []) ++
    (if mask &&& KeyState.mod1.mask ≠ 0 then [KEY_LEFTALT] else [])

/-- One key event with its commit. -/
def keyEvent (value : Int32) (code : UInt16) : List InputEvent := [⟨EV_KEY, code, value⟩, ⟨EV_SYN, SYN_REPORT, 0⟩]

/-- All that `onKeyCode` sends. -/
def keyEvents (scanCode : UInt16) (mask : UInt32) : List InputEvent :=
  (modifiers mask).flatMap (keyEvent 1) ++ keyEvent 1 scanCode ++ keyEvent 0 scanCode ++
    (modifiers mask).flatMap (keyEvent 0)

/-- The receiver behind some more events. -/
def Receiver.send (s : Receiver) (es : List InputEvent) : Receiver := { s with events := s.events ++ es }

theorem Receiver.send_send (s : Receiver) (es fs : List InputEvent) : (s.send es).send fs = s.send (es ++ fs) := by
  rw [send, send, send, List.append_assoc]

theorem Receiver.send_nil (s : Receiver) : s.send [] = s := by
  rw [send, List.append_nil]

theorem sendKey_eq (s : Receiver) (code : UInt16) (value : Int32) :
    sendKey s code value = s.send (keyEvent value code) := by
  show (s.send [_]).send [_] = _
  rw [Receiver.send_send]
  rfl

/-- `if (mask & …) { … }` -/
theorem send_if (s : Receiver) (pressed : Prop) [Decidable pressed] (code : UInt16) (value : Int32) :
    (if pressed then s.send (keyEvent value code) else s) =
      s.send ((if pressed then [code] else []).flatMap (keyEvent value)) := by
  split
  · rw [List.flatMap_cons, List.flatMap_nil, List.append_nil]
  · rw [List.flatMap_nil, s.send_nil]

/-- `onKeyCode` only sends, it leaves the contacts and both counters alone. -/
theorem onKeyCode_eq (s : Receiver) (scanCode : UInt16) (mask : UInt32) :
    (onKeyCode s scanCode mask).2 = s.send (keyEvents scanCode mask) := by
  unfold onKeyCode keyEvents modifiers
  simp only [sendKey_eq, send_if]
  simp only [Receiver.send_send, List.flatMap_append, List.append_assoc]

/-! ## A reader of the keys -/

/-- The keys that are held, and each stroke so far with what was held when it came. -/
structure Keyboard where
  held : Finset UInt16 := ∅
  strokes : List (UInt16 × Finset UInt16) := []

namespace Keyboard

/-- A key that is pressed again while it is held makes no stroke. -/
def press (k : Keyboard) (code : UInt16) : Keyboard :=
  if code ∈ k.held then k else ⟨insert code k.held, k.strokes ++ [(code, k.held)]⟩

def release (k : Keyboard) (code : UInt16) : Keyboard := { k with held := k.held.erase code }

/-- The touch key is not one of the keyboard's. -/
def event (k : Keyboard) (e : InputEvent) : Keyboard :=
  if e.type = EV_KEY ∧ e.code ≠ BTN_TOUCH then
    if e.value = 0 then k.release e.code else k.press e.code
  else k

def events (k : Keyboard) (es : List InputEvent) : Keyboard := es.foldl event k

end Keyboard

/-- Keys one after the other, each while the ones before it are held. -/
def chord (held : Finset UInt16) : List UInt16 → List (UInt16 × Finset UInt16)
  | [] => []
  | code :: codes => (code, held) :: chord (insert code held) codes

/-- What one call of `onKeyCode` types: the modifiers, then the scan code while all of them are held, if it is a key
of the keyboard and not one of them. -/
def strokesOf (scanCode : UInt16) (mask : UInt32) : List (UInt16 × Finset UInt16) :=
  chord ∅ (modifiers mask) ++
    if scanCode ∈ modifiers mask ∨ scanCode = BTN_TOUCH then [] else [(scanCode, (modifiers mask).toFinset)]

example : strokesOf 30 0b1001 =
    [(KEY_LEFTSHIFT, ∅), (KEY_LEFTALT, {KEY_LEFTSHIFT}), (30, {KEY_LEFTSHIFT, KEY_LEFTALT})] := by
  decide

namespace Keyboard

theorem events_append (k : Keyboard) (es fs : List InputEvent) : k.events (es ++ fs) = (k.events es).events fs :=
  List.foldl_append

theorem event_sync (k : Keyboard) : k.event ⟨EV_SYN, SYN_REPORT, 0⟩ = k := rfl

theorem event_key (k : Keyboard) {code : UInt16} (hcode : code ≠ BTN_TOUCH) (value : Int32) :
    k.event ⟨EV_KEY, code, value⟩ = if value = 0 then k.release code else k.press code := if_pos ⟨rfl, hcode⟩

theorem event_touchKey (k : Keyboard) (value : Int32) : k.event ⟨EV_KEY, BTN_TOUCH, value⟩ = k :=
  if_neg fun h => h.2 rfl

theorem events_press (k : Keyboard) {code : UInt16} (hcode : code ≠ BTN_TOUCH) :
    k.events (keyEvent 1 code) = k.press code := by
  show (k.event ⟨EV_KEY, code, 1⟩).event ⟨EV_SYN, SYN_REPORT, 0⟩ = k.press code
  rw [event_sync, k.event_key hcode]
  rfl

theorem events_release (k : Keyboard) {code : UInt16} (hcode : code ≠ BTN_TOUCH) :
    k.events (keyEvent 0 code) = k.release code := by
  show (k.event ⟨EV_KEY, code, 0⟩).event ⟨EV_SYN, SYN_REPORT, 0⟩ = k.release code
  rw [event_sync, k.event_key hcode]
  rfl

theorem events_touchKey (k : Keyboard) (value : Int32) : k.events (keyEvent value BTN_TOUCH) = k := by
  show (k.event ⟨EV_KEY, BTN_TOUCH, value⟩).event ⟨EV_SYN, SYN_REPORT, 0⟩ = k
  rw [event_touchKey, event_sync]

theorem press_of_mem {k : Keyboard} {code : UInt16} (h : code ∈ k.held) : k.press code = k := if_pos h

theorem press_of_notMem {k : Keyboard} {code : UInt16} (h : code ∉ k.held) :
    k.press code = ⟨insert code k.held, k.strokes ++ [(code, k.held)]⟩ := if_neg h

/-- Keys that are not held, pressed one after the other. -/
theorem events_presses {k : Keyboard} {codes : List UInt16} (hcodes : ∀ c ∈ codes, c ≠ BTN_TOUCH)
    (hnew : ∀ c ∈ codes, c ∉ k.held) (hnodup : codes.Nodup) :
    k.events (codes.flatMap (keyEvent 1)) = ⟨k.held ∪ codes.toFinset, k.strokes ++ chord k.held codes⟩ := by
  induction codes generalizing k with
  | nil =>
    rw [List.toFinset_nil, Finset.union_empty, chord, List.append_nil]
    rfl
  | cons code codes ih =>
    obtain ⟨hcode, hcodes⟩ := List.forall_mem_cons.mp hcodes
    obtain ⟨hfresh, hnew⟩ := List.forall_mem_cons.mp hnew
    obtain ⟨hnotMem, hnodup⟩ := List.nodup_cons.mp hnodup
    have hnext : ∀ c ∈ codes, c ∉ (⟨insert code k.held, k.strokes ++ [(code, k.held)]⟩ : Keyboard).held := by
      intro c hc hheld
      rcases Finset.mem_insert.mp hheld with rfl | hheld
      · exact hnotMem hc
      · exact hnew c hc hheld
    rw [List.flatMap_cons, events_append, k.events_press hcode, press_of_notMem hfresh,
      ih hcodes hnext hnodup, List.toFinset_cons, chord]
    simp only [List.append_assoc, List.singleton_append, Finset.insert_union, Finset.union_insert]

/-- Whatever is released is not held any more, and nothing else happens. -/
theorem events_releases {k : Keyboard} {codes : List UInt16} (hcodes : ∀ c ∈ codes, c ≠ BTN_TOUCH) :
    k.events (codes.flatMap (keyEvent 0)) = { k with held := k.held \ codes.toFinset } := by
  induction codes generalizing k with
  | nil =>
    rw [List.toFinset_nil, Finset.sdiff_empty]
    rfl
  | cons code codes ih =>
    obtain ⟨hcode, hcodes⟩ := List.forall_mem_cons.mp hcodes
    rw [List.flatMap_cons, events_append, k.events_release hcode, ih hcodes, List.toFinset_cons,
      Finset.sdiff_insert, ← Finset.erase_sdiff_comm]
    rfl

end Keyboard

theorem nodup_modifiers (mask : UInt32) : (modifiers mask).Nodup := by
  unfold modifiers
  split <;> split <;> split <;> decide

theorem ne_of_mem_modifiers {mask : UInt32} {code : UInt16} (h : code ∈ modifiers mask) : code ≠ BTN_TOUCH := by
  have hone {pressed : Prop} [Decidable pressed] {key : UInt16}
      (h : code ∈ if pressed then [key] else []) : code = key := by
    split at h
    · exact List.mem_singleton.mp h
    · exact absurd h List.not_mem_nil
  rcases List.mem_append.mp h with h | h
  · rcases List.mem_append.mp h with h | h
    · rw [hone h]
      decide
    · rw [hone h]
      decide
  · rw [hone h]
    decide

/-- **A key code** is typed on a keyboard on which nothing is held, and leaves nothing held. -/
theorem Keyboard.events_keyEvents {k : Keyboard} (hfree : k.held = ∅) (scanCode : UInt16) (mask : UInt32) :
    k.events (keyEvents scanCode mask) = ⟨∅, k.strokes ++ strokesOf scanCode mask⟩ := by
  have hmods : ∀ c ∈ modifiers mask, c ≠ BTN_TOUCH := fun _ => ne_of_mem_modifiers
  have hpresses := events_presses (k := k) hmods (by simp [hfree]) (nodup_modifiers mask)
  rw [hfree, Finset.empty_union] at hpresses
  -- what is held between the modifiers is some of them
  have hleft : ∀ held ⊆ (modifiers mask).toFinset, held \ (modifiers mask).toFinset = ∅ := fun _ =>
    Finset.sdiff_eq_empty_iff_subset.mpr
  unfold keyEvents strokesOf
  rw [events_append, events_append, events_append, hpresses, events_releases hmods]
  by_cases htouch : scanCode = BTN_TOUCH
  · rw [htouch, events_touchKey, events_touchKey, if_pos (.inr rfl), List.append_nil]
    exact congrArg (Keyboard.mk · _) (hleft _ subset_rfl)
  rw [events_press _ htouch, events_release _ htouch]
  by_cases hmem : scanCode ∈ modifiers mask
  · rw [press_of_mem (List.mem_toFinset.mpr hmem), if_pos (.inl hmem), List.append_nil]
    exact congrArg (Keyboard.mk · _) (hleft _ (Finset.erase_subset _ _))
  · have hnotMem : scanCode ∉ (modifiers mask).toFinset := fun h => hmem (List.mem_toFinset.mp h)
    rw [press_of_notMem hnotMem, if_neg (not_or.mpr ⟨hmem, htouch⟩), ← List.append_assoc]
    refine congrArg (Keyboard.mk · _) (hleft _ ?_)
    show (insert scanCode (modifiers mask).toFinset).erase scanCode ⊆ _
    rw [Finset.erase_insert hnotMem]

/-! ## Runs -/

/-- A call of the receiver's user. -/
inductive Handled where
  | message (msg : List UInt8)
  | keyCode (scanCode : UInt16) (mask : UInt32)

namespace Handled

variable (overlong : ℤ → Int32)

def step (s : Receiver) : Handled → Receiver
  | message msg => (onInputMessage overlong s msg).2
  | keyCode scanCode mask => (onKeyCode s scanCode mask).2

/-- What a call types. -/
def strokes : Handled → List (UInt16 × Finset UInt16)
  | message _ => []
  | keyCode scanCode mask => strokesOf scanCode mask

/-- The commands a call hands to `ProcessOneCommand`. -/
def commands : Handled → List (List UInt8)
  | message msg => commandsOf msg
  | keyCode _ _ => []

/-- The call does not ask for the touch key while a contact is counted. -/
def Clear (s : Receiver) : Handled → Prop
  | message _ => True
  | keyCode scanCode _ => scanCode = BTN_TOUCH → s.mEnabledSlots = 0

instance Clear.decidable (s : Receiver) (c : Handled) : Decidable (c.Clear s) :=
  match c with
  | message _ => inferInstanceAs (Decidable True)
  | keyCode scanCode _ => inferInstanceAs (Decidable (scanCode = BTN_TOUCH → s.mEnabledSlots = 0))

end Handled

/-! ## The touch messages are nothing to the keyboard -/

/-- The only key among the events is the touch key. -/
def TouchOnly (es : List InputEvent) : Prop := ∀ e ∈ es, e.type = EV_KEY → e.code = BTN_TOUCH

theorem touchOnly_nil : TouchOnly [] := fun _ h => absurd h List.not_mem_nil

theorem TouchOnly.cons {es : List InputEvent} {e : InputEvent} (he : e.type = EV_KEY → e.code = BTN_TOUCH)
    (hes : TouchOnly es) : TouchOnly (e :: es) := List.forall_mem_cons.mpr ⟨he, hes⟩

theorem TouchOnly.append {es fs : List InputEvent} (hes : TouchOnly es) (hfs : TouchOnly fs) :
    TouchOnly (es ++ fs) := List.forall_mem_append.mpr ⟨hes, hfs⟩

/-- An event of the touch screen's axes. -/
theorem TouchOnly.cons_abs {es : List InputEvent} (hes : TouchOnly es) (code : UInt16) (value : Int32) :
    TouchOnly (⟨EV_ABS, code, value⟩ :: es) :=
  .cons (fun h => absurd (show EV_ABS = EV_KEY from h) (by decide)) hes

theorem touchOnly_sync : TouchOnly [⟨EV_SYN, SYN_REPORT, 0⟩] :=
  .cons (fun h => absurd (show EV_SYN = EV_KEY from h) (by decide)) touchOnly_nil

theorem touchOnly_ite {p : Prop} [Decidable p] {es : List InputEvent} (hes : TouchOnly es) :
    TouchOnly (if p then es else []) := by
  split
  · exact hes
  · exact touchOnly_nil

theorem touchOnly_touchKey (value : Int32) : TouchOnly [⟨EV_KEY, BTN_TOUCH, value⟩] :=
  .cons (fun _ => rfl) touchOnly_nil

theorem touchOnly_shapeEvents (x y p : Int32) : TouchOnly (shapeEvents x y p) :=
  touchOnly_nil.cons_abs _ _ |>.cons_abs _ _ |>.cons_abs _ _ |>.cons_abs _ _ |>.cons_abs _ _

theorem Keyboard.events_of_touchOnly {es : List InputEvent} (h : TouchOnly es) (k : Keyboard) :
    k.events es = k := by
  induction es with
  | nil => rfl
  | cons e es ih =>
    obtain ⟨he, hes⟩ := List.forall_mem_cons.mp h
    have hskip : k.event e = k := if_neg fun hkey => hkey.2 (he hkey.1)
    show (k.event e).events es = k
    rw [hskip, ih hes]

/-- The receiver went on from `s` with touch events. -/
def Touches (s t : Receiver) : Prop := ∃ es, t.events = s.events ++ es ∧ TouchOnly es

theorem Touches.refl (s : Receiver) : Touches s s := ⟨[], (List.append_nil _).symm, touchOnly_nil⟩

theorem Touches.trans {s t u : Receiver} (hst : Touches s t) (htu : Touches t u) : Touches s u := by
  obtain ⟨es, hes, htouch⟩ := hst
  obtain ⟨fs, hfs, htouch'⟩ := htu
  exact ⟨es ++ fs, by rw [hfs, hes, List.append_assoc], htouch.append htouch'⟩

theorem touches_sendReset (s : Receiver) : Touches s (sendReset s).2 := by
  rw [sendReset_eq]
  exact ⟨_, rfl, touchOnly_ite touchOnly_sync⟩

theorem touches_beforeDown (s : Receiver) (i : Fin kMaxSlot) : Touches s (s.beforeDown i) := by
  unfold Receiver.beforeDown
  split
  · exact touches_sendReset s
  · exact .refl s

theorem touches_perform (s : Receiver) (t : Touch) : Touches s (perform s t) := by
  cases t with
  | idle => exact .refl s
  | commit => exact ⟨_, rfl, touchOnly_sync⟩
  | reset => exact touches_sendReset s
  | move slot x y p =>
    rw [perform, sendMove_eq]
    exact ⟨_, rfl, touchOnly_ite ((touchOnly_shapeEvents x y p).cons_abs _ _)⟩
  | up slot =>
    rcases sendUp_cases s slot with ⟨i, hi, hlift⟩ | hrefused
    · rw [perform, sendUp_eq s hi hlift]
      refine ⟨_, by rw [List.append_assoc], ?_⟩
      exact .append (touchOnly_nil.cons_abs _ _ |>.cons_abs _ _) (touchOnly_ite (touchOnly_touchKey 0))
    · rw [perform, hrefused]
      exact .refl s
  | down slot x y p =>
    cases hi : slotIndex slot with
    | none =>
      rw [perform, sendDown_of_none s hi]
      exact .refl s
    | some i =>
      refine (touches_beforeDown s i).trans ?_
      rw [perform, sendDown_eq s hi]
      refine ⟨_, by rw [List.append_assoc, List.append_assoc], ?_⟩
      exact .append (touchOnly_nil.cons_abs _ _ |>.cons_abs _ _)
        (.append (touchOnly_ite (touchOnly_touchKey 1)) (touchOnly_shapeEvents x y p))

theorem touches_foldl (overlong : ℤ → Int32) (s : Receiver) (cmds : List (List UInt8)) :
    Touches s (cmds.foldl (runCommand overlong) s) := by
  induction cmds generalizing s with
  | nil => exact .refl s
  | cons cmd cmds ih =>
    have hfirst : Touches s (runCommand overlong s cmd) := by
      rw [runCommand_eq]
      exact touches_perform s _
    exact hfirst.trans (ih _)

/-- What the reader of the keys has seen of a receiver. -/
def Receiver.keyboard (s : Receiver) : Keyboard := Keyboard.events {} s.events

theorem Touches.keyboard_eq {s t : Receiver} (h : Touches s t) : t.keyboard = s.keyboard := by
  obtain ⟨es, hes, htouch⟩ := h
  rw [Receiver.keyboard, hes, Keyboard.events_append, Keyboard.events_of_touchOnly htouch, Receiver.keyboard]

/-- **The keys.** Any touch messages and key codes, in any order, with writes that take their events: behind each call
nothing is held, and the strokes are those of the key codes (`strokesOf`), as if there had been no messages. -/
theorem keyboard_run (overlong : ℤ → Int32) (calls : List Handled) :
    (calls.foldl (Handled.step overlong) {}).keyboard = ⟨∅, calls.flatMap Handled.strokes⟩ := by
  induction calls using List.reverseRecOn with
  | nil => rfl
  | append_singleton calls c ih =>
    rw [List.foldl_append, List.flatMap_append, List.flatMap_singleton, List.foldl_cons, List.foldl_nil]
    generalize calls.foldl (Handled.step overlong) {} = s at ih ⊢
    cases c with
    | message msg =>
      have hsame : (Handled.step overlong s (.message msg)).keyboard = s.keyboard :=
        (touches_foldl overlong s (commandsOf msg)).keyboard_eq
      rw [hsame, ih, Handled.strokes, List.append_nil]
    | keyCode scanCode mask =>
      have hfree : s.keyboard.held = ∅ := by rw [ih]
      rw [Handled.step, onKeyCode_eq, Receiver.keyboard, Receiver.send, Keyboard.events_append]
      rw [show Keyboard.events {} s.events = s.keyboard from rfl, Keyboard.events_keyEvents hfree, ih]
      rfl

/-! ## The key codes and the reader of the touch events -/

theorem View.event_otherKey (v : View) {code : UInt16} (hcode : code ≠ BTN_TOUCH) (value : Int32) :
    v.event ⟨EV_KEY, code, value⟩ = v := by
  have habs : ¬ EV_KEY = EV_ABS := by decide
  rw [View.event, if_neg fun h => habs h.1, if_neg fun h => habs h.1, if_neg fun h => hcode h.2]

theorem View.admits_otherKey (v : View) {code : UInt16} (hcode : code ≠ BTN_TOUCH) (value : Int32) :
    v.Admits ⟨EV_KEY, code, value⟩ where
  contact h := absurd (show EV_KEY = EV_ABS from h.1) (by decide)
  key h := absurd h.2 hcode

/-- The events are admissible and change nothing for the reader of the touch events. -/
def View.Ignores (v : View) (es : List InputEvent) : Prop := Along View.event View.Admits v es ∧ v.events es = v

theorem View.Ignores.append {v : View} {es fs : List InputEvent} (hes : v.Ignores es) (hfs : v.Ignores fs) :
    v.Ignores (es ++ fs) := by
  refine ⟨(along_append v es fs).mpr ⟨hes.1, ?_⟩, by rw [View.events_append, hes.2, hfs.2]⟩
  rw [show es.foldl View.event v = v from hes.2]
  exact hfs.1

theorem View.ignores_keyEvent (v : View) {code : UInt16} (hcode : code ≠ BTN_TOUCH) (value : Int32) :
    v.Ignores (keyEvent value code) := by
  have hskip := v.event_otherKey hcode value
  refine ⟨⟨v.admits_otherKey hcode value, ?_, along_nil _⟩, ?_⟩
  · rw [hskip]
    exact v.admits_sync
  · show (v.event ⟨EV_KEY, code, value⟩).event ⟨EV_SYN, SYN_REPORT, 0⟩ = v
    rw [hskip]
    rfl

theorem View.ignores_modifiers (v : View) (mask : UInt32) (value : Int32) :
    v.Ignores ((modifiers mask).flatMap (keyEvent value)) := by
  have hmods : ∀ c ∈ modifiers mask, c ≠ BTN_TOUCH := fun _ => ne_of_mem_modifiers
  generalize modifiers mask = codes at hmods ⊢
  induction codes with
  | nil => exact ⟨along_nil v, rfl⟩
  | cons code codes ih =>
    obtain ⟨hcode, hcodes⟩ := List.forall_mem_cons.mp hmods
    exact (v.ignores_keyEvent hcode value).append (ih hcodes)

/-- The touch key, pressed and released while it is up. -/
theorem View.ignores_touchKey {v : View} (h : v.touch = false) :
    v.Ignores (keyEvent 1 BTN_TOUCH ++ keyEvent 0 BTN_TOUCH) := by
  refine ⟨⟨View.admits_key ?_, View.admits_sync _, View.admits_key rfl, View.admits_sync _, along_nil _⟩, ?_⟩
  · rw [h]
    rfl
  · show ({ v with touch := false } : View) = v
    rw [← h]

theorem View.ignores_keyEvents {v : View} {scanCode : UInt16} (h : scanCode = BTN_TOUCH → v.touch = false)
    (mask : UInt32) : v.Ignores (keyEvents scanCode mask) := by
  have hscan : v.Ignores (keyEvent 1 scanCode ++ keyEvent 0 scanCode) := by
    by_cases htouch : scanCode = BTN_TOUCH
    · rw [htouch]
      exact View.ignores_touchKey (h htouch)
    · exact (v.ignores_keyEvent htouch 1).append (v.ignores_keyEvent htouch 0)
  unfold keyEvents
  rw [List.append_assoc ((modifiers mask).flatMap (keyEvent 1))]
  exact ((v.ignores_modifiers mask 1).append hscan).append (v.ignores_modifiers mask 0)

/-- A key code that is not in the way of a contact. -/
theorem streams_onKeyCode {s : Receiver} (hs : s.Streams) {scanCode : UInt16} (mask : UInt32)
    (hclear : scanCode = BTN_TOUCH → s.mEnabledSlots = 0) : (onKeyCode s scanCode mask).2.Streams := by
  have hup : scanCode = BTN_TOUCH → s.view.touch = false := fun h =>
    Bool.eq_false_iff.mpr fun hdown => hs.touch.mp hdown (hclear h)
  have hignores := View.ignores_keyEvents hup mask
  rw [onKeyCode_eq]
  exact hs.emit hignores.1 (by rw [hignores.2]) (by rw [hignores.2])

/-! ### What the protocol says of the touch key, read backwards -/

theorem touchKeys_append (es fs : List InputEvent) : touchKeys (es ++ fs) = touchKeys es ++ touchKeys fs := by
  rw [touchKeys, List.filter_append, List.map_append, touchKeys, touchKeys]

theorem touchKeys_singleton {e : InputEvent} (h : e.isTouchKey) : touchKeys [e] = [e.value] := by
  simp [touchKeys, h]

theorem touchKeys_singleton_of_not {e : InputEvent} (h : ¬ e.isTouchKey) : touchKeys [e] = [] := by
  simp [touchKeys, h]

/-- The touch key is down behind an odd number of its events, if they alternate. -/
theorem touch_iff_odd {es : List InputEvent}
    (h : ∀ k value, (touchKeys es)[k]? = some value → value = if k % 2 = 0 then 1 else 0) :
    (View.events {} es).touch = true ↔ (touchKeys es).length % 2 = 1 := by
  induction es using List.reverseRecOn with
  | nil => exact iff_of_false Bool.false_ne_true (by decide)
  | append_singleton es e ih =>
    have hbefore : ∀ k value, (touchKeys es)[k]? = some value → value = if k % 2 = 0 then 1 else 0 := by
      intro k value hk
      refine h k value ?_
      rw [touchKeys_append, List.getElem?_append_left (List.getElem?_eq_some_iff.mp hk).1, hk]
    rw [View.events_append, show View.events _ [e] = View.event _ e from rfl, View.touch_event, touchKeys_append]
    by_cases hkey : e.isTouchKey
    · rw [if_pos hkey, touchKeys_singleton hkey, List.length_append, List.length_singleton]
      have hlast := h (touchKeys es).length e.value (by
        rw [touchKeys_append, touchKeys_singleton hkey, List.getElem?_concat_length])
      rw [hlast]
      by_cases heven : (touchKeys es).length % 2 = 0
      · rw [if_pos heven]
        exact iff_of_true rfl (by omega)
      · rw [if_neg heven]
        exact iff_of_false (by decide) (by omega)
    · rw [if_neg hkey, touchKeys_singleton_of_not hkey, List.append_nil]
      exact ih hbefore

/-- In a valid stream the touch key is not pressed while it is down. -/
theorem not_protocolB_of_pressed {es : List InputEvent} (before after : List InputEvent)
    (hes : es = before ++ ⟨EV_KEY, BTN_TOUCH, 1⟩ :: after) (hdown : (View.events {} before).touch = true) :
    ¬ ProtocolB es := by
  intro h
  have hkey : InputEvent.isTouchKey ⟨EV_KEY, BTN_TOUCH, 1⟩ := ⟨rfl, rfl⟩
  have hkeys : touchKeys es = touchKeys before ++ 1 :: touchKeys after := by
    rw [hes, ← List.singleton_append, touchKeys_append, touchKeys_append, touchKeys_singleton hkey]
    rfl
  have hodd : (touchKeys before).length % 2 = 1 := by
    refine (touch_iff_odd ?_).mp hdown
    intro k value hk
    refine h.keys k value ?_
    rw [hkeys, List.getElem?_append_left (List.getElem?_eq_some_iff.mp hk).1, hk]
  have hone := h.keys (touchKeys before).length 1 (by
    rw [hkeys, List.getElem?_append_right le_rfl, Nat.sub_self]
    rfl)
  rw [if_neg (by omega)] at hone
  exact absurd hone (by decide)

/-! ## Runs of both -/

/-- A run of commands uses up tracking ids, one for each accepted down. -/
theorem streams_foldl (overlong : ℤ → Int32) {s : Receiver} (hs : s.Streams) (h0 : 0 ≤ s.mTrackingId.toInt)
    {cmds : List (List UInt8)} (hn : s.mTrackingId.toInt + (acceptedDowns overlong cmds : ℕ) < 2 ^ 31) :
    (cmds.foldl (runCommand overlong) s).Streams ∧
      (cmds.foldl (runCommand overlong) s).mTrackingId.toInt =
        s.mTrackingId.toInt + (acceptedDowns overlong cmds : ℕ) := by
  induction cmds generalizing s with
  | nil => exact ⟨hs, (add_zero _).symm⟩
  | cons cmd cmds ih =>
    rw [acceptedDowns, List.countP_cons, ← acceptedDowns] at hn ⊢
    have hid := mTrackingId_perform s (interpret overlong cmd).2
    have hroom : (interpret overlong cmd).2.startsContact = true → s.mTrackingId.toInt + 1 < 2 ^ 31 := by
      intro hstarts
      rw [if_pos hstarts] at hn
      push_cast at hn
      omega
    have hnext : (perform s (interpret overlong cmd).2).mTrackingId.toInt =
        s.mTrackingId.toInt + ((if (interpret overlong cmd).2.startsContact = true then 1 else 0 : ℕ) : ℤ) := by
      rw [hid]
      split
      · exact toInt_add_one h0 (hroom ‹_›)
      · exact (add_zero _).symm
    have hperform := streams_perform hs (interpret overlong cmd).2 ⟨h0, hroom⟩
    rw [List.foldl_cons, runCommand_eq]
    push_cast at hn hnext ⊢
    obtain ⟨hstreams, hlast⟩ := ih hperform (by omega) (by omega)
    exact ⟨hstreams, by omega⟩

theorem Handled.events_prefix (overlong : ℤ → Int32) (s : Receiver) (calls : List Handled) :
    s.events <+: (calls.foldl (Handled.step overlong) s).events := by
  induction calls generalizing s with
  | nil => exact List.prefix_rfl
  | cons c calls ih =>
    have hfirst : s.events <+: (Handled.step overlong s c).events := by
      cases c with
      | message msg =>
        obtain ⟨es, hes, -⟩ := touches_foldl overlong s (commandsOf msg)
        exact ⟨es, hes.symm⟩
      | keyCode scanCode mask =>
        rw [Handled.step, onKeyCode_eq]
        exact List.prefix_append _ _
    exact hfirst.trans (ih _)

/-- From any state that the touch messages can have led to. -/
theorem Receiver.Streams.protocolB_iff {s : Receiver} (hs : s.Streams) (overlong : ℤ → Int32)
    (h0 : 0 ≤ s.mTrackingId.toInt) {calls : List Handled}
    (hn : s.mTrackingId.toInt + (acceptedDowns overlong (calls.flatMap Handled.commands) : ℕ) < 2 ^ 31) :
    ProtocolB (calls.foldl (Handled.step overlong) s).events ↔
      Along (Handled.step overlong) Handled.Clear s calls := by
  induction calls generalizing s with
  | nil => exact iff_of_true (protocolB_of_along hs.admitted) (along_nil s)
  | cons c calls ih =>
    rw [List.foldl_cons, along_cons]
    rw [List.flatMap_cons, acceptedDowns, List.countP_append, ← acceptedDowns, ← acceptedDowns] at hn
    push_cast at hn
    cases c with
    | message msg =>
      rw [Handled.commands] at hn
      have hfits : s.mTrackingId.toInt + (acceptedDowns overlong (commandsOf msg) : ℕ) < 2 ^ 31 := by omega
      obtain ⟨hstreams, hid⟩ := streams_foldl overlong hs h0 hfits
      refine (ih hstreams (by omega) ?_).trans (and_iff_right trivial).symm
      show (List.foldl (runCommand overlong) s (commandsOf msg)).mTrackingId.toInt + _ < _
      omega
    | keyCode scanCode mask =>
      by_cases hclear : scanCode = BTN_TOUCH → s.mEnabledSlots = 0
      · have hstreams := streams_onKeyCode hs mask hclear
        have hid : (onKeyCode s scanCode mask).2.mTrackingId = s.mTrackingId := by
          rw [onKeyCode_eq]
          rfl
        refine (ih hstreams ?_ ?_).trans (and_iff_right hclear).symm
        · show 0 ≤ (onKeyCode s scanCode mask).2.mTrackingId.toInt
          rwa [hid]
        · show (onKeyCode s scanCode mask).2.mTrackingId.toInt + _ < _
          rw [hid]
          omega
      · refine iff_of_false ?_ (fun h => hclear h.1)
        obtain ⟨rfl, hcounted⟩ := Classical.not_imp.mp hclear
        have hdown : s.view.touch = true := hs.touch.mpr hcounted
        -- the press comes behind the modifiers, which the reader ignores
        obtain ⟨rest, hrest⟩ := Handled.events_prefix overlong (onKeyCode s BTN_TOUCH mask).2 calls
        have hmods := (s.view.ignores_modifiers mask 1).2
        refine not_protocolB_of_pressed (s.events ++ (modifiers mask).flatMap (keyEvent 1))
          (⟨EV_SYN, SYN_REPORT, 0⟩ :: (keyEvent 0 BTN_TOUCH ++ (modifiers mask).flatMap (keyEvent 0) ++ rest)) ?_ ?_
        · rw [Handled.step, ← hrest, onKeyCode_eq, Receiver.send, keyEvents]
          simp only [keyEvent, List.append_assoc, List.cons_append, List.nil_append]
        · rw [View.events_append, show View.events {} s.events = s.view from rfl, hmods, hdown]

/-- **The touch events between the keys.** Any touch messages and key codes with fewer than 2^31 accepted downs, with
writes that take their events, leave a valid protocol B stream if and only if no call asks for the touch key while a
contact is counted. -/
theorem protocolB_iff_clear (overlong : ℤ → Int32) (calls : List Handled)
    (hdowns : acceptedDowns overlong (calls.flatMap Handled.commands) < 2 ^ 31) :
    ProtocolB (calls.foldl (Handled.step overlong) {}).events ↔
      Along (Handled.step overlong) Handled.Clear {} calls := by
  have hzero : ({} : Receiver).mTrackingId.toInt = 0 := rfl
  refine streams_init.protocolB_iff overlong hzero.ge ?_
  rw [hzero]
  omega

/-- A finger goes down, Control and A are typed, and then the touch key. -/
def typedWhileDown : List Handled :=
  [.message (ascii ['d', ' ', '0', ' ', '1', ' ', '1', ' ', '1', '\n']), .keyCode 30 4, .keyCode BTN_TOUCH 0]

theorem protocolB_iff_clear_typedWhileDown :
    ProtocolB (typedWhileDown.foldl (Handled.step fun _ => 0) {}).events ↔
      Along (Handled.step fun _ => 0) Handled.Clear {} typedWhileDown :=
  protocolB_iff_clear (fun _ => 0) typedWhileDown (by decide)

end VhalClient.Input
