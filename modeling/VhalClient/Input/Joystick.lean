/-
# VhalClient.Input.Joystick — the joystick half of `VirtualInputReceiver`.

`onJoystickMessage` splits its message as `onInputMessage` does, and `ProcessOneJoystickCommand` reads a code and a
value with one `sscanf` into two locals that nothing initialises.  What is on the stack there is `Locals`, one for
each call, and the question is whether anybody can see it.

`joystickEvents` is what one command emits, given its locals.  The touch handler beside this one starts its locals
at -1 and refuses a command that leaves one there; here the locals are sent whatever they hold.  So the events
depend on the message alone exactly when every `k`, `m` and `a` of it has both numbers (`independent_iff_complete`).
-/
import VhalClient.Input.Receiver

namespace VhalClient.Input

open VhalClient.Lib.Scanf

def EV_MSC : UInt16 := 0x04

/-! ## `ProcessOneJoystickCommand` -/

/-- The locals `code` and `value`. -/
structure Locals where
  code : UInt16
  value : Int32

/-- The `case` labels of the `switch` over `cmd[0]`. -/
inductive JoystickLetter where
  | commit | key | misc | axis | insert | pullOut | other
  deriving DecidableEq

def joystickLetterOf (b : UInt8) : JoystickLetter :=
  if b = 'c'.toUInt8 then .commit
  else if b = 'k'.toUInt8 then .key
  else if b = 'm'.toUInt8 then .misc
  else if b = 'a'.toUInt8 then .axis
  else if b = 'i'.toUInt8 then .insert
  else if b = 'p'.toUInt8 then .pullOut
  else .other

variable (overlongCode : ℤ → UInt16) (overlong : ℤ → Int32)

/-- `sscanf(cmd.c_str(), "%c %hu %d", ...)`: what it stores in `code` and in `value`, if it comes to them. -/
def sscanfJoystick (cmd : List UInt8) : Option UInt16 × Option Int32 :=
  match scanNumber (cStr cmd).tail with
  | none => (none, none)
  | some (n, rest) =>
    match scanInt overlong rest with
    | .value v _ => (some (storeU16 overlongCode n), some v)
    | .mismatch => (some (storeU16 overlongCode n), none)
    | .exhausted => (some (storeU16 overlongCode n), none)

/-- The locals behind the `sscanf`: what was not stored is what was there. -/
def Locals.scan (l : Locals) (cmd : List UInt8) : Locals :=
  let stored := sscanfJoystick overlongCode overlong cmd
  ⟨stored.1.getD l.code, stored.2.getD l.value⟩

/-- A press and a release of `code`, each committed; between the two the code sleeps. -/
def sendPulse (s : Receiver) (code : UInt16) : Receiver :=
  let s := (sendCommit (sendEvent s EV_KEY code 1)).2
  (sendCommit (sendEvent s EV_KEY code 0)).2

/-- `ProcessOneJoystickCommand`, with the locals it finds. -/
def processOneJoystickCommand (l : Locals) (s : Receiver) (cmd : List UInt8) : Bool × Receiver :=
  match joystickLetterOf (cmd.headD 0) with
  | .commit => (true, (sendCommit s).2)
  | .key =>
    let l := l.scan overlongCode overlong cmd
    (true, sendEvent s EV_KEY l.code l.value)
  | .misc =>
    let l := l.scan overlongCode overlong cmd
    (true, sendEvent s EV_MSC l.code l.value)
  | .axis =>
    let l := l.scan overlongCode overlong cmd
    (true, sendEvent s EV_ABS l.code l.value)
  | .insert => (true, sendPulse s 631)
  | .pullOut => (true, sendPulse s 632)
  | .other => (true, s)

/-- `onJoystickMessage`; `locals k` are those the `k`-th call of `ProcessOneJoystickCommand` finds. -/
def onJoystickMessage (locals : ℕ → Locals) (s : Receiver) (msg : List UInt8) : (ℤ × String) × Receiver :=
  ((0, ""), (commandsOf msg).zipIdx.foldl
    (fun s c => (processOneJoystickCommand overlongCode overlong (locals c.2) s c.1).2) s)

/-! ## What a command emits -/

/-- The type of the event a letter sends with the code and the value of its line. -/
def JoystickLetter.eventType : JoystickLetter → Option UInt16
  | .key => some EV_KEY
  | .misc => some EV_MSC
  | .axis => some EV_ABS
  | _ => none

def pulseEvents (code : UInt16) : List InputEvent :=
  [⟨EV_KEY, code, 1⟩, ⟨EV_SYN, SYN_REPORT, 0⟩, ⟨EV_KEY, code, 0⟩, ⟨EV_SYN, SYN_REPORT, 0⟩]

def joystickEvents (l : Locals) (cmd : List UInt8) : List InputEvent :=
  let l := l.scan overlongCode overlong cmd
  match joystickLetterOf (cmd.headD 0) with
  | .commit => [⟨EV_SYN, SYN_REPORT, 0⟩]
  | .key => [⟨EV_KEY, l.code, l.value⟩]
  | .misc => [⟨EV_MSC, l.code, l.value⟩]
  | .axis => [⟨EV_ABS, l.code, l.value⟩]
  | .insert => pulseEvents 631
  | .pullOut => pulseEvents 632
  | .other => []

/-- A command only emits events. -/
theorem processOneJoystickCommand_eq (l : Locals) (s : Receiver) (cmd : List UInt8) :
    processOneJoystickCommand overlongCode overlong l s cmd =
      (true, { s with events := s.events ++ joystickEvents overlongCode overlong l cmd }) := by
  unfold processOneJoystickCommand joystickEvents
  cases joystickLetterOf (cmd.headD 0) with
  | other => simp
  | insert => simp [sendPulse, sendCommit, sendEvent, pulseEvents]
  | pullOut => simp [sendPulse, sendCommit, sendEvent, pulseEvents]
  | _ => rfl

/-- **What a message emits.** -/
theorem onJoystickMessage_events (locals : ℕ → Locals) (s : Receiver) (msg : List UInt8) :
    (onJoystickMessage overlongCode overlong locals s msg).2.events =
      s.events ++ (commandsOf msg).zipIdx.flatMap
        fun c => joystickEvents overlongCode overlong (locals c.2) c.1 := by
  unfold onJoystickMessage
  generalize (commandsOf msg).zipIdx = cmds
  induction cmds generalizing s with
  | nil => simp
  | cons c cmds ih =>
    rw [List.foldl_cons, processOneJoystickCommand_eq, ih, List.flatMap_cons, List.append_assoc]

/-! ## Who sees the locals -/

/-- The events are a matter of the message: the locals change none of them, and a key, misc or axis command sends
nothing but the code and the value `sscanf` took from its line. -/
structure Independent (s : Receiver) (msg : List UInt8) : Prop where
  same : ∀ locals locals', (onJoystickMessage overlongCode overlong locals s msg).2.events =
    (onJoystickMessage overlongCode overlong locals' s msg).2.events
  written : ∀ cmd ∈ commandsOf msg, ∀ type, (joystickLetterOf (cmd.headD 0)).eventType = some type →
    ∀ l t es, (processOneJoystickCommand overlongCode overlong l t cmd).2.events = t.events ++ es →
      ∀ e ∈ es, ∃ code value, sscanfJoystick overlongCode overlong cmd = (some code, some value) ∧
        e = ⟨type, code, value⟩

/-- There are two numbers behind the letter. -/
def TwoNumbers (cmd : List UInt8) : Prop :=
  ∃ n rest m rest', scanNumber (cStr cmd).tail = some (n, rest) ∧ scanNumber rest = some (m, rest')

/-- Every key, misc and axis command of the message has both its numbers. -/
def Complete (msg : List UInt8) : Prop :=
  ∀ cmd ∈ commandsOf msg, ∀ type, (joystickLetterOf (cmd.headD 0)).eventType = some type → TwoNumbers cmd

theorem sscanfJoystick_of_twoNumbers {cmd : List UInt8} (h : TwoNumbers cmd) :
    ∃ code value, sscanfJoystick overlongCode overlong cmd = (some code, some value) := by
  obtain ⟨n, rest, m, rest', hcode, hvalue⟩ := h
  have hscan : scanInt overlong rest = .value (store overlong m) rest' :=
    scanInt_eq_value_iff.mpr ⟨m, hvalue, rfl⟩
  refine ⟨storeU16 overlongCode n, store overlong m, ?_⟩
  rw [sscanfJoystick, hcode]
  dsimp only
  rw [hscan]

/-- Without the second number `value` is not stored. -/
theorem value_of_not_twoNumbers {cmd : List UInt8} (h : ¬ TwoNumbers cmd) :
    (sscanfJoystick overlongCode overlong cmd).2 = none := by
  unfold sscanfJoystick
  cases hcode : scanNumber (cStr cmd).tail with
  | none => rfl
  | some c =>
    obtain ⟨n, rest⟩ := c
    dsimp only
    cases hscan : scanInt overlong rest with
    | value v rest' =>
      obtain ⟨m, hvalue, -⟩ := scanInt_eq_value_iff.mp hscan
      exact absurd ⟨n, rest, m, rest', hcode, hvalue⟩ h
    | mismatch => rfl
    | exhausted => rfl

/-- A key, misc or axis command emits one event, of what is in the locals behind the `sscanf`. -/
theorem joystickEvents_of_eventType {cmd : List UInt8} {type : UInt16}
    (h : (joystickLetterOf (cmd.headD 0)).eventType = some type) (l : Locals) :
    joystickEvents overlongCode overlong l cmd =
      [⟨type, (l.scan overlongCode overlong cmd).code, (l.scan overlongCode overlong cmd).value⟩] := by
  unfold joystickEvents
  cases hl : joystickLetterOf (cmd.headD 0) with
  | key => rw [hl] at h; cases h; rfl
  | misc => rw [hl] at h; cases h; rfl
  | axis => rw [hl] at h; cases h; rfl
  | _ => rw [hl] at h; cases h

/-- The other commands do not look at the locals. -/
theorem joystickEvents_of_no_eventType {cmd : List UInt8}
    (h : (joystickLetterOf (cmd.headD 0)).eventType = none) (l l' : Locals) :
    joystickEvents overlongCode overlong l cmd = joystickEvents overlongCode overlong l' cmd := by
  unfold joystickEvents
  cases hl : joystickLetterOf (cmd.headD 0) with
  | key => rw [hl] at h; cases h
  | misc => rw [hl] at h; cases h
  | axis => rw [hl] at h; cases h
  | _ => rfl

/-- With both numbers there, the locals are overwritten. -/
theorem scan_of_stored {cmd : List UInt8} {code : UInt16} {value : Int32}
    (h : sscanfJoystick overlongCode overlong cmd = (some code, some value)) (l : Locals) :
    l.scan overlongCode overlong cmd = ⟨code, value⟩ := by
  rw [Locals.scan, h]
  rfl

theorem length_joystickEvents (l l' : Locals) (cmd : List UInt8) :
    (joystickEvents overlongCode overlong l cmd).length = (joystickEvents overlongCode overlong l' cmd).length := by
  unfold joystickEvents
  cases joystickLetterOf (cmd.headD 0) <;> rfl

/-- Two concatenations of pieces that are as long as each other are equal piece by piece. -/
theorem eq_of_flatMap_eq {α β : Type*} {f g : α → List β} {l : List α}
    (hlen : ∀ a, (f a).length = (g a).length) (h : l.flatMap f = l.flatMap g) : ∀ a ∈ l, f a = g a := by
  induction l with
  | nil => simp
  | cons a l ih =>
    rw [List.flatMap_cons, List.flatMap_cons] at h
    obtain ⟨hfirst, hrest⟩ := List.append_inj h (hlen a)
    exact List.forall_mem_cons.mpr ⟨hfirst, ih hrest⟩

/-- Two values on the stack tell whether `value` was stored. -/
theorem complete_of_same {s : Receiver} {msg : List UInt8}
    (h : ∀ locals locals', (onJoystickMessage overlongCode overlong locals s msg).2.events =
      (onJoystickMessage overlongCode overlong locals' s msg).2.events) : Complete msg := by
  intro cmd hcmd type htype
  by_contra hmissing
  obtain ⟨k, hk⟩ := List.mem_iff_getElem?.mp hcmd
  have hevents := h (fun _ => ⟨0, 0⟩) (fun _ => ⟨0, 1⟩)
  rw [onJoystickMessage_events, onJoystickMessage_events] at hevents
  have hpieces := eq_of_flatMap_eq (fun c : List UInt8 × ℕ => length_joystickEvents overlongCode overlong _ _ c.1)
    (List.append_cancel_left hevents)
  have hpiece := hpieces (cmd, k) (by simpa [List.mem_zipIdx_iff_getElem?] using hk)
  have hnone := value_of_not_twoNumbers overlongCode overlong hmissing
  rw [joystickEvents_of_eventType overlongCode overlong htype,
    joystickEvents_of_eventType overlongCode overlong htype, List.singleton_inj] at hpiece
  have hvalue := congrArg InputEvent.value hpiece
  simp only [Locals.scan, hnone, Option.getD_none] at hvalue
  exact absurd hvalue (by decide)

/-- **The joystick handler and its stack.** For every message, the emitted events depend on the message alone, and
are taken from it, exactly when every key, misc and axis command in it has two numbers. -/
theorem independent_iff_complete (s : Receiver) (msg : List UInt8) :
    Independent overlongCode overlong s msg ↔ Complete msg := by
  refine ⟨fun h => complete_of_same overlongCode overlong h.same, fun h => ⟨?_, ?_⟩⟩
  · intro locals locals'
    rw [onJoystickMessage_events, onJoystickMessage_events]
    congr 1
    refine List.flatMap_congr ?_
    intro c hc
    have hcmd : c.1 ∈ commandsOf msg := List.fst_mem_of_mem_zipIdx hc
    cases htype : (joystickLetterOf (c.1.headD 0)).eventType with
    | none => exact joystickEvents_of_no_eventType overlongCode overlong htype _ _
    | some type =>
      obtain ⟨code, value, hstored⟩ :=
        sscanfJoystick_of_twoNumbers overlongCode overlong (h c.1 hcmd type htype)
      rw [joystickEvents_of_eventType overlongCode overlong htype,
        joystickEvents_of_eventType overlongCode overlong htype,
        scan_of_stored overlongCode overlong hstored, scan_of_stored overlongCode overlong hstored]
  · intro cmd hcmd type htype l t es hes e he
    obtain ⟨code, value, hstored⟩ :=
      sscanfJoystick_of_twoNumbers overlongCode overlong (h cmd hcmd type htype)
    rw [processOneJoystickCommand_eq, joystickEvents_of_eventType overlongCode overlong htype,
      scan_of_stored overlongCode overlong hstored] at hes
    obtain rfl := List.append_cancel_left hes
    exact ⟨code, value, hstored, List.mem_singleton.mp he⟩

/-- `k` without its numbers: the key event is what was on the stack. -/
theorem not_independent_bareKey :
    ¬ ∀ (overlongCode : ℤ → UInt16) (overlong : ℤ → Int32) (s : Receiver) (msg : List UInt8),
      Independent overlongCode overlong s msg := by
  intro h
  have hsame := (h (fun _ => 0) (fun _ => 0) {} (ascii ['k', '\n'])).same (fun _ => ⟨30, 1⟩) (fun _ => ⟨48, 1⟩)
  exact absurd hsame (by decide)

end VhalClient.Input
