/-
# VhalClient.Input.TrackingIds — the tracking ids a run of commands gives out.

The header declares `kMaxTrackingId = 65535` beside `mTrackingId`, and no line of the code reads it: `SendDown`
takes `mTrackingId++` and the counter runs on.  `downIds_eq` says which ids that makes over a whole run, whatever
the commands are: the accepted downs are numbered from the counter on, one after the other.

So the declared range is kept exactly as long as the run has no more accepted downs than the range has ids
(`idsInRange_iff`); the next one leaves it.
-/
import VhalClient.Input.Multitouch

namespace VhalClient.Input

def kMaxTrackingId : ℕ := 65535

variable (overlong : ℤ → Int32)

/-! ## The ids `SendDown` emits -/

/-- The values of the `ABS_MT_TRACKING_ID` events, in order. -/
def trackingIds (es : List InputEvent) : List Int32 :=
  (es.filter fun e => e.type = EV_ABS ∧ e.code = ABS_MT_TRACKING_ID).map InputEvent.value

/-- The tracking ids among what `SendDown` emits for a command: none when the command is not a down. -/
def sentIds (s : Receiver) (cmd : List UInt8) : List Int32 :=
  if (interpret overlong cmd).2.isDown then
    trackingIds ((runCommand overlong s cmd).events.drop s.events.length)
  else []

/-- The tracking ids that `SendDown` emits in a run, in order. -/
def downIds : Receiver → List (List UInt8) → List Int32
  | _, [] => []
  | s, cmd :: cmds => sentIds overlong s cmd ++ downIds (runCommand overlong s cmd) cmds

/-- Every id that `SendDown` emits in the run is in the declared range. -/
def IdsInRange (s : Receiver) (cmds : List (List UInt8)) : Prop :=
  ∀ id ∈ downIds overlong s cmds, 0 ≤ id.toInt ∧ id.toInt ≤ kMaxTrackingId

/-! ## One command -/

theorem trackingIds_append (es fs : List InputEvent) :
    trackingIds (es ++ fs) = trackingIds es ++ trackingIds fs := by
  rw [trackingIds, List.filter_append, List.map_append]
  rfl

/-- The reset in front of a down emits no tracking id. -/
theorem trackingIds_beforeDown (s : Receiver) (i : Fin kMaxSlot) :
    trackingIds ((s.beforeDown i).events.drop s.events.length) = [] := by
  unfold Receiver.beforeDown
  split
  · rw [sendReset_eq, List.drop_left]
    split <;> rfl
  · rw [List.drop_length]
    rfl

theorem length_le_beforeDown (s : Receiver) (i : Fin kMaxSlot) :
    s.events.length ≤ (s.beforeDown i).events.length := by
  unfold Receiver.beforeDown
  split
  · rw [sendReset_eq, List.length_append]
    omega
  · exact Nat.le_refl _

/-- A down on a slot of the table emits the counter, once. -/
theorem trackingIds_sendDown (s : Receiver) {slot : Int32} {i : Fin kMaxSlot} (hi : slotIndex slot = some i)
    (x y p : Int32) :
    trackingIds ((sendDown s slot x y p).2.events.drop s.events.length) = [s.mTrackingId] := by
  have hkey : trackingIds (if s.mEnabledSlots + 1 = 1 then [⟨EV_KEY, BTN_TOUCH, 1⟩] else []) = [] := by
    split <;> rfl
  rw [sendDown_eq s hi, List.append_assoc, List.append_assoc,
    List.drop_append_of_le_length (length_le_beforeDown s i), trackingIds_append, trackingIds_append,
    trackingIds_append, trackingIds_beforeDown, hkey]
  rfl

theorem sentIds_eq (s : Receiver) (cmd : List UInt8) :
    sentIds overlong s cmd = if (interpret overlong cmd).2.startsContact then [s.mTrackingId] else [] := by
  rw [sentIds, runCommand_eq]
  cases (interpret overlong cmd).2 with
  | down slot x y p =>
    rw [perform, if_pos (show (Touch.down slot x y p).isDown = true from rfl), Touch.startsContact]
    cases hi : slotIndex slot with
    | none =>
      rw [sendDown_of_none s hi, List.drop_length]
      rfl
    | some i => exact trackingIds_sendDown s hi x y p
  | _ => rfl

/-! ## A run -/

/-- **The ids of a run.** The accepted downs are numbered consecutively from the counter on; nothing else in the
run makes a difference. -/
theorem downIds_eq (s : Receiver) (cmds : List (List UInt8)) :
    downIds overlong s cmds =
      (List.range (acceptedDowns overlong cmds)).map fun k => s.mTrackingId + Int32.ofNat k := by
  induction cmds generalizing s with
  | nil => rfl
  | cons cmd cmds ih =>
    have hid := mTrackingId_perform s (interpret overlong cmd).2
    rw [downIds, sentIds_eq, ih, runCommand_eq, hid, acceptedDowns, acceptedDowns, List.countP_cons]
    by_cases hstarts : (interpret overlong cmd).2.startsContact = true
    · rw [if_pos hstarts, if_pos hstarts, if_pos hstarts, List.range_succ_eq_map, List.map_cons, List.map_map]
      have hfirst : s.mTrackingId + Int32.ofNat 0 = s.mTrackingId := Int32.add_zero s.mTrackingId
      rw [hfirst, List.singleton_append]
      refine congrArg _ (List.map_congr_left fun k _ => ?_)
      show s.mTrackingId + 1 + Int32.ofNat k = s.mTrackingId + Int32.ofNat (k + 1)
      rw [Int32.ofNat_add, Int32.add_comm (Int32.ofNat k), Int32.add_assoc]
      rfl
    · rw [if_neg hstarts, if_neg hstarts, if_neg hstarts]
      rfl

theorem toInt_fresh {k : ℕ} (hk : k < 2 ^ 31) : (({} : Receiver).mTrackingId + Int32.ofNat k).toInt = k := by
  rw [show ({} : Receiver).mTrackingId = 0 from rfl, Int32.zero_add, Int32.toInt_ofNat_of_lt hk]

/-- The down behind the range: its id is `kMaxTrackingId + 1`. -/
theorem acceptedDowns_le_of_idsInRange {cmds : List (List UInt8)} (h : IdsInRange overlong {} cmds) :
    acceptedDowns overlong cmds ≤ kMaxTrackingId + 1 := by
  rw [IdsInRange, downIds_eq, List.forall_mem_map] at h
  by_contra hmore
  have hnext := (h (kMaxTrackingId + 1) (List.mem_range.mpr (by omega))).2
  rw [toInt_fresh (by decide)] at hnext
  omega

/-- **The declared range.** From a fresh receiver, whatever commands it is given, every tracking id that `SendDown`
emits is in the range declared for it exactly when the run has at most `kMaxTrackingId + 1` accepted downs. -/
theorem idsInRange_iff (cmds : List (List UInt8)) :
    IdsInRange overlong {} cmds ↔ acceptedDowns overlong cmds ≤ kMaxTrackingId + 1 := by
  refine ⟨acceptedDowns_le_of_idsInRange overlong, ?_⟩
  intro hle
  rw [IdsInRange, downIds_eq, List.forall_mem_map]
  intro k hk
  have hlt := List.mem_range.mp hk
  have hmax : kMaxTrackingId = 65535 := rfl
  rw [toInt_fresh (by omega)]
  omega

/-- A message of one command, sent again and again. -/
theorem commandsOfAll_replicate {msg cmd : List UInt8} (h : commandsOf msg = [cmd]) (n : ℕ) :
    commandsOfAll (List.replicate n msg) = List.replicate n cmd := by
  induction n with
  | zero => rfl
  | succ n ih =>
    rw [commandsOfAll] at ih ⊢
    rw [List.replicate_succ, List.flatMap_cons, ih, h, List.singleton_append, List.replicate_succ]

/-- The message `d 0 0 0 0`, sent 65537 times: the last id is 65536. -/
theorem not_idsInRange_manyDowns :
    ¬ ∀ (overlong : ℤ → Int32) (msgs : List (List UInt8)), IdsInRange overlong {} (commandsOfAll msgs) := by
  intro h
  have hone : commandsOf (ascii ['d', ' ', '0', ' ', '0', ' ', '0', ' ', '0', '\n']) =
      [ascii ['d', ' ', '0', ' ', '0', ' ', '0', ' ', '0']] := by decide
  have hrun := h (fun _ => 0)
    (List.replicate 65537 (ascii ['d', ' ', '0', ' ', '0', ' ', '0', ' ', '0', '\n']))
  rw [commandsOfAll_replicate hone] at hrun
  have hle := acceptedDowns_le_of_idsInRange _ hrun
  rw [acceptedDowns, List.countP_replicate, if_pos (by decide)] at hle
  exact absurd hle (by decide)

end VhalClient.Input
