/-
# VhalClient.Input.Slots — `mEnabledSlots` against the contact table.

`mEnabledSlots` is meant to be the number of enabled contacts.  `SendDown` and `SendUp` keep it so;
`SendReset` clears the table and forgets the counter.  `Touch.resetsLive` names the commands that
reach that slip, read on the state before the command: a reset while a contact is enabled, and a
down on a slot that is already enabled (which resets first).

One lemma per operation says what happens to the set of enabled slots and to the counter
(`enabled_sendDown`, `enabled_sendUp`, `enabled_sendReset`).  From these, `slotsExact_perform_iff` is
exact for one command, and the run rules of `VhalClient.Lib.Run` lift it to whole runs.
-/
import VhalClient.Input.Receiver
import VhalClient.Lib.Run

namespace VhalClient.Input

open VhalClient.Lib

/-- The slots whose contact is enabled. -/
def Receiver.enabledSlots (s : Receiver) : Finset (Fin kMaxSlot) :=
  Finset.univ.filter fun i => (s.mContacts i).enabled = true

@[simp] theorem mem_enabledSlots {s : Receiver} {i : Fin kMaxSlot} :
    i ∈ s.enabledSlots ↔ (s.mContacts i).enabled = true := by
  simp [Receiver.enabledSlots]

theorem touched_iff_nonempty {s : Receiver} : s.touched ↔ s.enabledSlots.Nonempty := by
  simp [Receiver.touched, Finset.Nonempty]

theorem card_enabledSlots_le (s : Receiver) : s.enabledSlots.card ≤ kMaxSlot := by
  simpa using Finset.card_le_univ s.enabledSlots

/-- The counter equals the number of enabled contacts. -/
def Receiver.SlotsExact (s : Receiver) : Prop := s.mEnabledSlots.toNat = s.enabledSlots.card

instance (s : Receiver) : Decidable s.SlotsExact :=
  inferInstanceAs (Decidable (s.mEnabledSlots.toNat = s.enabledSlots.card))

/-- The counter's soundness only reads the table and the counter. -/
theorem slotsExact_events (s : Receiver) (evs : List InputEvent) :
    { s with events := evs }.SlotsExact ↔ s.SlotsExact := Iff.rfl

/-! ## What each operation does to the table and the counter -/

theorem enabled_sendReset (s : Receiver) :
    (sendReset s).2.enabledSlots = ∅ ∧ (sendReset s).2.mEnabledSlots = s.mEnabledSlots := by
  rw [sendReset_eq]
  refine ⟨?_, rfl⟩
  ext i
  simp

theorem enabled_sendDown (s : Receiver) {slot : Int32} {i : Fin kMaxSlot}
    (hi : slotIndex slot = some i) (x y p : Int32) :
    (sendDown s slot x y p).2.enabledSlots =
      insert i (if s.downResets i then ∅ else s.enabledSlots) := by
  have hbefore : (s.beforeDown i).enabledSlots = if s.downResets i then ∅ else s.enabledSlots := by
    unfold Receiver.beforeDown
    split
    · exact (enabled_sendReset s).1
    · rfl
  rw [← hbefore]
  ext j
  rw [mem_enabledSlots, sendDown_eq s hi]
  by_cases hj : j = i
  · simp [hj]
  · simp [hj]

theorem enabled_sendUp (s : Receiver) {slot : Int32} {i : Fin kMaxSlot}
    (hi : slotIndex slot = some i) (hl : s.lifts i) :
    (sendUp s slot).2.enabledSlots = s.enabledSlots.erase i := by
  ext j
  rw [mem_enabledSlots, sendUp_eq s hi hl]
  by_cases hj : j = i
  · simp [hj]
  · simp [hj]

theorem sendDown_mEnabledSlots (s : Receiver) {slot : Int32} {i : Fin kMaxSlot}
    (hi : slotIndex slot = some i) (x y p : Int32) :
    (sendDown s slot x y p).2.mEnabledSlots = s.mEnabledSlots + 1 := by
  rw [sendDown_eq s hi]

theorem sendUp_mEnabledSlots (s : Receiver) {slot : Int32} {i : Fin kMaxSlot}
    (hi : slotIndex slot = some i) (hl : s.lifts i) :
    (sendUp s slot).2.mEnabledSlots = s.mEnabledSlots - 1 := by
  rw [sendUp_eq s hi hl]

/-! ## The counter along a run -/

/-- The command makes `SendReset` run on a table with an enabled contact. -/
def Touch.resetsLive (s : Receiver) : Touch → Prop
  | .reset => s.touched
  | .down slot _ _ _ => ∃ i, slotIndex slot = some i ∧ (s.mContacts i).enabled = true
  | _ => False

instance (s : Receiver) (t : Touch) : Decidable (t.resetsLive s) :=
  match t with
  | .reset => inferInstanceAs (Decidable s.touched)
  | .down slot _ _ _ =>
    inferInstanceAs (Decidable (∃ i, slotIndex slot = some i ∧ (s.mContacts i).enabled = true))
  | .commit | .up _ | .move _ _ _ _ | .idle => inferInstanceAs (Decidable False)

theorem toNat_add_one {n : UInt32} (h : n.toNat ≤ kMaxSlot) : (n + 1).toNat = n.toNat + 1 := by
  have hle : n.toNat ≤ 10 := h
  have hone : (1 : UInt32).toNat = 1 := rfl
  rw [UInt32.toNat_add, hone]
  omega

theorem toNat_sub_one {n : UInt32} (h : n ≠ 0) : (n - 1).toNat = n.toNat - 1 := by
  have hpos : 1 ≤ n.toNat := by
    rcases Nat.eq_zero_or_pos n.toNat with h0 | h0
    · exact absurd (UInt32.toNat_inj.mp (by simpa using h0)) h
    · exact h0
  have hle : (1 : UInt32) ≤ n := by simpa [UInt32.le_iff_toNat_le] using hpos
  rw [UInt32.toNat_sub_of_le _ _ hle]
  rfl

/-- An enabled contact makes an exact counter positive. -/
theorem Receiver.SlotsExact.ne_zero {s : Receiver} (hs : s.SlotsExact) (ht : s.touched) :
    s.mEnabledSlots.toNat ≠ 0 := by
  rw [hs]
  exact Finset.card_ne_zero.mpr (touched_iff_nonempty.mp ht)

/-- With an exact counter, `SendDown` on a free slot does not reset: the counter only reaches
`kMaxSlot` when every slot is enabled. -/
theorem Receiver.SlotsExact.not_downResets {s : Receiver} (hs : s.SlotsExact) {i : Fin kMaxSlot}
    (hi : (s.mContacts i).enabled = false) : ¬ s.downResets i := by
  rintro (he | hfull)
  · simp [hi] at he
  · rw [hs] at hfull
    have huniv : s.enabledSlots = Finset.univ :=
      Finset.eq_univ_of_card _ (by simpa using le_antisymm (card_enabledSlots_le s) hfull)
    have : i ∈ s.enabledSlots := huniv ▸ Finset.mem_univ i
    simp [hi] at this

/-- A down on a free slot keeps every other contact. -/
theorem Receiver.SlotsExact.sendDown_keeps {s : Receiver} (hs : s.SlotsExact) {slot : Int32}
    (hfree : ∀ i, slotIndex slot = some i → (s.mContacts i).enabled = false) (x y p : Int32)
    {j : Fin kMaxSlot} (hj : (s.mContacts j).enabled = true) :
    ((sendDown s slot x y p).2.mContacts j).enabled = true := by
  cases hi : slotIndex slot with
  | none => rw [sendDown_of_none s hi]; exact hj
  | some i =>
    rw [← mem_enabledSlots, enabled_sendDown s hi, if_neg (hs.not_downResets (hfree i hi))]
    exact Finset.mem_insert_of_mem (mem_enabledSlots.mpr hj)

/-- **One command, exactly.** From an exact counter, a command leaves it exact if and only if it
does not reset a live table. -/
theorem slotsExact_perform_iff {s : Receiver} (hs : s.SlotsExact) (t : Touch) :
    (perform s t).SlotsExact ↔ ¬ t.resetsLive s := by
  have hle : s.mEnabledSlots.toNat ≤ kMaxSlot := hs ▸ card_enabledSlots_le s
  cases t with
  | commit => exact iff_of_true ((slotsExact_events s _).mpr hs) (by simp [Touch.resetsLive])
  | idle => exact iff_of_true hs (by simp [Touch.resetsLive])
  | move slot x y p =>
    rw [perform, sendMove_eq, slotsExact_events]
    exact iff_of_true hs (by simp [Touch.resetsLive])
  | reset =>
    -- The table is emptied and the counter stays: they agree only if it was zero.
    obtain ⟨hset, hn⟩ := enabled_sendReset s
    simp only [perform, Receiver.SlotsExact, hset, hn, Finset.card_empty, Touch.resetsLive]
    constructor
    · exact fun h0 ht => hs.ne_zero ht h0
    · intro ht
      rw [hs, Finset.card_eq_zero, ← Finset.not_nonempty_iff_eq_empty, ← touched_iff_nonempty]
      exact ht
  | up slot =>
    refine iff_of_true ?_ (by simp [Touch.resetsLive])
    rcases sendUp_cases s slot with ⟨i, hi, hlift⟩ | hrefused
    · simp only [perform, Receiver.SlotsExact, enabled_sendUp s hi hlift,
        sendUp_mEnabledSlots s hi hlift, toNat_sub_one hlift.1,
        Finset.card_erase_of_mem (mem_enabledSlots.mpr hlift.2)]
      rw [hs]
    · rw [perform, hrefused]
      exact hs
  | down slot x y p =>
    simp only [perform, Touch.resetsLive]
    cases hi : slotIndex slot with
    | none => rw [sendDown_of_none s hi]; simpa using hs
    | some i =>
      simp only [Receiver.SlotsExact, enabled_sendDown s hi, sendDown_mEnabledSlots s hi,
        toNat_add_one hle, Option.some.injEq, exists_eq_left']
      by_cases he : (s.mContacts i).enabled = true
      · -- The reset leaves `i` alone in the table, while the counter goes on from at least one.
        have hpos := hs.ne_zero ⟨i, he⟩
        have hr : s.downResets i := Or.inl he
        rw [if_pos hr]
        simp [he, hpos]
      · have hf : (s.mContacts i).enabled = false := by simpa using he
        rw [if_neg (hs.not_downResets hf),
          Finset.card_insert_of_notMem (by simp [hf]), ← hs]
        simp [hf]

theorem slotsExact_init : ({} : Receiver).SlotsExact := by decide

/-- The commands the messages of a run hand to `ProcessOneCommand`, in order. -/
def commandsOfAll (msgs : List (List UInt8)) : List (List UInt8) := msgs.flatMap commandsOf

/-- A run of `onInputMessage` calls is the run of the commands in the messages. -/
theorem foldl_onInputMessage (overlong : ℤ → Int32) (s : Receiver) (msgs : List (List UInt8)) :
    msgs.foldl (fun s msg => (onInputMessage overlong s msg).2) s =
      (commandsOfAll msgs).foldl (runCommand overlong) s := by
  induction msgs generalizing s with
  | nil => rfl
  | cons msg msgs ih =>
    rw [List.foldl_cons, ih, commandsOfAll, commandsOfAll, List.flatMap_cons, List.foldl_append]
    rfl

/-- No command of the run resets a live table. -/
def ResetFree (overlong : ℤ → Int32) (s : Receiver) (cmds : List (List UInt8)) : Prop :=
  Along (runCommand overlong) (fun s cmd => ¬ (interpret overlong cmd).2.resetsLive s) s cmds

/-- What the counter is for, in one state. -/
structure Receiver.SlotsSound (s : Receiver) : Prop where
  count : s.mEnabledSlots.toNat = s.enabledSlots.card
  bound : s.mEnabledSlots.toNat ≤ kMaxSlot
  keeps : ∀ slot x y p, (∀ i, slotIndex slot = some i → (s.mContacts i).enabled = false) →
    ∀ j, (s.mContacts j).enabled = true → ((sendDown s slot x y p).2.mContacts j).enabled = true

theorem slotsSound_iff {s : Receiver} : s.SlotsSound ↔ s.SlotsExact :=
  ⟨fun h => h.count, fun h =>
    ⟨h, h ▸ card_enabledSlots_le s, fun _ x y p hfree _ hj => h.sendDown_keeps hfree x y p hj⟩⟩

/-- **The slot counter over whole runs.** From a fresh receiver and for every sequence of messages,
the counter is sound after every command if and only if no command resets a live table. -/
theorem slotsSound_iff_resetFree (overlong : ℤ → Int32) (msgs : List (List UInt8)) :
    (∀ s ∈ (commandsOfAll msgs).scanl (runCommand overlong) {}, s.SlotsSound) ↔
      ResetFree overlong {} (commandsOfAll msgs) := by
  simp only [slotsSound_iff]
  refine forall_scanl_iff_along ?_ slotsExact_init
  intro s cmd hs
  rw [runCommand_eq]
  exact slotsExact_perform_iff hs _

/-- After `d 0 1 1 1` and `r` the table is empty and the counter is still one. -/
theorem not_slotsSound_after_reset :
    ¬ ∀ (overlong : ℤ → Int32) (msgs : List (List UInt8)),
      ∀ s ∈ (commandsOfAll msgs).scanl (runCommand overlong) {}, s.SlotsSound := by
  intro h
  have hlast := h (fun _ => 0)
    [ascii ['d', ' ', '0', ' ', '1', ' ', '1', ' ', '1', '\n', 'r', '\n']] _ (foldl_mem_scanl _ _)
  exact absurd hlast.count (by decide)

end VhalClient.Input
