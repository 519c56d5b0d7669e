/-
# VhalClient.Display.HandleSafety — no handle is used after it was freed.

`Safe` reads a history and says of every output in it that it was allowed by what came before: a handle
that is shown to the client for display or removal was put into `mHandles` before and not freed, and a
handle that is freed was not freed before.  `Sound` is the invariant of the ledger that carries it: the
live handles were inserted, are not freed, and are distinct allocations.

`handles_safe` is the result for the code: it holds in every state of every run, whatever the server
sends (types, sizes, repeated or unknown remote handles), whatever fails, and however often the client
starts and stops the receiver.
-/
import VhalClient.Display.Ledger
import VhalClient.Display.Messages

namespace VhalClient.Display

open VhalClient.Lib

/-! ## Histories without misuse -/

/-- The output is allowed after this past. -/
def Output.Allowed (past : List Output) : Output → Prop
  | .handler .frameCreate _ _ _ => True
  | .handler .frameRemove _ handle _ =>
    (∃ remote, .inserted remote handle.id ∈ past) ∧ .free handle.id ∉ past
  | .handler .frameDisplay _ handle _ =>
    (∃ remote, .inserted remote handle.id ∈ past) ∧ .free handle.id ∉ past
  | .free id => .free id ∉ past
  | _ => True

/-- Every output of a history, newest first, was allowed when it came. -/
def Safe : List Output → Prop
  | [] => True
  | o :: past => o.Allowed past ∧ Safe past

theorem mem_filter_aboutHandles {o : Output} (h : o.aboutHandles = true) (past : List Output) :
    o ∈ past.filter Output.aboutHandles ↔ o ∈ past := by
  rw [List.mem_filter, h]
  simp

theorem allowed_filter {past : List Output} {o : Output} :
    o.Allowed (past.filter Output.aboutHandles) ↔ o.Allowed past := by
  have hfree (id : ℕ) := mem_filter_aboutHandles (o := .free id) rfl past
  have hins (remote : UInt64) (id : ℕ) := mem_filter_aboutHandles (o := .inserted remote id) rfl past
  cases o with
  | handler cmd remote handle ctrl => cases cmd <;> simp only [Output.Allowed, hfree, hins]
  | free id => simp only [Output.Allowed, hfree]
  | _ => rfl

/-- Outputs that are not about handles neither break nor save a history. -/
theorem safe_filter {past : List Output} : Safe (past.filter Output.aboutHandles) ↔ Safe past := by
  induction past with
  | nil => rfl
  | cons o past ih =>
    cases h : o.aboutHandles with
    | true => rw [List.filter_cons_of_pos h, Safe, Safe, ih, allowed_filter]
    | false =>
      have hallowed : o.Allowed past := by
        cases o <;> trivial
      rw [List.filter_cons_of_neg (by simp [h]), Safe, ih, and_iff_right hallowed]

/-! ## The invariant of the ledger -/

namespace Ledger

structure Sound (l : Ledger) : Prop where
  safe : Safe l.past
  entered : ∀ e ∈ l.live.entries, .inserted e.1 e.2.id ∈ l.past
  alive : ∀ e ∈ l.live.entries, .free e.2.id ∉ l.past
  distinct : ∀ e ∈ l.live.entries, ∀ e' ∈ l.live.entries, e.2.id = e'.2.id → e = e'
  liveOld : ∀ e ∈ l.live.entries, e.2.id < l.next
  freedOld : ∀ id, .free id ∈ l.past → id < l.next

theorem sound_initial : Sound initial where
  safe := trivial
  entered e he := by cases he
  alive e he := by cases he
  distinct e he := by cases he
  liveOld e he := by cases he
  freedOld id h := by cases h

variable {l : Ledger}

theorem sound_fail (h : Sound l) : Sound (l.apply .fail) := by
  have hfresh : Output.free l.next ∉ l.past := fun hmem => absurd (h.freedOld _ hmem) (lt_irrefl _)
  refine ⟨⟨?_, trivial, h.safe⟩, ?_, ?_, h.distinct, ?_, ?_⟩
  · show Output.free l.next ∉ Output.malloc l.next :: l.past
    simpa using hfresh
  · intro e he
    exact List.mem_cons_of_mem _ (List.mem_cons_of_mem _ (h.entered e he))
  · intro e he
    have hlt := h.liveOld e he
    have hne : e.2.id ≠ l.next := by omega
    simpa [apply, hne] using h.alive e he
  · intro e he
    exact Nat.lt_succ_of_lt (h.liveOld e he)
  · intro id hid
    simp only [apply, List.mem_cons, Output.free.injEq, reduceCtorEq, false_or] at hid
    rcases hid with rfl | hid
    · exact Nat.lt_succ_self _
    · exact Nat.lt_succ_of_lt (h.freedOld id hid)

theorem sound_create (h : Sound l) (remote : UInt64) (gralloc : CrosGrallocHandle) :
    Sound (l.apply (.create remote gralloc)) := by
  have hfresh : Output.free l.next ∉ l.past := fun hmem => absurd (h.freedOld _ hmem) (lt_irrefl _)
  simp only [apply]
  split
  · -- The key is taken: the new handle is announced but not stored.
    refine ⟨⟨trivial, trivial, h.safe⟩, ?_, ?_, h.distinct, ?_, ?_⟩
    · intro e he
      exact List.mem_cons_of_mem _ (List.mem_cons_of_mem _ (h.entered e he))
    · intro e he
      simpa using h.alive e he
    · intro e he
      exact Nat.lt_succ_of_lt (h.liveOld e he)
    · intro id hid
      exact Nat.lt_succ_of_lt (h.freedOld id (by simpa using hid))
  · rename_i hkey
    have hmem {e : UInt64 × Handle} :
        e ∈ (l.live.insert remote ⟨l.next, gralloc⟩).entries ↔
          e = (remote, ⟨l.next, gralloc⟩) ∨ e ∈ l.live.entries := OrdMap.mem_insert_iff hkey
    refine ⟨⟨trivial, trivial, trivial, h.safe⟩, ?_, ?_, ?_, ?_, ?_⟩
    · intro e he
      rcases hmem.mp he with rfl | he
      · simp
      · simp [h.entered e he]
    · intro e he
      rcases hmem.mp he with rfl | he
      · simpa using hfresh
      · simpa using h.alive e he
    · -- The fresh allocation is newer than every live one, so it is none of them.
      intro e he e' he' hid
      rcases hmem.mp he with rfl | he <;> rcases hmem.mp he' with rfl | he'
      · rfl
      · exact absurd (h.liveOld e' he') (by simp [← hid])
      · exact absurd (h.liveOld e he) (by simp [hid])
      · exact h.distinct e he e' he' hid
    · intro e he
      rcases hmem.mp he with rfl | he
      · exact Nat.lt_succ_self _
      · exact Nat.lt_succ_of_lt (h.liveOld e he)
    · intro id hid
      exact Nat.lt_succ_of_lt (h.freedOld id (by simpa using hid))

theorem sound_remove (h : Sound l) (remote : UInt64) : Sound (l.apply (.remove remote)) := by
  simp only [apply]
  split
  · exact h
  · rename_i handle hfind
    have hlive : (remote, handle) ∈ l.live.entries := OrdMap.find_eq_some_iff.mp hfind
    have hkept : ∀ e ∈ (l.live.erase remote).entries, e ∈ l.live.entries ∧ e.1 ≠ remote := by
      intro e he
      exact OrdMap.mem_erase_iff.mp he
    refine ⟨⟨?_, ⟨⟨remote, h.entered _ hlive⟩, h.alive _ hlive⟩, h.safe⟩, ?_, ?_, ?_, ?_, ?_⟩
    · show Output.free handle.id ∉ Output.handler .frameRemove remote handle none :: l.past
      simpa using h.alive _ hlive
    · intro e he
      simp [h.entered e (hkept e he).1]
    · intro e he
      obtain ⟨hmem, hne⟩ := hkept e he
      -- Another key holds another allocation, so freeing this one does not touch it.
      have hid : e.2.id ≠ handle.id := by
        intro heq
        exact hne (congrArg Prod.fst (h.distinct e hmem _ hlive heq))
      simpa [hid] using h.alive e hmem
    · intro e he e' he'
      exact h.distinct e (hkept e he).1 e' (hkept e' he').1
    · intro e he
      exact h.liveOld e (hkept e he).1
    · intro id hid
      simp only [List.mem_cons, Output.free.injEq, reduceCtorEq, false_or] at hid
      rcases hid with rfl | hid
      · exact h.liveOld _ hlive
      · exact h.freedOld id hid

theorem sound_display (h : Sound l) (remote : UInt64) (ctrl : Option DisplayControl) :
    Sound (l.apply (.display remote ctrl)) := by
  simp only [apply]
  split
  · exact h
  · rename_i handle hfind
    have hlive : (remote, handle) ∈ l.live.entries := OrdMap.find_eq_some_iff.mp hfind
    refine ⟨⟨⟨⟨remote, h.entered _ hlive⟩, h.alive _ hlive⟩, h.safe⟩, ?_, ?_, h.distinct, h.liveOld, ?_⟩
    · intro e he
      exact List.mem_cons_of_mem _ (h.entered e he)
    · intro e he
      simpa using h.alive e he
    · intro id hid
      exact h.freedOld id (by simpa using hid)

/-- **Every operation keeps the ledger sound.** -/
theorem sound_apply (l : Ledger) (op : Op) (h : Sound l) : Sound (l.apply op) := by
  cases op with
  | fail => exact sound_fail h
  | create remote gralloc => exact sound_create h remote gralloc
  | remove remote => exact sound_remove h remote
  | display remote ctrl => exact sound_display h remote ctrl

theorem sound_foldl (ops : List Op) (l : Ledger) (h : Sound l) : Sound (ops.foldl apply l) := by
  induction ops generalizing l with
  | nil => exact h
  | cons op ops ih => exact ih _ (sound_apply l op h)

end Ledger

/-! ## Every run of the receiver -/

namespace Impl

/-- What the receiver owes its handles: it used and freed them properly so far, and what it still holds
is alive and held under one key. -/
structure HandlesSafe (s : Impl) : Prop where
  history : Safe s.history
  alive : ∀ remote handle, s.mHandles.find remote = some handle → .free handle.id ∉ s.history
  once : ∀ remote remote' handle handle', s.mHandles.find remote = some handle →
    s.mHandles.find remote' = some handle' → handle.id = handle'.id → remote = remote'

theorem handlesSafe_of_sound {s : Impl} (h : s.ledger.Sound) : s.HandlesSafe where
  history := safe_filter.mp h.safe
  alive := by
    intro remote handle hfind
    have halive := h.alive (remote, handle) (OrdMap.find_eq_some_iff.mp hfind)
    exact fun hmem => halive ((mem_filter_aboutHandles rfl _).mpr hmem)
  once := by
    intro remote remote' handle handle' hfind hfind' hid
    exact congrArg Prod.fst (h.distinct (remote, handle) (OrdMap.find_eq_some_iff.mp hfind)
      (remote', handle') (OrdMap.find_eq_some_iff.mp hfind') hid)

theorem sound_step (cfg : Config) (s : Impl) (i : Input) (h : s.ledger.Sound) :
    (s.step cfg i).ledger.Sound := by
  rw [ledger_step]
  exact Ledger.sound_foldl _ _ h

/-- **No use after free, no double free, no dangling entry, in any state of any run.** -/
theorem handles_safe (cfg : Config) (inputs : List Input) :
    ∀ s ∈ inputs.scanl (step cfg) initial, s.HandlesSafe := by
  have halong : Along (step cfg) (fun _ _ => True) initial inputs :=
    along_of_forall (fun _ _ => trivial) _ _
  intro s hs
  apply handlesSafe_of_sound
  exact halong.invariant (I := fun s => s.ledger.Sound) (fun s i h _ => sound_step cfg s i h)
    Ledger.sound_initial s hs

/-- A session in which the server creates remote handle 7, has it displayed, and removes it. -/
def shownAndRemoved : List Input :=
  let messages : List Message :=
    [blankCreate 7, ⟨⟨evDisplayReq, 24, 0, 0⟩, .displayReq ⟨7⟩ none⟩,
      ⟨⟨evRemoveBuffer, 24, 0, 0⟩, .removeBuffer ⟨7⟩⟩]
  [.start, .connect (some (Feed.whole (messages.flatMap Message.wire))), .poll (.ready calmEnv),
    .poll (.ready calmEnv), .poll (.ready calmEnv), .stop]

theorem handles_safe_shownAndRemoved :
    Output.free 0 ∈ (shownAndRemoved.foldl (step anySession) initial).history ∧
      (shownAndRemoved.foldl (step anySession) initial).HandlesSafe :=
  ⟨by decide +kernel, handles_safe anySession shownAndRemoved _ (foldl_mem_scanl _ _)⟩

end Impl

end VhalClient.Display
