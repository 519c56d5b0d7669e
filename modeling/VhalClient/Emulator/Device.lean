/-
# VhalClient.Emulator.Device — the device behind `GfxHandler`.

`GfxInit` opens the device and asks it five things; an answer that does not suit closes it again.  The buffer
objects are made and unmade by ioctls on the same descriptor, and the destructor closes it.  The member has no
initializer, so a handler starts with whatever number is in its memory.

`device_proper_iff` says for which orders of calls no system call is made on a descriptor that is not the
handler's: `GfxInit` has to come first, and a handler that is destroyed without it closes the number it found.
`device_released_iff` says when the device is closed in the end: a second `GfxInit` must find no device open, and
the device must not be descriptor 0, which the destructor takes for none.
-/
import Mathlib.Algebra.Order.Group.Multiset
import Mathlib.Logic.Function.Iterate
import VhalClient.Lib.Holdings
import VhalClient.Lib.Run
import VhalClient.Emulator.GfxHandler

namespace VhalClient.Emulator

open VhalClient.Lib

/-! ## The system calls -/

/-- The requests of the handler's ioctls; `chipsetId` and `mmapGttVersion` are those of `GetDrmParam`. -/
inductive DrmRequest where
  | version
  | chipsetId
  | mmapGttVersion
  | gemCreate
  | primeHandleToFd
  | gemClose
  | gemMmapOffset
  | gemSetDomain
  | gemSwFinish
  deriving DecidableEq, Repr

inductive DeviceCall where
  | openDevice (result : ℤ)
  | ioctl (fd : ℤ) (request : DrmRequest)
  | close (fd : ℤ)
  deriving DecidableEq, Repr

namespace DeviceCall

/-- What a call does to the descriptors of the process. -/
def use : DeviceCall → Option (Use ℤ)
  | openDevice result => if 0 ≤ result then some (.acquire result) else none
  | ioctl _ _ => none
  | close fd => some (.release fd)

/-- A call is made on what is open; an ioctl may also be made on no descriptor at all, and fail. -/
def Proper : DeviceCall → Multiset ℤ → Prop
  | openDevice _, _ => True
  | ioctl fd _, held => 0 ≤ fd → fd ∈ held
  | close fd, held => fd ∈ held

end DeviceCall

/-- How a `RunIoctl` goes: it is interrupted so many times, and then returns. -/
structure IoctlAnswer where
  again : ℕ
  ret : ℤ

/-- The answers during one `GfxInit`. -/
structure DeviceAnswers where
  device : ℤ
  version : IoctlAnswer
  nameLen : ℕ
  /-- The second request for the version, made if there is a name to be had. -/
  versionName : IoctlAnswer
  chipsetId : IoctlAnswer
  mmapGtt : IoctlAnswer
  mmapGttVersion : ℤ

/-- The device can be opened, answers, and has the function the handler maps objects with. -/
structure DeviceAnswers.Suits (a : DeviceAnswers) : Prop where
  device : 0 ≤ a.device
  version : a.version.ret = 0
  versionName : 0 < a.nameLen → a.versionName.ret = 0
  chipsetId : a.chipsetId.ret = 0
  mmapGtt : a.mmapGtt.ret = 0
  mmapGttVersion : 4 ≤ a.mmapGttVersion

/-! ## The handler -/

/-- `m_device_fd`, and the system calls made so far, newest first. -/
structure GfxDevice where
  fd : ℤ
  calls : List DeviceCall

namespace GfxDevice

/-- The constructor leaves the number that is there. -/
def construct (found : ℤ) : GfxDevice := ⟨found, []⟩

/-- `m_device_fd = open(…)` -/
def openDevice (result : ℤ) (d : GfxDevice) : GfxDevice := ⟨result, .openDevice result :: d.calls⟩

def ioctl (request : DrmRequest) (d : GfxDevice) : GfxDevice :=
  { d with calls := .ioctl d.fd request :: d.calls }

/-- `RunIoctl`, for a buffer that is not null. -/
def runIoctl (request : DrmRequest) (a : IoctlAnswer) (d : GfxDevice) : GfxDevice :=
  (ioctl request)^[a.again + 1] d

def gfxClose (d : GfxDevice) : GfxDevice :=
  if 0 ≤ d.fd then ⟨-1, .close d.fd :: d.calls⟩ else d

/-- `exit_logic` of a failed `GfxInit`. -/
def giveUp (d : GfxDevice) : GfxStatus × GfxDevice := (.fail, d.gfxClose)

/-- The version of the driver, and its name. -/
def askVersion (a : DeviceAnswers) (d : GfxDevice) : GfxStatus × GfxDevice :=
  let d := d.runIoctl .version a.version
  if a.version.ret ≠ 0 then (.fail, d)
  else if 0 < a.nameLen then
    let d := d.runIoctl .version a.versionName
    if a.versionName.ret ≠ 0 then (.fail, d) else (.ok, d)
  else (.ok, d)

/-- `GfxInit` behind the opening of the device. -/
def initOpened (a : DeviceAnswers) (d : GfxDevice) : GfxStatus × GfxDevice :=
  if d.fd < 0 then d.giveUp
  else
    match d.askVersion a with
    | (.fail, d) => d.giveUp
    | (.ok, d) =>
      let d := d.runIoctl .chipsetId a.chipsetId
      if a.chipsetId.ret ≠ 0 then d.giveUp
      else
        let d := d.runIoctl .mmapGttVersion a.mmapGtt
        if a.mmapGtt.ret ≠ 0 then d.giveUp
        else if a.mmapGttVersion < 4 then d.giveUp
        else (.ok, d)

def gfxInit (a : DeviceAnswers) (d : GfxDevice) : GfxStatus × GfxDevice := (d.openDevice a.device).initOpened a

theorem askVersion_ok_iff (a : DeviceAnswers) (d : GfxDevice) :
    (d.askVersion a).1 = .ok ↔ a.version.ret = 0 ∧ (0 < a.nameLen → a.versionName.ret = 0) := by
  unfold askVersion
  by_cases hversion : a.version.ret = 0
  · by_cases hlen : 0 < a.nameLen
    · by_cases hname : a.versionName.ret = 0
      · simp [hversion, hlen, hname]
      · simp [hversion, hlen, hname]
    · simp [hversion, hlen]
  · simp [hversion]

theorem gfxInit_ok_iff (a : DeviceAnswers) (d : GfxDevice) : (d.gfxInit a).1 = .ok ↔ a.Suits := by
  have hasked := askVersion_ok_iff a (d.openDevice a.device)
  unfold gfxInit initOpened
  by_cases hdevice : a.device < 0
  · rw [if_pos (show (d.openDevice a.device).fd < 0 from hdevice)]
    exact iff_of_false (by simp [giveUp]) fun h => absurd h.device (not_le.mpr hdevice)
  rw [if_neg (show ¬(d.openDevice a.device).fd < 0 from hdevice)]
  generalize (d.openDevice a.device).askVersion a = answer at hasked
  obtain ⟨status, e⟩ := answer
  cases status with
  | fail => exact iff_of_false (by simp [giveUp]) fun h => nomatch hasked.mpr ⟨h.version, h.versionName⟩
  | ok =>
    obtain ⟨hversion, hname⟩ := hasked.mp rfl
    dsimp only
    by_cases hchipset : a.chipsetId.ret = 0
    swap
    · rw [if_pos hchipset]
      exact iff_of_false (by simp [giveUp]) fun h => hchipset h.chipsetId
    rw [if_neg (not_not.mpr hchipset)]
    by_cases hmmap : a.mmapGtt.ret = 0
    swap
    · rw [if_pos hmmap]
      exact iff_of_false (by simp [giveUp]) fun h => hmmap h.mmapGtt
    rw [if_neg (not_not.mpr hmmap)]
    by_cases hgtt : a.mmapGttVersion < 4
    · rw [if_pos hgtt]
      exact iff_of_false (by simp [giveUp]) fun h => absurd h.mmapGttVersion (not_le.mpr hgtt)
    · rw [if_neg hgtt]
      exact iff_of_true rfl ⟨not_lt.mp hdevice, hversion, hname, hchipset, hmmap, not_lt.mp hgtt⟩

/-- The end of `~GfxHandler`; the objects that are cleared before it are ioctls like any others. -/
def destroy (d : GfxDevice) : GfxDevice := if 0 < d.fd then d.gfxClose else d

/-- What is done to the device between constructor and destructor. -/
inductive Call where
  | gfxInit (a : DeviceAnswers)
  | runIoctl (request : DrmRequest) (a : IoctlAnswer)
  | gfxClose

def step (d : GfxDevice) : Call → GfxDevice
  | .gfxInit a => (d.gfxInit a).2
  | .runIoctl request a => d.runIoctl request a
  | .gfxClose => d.gfxClose

def run (found : ℤ) (calls : List Call) : GfxDevice := calls.foldl step (construct found)

/-! ## The books -/

/-- The descriptors that are open. -/
def opened (d : GfxDevice) : Multiset ℤ := openAfter DeviceCall.use d.calls

/-- The one the member has. -/
def held (d : GfxDevice) : Multiset ℤ := if 0 ≤ d.fd then {d.fd} else 0

/-- All calls were proper, and what is open is the device of the member and so many that were lost. -/
structure Books (d : GfxDevice) (lost : ℕ) : Prop where
  proper : Obeys DeviceCall.use DeviceCall.Proper d.calls
  held_le : d.held ≤ d.opened
  card_opened : d.opened.card = lost + d.held.card

variable {d : GfxDevice} {lost : ℕ}

theorem held_of_neg (h : d.fd < 0) : d.held = 0 := if_neg (not_le.mpr h)

theorem held_of_nonneg (h : 0 ≤ d.fd) : d.held = {d.fd} := if_pos h

theorem opened_ioctl (request : DrmRequest) (d : GfxDevice) : (d.ioctl request).opened = d.opened :=
  openAfter_cons_none rfl

theorem mem_opened_of_held_le (h : d.held ≤ d.opened) (hfd : 0 ≤ d.fd) : d.fd ∈ d.opened := by
  rw [held_of_nonneg hfd] at h
  exact Multiset.singleton_le.mp h

/-- Ioctls and the closing of the device keep to `P`. -/
structure Kept (P : GfxDevice → Prop) : Prop where
  ioctl : ∀ d request, P d → P (d.ioctl request)
  gfxClose : ∀ d, P d → P d.gfxClose

namespace Kept

variable {P : GfxDevice → Prop} (hP : Kept P)
include hP

theorem runIoctl (request : DrmRequest) (a : IoctlAnswer) (h : P d) : P (d.runIoctl request a) :=
  Function.Iterate.rec P h (fun d h => hP.ioctl d request h) (a.again + 1)

theorem askVersion (a : DeviceAnswers) (h : P d) : P (d.askVersion a).2 := by
  have hversion := hP.runIoctl .version a.version h
  unfold GfxDevice.askVersion
  split
  · exact hversion
  · split
    · have hname := hP.runIoctl .version a.versionName hversion
      split
      · exact hname
      · exact hname
    · exact hversion

theorem initOpened (a : DeviceAnswers) (h : P d) : P (d.initOpened a).2 := by
  have hasked : P (d.askVersion a).2 := hP.askVersion a h
  unfold GfxDevice.initOpened
  split
  · exact hP.gfxClose d h
  · generalize d.askVersion a = answer at hasked
    obtain ⟨status, d⟩ := answer
    cases status with
    | fail => exact hP.gfxClose d hasked
    | ok =>
      have hchipset := hP.runIoctl .chipsetId a.chipsetId hasked
      have hmmap := hP.runIoctl .mmapGttVersion a.mmapGtt hchipset
      dsimp only
      split
      · exact hP.gfxClose _ hchipset
      · split
        · exact hP.gfxClose _ hmmap
        · split
          · exact hP.gfxClose _ hmmap
          · exact hmmap

end Kept

theorem Books.ioctl (h : d.Books lost) (request : DrmRequest) : (d.ioctl request).Books lost where
  proper := ⟨mem_opened_of_held_le h.held_le, h.proper⟩
  held_le := by
    rw [opened_ioctl]
    exact h.held_le
  card_opened := by
    rw [opened_ioctl]
    exact h.card_opened

theorem Books.gfxClose (h : d.Books lost) : d.gfxClose.Books lost := by
  unfold GfxDevice.gfxClose
  split
  · rename_i hfd
    have hmem := mem_opened_of_held_le h.held_le hfd
    have hopened : openAfter DeviceCall.use (.close d.fd :: d.calls) = d.opened.erase d.fd :=
      openAfter_cons_release rfl
    have hcard := h.card_opened
    rw [held_of_nonneg hfd, Multiset.card_singleton] at hcard
    refine ⟨⟨hmem, h.proper⟩, ?_, ?_⟩
    · rw [held_of_neg (show (-1 : ℤ) < 0 by decide)]
      exact Multiset.zero_le _
    · show (openAfter DeviceCall.use (.close d.fd :: d.calls)).card = _
      rw [hopened, held_of_neg (show (-1 : ℤ) < 0 by decide), Multiset.card_erase_of_mem hmem, hcard,
        Multiset.card_zero]
      rfl
  · exact h

theorem kept_books (lost : ℕ) : Kept fun d => d.Books lost :=
  ⟨fun _ request h => h.ioctl request, fun _ h => h.gfxClose⟩

/-- What the member had is lost if there was a device. -/
theorem Books.openDevice (hproper : Obeys DeviceCall.use DeviceCall.Proper d.calls)
    (hcard : d.opened.card = lost) (result : ℤ) : (d.openDevice result).Books lost := by
  refine ⟨⟨trivial, hproper⟩, ?_, ?_⟩
  all_goals
    by_cases hresult : 0 ≤ result
    · have hopened : (d.openDevice result).opened = result ::ₘ d.opened := openAfter_cons_acquire (if_pos hresult)
      rw [held_of_nonneg (show 0 ≤ (d.openDevice result).fd from hresult), hopened]
      first
        | exact Multiset.singleton_le.mpr (Multiset.mem_cons_self _ _)
        | rw [Multiset.card_cons, Multiset.card_singleton, hcard]
    · have hopened : (d.openDevice result).opened = d.opened := openAfter_cons_none (if_neg hresult)
      rw [held_of_neg (show (d.openDevice result).fd < 0 from not_le.mp hresult), hopened]
      first
        | exact Multiset.zero_le _
        | rw [Multiset.card_zero, hcard, add_zero]

/-- What a call loses: the device a `GfxInit` finds open. -/
def cost (d : GfxDevice) : Call → ℕ
  | .gfxInit _ => d.held.card
  | .runIoctl _ _ => 0
  | .gfxClose => 0

theorem Books.step (h : d.Books lost) (c : Call) : (d.step c).Books (lost + d.cost c) := by
  cases c with
  | gfxInit a => exact (kept_books _).initOpened a (Books.openDevice h.proper h.card_opened a.device)
  | runIoctl request a => exact (kept_books _).runIoctl request a h
  | gfxClose => exact h.gfxClose

theorem Books.run (h : d.Books lost) (calls : List Call) :
    ∃ total, (calls.foldl GfxDevice.step d).Books (lost + total) ∧
      (total = 0 ↔ Along GfxDevice.step (fun d c => d.cost c = 0) d calls) :=
  exists_total_iff_along (fun _ c _ h => h.step c) h calls

theorem Books.destroy (h : d.Books lost) : Obeys DeviceCall.use DeviceCall.Proper d.destroy.calls := by
  unfold GfxDevice.destroy
  split
  · exact h.gfxClose.proper
  · exact h.proper

/-! ## The order of the calls -/

theorem books_construct {found : ℤ} (h : found < 0) : (construct found).Books 0 where
  proper := obeys_nil
  held_le := by
    rw [held_of_neg h]
    exact Multiset.zero_le _
  card_opened := by
    rw [held_of_neg h]
    rfl

/-- The number that was found does not matter to a `GfxInit`. -/
theorem books_gfxInit (found : ℤ) (a : DeviceAnswers) : (step (construct found) (.gfxInit a)).Books 0 :=
  (kept_books 0).initOpened a (Books.openDevice obeys_nil rfl a.device)

/-- Nothing that was done is forgotten. -/
theorem kept_suffix (past : List DeviceCall) : Kept fun d => past <:+ d.calls where
  ioctl _ _ h := h.trans (List.suffix_cons _ _)
  gfxClose d h := by
    unfold gfxClose
    split
    · exact h.trans (List.suffix_cons _ _)
    · exact h

theorem suffix_run {past : List DeviceCall} (h : past <:+ d.calls) (calls : List Call) :
    past <:+ (calls.foldl step d).calls := by
  induction calls generalizing d with
  | nil => exact h
  | cons c calls ih =>
    apply ih
    cases c with
    | gfxInit a => exact (kept_suffix past).initOpened a (h.trans (List.suffix_cons _ _))
    | runIoctl request a => exact (kept_suffix past).runIoctl request a h
    | gfxClose => exact (kept_suffix past).gfxClose d h

theorem suffix_destroy {past : List DeviceCall} (h : past <:+ d.calls) : past <:+ d.destroy.calls := by
  unfold destroy
  split
  · exact (kept_suffix past).gfxClose d h
  · exact h

/-- With a number that was found, every first call but `GfxInit` is made on it. -/
theorem not_proper_first {found : ℤ} (h : 0 ≤ found) {c : Call} (hc : ∀ a, c ≠ .gfxInit a) :
    ∃ past, past <:+ (step (construct found) c).calls ∧ ¬Obeys DeviceCall.use DeviceCall.Proper past := by
  cases c with
  | gfxInit a => exact absurd rfl (hc a)
  | runIoctl request a =>
    refine ⟨[.ioctl found request], ?_, fun hobeys => absurd (hobeys.1 h) (Multiset.notMem_zero found)⟩
    have hfirst : [.ioctl found request] <:+ ((construct found).ioctl request).calls := List.suffix_rfl
    show [.ioctl found request] <:+ ((ioctl request)^[a.again + 1] (construct found)).calls
    rw [Function.iterate_succ_apply]
    exact Function.Iterate.rec (fun d : GfxDevice => [.ioctl found request] <:+ d.calls) hfirst
      (fun d hd => (kept_suffix [.ioctl found request]).ioctl d request hd) a.again
  | gfxClose =>
    refine ⟨[.close found], ?_, fun hobeys => absurd hobeys.1 (Multiset.notMem_zero found)⟩
    show _ <:+ (gfxClose (construct found)).calls
    rw [gfxClose, if_pos (show 0 ≤ (construct found).fd from h)]
    exact List.suffix_rfl

/-- **Whose descriptors.** Up to the end of the destructor no system call is made on a descriptor that the handler
has not opened, if and only if the number the member started with is negative, or `GfxInit` came first, or nothing
came at all and the number was 0. -/
theorem device_proper_iff (found : ℤ) (calls : List Call) :
    Obeys DeviceCall.use DeviceCall.Proper (run found calls).destroy.calls ↔
      found < 0 ∨ (∃ a rest, calls = .gfxInit a :: rest) ∨ (found = 0 ∧ calls = []) := by
  constructor
  · intro hobeys
    by_contra hnone
    obtain ⟨hfound, hinit, hidle⟩ := by simpa only [not_or, not_lt] using hnone
    cases calls with
    | nil =>
      have hpos : 0 < found := lt_of_le_of_ne hfound fun h => hidle ⟨h.symm, rfl⟩
      have hclosed : (run found []).destroy.calls = [.close found] := by
        show (destroy (construct found)).calls = _
        rw [destroy, if_pos (show 0 < (construct found).fd from hpos), gfxClose,
          if_pos (show 0 ≤ (construct found).fd from hfound)]
        rfl
      rw [hclosed] at hobeys
      exact absurd hobeys.1 (Multiset.notMem_zero found)
    | cons c calls =>
      obtain ⟨past, hpast, hbad⟩ := not_proper_first hfound fun a hc => hinit ⟨a, calls, congrArg (· :: calls) hc⟩
      exact hbad (hobeys.of_suffix (suffix_destroy (suffix_run hpast calls)))
  · rintro (hneg | ⟨a, rest, rfl⟩ | ⟨rfl, rfl⟩)
    · obtain ⟨total, hbooks, -⟩ := (books_construct hneg).run calls
      exact hbooks.destroy
    · obtain ⟨total, hbooks, -⟩ := (books_gfxInit found a).run rest
      exact hbooks.destroy
    · exact obeys_nil

/-! ## The end -/

theorem opened_destroy_iff (h : d.Books lost) : d.destroy.opened = 0 ↔ lost = 0 ∧ d.fd ≠ 0 := by
  rw [← Multiset.card_eq_zero]
  unfold destroy
  split
  · rename_i hfd
    have hclosed := h.gfxClose.card_opened
    have hnone : d.gfxClose.held = 0 := by
      rw [gfxClose, if_pos hfd.le]
      exact held_of_neg (show (-1 : ℤ) < 0 by decide)
    rw [hclosed, hnone, Multiset.card_zero, add_zero]
    exact (and_iff_left hfd.ne').symm
  · rename_i hfd
    rw [h.card_opened]
    by_cases hzero : d.fd = 0
    · rw [held_of_nonneg hzero.ge, Multiset.card_singleton]
      exact iff_of_false (Nat.succ_ne_zero _) fun h => h.2 hzero
    · rw [held_of_neg (lt_of_le_of_ne (not_lt.mp hfd) hzero), Multiset.card_zero, add_zero]
      exact (and_iff_left hzero).symm

theorem cost_eq_zero_iff (d : GfxDevice) (c : Call) : d.cost c = 0 ↔ ∀ a, c = .gfxInit a → d.fd < 0 := by
  cases c with
  | gfxInit a =>
    have hheld : d.held.card = 0 ↔ d.fd < 0 := by
      by_cases hfd : 0 ≤ d.fd
      · rw [held_of_nonneg hfd, Multiset.card_singleton]
        exact iff_of_false Nat.one_ne_zero (not_lt.mpr hfd)
      · rw [held_of_neg (not_le.mp hfd)]
        exact iff_of_true Multiset.card_zero (not_le.mp hfd)
    exact hheld.trans ⟨fun h _ _ => h, fun h => h a rfl⟩
  | runIoctl request a => exact iff_of_true rfl (by simp)
  | gfxClose => exact iff_of_true rfl (by simp)

/-- **The device is closed** by the end of the destructor, after a first `GfxInit` and any calls with any answers,
if and only if every further `GfxInit` found no device open and the last device was not descriptor 0. -/
theorem device_released_iff (found : ℤ) (a : DeviceAnswers) (calls : List Call) :
    (run found (.gfxInit a :: calls)).destroy.opened = 0 ↔
      Along step (fun d c => ∀ b, c = .gfxInit b → d.fd < 0) (step (construct found) (.gfxInit a)) calls ∧
        (run found (.gfxInit a :: calls)).fd ≠ 0 := by
  obtain ⟨total, hbooks, hfree⟩ := (books_gfxInit found a).run calls
  have hrun : run found (.gfxInit a :: calls) = calls.foldl step (step (construct found) (.gfxInit a)) := rfl
  simp only [cost_eq_zero_iff] at hfree
  rw [hrun, opened_destroy_iff hbooks, zero_add, hfree]

end GfxDevice

end VhalClient.Emulator
