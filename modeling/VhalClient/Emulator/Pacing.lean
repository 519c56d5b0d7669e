/-
# VhalClient.Emulator.Pacing — how fast the emulator replays display requests.

A display request waits until as much time has passed since the last one as passed between the two in the log, a
second at most.  `ManageDisplayReqTime` computes the wait in 64-bit words, signed and unsigned in turn, and
hands it to `usleep` as a 32-bit word.  `curTime_add_slept` says what it comes to on a clock that does not go
back: the request goes on at the later of two times, now and one pace behind the last request.

From it, by induction over the requests: a replay is never faster than its log (`replay_keeps_pace`), and as
fast where the work between two requests fits into the pace.  `recorded_le_replayed` says it of a whole log.
-/
import Mathlib.Data.Int.Init
import Mathlib.Algebra.Order.Ring.Int
import Mathlib.Algebra.BigOperators.Group.List.Basic
import VhalClient.Lib.Run

namespace VhalClient.Emulator

open VhalClient.Lib

/-- The members of `CmdHandler` for the frame rate; times are in microseconds. -/
structure FpsState where
  manageFps : Bool
  lastDispReqSentTS : UInt64
  lastDispReqYmlTS : UInt64
  firstDispReqSentTS : UInt64
  deriving DecidableEq, Repr

/-- A display request that goes through, with the readings of the clock on its way. -/
structure DispReq where
  timeStampUs : UInt64
  /-- `ManageDisplayReqTime` reads the clock. -/
  curTime : Int64
  /-- The first byte is sent; the code does not read the clock then. -/
  sendTime : ℤ
  /-- The clock is read again, behind the last byte. -/
  bookTime : Int64
  deriving DecidableEq, Repr

namespace FpsState

def initial (manageFps : Bool) : FpsState := ⟨manageFps, 0, 0, 0⟩

/-- `ManageDisplayReqTime`: what it calls `usleep` with, if it does. -/
def manageDisplayReqTime (f : FpsState) (timeStampUs : UInt64) (curTime : Int64) : Option UInt32 :=
  if f.manageFps = false ∨ f.lastDispReqSentTS = 0 then none
  else
    let waitTime : Int64 := (timeStampUs - f.lastDispReqYmlTS).toInt64
    let waitTime := if waitTime > 1000000 then 1000000 else waitTime
    -- A `long` and an `unsigned long` give an `unsigned long`.
    let remainingWaitUs : Int64 := (waitTime.toUInt64 - (curTime.toUInt64 - f.lastDispReqSentTS)).toInt64
    if remainingWaitUs > 0 then some remainingWaitUs.toUInt64.toUInt32 else none

/-- The end of `Xchng_DisplayRequest`. -/
def bookKeep (f : FpsState) (timeStampUs : UInt64) (bookTime : Int64) : FpsState :=
  { f with
    lastDispReqYmlTS := timeStampUs
    lastDispReqSentTS := bookTime.toUInt64
    firstDispReqSentTS := if f.firstDispReqSentTS = 0 then bookTime.toUInt64 else f.firstDispReqSentTS }

def step (f : FpsState) (r : DispReq) : FpsState := f.bookKeep r.timeStampUs r.bookTime

/-! ## What it is for -/

/-- The time a word stands for. -/
def stamp (w : UInt64) : ℤ := w.toInt64.toInt

/-- The microseconds a request sleeps. -/
def slept (f : FpsState) (r : DispReq) : ℤ :=
  match f.manageDisplayReqTime r.timeStampUs r.curTime with
  | none => 0
  | some n => n.toNat

/-- The time to leave behind the last request: that of the log, a second at most. -/
def pace (f : FpsState) (r : DispReq) : ℤ :=
  if f.manageFps = false ∨ f.lastDispReqSentTS = 0 then 0
  else max 0 (min (stamp r.timeStampUs - stamp f.lastDispReqYmlTS) 1000000)

/-- Times are those of a clock that does not go back, and a sleep takes as long as it was asked for, at least.
In the year 100000 a clock is still below 2^62. -/
structure Sane (f : FpsState) (r : DispReq) : Prop where
  recorded : 0 ≤ stamp r.timeStampUs ∧ stamp r.timeStampUs < 2 ^ 62
  runs : 0 < r.curTime.toInt ∧ r.curTime.toInt < 2 ^ 62
  follows : stamp f.lastDispReqSentTS ≤ r.curTime.toInt
  wakes : r.curTime.toInt + f.slept r ≤ r.sendTime
  books : r.sendTime ≤ r.bookTime.toInt

/-- Nothing but the sleep takes time, and the work before it was done within the pace. -/
structure OnTime (f : FpsState) (r : DispReq) : Prop where
  due : r.curTime.toInt ≤ stamp f.lastDispReqSentTS + f.pace r
  wakes : r.sendTime = r.curTime.toInt + f.slept r
  books : r.bookTime.toInt = r.sendTime

/-- The times kept are times. -/
structure Kept (f : FpsState) : Prop where
  sent : 0 ≤ stamp f.lastDispReqSentTS
  yml : 0 ≤ stamp f.lastDispReqYmlTS ∧ stamp f.lastDispReqYmlTS < 2 ^ 62

theorem kept_initial (manageFps : Bool) : Kept (initial manageFps) :=
  ⟨le_refl 0, le_refl 0, show (0 : ℤ) < 2 ^ 62 by decide⟩

theorem stamp_toUInt64 (time : Int64) : stamp time.toUInt64 = time.toInt := by
  rw [stamp, Int64.toInt64_toUInt64]

theorem Sane.booked {f : FpsState} {r : DispReq} (h : Sane f r) :
    0 < stamp (f.step r).lastDispReqSentTS := by
  have hslept : 0 ≤ f.slept r := by
    rw [slept]
    split
    · exact le_refl 0
    · exact Int.natCast_nonneg _
  have hwakes := h.wakes
  have hbooks := h.books
  have hruns := h.runs.1
  show 0 < stamp r.bookTime.toUInt64
  rw [stamp_toUInt64]
  omega

theorem Kept.step {f : FpsState} {r : DispReq} (h : Sane f r) : Kept (f.step r) :=
  ⟨h.booked.le, h.recorded⟩

/-! ## One request -/

/-- A difference within the range of a `long` does not wrap. -/
theorem toInt_sub_of_fits {a b : Int64} (hmin : -2 ^ 63 ≤ a.toInt - b.toInt) (hmax : a.toInt - b.toInt < 2 ^ 63) :
    (a - b).toInt = a.toInt - b.toInt := by
  rw [Int64.toInt_sub]
  exact Int.bmod_eq_of_le (by omega) (by omega)

/-- The wait of a second at most. -/
theorem toInt_clamp (w : Int64) :
    (if w > 1000000 then (1000000 : Int64) else w).toInt = min w.toInt 1000000 := by
  have hlimit : (1000000 : Int64).toInt = 1000000 := by decide
  by_cases hlong : w > 1000000
  · have hlt := Int64.lt_iff_toInt_lt.mp hlong
    rw [if_pos hlong, hlimit, min_eq_right (by omega)]
  · have hle : ¬ 1000000 < w.toInt := fun hlt => hlong (Int64.lt_iff_toInt_lt.mpr hlt)
    rw [if_neg hlong, min_eq_left (by omega)]

/-- A positive number of at most a second survives as the argument of `usleep`. -/
theorem toNat_toUInt32 {w : Int64} (hpos : 0 < w.toInt) (hmax : w.toInt ≤ 1000000) :
    (w.toUInt64.toUInt32.toNat : ℤ) = w.toInt := by
  have hle : 0 ≤ w := Int64.le_iff_toInt_le.mpr (by rw [show (0 : Int64).toInt = 0 from rfl]; omega)
  rw [UInt64.toNat_toUInt32, Int64.toNat_toUInt64_of_le hle]
  show ((w.toInt.toNat % 2 ^ 32 : ℕ) : ℤ) = w.toInt
  omega

/-- **A request goes on at the later of two times**, now and one pace behind the last request; it sleeps for a
second at most. -/
theorem curTime_add_slept {f : FpsState} {r : DispReq} (hkept : Kept f) (hsane : Sane f r) :
    r.curTime.toInt + f.slept r = max r.curTime.toInt (stamp f.lastDispReqSentTS + f.pace r) ∧
      f.slept r ≤ 1000000 := by
  obtain ⟨hsent, hyml, hymlmax⟩ := hkept
  obtain ⟨⟨hrecorded, hrecordedmax⟩, ⟨hruns, hrunsmax⟩, hfollows, -, -⟩ := hsane
  unfold slept pace manageDisplayReqTime
  by_cases hoff : f.manageFps = false ∨ f.lastDispReqSentTS = 0
  · rw [if_pos hoff, if_pos hoff]
    dsimp only
    omega
  · rw [if_neg hoff, if_neg hoff]
    dsimp only
    set gap := stamp r.timeStampUs - stamp f.lastDispReqYmlTS with hgap
    have hwait : (r.timeStampUs - f.lastDispReqYmlTS).toInt64.toInt = gap := by
      rw [UInt64.toInt64_sub]
      exact toInt_sub_of_fits (by unfold stamp at *; omega) (by unfold stamp at *; omega)
    set clamped := (if (r.timeStampUs - f.lastDispReqYmlTS).toInt64 > 1000000 then (1000000 : Int64)
      else (r.timeStampUs - f.lastDispReqYmlTS).toInt64) with hclamped
    have hclamp : clamped.toInt = min gap 1000000 := by rw [hclamped, toInt_clamp, hwait]
    have hpassed : (r.curTime - f.lastDispReqSentTS.toInt64).toInt =
        r.curTime.toInt - stamp f.lastDispReqSentTS :=
      toInt_sub_of_fits (by unfold stamp at *; omega) (by unfold stamp at *; omega)
    set remaining := (clamped.toUInt64 - (r.curTime.toUInt64 - f.lastDispReqSentTS)).toInt64 with hremaining
    have hleft : remaining.toInt =
        min gap 1000000 - (r.curTime.toInt - stamp f.lastDispReqSentTS) := by
      rw [hremaining, UInt64.toInt64_sub, UInt64.toInt64_sub, Int64.toInt64_toUInt64, Int64.toInt64_toUInt64,
        toInt_sub_of_fits (by rw [hclamp, hpassed]; omega) (by rw [hclamp, hpassed]; omega), hclamp, hpassed]
    by_cases hpos : remaining > 0
    · have hlt : 0 < remaining.toInt := Int64.lt_iff_toInt_lt.mp hpos
      rw [if_pos hpos]
      dsimp only
      rw [toNat_toUInt32 hlt (by omega)]
      omega
    · have hle : ¬ 0 < remaining.toInt := fun hlt => hpos (Int64.lt_iff_toInt_lt.mpr hlt)
      rw [if_neg hpos]
      dsimp only
      omega

/-! ## A replay -/

/-- The paces of the requests. -/
def paces : FpsState → List DispReq → List ℤ
  | _, [] => []
  | f, r :: rs => f.pace r :: paces (f.step r) rs

/-- **A replay is never faster than its log**, and as fast if the work between two requests fits into the pace.
No request sleeps for more than a second. -/
theorem replay_keeps_pace {f : FpsState} {rs : List DispReq} (hkept : Kept f) (hsane : Along step Sane f rs) :
    Along step (fun f r => f.slept r ≤ 1000000) f rs ∧
      stamp f.lastDispReqSentTS + (paces f rs).sum ≤ stamp (rs.foldl step f).lastDispReqSentTS ∧
      (Along step OnTime f rs →
        stamp (rs.foldl step f).lastDispReqSentTS = stamp f.lastDispReqSentTS + (paces f rs).sum) := by
  induction rs generalizing f with
  | nil =>
    refine ⟨trivial, ?_, ?_⟩
    · simp [paces]
    · simp [paces]
  | cons r rs ih =>
    obtain ⟨hnow, hlater⟩ := hsane
    obtain ⟨hwake, hshort⟩ := curTime_add_slept hkept hnow
    obtain ⟨hshorts, hslow, hprompt⟩ := ih (Kept.step hnow) hlater
    have hbooked : stamp (f.step r).lastDispReqSentTS = r.bookTime.toInt := stamp_toUInt64 r.bookTime
    have hwakes := hnow.wakes
    have hbooks := hnow.books
    refine ⟨⟨hshort, hshorts⟩, ?_, ?_⟩
    · rw [paces, List.sum_cons, List.foldl_cons]
      omega
    · rintro ⟨⟨hdue, hwoke, hbook⟩, hrest⟩
      rw [paces, List.sum_cons, List.foldl_cons, hprompt hrest]
      omega

/-- Two requests that are 16 ms apart in the log; the second comes 5 ms behind the first. -/
def firstRequest : DispReq := ⟨100000, 500000, 500000, 500000⟩

def secondRequest : DispReq := ⟨116000, 505000, 516000, 516000⟩

theorem sane_requests : Along step Sane (initial true) [firstRequest, secondRequest] := by
  refine ⟨⟨?_, ?_, ?_, ?_, ?_⟩, ⟨?_, ?_, ?_, ?_, ?_⟩, trivial⟩
  all_goals decide

theorem replay_keeps_pace_requests :
    Along step (fun f r => f.slept r ≤ 1000000) (initial true) [firstRequest, secondRequest] ∧
      stamp 0 + (paces (initial true) [firstRequest, secondRequest]).sum ≤
        stamp ([firstRequest, secondRequest].foldl step (initial true)).lastDispReqSentTS ∧
      (Along step OnTime (initial true) [firstRequest, secondRequest] →
        stamp ([firstRequest, secondRequest].foldl step (initial true)).lastDispReqSentTS =
          stamp 0 + (paces (initial true) [firstRequest, secondRequest]).sum) :=
  replay_keeps_pace (kept_initial true) sane_requests

/-- In the log the request comes behind the last one, by a second at most. -/
def Close (f : FpsState) (r : DispReq) : Prop :=
  stamp f.lastDispReqYmlTS ≤ stamp r.timeStampUs ∧
    stamp r.timeStampUs ≤ stamp f.lastDispReqYmlTS + 1000000

theorem sum_paces {f : FpsState} {rs : List DispReq} (hmanage : f.manageFps = true)
    (hsent : 0 < stamp f.lastDispReqSentTS) (hsane : Along step Sane f rs) (hclose : Along step Close f rs) :
    (paces f rs).sum = stamp (rs.foldl step f).lastDispReqYmlTS - stamp f.lastDispReqYmlTS := by
  induction rs generalizing f with
  | nil => simp [paces]
  | cons r rs ih =>
    have hstarted : ¬ (f.manageFps = false ∨ f.lastDispReqSentTS = 0) := by
      rintro (hoff | hnone)
      · rw [hmanage] at hoff
        cases hoff
      · rw [hnone] at hsent
        exact lt_irrefl _ hsent
    have hpace : f.pace r = stamp r.timeStampUs - stamp f.lastDispReqYmlTS := by
      obtain ⟨⟨horder, hnear⟩, -⟩ := hclose
      rw [pace, if_neg hstarted]
      omega
    rw [paces, List.sum_cons, hpace, ih (f := f.step r) hmanage hsane.1.booked hsane.2 hclose.2]
    show _ + (_ - stamp r.timeStampUs) = stamp (rs.foldl step (f.step r)).lastDispReqYmlTS - _
    omega

/-- **Replaying a log takes no less time than recording it**, if its requests are in order and a second apart at
most: from the first request to the last as much time passes as between their time stamps. -/
theorem recorded_le_replayed {r : DispReq} {rs : List DispReq}
    (hsane : Along step Sane (initial true) (r :: rs)) (hclose : Along step Close ((initial true).step r) rs) :
    stamp (rs.foldl step ((initial true).step r)).lastDispReqYmlTS - stamp r.timeStampUs ≤
      stamp (rs.foldl step ((initial true).step r)).lastDispReqSentTS - r.bookTime.toInt := by
  obtain ⟨hfirst, hothers⟩ := hsane
  obtain ⟨-, hslow, -⟩ := replay_keeps_pace (Kept.step hfirst) hothers
  have hsum := sum_paces (f := (initial true).step r) rfl hfirst.booked hothers hclose
  have hbooked : stamp ((initial true).step r).lastDispReqSentTS = r.bookTime.toInt := stamp_toUInt64 r.bookTime
  have hrecorded : stamp ((initial true).step r).lastDispReqYmlTS = stamp r.timeStampUs := rfl
  omega

theorem recorded_le_replayed_requests :
    stamp ([secondRequest].foldl step ((initial true).step firstRequest)).lastDispReqYmlTS -
        stamp firstRequest.timeStampUs ≤
      stamp ([secondRequest].foldl step ((initial true).step firstRequest)).lastDispReqSentTS -
        firstRequest.bookTime.toInt :=
  recorded_le_replayed sane_requests ⟨⟨by decide, by decide⟩, trivial⟩

end FpsState

end VhalClient.Emulator
