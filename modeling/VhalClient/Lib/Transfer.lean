/-
# VhalClient.Lib.Transfer — transfers in pieces, with retries on one budget.

A transfer moves a number of items with calls that may each move fewer than they were asked for; a call that
was interrupted is made again, as long as the budget of such calls lasts.  `Transfer` derives the calls such
a transfer can make, from where it is, what is left and what is left of the budget.  The budget is not
renewed by progress, and progress does not use it: this is what bounds the calls (`length_le`).  Each call
starts where the last one ended, so what the calls take from a list is a stretch of it
(`flatMap_window`), and what they store is stored in one stretch (`foldl_storeAt`).

The calls themselves are of any type; `piece` says what of a call matters here.
-/
import Mathlib.Algebra.Ring.Nat
import Mathlib.Data.List.Basic

namespace VhalClient.Lib

/-- A call: how far the transfer was, what was left, what was left of the budget, how much was moved. -/
structure Piece where
  offset : ℕ
  left : ℕ
  budget : ℕ
  moved : ℕ
  deriving DecidableEq, Repr

variable {γ α : Type*}

/-- The calls of a transfer, and whether it got to its end. -/
inductive Transfer (piece : γ → Piece) : ℕ → ℕ → ℕ → List γ → Bool → Prop where
  | done (offset budget : ℕ) : Transfer piece offset 0 budget [] true
  | move {offset left budget n : ℕ} {c : γ} {calls : List γ} {whole : Bool}
      (hc : piece c = ⟨offset, left, budget, n⟩) (hpos : 0 < n) (hle : n ≤ left)
      (rest : Transfer piece (offset + n) (left - n) budget calls whole) :
      Transfer piece offset left budget (c :: calls) whole
  | again {offset left budget : ℕ} {c : γ} {calls : List γ} {whole : Bool}
      (hc : piece c = ⟨offset, left, budget + 1, 0⟩) (hbudget : 0 < budget)
      (rest : Transfer piece offset left budget calls whole) :
      Transfer piece offset left (budget + 1) (c :: calls) whole
  | stop {offset left budget : ℕ} {c : γ} (hc : piece c = ⟨offset, left, budget, 0⟩) (hleft : 0 < left) :
      Transfer piece offset left budget [c] false

/-- How much a list of calls moved. -/
def movedBy (piece : γ → Piece) (calls : List γ) : ℕ := (calls.map fun c => (piece c).moved).sum

@[simp] theorem movedBy_nil (piece : γ → Piece) : movedBy piece [] = 0 := rfl

@[simp] theorem movedBy_cons (piece : γ → Piece) (c : γ) (calls : List γ) :
    movedBy piece (c :: calls) = (piece c).moved + movedBy piece calls := rfl

/-- Items stored over those from `offset` on. -/
def storeAt (offset : ℕ) (items memory : List α) : List α :=
  memory.take offset ++ items ++ memory.drop (offset + items.length)

namespace Transfer

variable {piece : γ → Piece} {offset left budget : ℕ} {calls : List γ} {whole : Bool}

/-- **A transfer makes no more calls than it has items to move and tries to lose.** -/
theorem length_le (h : Transfer piece offset left budget calls whole) :
    calls.length ≤ left + budget := by
  induction h with
  | done => simp
  | move hc hpos hle rest ih =>
    rw [List.length_cons]
    omega
  | again hc hbudget rest ih =>
    rw [List.length_cons]
    omega
  | stop hc hleft =>
    rw [List.length_singleton]
    omega

/-- No call is made on an exhausted budget, and none on more than there was. -/
theorem budget_bounds (h : Transfer piece offset left budget calls whole) (hpos : 0 < budget) :
    ∀ c ∈ calls, 0 < (piece c).budget ∧ (piece c).budget ≤ budget := by
  induction h with
  | done => simp
  | move hc hmoved hle rest ih =>
    intro c hmem
    rcases List.mem_cons.mp hmem with rfl | hmem
    · simp only [hc, hpos, Nat.le_refl, and_self]
    · exact ih hpos c hmem
  | again hc hbudget rest ih =>
    intro c hmem
    rcases List.mem_cons.mp hmem with rfl | hmem
    · simp only [hc, hpos, Nat.le_refl, and_self]
    · obtain ⟨hmin, hmax⟩ := ih hbudget c hmem
      exact ⟨hmin, Nat.le_succ_of_le hmax⟩
  | stop hc hleft =>
    intro c hmem
    rw [List.mem_singleton] at hmem
    simp only [hmem, hc, hpos, Nat.le_refl, and_self]

theorem movedBy_le (h : Transfer piece offset left budget calls whole) : movedBy piece calls ≤ left := by
  induction h with
  | done => simp
  | move hc hpos hle rest ih =>
    simp only [movedBy_cons, hc]
    omega
  | again hc hbudget rest ih =>
    simp only [movedBy_cons, hc]
    omega
  | stop hc hleft =>
    simp [hc]

/-- The transfer got to its end exactly when everything was moved. -/
theorem whole_iff (h : Transfer piece offset left budget calls whole) :
    whole = true ↔ movedBy piece calls = left := by
  induction h with
  | done => simp
  | move hc hpos hle rest ih =>
    simp only [ih, movedBy_cons, hc]
    omega
  | again hc hbudget rest ih =>
    simp only [ih, movedBy_cons, hc]
    omega
  | stop hc hleft =>
    simp [hc]
    omega

/-- **What the calls take from a list is one stretch of it.** -/
theorem flatMap_window (h : Transfer piece offset left budget calls whole) (items : List α) :
    calls.flatMap (fun c => (items.drop (piece c).offset).take (piece c).moved) =
      (items.drop offset).take (movedBy piece calls) := by
  induction h with
  | done => simp
  | move hc hpos hle rest ih =>
    rw [List.flatMap_cons, ih, movedBy_cons, hc, List.take_add, List.drop_drop]
  | again hc hbudget rest ih =>
    rw [List.flatMap_cons, ih, movedBy_cons, hc]
    simp
  | stop hc hleft =>
    rw [List.flatMap_cons, movedBy_cons, hc]
    simp

/-- **What the calls store is stored in one stretch.** -/
theorem foldl_storeAt (h : Transfer piece offset left budget calls whole) {items : γ → List α}
    (hitems : ∀ c ∈ calls, (items c).length = (piece c).moved) {memory : List α}
    (hroom : offset + left ≤ memory.length) :
    calls.foldl (fun memory c => storeAt (piece c).offset (items c) memory) memory =
      storeAt offset (calls.flatMap items) memory := by
  induction h generalizing memory with
  | done => simp [storeAt]
  | @move offset left budget n c calls whole hc hpos hle rest ih =>
    have hlen : (items c).length = n := by
      rw [hitems c List.mem_cons_self, hc]
    have hroom' : offset + n + (left - n) ≤ (storeAt offset (items c) memory).length := by
      simp only [storeAt, List.length_append, List.length_take, List.length_drop]
      omega
    rw [List.foldl_cons, hc, ih (fun c' hc' => hitems c' (List.mem_cons_of_mem c hc')) hroom',
      List.flatMap_cons]
    -- Storing behind what was just stored extends it.
    have htake : (storeAt offset (items c) memory).take (offset + n) = memory.take offset ++ items c := by
      rw [storeAt, List.take_append_of_le_length (by simp; omega)]
      exact List.take_of_length_le (by simp; omega)
    have hdrop (k : ℕ) : (storeAt offset (items c) memory).drop (offset + n + k) =
        memory.drop (offset + n + k) := by
      have hfirst : (memory.take offset ++ items c).length = offset + n := by simp; omega
      rw [storeAt, ← hfirst, ← List.drop_drop, List.drop_left, List.drop_drop, hfirst, hlen]
    rw [storeAt, htake, hdrop, storeAt, List.length_append, hlen, Nat.add_assoc]
    simp only [List.append_assoc]
  | @again offset left budget c calls whole hc hbudget rest ih =>
    have hnone : items c = [] := by
      rw [← List.length_eq_zero_iff, hitems c List.mem_cons_self, hc]
    have hsame : storeAt offset (items c) memory = memory := by simp [storeAt, hnone]
    rw [List.foldl_cons, hc, hsame, List.flatMap_cons, hnone, List.nil_append]
    exact ih (fun c' hc' => hitems c' (List.mem_cons_of_mem c hc')) hroom
  | stop hc hleft =>
    rw [List.foldl_cons, List.foldl_nil, hc, List.flatMap_singleton]

end Transfer

end VhalClient.Lib
