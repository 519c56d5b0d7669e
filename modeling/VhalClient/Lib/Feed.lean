/-
# VhalClient.Lib.Feed — what a reader gets out of a stream socket.

The kernel hands a byte stream to its reader in pieces it chooses.  A `Feed` is that choice made in
advance: the chunks a connection will deliver, in order, with errors in between, and the end of the
stream behind them.  One `recv` of at most `n` bytes returns from the front chunk only, so every
sequence of return values a stream socket can show arises from some feed, and every feed is one.  A
chunk has a first byte, so an empty chunk cannot be built.

`refill` is the loop that calls `recv` until it has all it asked for.  Its two spec lemmas
(`refill_of_le`, `refill_of_lt`) depend on the bytes of the feed only, not on the chunks: whoever
reads through `refill` cannot see how the stream was cut.  `refillUntil` also ends behind a piece its
reader stops at, so there the cuts show.  The element type is arbitrary.
-/
import Mathlib.Data.List.Basic
import Mathlib.Algebra.GroupWithZero.Nat

namespace VhalClient.Lib

variable {α : Type*}

/-- One thing that can come next on a connection. -/
inductive Arrival (α : Type*) where
  | chunk (b : α) (bs : List α)
  | error
  deriving DecidableEq

/-- The arrivals of a connection; behind them is the end of the stream. -/
abbrev Feed (α : Type*) := List (Arrival α)

/-- The result of one `recv`: a positive count with the bytes, 0, or -1. -/
inductive Received (α : Type*) where
  | bytes (b : α) (bs : List α)
  | eof
  | error
  deriving DecidableEq

namespace Feed

/-- The bytes that arrive before the first error. -/
def bytes : Feed α → List α
  | [] => []
  | .chunk b bs :: f => b :: bs ++ bytes f
  | .error :: _ => []

/-- The chunks of a list of bytes put back in front of a feed. -/
def push (l : List α) (f : Feed α) : Feed α :=
  match l with
  | [] => f
  | b :: bs => .chunk b bs :: f

@[simp] theorem bytes_push (l : List α) (f : Feed α) : bytes (push l f) = l ++ bytes f := by
  cases l <;> rfl

/-- `recv` of at most `n` bytes, for a positive `n`. -/
def recv (n : ℕ) : Feed α → Received α × Feed α
  | [] => (.eof, [])
  | .error :: f => (.error, f)
  | .chunk b bs :: f => (.bytes b (bs.take (n - 1)), push (bs.drop (n - 1)) f)

/-- Call `recv` until `left` bytes have come or a call returns no byte.  `fuel` bounds the calls;
every call brings a byte, so `left` is enough. -/
def refill : ℕ → ℕ → Feed α → List α × Feed α
  | 0, _, f => ([], f)
  | _ + 1, 0, f => ([], f)
  | fuel + 1, left + 1, f =>
    match recv (left + 1) f with
    | (.bytes b bs, f') =>
      let r := refill fuel (left - bs.length) f'
      (b :: bs ++ r.1, r.2)
    | (.eof, f') => ([], f')
    | (.error, f') => ([], f')

/-- `refill`, but the loop also ends behind a piece at which it has to stop. -/
def refillUntil (stop : List α → Bool) : ℕ → ℕ → Feed α → List α × Feed α
  | 0, _, f => ([], f)
  | _ + 1, 0, f => ([], f)
  | fuel + 1, left + 1, f =>
    match recv (left + 1) f with
    | (.bytes b bs, f') =>
      if stop (b :: bs) then (b :: bs, f')
      else
        let r := refillUntil stop fuel (left - bs.length) f'
        (b :: bs ++ r.1, r.2)
    | (.eof, f') => ([], f')
    | (.error, f') => ([], f')

/-- Enough bytes are on the way: `refill` returns exactly them, and leaves the rest. -/
theorem refill_of_le {fuel n : ℕ} {f : Feed α} (hfuel : n ≤ fuel) (h : n ≤ (bytes f).length) :
    (refill fuel n f).1 = (bytes f).take n ∧ bytes (refill fuel n f).2 = (bytes f).drop n := by
  induction fuel generalizing n f with
  | zero =>
    obtain rfl : n = 0 := by omega
    simp [refill]
  | succ fuel ih =>
    cases n with
    | zero => simp [refill]
    | succ n =>
      match f with
      | [] => simp [bytes] at h
      | .error :: f => simp [bytes] at h
      | .chunk b bs :: f =>
        have hbytes : bytes (push (bs.drop n) f) = bs.drop n ++ bytes f := bytes_push _ _
        have hlen : n - (bs.take n).length ≤ (bytes (push (bs.drop n) f)).length := by
          rw [hbytes, List.length_append, List.length_drop, List.length_take]
          simp only [bytes, List.length_append, List.length_cons] at h
          omega
        obtain ⟨hfst, hsnd⟩ := ih (show n - (bs.take n).length ≤ fuel by omega) hlen
        simp only [refill, recv, Nat.add_sub_cancel, hfst, hsnd, hbytes, bytes, List.cons_append,
          List.take_succ_cons, List.drop_succ_cons, List.cons.injEq, true_and]
        -- Either the chunk covers the request, or it is used up and the rest comes from behind it.
        rcases Nat.le_total n bs.length with hn | hn
        · simp [List.take_append_of_le_length hn, List.drop_append_of_le_length hn,
            Nat.min_eq_left hn]
        · simp [List.take_of_length_le hn, List.drop_eq_nil_of_le hn, List.take_append,
            List.drop_append]

/-- Too few bytes are on the way: `refill` returns what there is. -/
theorem refill_of_lt {fuel n : ℕ} {f : Feed α} (hfuel : n ≤ fuel) (h : (bytes f).length < n) :
    (refill fuel n f).1 = bytes f := by
  induction fuel generalizing n f with
  | zero => omega
  | succ fuel ih =>
    cases n with
    | zero => omega
    | succ n =>
      match f with
      | [] => rfl
      | .error :: f => rfl
      | .chunk b bs :: f =>
        simp only [bytes, List.length_append, List.length_cons] at h
        -- The chunk is shorter than the request, so nothing of it is put back.
        have hbs : bs.length ≤ n := by omega
        have hbytes : bytes (push (bs.drop n) f) = bytes f := by
          simp [List.drop_eq_nil_of_le hbs]
        have hlen : (bytes (push (bs.drop n) f)).length < n - (bs.take n).length := by
          rw [hbytes, List.length_take]
          omega
        rw [refill, recv]
        simp only [Nat.add_sub_cancel, ih (show n - (bs.take n).length ≤ fuel by omega) hlen, hbytes]
        rw [List.take_of_length_le hbs, bytes]

/-! ## Connections that stay broken -/

/-- Nothing arrives behind an error. -/
def Settled : Feed α → Prop
  | [] => True
  | .chunk _ _ :: f => Settled f
  | .error :: f => f = []

theorem settled_push {l : List α} {f : Feed α} (h : f.Settled) : (push l f).Settled := by
  cases l with
  | nil => exact h
  | cons b bs => exact h

theorem settled_refill {fuel n : ℕ} {f : Feed α} (h : f.Settled) : (refill fuel n f).2.Settled := by
  induction fuel generalizing n f with
  | zero => exact h
  | succ fuel ih =>
    cases n with
    | zero => exact h
    | succ n =>
      match f with
      | [] => trivial
      | .error :: f =>
        obtain rfl : f = [] := h
        trivial
      | .chunk b bs :: f =>
        have hf : Settled f := h
        exact ih (settled_push hf)

/-- A read that came up short leaves nothing behind. -/
theorem bytes_refill_of_lt {fuel n : ℕ} {f : Feed α} (hs : f.Settled) (hfuel : n ≤ fuel)
    (h : (bytes f).length < n) : bytes (refill fuel n f).2 = [] := by
  induction fuel generalizing n f with
  | zero => omega
  | succ fuel ih =>
    cases n with
    | zero => omega
    | succ n =>
      match f with
      | [] => rfl
      | .error :: f =>
        obtain rfl : f = [] := hs
        rfl
      | .chunk b bs :: f =>
        have hf : Settled f := hs
        simp only [bytes, List.length_append, List.length_cons] at h
        refine ih (settled_push hf) (by omega) ?_
        rw [Nat.add_sub_cancel, bytes_push, List.length_append, List.length_drop, List.length_take]
        omega

/-- **On a settled feed** a read takes from the bytes what it asked for, as far as they go. -/
theorem refill_of_settled {f : Feed α} (hs : f.Settled) (n : ℕ) :
    (refill n n f).1 = (bytes f).take n ∧ bytes (refill n n f).2 = (bytes f).drop n := by
  rcases Nat.lt_or_ge (bytes f).length n with h | h
  · rw [refill_of_lt (Nat.le_refl n) h, bytes_refill_of_lt hs (Nat.le_refl n) h,
      List.take_of_length_le (Nat.le_of_lt h), List.drop_eq_nil_of_le (Nat.le_of_lt h)]
    exact ⟨rfl, rfl⟩
  · exact refill_of_le (Nat.le_refl n) h

/-! ## Reads that come in one piece

A reader that calls `recv` once for each struct gets the struct only if no chunk ends inside it. -/

/-- How much the next `recv` can return. -/
def front : Feed α → ℕ
  | .chunk _ bs :: _ => bs.length + 1
  | _ => 0

/-- The feed behind its first `n` bytes. -/
def skip (n : ℕ) (f : Feed α) : Feed α := (f.refill n n).2

theorem bytes_skip {n : ℕ} {f : Feed α} (h : n ≤ f.bytes.length) : (f.skip n).bytes = f.bytes.drop n :=
  (refill_of_le (Nat.le_refl n) h).2

theorem front_le_length (f : Feed α) : f.front ≤ f.bytes.length := by
  match f with
  | [] => exact Nat.zero_le _
  | .error :: f => exact Nat.zero_le _
  | .chunk b bs :: f => simp [front, bytes]

/-- A `recv` inside the front chunk returns all it asked for. -/
theorem recv_of_le_front {n : ℕ} {f : Feed α} (hpos : 0 < n) (h : n ≤ f.front) :
    ∃ b bs, f.recv n = (.bytes b bs, f.skip n) ∧ b :: bs = f.bytes.take n := by
  match f with
  | [] => exact absurd h (by simp [front]; omega)
  | .error :: f => exact absurd h (by simp [front]; omega)
  | .chunk b bs :: f =>
    obtain ⟨k, rfl⟩ : ∃ k, n = k + 1 := ⟨n - 1, by omega⟩
    have hk : k ≤ bs.length := by simpa [front] using h
    refine ⟨b, bs.take k, ?_, ?_⟩
    · have hleft : k - (bs.take k).length = 0 := by
        rw [List.length_take]
        omega
      have hskip : (refill (k + 1) (k + 1) (.chunk b bs :: f)).2 = push (bs.drop k) f := by
        rw [refill, recv]
        simp only [Nat.add_sub_cancel, hleft]
        cases k <;> rfl
      rw [recv, skip, hskip, Nat.add_sub_cancel]
    · simp [bytes, List.take_append_of_le_length hk]

/-- Inside the front chunk there is no piece to stop at but the last. -/
theorem refillUntil_of_le_front (stop : List α → Bool) {n : ℕ} {f : Feed α} (hpos : 0 < n)
    (h : n ≤ f.front) : f.refillUntil stop n n = (f.bytes.take n, f.skip n) := by
  obtain ⟨b, bs, hrecv, htake⟩ := recv_of_le_front hpos h
  obtain ⟨k, rfl⟩ : ∃ k, n = k + 1 := ⟨n - 1, by omega⟩
  have hlength : bs.length = k := by
    have htaken := congrArg List.length htake
    rw [List.length_cons, List.length_take, Nat.min_eq_left (Nat.le_trans h (front_le_length f))] at htaken
    omega
  have hnone : refillUntil stop k 0 (f.skip (k + 1)) = ([], f.skip (k + 1)) := by
    cases k <;> rfl
  rw [refillUntil, hrecv]
  dsimp only
  rw [hlength, Nat.sub_self, hnone, List.append_nil, ite_self, htake]

/-- No chunk ends inside one of the structs of these sizes, each of which is read with a single call. -/
def Uncut (f : Feed α) : List ℕ → Prop
  | [] => True
  | n :: units => n ≤ f.front ∧ (f.skip n).Uncut units

/-- The feed behind a list of reads. -/
def skipAll (units : List ℕ) (f : Feed α) : Feed α := units.foldl (fun f n => f.skip n) f

theorem uncut_append {us vs : List ℕ} {f : Feed α} :
    f.Uncut (us ++ vs) ↔ f.Uncut us ∧ (f.skipAll us).Uncut vs := by
  induction us generalizing f with
  | nil => simp [Uncut, skipAll]
  | cons n us ih => simp only [List.cons_append, Uncut, ih, skipAll, List.foldl_cons, and_assoc]

theorem bytes_skipAll {units : List ℕ} {f : Feed α} (h : units.sum ≤ f.bytes.length) :
    (f.skipAll units).bytes = f.bytes.drop units.sum := by
  induction units generalizing f with
  | nil => rfl
  | cons n units ih =>
    rw [List.sum_cons] at h ⊢
    have hskip := bytes_skip (f := f) (n := n) (by omega)
    show ((f.skip n).skipAll units).bytes = _
    rw [ih (by rw [hskip, List.length_drop]; omega), hskip, List.drop_drop]

/-! ## A stream in one chunk -/

/-- The feed on which every read returns all it asked for, as far as the stream goes. -/
def whole (l : List α) : Feed α := push l []

@[simp] theorem bytes_whole (l : List α) : (whole l).bytes = l := by
  simp [whole, bytes]

theorem front_whole (l : List α) : (whole l).front = l.length := by
  cases l <;> rfl

theorem skip_whole {n : ℕ} {l : List α} (h : n ≤ l.length) : (whole l).skip n = whole (l.drop n) := by
  cases l with
  | nil =>
    obtain rfl : n = 0 := by simpa using h
    rfl
  | cons b bs =>
    cases n with
    | zero => rfl
    | succ k =>
      have hk : k - (bs.take k).length = 0 := by
        rw [List.length_take]
        simp only [List.length_cons] at h
        omega
      show (refill (k + 1) (k + 1) [.chunk b bs]).2 = push (bs.drop k) []
      rw [refill, recv]
      simp only [Nat.add_sub_cancel, hk]
      cases k <;> rfl

theorem skipAll_whole {units : List ℕ} {l : List α} (h : units.sum ≤ l.length) :
    (whole l).skipAll units = whole (l.drop units.sum) := by
  induction units generalizing l with
  | nil => rfl
  | cons n units ih =>
    rw [List.sum_cons] at h ⊢
    show ((whole l).skip n).skipAll units = _
    rw [skip_whole (by omega), ih (by rw [List.length_drop]; omega), List.drop_drop]

/-- One chunk has no end inside anything. -/
theorem uncut_whole {units : List ℕ} {l : List α} (h : units.sum ≤ l.length) : (whole l).Uncut units := by
  induction units generalizing l with
  | nil => trivial
  | cons n units ih =>
    rw [List.sum_cons] at h
    refine ⟨?_, ?_⟩
    · rw [front_whole]
      omega
    · rw [skip_whole (by omega)]
      exact ih (by rw [List.length_drop]; omega)

end Feed

end VhalClient.Lib
