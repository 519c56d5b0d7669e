/-
# VhalClient.Lib.Strings — searching a `std::string`, and the number at its front.

`find` and `findLastOf` are the members of `std::string`, as positions; `atoi` and `stoi` read a number as
`strtol` does, and differ in what they do when there is none, or one that fits no `int`.  A text in decimal
behind anything that a search finds is read back by both.  Nothing here names a program.
-/
import VhalClient.Lib.Scanf

namespace VhalClient.Lib.Strings

open VhalClient.Lib.Scanf

variable {α : Type*} [DecidableEq α]

/-- `find`: the first position at which the text continues with `search`. -/
def find (search : List α) : List α → Option ℕ
  | [] => if search = [] then some 0 else none
  | c :: cs => if search <+: c :: cs then some 0 else (find search cs).map (· + 1)

/-- `find_last_of` for one character. -/
def findLastOf (c : α) : List α → Option ℕ
  | [] => none
  | d :: ds =>
    match findLastOf c ds with
    | some pos => some (pos + 1)
    | none => if d = c then some 0 else none

/-- What `std::stoi` throws. -/
inductive StoiError where
  | invalidArgument
  | outOfRange
  deriving DecidableEq, Repr

/-- `std::atoi`; what it makes of a number that fits no `int` is not defined. -/
def atoi (overlong : ℤ → Int32) (t : List UInt8) : Int32 :=
  match scanNumber t with
  | none => 0
  | some (n, _) => Scanf.store overlong n

/-- `std::stoi` -/
def stoi (t : List UInt8) : Except StoiError Int32 :=
  match scanNumber t with
  | none => .error .invalidArgument
  | some (n, _) => if -2 ^ 31 ≤ n ∧ n < 2 ^ 31 then .ok (Int32.ofInt n) else .error .outOfRange

/-! ## Searching -/

theorem find_append (search rest : List α) : find search (search ++ rest) = some 0 := by
  cases search with
  | nil => cases rest <;> simp [find]
  | cons c cs => exact if_pos (List.prefix_append (c :: cs) rest)

theorem findLastOf_eq_none {c : α} {s : List α} (h : c ∉ s) : findLastOf c s = none := by
  induction s with
  | nil => rfl
  | cons d ds ih =>
    rw [findLastOf, ih (List.not_mem_of_not_mem_cons h)]
    exact if_neg (List.ne_of_not_mem_cons h).symm

/-- The last `c` is the one behind which there is none. -/
theorem findLastOf_append_cons {c : α} (s : List α) {t : List α} (h : c ∉ t) :
    findLastOf c (s ++ c :: t) = some s.length := by
  induction s with
  | nil =>
    rw [List.nil_append, findLastOf, findLastOf_eq_none h]
    exact if_pos rfl
  | cons d ds ih => rw [List.cons_append, findLastOf, ih, List.length_cons]

/-- The first `c` is the one in front of which there is none. -/
theorem find_singleton_append_cons {c : α} {s : List α} (h : c ∉ s) (t : List α) :
    find [c] (s ++ c :: t) = some s.length := by
  induction s with
  | nil => exact find_append [c] t
  | cons d ds ih =>
    have hother : ¬[c] <+: d :: (ds ++ c :: t) := by
      intro hprefix
      obtain ⟨rest, hrest⟩ := hprefix
      exact List.ne_of_not_mem_cons h (List.cons.inj hrest).1
    rw [List.cons_append, find, if_neg hother, ih (List.not_mem_of_not_mem_cons h), List.length_cons]
    rfl

/-! ## Numbers -/

/-- What `std::to_string` makes of an `int`. -/
def decimalInt (i : Int32) : List UInt8 :=
  if i.toInt < 0 then 45 :: decimal i.toInt.natAbs else decimal i.toInt.natAbs

variable {n : ℕ}

/-- Printed numbers are read back whole. -/
theorem scanNumber_decimal (n : ℕ) : scanNumber (decimal n) = some ((n : ℤ), []) := by
  obtain ⟨d, ds, hd, ⟨hspace, hminus, hplus⟩, hall, hnone, hvalue⟩ := decimal_eq_cons n
  have htext : (d :: ds).dropWhile isSpace = d :: ds := List.dropWhile_cons_of_neg (by simp [hspace])
  simp only [hd, scanNumber, htext, hminus, hplus, Bool.or_self, Bool.false_eq_true, if_false, hall, hnone,
    hvalue]

theorem atoi_decimal (overlong : ℤ → Int32) (hn : n < 2 ^ 31) :
    atoi overlong (decimal n) = Int32.ofNat n := by
  rw [atoi, scanNumber_decimal]
  exact if_pos ⟨by omega, by exact_mod_cast hn⟩

/-- **A printed `int` is read back**, with its sign. -/
theorem atoi_decimalInt (overlong : ℤ → Int32) (i : Int32) : atoi overlong (decimalInt i) = i := by
  have hlow := i.le_toInt
  have hhigh := i.toInt_lt
  have hstore : Scanf.store overlong i.toInt = i := by
    rw [Scanf.store, if_pos ⟨hlow, hhigh⟩, Int32.ofInt_toInt]
  unfold decimalInt
  split
  · have hscan : scanNumber (45 :: decimal i.toInt.natAbs) = some (i.toInt, []) := by
      obtain ⟨d, ds, hd, -, hall, hnone, hvalue⟩ := decimal_eq_cons i.toInt.natAbs
      have htext : (45 :: d :: ds).dropWhile isSpace = 45 :: d :: ds := List.dropWhile_cons_of_neg (by decide)
      have hnumber : -(natOfDigits (d :: ds) : ℤ) = i.toInt := by
        rw [hvalue]
        omega
      simp only [hd, scanNumber, htext, beq_self_eq_true, Bool.true_or, if_true, hall, hnone, hnumber]
    rw [atoi, hscan]
    exact hstore
  · have hnumber : (i.toInt.natAbs : ℤ) = i.toInt := by omega
    rw [atoi, scanNumber_decimal]
    dsimp only
    rw [hnumber]
    exact hstore

theorem stoi_decimal (hn : n < 2 ^ 31) : stoi (decimal n) = .ok (Int32.ofNat n) := by
  rw [stoi, scanNumber_decimal]
  exact if_pos ⟨by omega, by exact_mod_cast hn⟩

/-- A character that is no digit is not in a printed number. -/
theorem not_mem_decimal {c : UInt8} (hc : isDigit c = false) (n : ℕ) : c ∉ decimal n := by
  intro hmem
  rw [isDigit_decimal hmem] at hc
  cases hc

end VhalClient.Lib.Strings
