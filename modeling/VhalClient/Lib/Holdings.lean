/-
# VhalClient.Lib.Holdings — what is open after a trace.

A trace of acquisitions and releases, newest first, leaves some resources open.  They are counted: a resource
that was acquired twice is open twice, and a release takes one of it away if there is one.  Where `Lib.Lease`
is about a component that never has two resources at a time, this is about one that may have any number.
`Obeys` says of a trace that each of its actions was in order when it was made, by a rule that reads what was
open then.  Nothing here names a program.
-/
import Mathlib.Data.Multiset.AddSub
import VhalClient.Lib.Lease

namespace VhalClient.Lib

variable {ρ α : Type*} [DecidableEq ρ]

/-- The resources that were acquired and not released since. -/
def outstanding : List (Use ρ) → Multiset ρ
  | [] => 0
  | .acquire r :: t => r ::ₘ outstanding t
  | .release r :: t => (outstanding t).erase r

@[simp] theorem outstanding_nil : outstanding ([] : List (Use ρ)) = 0 := rfl

@[simp] theorem outstanding_acquire (r : ρ) (t : List (Use ρ)) :
    outstanding (.acquire r :: t) = r ::ₘ outstanding t := rfl

@[simp] theorem outstanding_release (r : ρ) (t : List (Use ρ)) :
    outstanding (.release r :: t) = (outstanding t).erase r := rfl

/-- The resources a list of actions leaves open, by what each action does to them. -/
def openAfter (use : α → Option (Use ρ)) (actions : List α) : Multiset ρ :=
  outstanding (actions.filterMap use)

variable {use : α → Option (Use ρ)} {a : α} {actions : List α}

@[simp] theorem openAfter_nil : openAfter use [] = 0 := rfl

theorem openAfter_cons_none (h : use a = none) : openAfter use (a :: actions) = openAfter use actions := by
  rw [openAfter, List.filterMap_cons_none h, openAfter]

theorem openAfter_cons_acquire {r : ρ} (h : use a = some (.acquire r)) :
    openAfter use (a :: actions) = r ::ₘ openAfter use actions := by
  rw [openAfter, List.filterMap_cons_some h, outstanding_acquire, openAfter]

theorem openAfter_cons_release {r : ρ} (h : use a = some (.release r)) :
    openAfter use (a :: actions) = (openAfter use actions).erase r := by
  rw [openAfter, List.filterMap_cons_some h, outstanding_release, openAfter]

/-! ## Rules -/

variable {rule : α → Multiset ρ → Prop}

/-- Each action of the trace was allowed by what was open before it. -/
def Obeys (use : α → Option (Use ρ)) (rule : α → Multiset ρ → Prop) : List α → Prop
  | [] => True
  | a :: past => rule a (openAfter use past) ∧ Obeys use rule past

@[simp] theorem obeys_nil : Obeys use rule [] := trivial

@[simp] theorem obeys_cons : Obeys use rule (a :: actions) ↔
    rule a (openAfter use actions) ∧ Obeys use rule actions := Iff.rfl

/-- A trace that obeys did so all the way. -/
theorem Obeys.of_suffix (h : Obeys use rule actions) {past : List α} (hpast : past <:+ actions) :
    Obeys use rule past := by
  induction actions with
  | nil =>
    rw [List.suffix_nil.mp hpast]
    exact obeys_nil
  | cons a actions ih =>
    rcases List.suffix_cons_iff.mp hpast with rfl | hpast
    · exact h
    · exact ih h.2 hpast

/-- **The bound rule.** If an action that is allowed leaves at most `n` resources open, there are never more. -/
theorem Obeys.card_le {n : ℕ} (hrule : ∀ a actions, rule a (openAfter use actions) →
      (openAfter use actions).card ≤ n → (openAfter use (a :: actions)).card ≤ n)
    (h : Obeys use rule actions) : (openAfter use actions).card ≤ n := by
  induction actions with
  | nil => exact Nat.zero_le n
  | cons a actions ih => exact hrule a actions h.1 (ih h.2)

end VhalClient.Lib
