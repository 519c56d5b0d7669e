/-
# VhalClient.Lib.Lease — one resource at a time.

A component acquires resources and releases them, and a trace says in which order, newest first.  The numbers
of the resources may come again, so "released exactly once" is a statement about the two lists: the k-th release
is of the k-th resource acquired.  `Leased t held` is the state of a component that never has two: what it
acquired is what it released and what it holds now, and this was so all the way.  Nothing here names a program.
-/
import Mathlib.Data.List.Basic
import Mathlib.Data.List.Infix

namespace VhalClient.Lib

variable {ρ : Type*}

inductive Use (ρ : Type*) where
  | acquire (r : ρ)
  | release (r : ρ)
  deriving DecidableEq, Repr

/-- The resources acquired, oldest first. -/
def acquired : List (Use ρ) → List ρ
  | [] => []
  | .acquire r :: t => acquired t ++ [r]
  | .release _ :: t => acquired t

/-- The resources released, oldest first. -/
def released : List (Use ρ) → List ρ
  | [] => []
  | .acquire _ :: t => released t
  | .release r :: t => released t ++ [r]

/-- Each release so far was of the oldest resource not yet released, and at most one is not yet released. -/
def AtMostOne (t : List (Use ρ)) : Prop :=
  released t <+: acquired t ∧ (acquired t).length ≤ (released t).length + 1

/-- A component that holds `held` now, and never held two. -/
structure Leased (t : List (Use ρ)) (held : Option ρ) : Prop where
  balance : acquired t = released t ++ held.toList
  always : ∀ u, u <:+ t → AtMostOne u

theorem atMostOne_of_balance {t : List (Use ρ)} {held : Option ρ}
    (h : acquired t = released t ++ held.toList) : AtMostOne t := by
  refine ⟨⟨held.toList, h.symm⟩, ?_⟩
  rw [h, List.length_append]
  cases held <;> simp

theorem leased_nil : Leased ([] : List (Use ρ)) none := by
  refine ⟨rfl, ?_⟩
  intro u hu
  rw [List.suffix_nil.mp hu]
  have hbalance : acquired ([] : List (Use ρ)) = released [] ++ (none : Option ρ).toList := rfl
  exact atMostOne_of_balance hbalance

/-- A step that keeps the balance keeps the lease. -/
theorem Leased.step {t : List (Use ρ)} {held held' : Option ρ} (h : Leased t held) {use : Use ρ}
    (hbalance : acquired (use :: t) = released (use :: t) ++ held'.toList) : Leased (use :: t) held' := by
  refine ⟨hbalance, ?_⟩
  intro u hu
  rcases List.suffix_cons_iff.mp hu with rfl | hu
  · exact atMostOne_of_balance hbalance
  · exact h.always u hu

theorem Leased.acquire {t : List (Use ρ)} (h : Leased t none) (r : ρ) :
    Leased (.acquire r :: t) (some r) := by
  refine h.step ?_
  rw [acquired, released, h.balance, Option.toList_none, List.append_nil, Option.toList_some]

theorem Leased.release {t : List (Use ρ)} {r : ρ} (h : Leased t (some r)) :
    Leased (.release r :: t) none := by
  refine h.step ?_
  rw [acquired, released, h.balance, Option.toList_none, List.append_nil, Option.toList_some]

/-- With nothing held, everything acquired was released, once each and in order. -/
theorem Leased.settled {t : List (Use ρ)} (h : Leased t none) : released t = acquired t := by
  rw [h.balance, Option.toList_none, List.append_nil]

end VhalClient.Lib
