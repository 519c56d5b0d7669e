/-
# VhalClient.Lib.Run — conditions met along a run of a step function.

A component is a step function `step : σ → ι → σ`; a run feeds it a list of inputs, and the states the
run visits are `List.scanl step s is`.  `Along step P s is` says that every step the run takes meets
the condition `P` on the state BEFORE the step and the input, which is how a defect that needs a
particular input in a particular state is fenced off.

The rules here are the only inductions over runs the development needs for state properties:
`Along.invariant` (a conditional step lemma lifts to the whole run), `forall_scanl_iff_along` (when
the condition is exact for one step, it is exact for the run) and `exists_total_iff_along` (an account that
only grows, by what the steps cost).  Nothing here names a program.
-/
import Mathlib.Data.List.Basic

namespace VhalClient.Lib

variable {σ ι : Type*}

/-- Every step of the run of `step` from `s` over the inputs meets `P`, read before the step. -/
def Along (step : σ → ι → σ) (P : σ → ι → Prop) : σ → List ι → Prop
  | _, [] => True
  | s, i :: is => P s i ∧ Along step P (step s i) is

instance Along.decidable (step : σ → ι → σ) (P : σ → ι → Prop) [∀ s i, Decidable (P s i)] :
    ∀ (s : σ) (is : List ι), Decidable (Along step P s is)
  | _, [] => inferInstanceAs (Decidable True)
  | s, i :: is =>
    have := Along.decidable step P (step s i) is
    inferInstanceAs (Decidable (P s i ∧ Along step P (step s i) is))

variable {step : σ → ι → σ} {P : σ → ι → Prop} {I : σ → Prop}

@[simp] theorem along_nil (s : σ) : Along step P s [] := trivial

@[simp] theorem along_cons (s : σ) (i : ι) (is : List ι) :
    Along step P s (i :: is) ↔ P s i ∧ Along step P (step s i) is := Iff.rfl

theorem along_of_forall (h : ∀ s i, P s i) (s : σ) (is : List ι) : Along step P s is := by
  induction is generalizing s with
  | nil => exact along_nil s
  | cons i is ih => exact ⟨h s i, ih (step s i)⟩

theorem Along.and {Q : σ → ι → Prop} {s : σ} {is : List ι} (hP : Along step P s is)
    (hQ : Along step Q s is) : Along step (fun s i => P s i ∧ Q s i) s is := by
  induction is generalizing s with
  | nil => exact along_nil s
  | cons i is ih => exact ⟨⟨hP.1, hQ.1⟩, ih hP.2 hQ.2⟩

theorem along_append (s : σ) (is js : List ι) :
    Along step P s (is ++ js) ↔ Along step P s is ∧ Along step P (is.foldl step s) js := by
  induction is generalizing s with
  | nil => simp
  | cons i is ih =>
    rw [List.cons_append, along_cons, along_cons, ih, List.foldl_cons, and_assoc]

/-- Each step of the run, at its place. -/
theorem Along.at_split {s : σ} {before after : List ι} {i : ι}
    (h : Along step P s (before ++ i :: after)) : P (before.foldl step s) i :=
  ((along_append s before (i :: after)).mp h).2.1

/-- **The run rule.** If a step that meets `P` keeps `I`, then `I` holds in every state of a run
all of whose steps meet `P`. -/
theorem Along.invariant (hstep : ∀ s i, I s → P s i → I (step s i)) {s : σ} {is : List ι}
    (hs : I s) (h : Along step P s is) : ∀ t ∈ is.scanl step s, I t := by
  induction is generalizing s with
  | nil =>
    intro t ht
    rw [List.scanl_nil, List.mem_singleton] at ht
    exact ht ▸ hs
  | cons i is ih =>
    intro t ht
    rw [List.scanl_cons, List.mem_cons] at ht
    rcases ht with rfl | ht
    · exact hs
    · exact ih (hstep s i hs h.1) h.2 t ht

/-- The last state of the run is one of the states it visits. -/
theorem foldl_mem_scanl (s : σ) (is : List ι) : is.foldl step s ∈ is.scanl step s := by
  induction is generalizing s with
  | nil => simp
  | cons i is ih =>
    rw [List.scanl_cons, List.foldl_cons, List.mem_cons]
    exact Or.inr (ih (step s i))

theorem Along.invariant_foldl (hstep : ∀ s i, I s → P s i → I (step s i)) {s : σ} {is : List ι}
    (hs : I s) (h : Along step P s is) : I (is.foldl step s) :=
  h.invariant hstep hs _ (foldl_mem_scanl s is)

/-- **The countdown rule.** If, within `I`, each input of one kind brings a measure down by one and the others do not
raise it, then a run brings it down by the number of inputs of that kind. -/
theorem measure_foldl_le (measure : σ → ℕ) (ticks : ι → Bool) (hkeep : ∀ s i, I s → I (step s i))
    (htick : ∀ s i, I s → ticks i = true → measure (step s i) ≤ measure s - 1)
    (hidle : ∀ s i, I s → ticks i = false → measure (step s i) ≤ measure s) {s : σ} (hs : I s) (is : List ι) :
    measure (is.foldl step s) ≤ measure s - is.countP ticks := by
  induction is generalizing s with
  | nil => exact Nat.le_refl _
  | cons i is ih =>
    have hrest := ih (hkeep s i hs)
    rw [List.foldl_cons, List.countP_cons]
    cases hi : ticks i with
    | true =>
      have hfirst := htick s i hs hi
      rw [if_pos rfl]
      omega
    | false =>
      have hfirst := hidle s i hs hi
      rw [if_neg Bool.false_ne_true]
      omega

/-- **The cost rule.** If every step adds its cost to what `I` keeps account of, then after a run the account
has grown by the costs of its steps, and it has not grown exactly when all of them were free. -/
theorem exists_total_iff_along {J : σ → ℕ → Prop} {cost : σ → ι → ℕ}
    (hstep : ∀ s i k, J s k → J (step s i) (k + cost s i)) {s : σ} {k : ℕ} (hs : J s k) (is : List ι) :
    ∃ total, J (is.foldl step s) (k + total) ∧
      (total = 0 ↔ Along step (fun s i => cost s i = 0) s is) := by
  induction is generalizing s k with
  | nil => exact ⟨0, hs, by simp⟩
  | cons i is ih =>
    obtain ⟨total, hJ, hfree⟩ := ih (hstep s i k hs)
    refine ⟨cost s i + total, ?_, ?_⟩
    · rw [← Nat.add_assoc]
      exact hJ
    · rw [Nat.add_eq_zero_iff, hfree, along_cons]

/-- **The exact run rule.** If, from a state in `I`, a step stays in `I` exactly when it meets `P`,
then a run from `I` stays in `I` throughout exactly when all its steps meet `P`. -/
theorem forall_scanl_iff_along (hstep : ∀ s i, I s → (I (step s i) ↔ P s i)) {s : σ} {is : List ι}
    (hs : I s) : (∀ t ∈ is.scanl step s, I t) ↔ Along step P s is := by
  constructor
  · intro hall
    induction is generalizing s with
    | nil => exact along_nil s
    | cons i is ih =>
      rw [List.scanl_cons] at hall
      have hnext : I (step s i) := by
        apply hall
        cases is <;> simp
      exact ⟨(hstep s i hs).mp hnext,
        ih hnext fun t ht => hall t (List.mem_cons_of_mem _ ht)⟩
  · exact Along.invariant (fun s i hI hP => (hstep s i hI).mpr hP) hs

end VhalClient.Lib
