/-
# VhalClient.Lib.Records — records on a stream without delimiters.

A set of words none of which begins another can be read off a concatenation from the front: it is uniquely
decodable.  `headed n behind` are the words whose first `n` letters say how many letters follow, in any way;
they are such a set, so that a stream of them can be cut up in one way only.  Nothing here names a program.
-/
import Mathlib.Data.List.Infix
import Mathlib.InformationTheory.Coding.UniquelyDecodable

namespace VhalClient.Lib

open InformationTheory

variable {α : Type*} {S : Set (List α)}

/-- No word of the set begins another. -/
def PrefixFree (S : Set (List α)) : Prop := ∀ v ∈ S, ∀ w ∈ S, v <+: w → v = w

/-- The first word of a stream is known from the stream. -/
theorem PrefixFree.eq_of_append (h : PrefixFree S) {v w x y : List α} (hv : v ∈ S) (hw : w ∈ S)
    (heq : v ++ x = w ++ y) : v = w := by
  have hvx : v <+: w ++ y := ⟨x, heq⟩
  have hwy : w <+: w ++ y := ⟨y, rfl⟩
  rcases List.prefix_or_prefix_of_prefix hvx hwy with hvw | hwv
  · exact h v hv w hw hvw
  · exact (h w hw v hv hwv).symm

/-- **Prefix-free sets are uniquely decodable**, if the empty word is not among them. -/
theorem PrefixFree.uniquelyDecodable (h : PrefixFree S) (hempty : [] ∉ S) : UniquelyDecodable S := by
  intro vs ws hvs hws heq
  induction vs generalizing ws with
  | nil =>
    cases ws with
    | nil => rfl
    | cons w ws =>
      have hw : w = [] := (List.append_eq_nil_iff.mp (List.flatten_cons ▸ heq).symm).1
      exact absurd (hw ▸ hws w List.mem_cons_self) hempty
  | cons v vs ih =>
    cases ws with
    | nil =>
      have hv : v = [] := (List.append_eq_nil_iff.mp (List.flatten_cons ▸ heq)).1
      exact absurd (hv ▸ hvs v List.mem_cons_self) hempty
    | cons w ws =>
      rw [List.flatten_cons, List.flatten_cons] at heq
      obtain rfl := h.eq_of_append (hvs v List.mem_cons_self) (hws w List.mem_cons_self) heq
      have hrest : vs = ws := by
        refine ih ws ?_ ?_ (List.append_cancel_left heq)
        · exact fun u hu => hvs u (List.mem_cons_of_mem _ hu)
        · exact fun u hu => hws u (List.mem_cons_of_mem _ hu)
      rw [hrest]

/-- The words that say in their first `n` letters how many letters follow. -/
def headed (n : ℕ) (behind : List α → Option ℕ) : Set (List α) :=
  {w | n ≤ w.length ∧ behind (w.take n) = some (w.length - n)}

variable {n : ℕ} {behind : List α → Option ℕ}

theorem prefixFree_headed : PrefixFree (headed n behind) := by
  rintro v ⟨hv, hbehindv⟩ w ⟨hw, hbehindw⟩ hprefix
  have hhead : v.take n = w.take n := by
    obtain ⟨x, rfl⟩ := hprefix
    exact (List.take_append_of_le_length hv).symm
  have hlength : v.length - n = w.length - n := by
    rw [hhead, hbehindw] at hbehindv
    exact (Option.some_inj.mp hbehindv).symm
  exact hprefix.eq_of_length (by omega)

theorem uniquelyDecodable_headed (hn : 0 < n) : UniquelyDecodable (headed n behind) := by
  refine prefixFree_headed.uniquelyDecodable ?_
  rintro ⟨hlength, -⟩
  rw [List.length_nil] at hlength
  omega

end VhalClient.Lib
