/-
# VhalClient.Lib.Framing — where the messages of a stream begin.

A stream is a list of messages written one behind the other.  A reader is at a boundary when what is left
of the stream is a list of the messages.  `atBoundary_drop_iff` decides that by counting: when every
message is at least `h` long, a reader that stood before a message and took some bytes, and did not reach
into the header after next, is at a boundary exactly when it took that message, or when there was nothing
behind it to take.  The writer and the types are arbitrary.
-/
import Mathlib.Data.List.Basic
import Mathlib.Data.Nat.Notation

namespace VhalClient.Lib

variable {μ α : Type*} {wire : μ → List α} {h : ℕ}

/-- What is left of the stream of `ms` starts with a whole message, or is empty. -/
def AtBoundary (wire : μ → List α) (ms : List μ) (left : List α) : Prop :=
  ∃ k, left = (ms.drop k).flatMap wire

theorem atBoundary_of_suffix {ms ns : List μ} (hsuffix : ns <:+ ms) :
    AtBoundary wire ms (ns.flatMap wire) := by
  obtain ⟨k, rfl⟩ : ∃ k, ns = ms.drop k := ⟨_, List.suffix_iff_eq_drop.mp hsuffix⟩
  exact ⟨k, rfl⟩

/-- A reader at a boundary stands before one of the messages, or at the end. -/
theorem exists_suffix_of_atBoundary {ms : List μ} {left : List α} (hleft : AtBoundary wire ms left) :
    ∃ ns, ns <:+ ms ∧ left = ns.flatMap wire := by
  obtain ⟨k, rfl⟩ := hleft
  exact ⟨ms.drop k, List.drop_suffix k ms, rfl⟩

/-- The stream of a part at the end is at most as long as the stream. -/
theorem length_flatMap_le_of_suffix (wire : μ → List α) {ms ns : List μ} (hsuffix : ns <:+ ms) :
    (ns.flatMap wire).length ≤ (ms.flatMap wire).length := by
  obtain ⟨front, rfl⟩ := hsuffix
  rw [List.flatMap_append, List.length_append]
  exact Nat.le_add_left _ _

/-- Of two parts at the end, the longer one has the first message of its own in front of the other. -/
theorem length_add_le_of_suffix (wire : μ → List α) {m : μ} {ms ns : List μ}
    (hsuffix : ns <:+ m :: ms) (hne : ns ≠ m :: ms) :
    (ns.flatMap wire).length + (wire m).length ≤ ((m :: ms).flatMap wire).length := by
  have htail : ns <:+ ms := by
    rcases List.suffix_cons_iff.mp hsuffix with heq | htail
    · exact absurd heq hne
    · exact htail
  have hle := length_flatMap_le_of_suffix wire htail
  rw [List.flatMap_cons, List.length_append]
  omega

/-- **Boundaries by counting.** -/
theorem atBoundary_drop_iff (hh : 0 < h) (hwire : ∀ m, h ≤ (wire m).length) {ms : List μ} {m : μ}
    {rest : List μ} (hsuffix : m :: rest <:+ ms) {n : ℕ} (hn : 0 < n) (hshort : n < (wire m).length + h) :
    AtBoundary wire ms (((m :: rest).flatMap wire).drop n) ↔
      n = (wire m).length ∨ rest = [] ∧ (wire m).length ≤ n := by
  have hfirst := hwire m
  constructor
  · intro hbound
    obtain ⟨ns, hns, heq⟩ := exists_suffix_of_atBoundary hbound
    have hlen := congrArg List.length heq
    rw [List.length_drop, List.flatMap_cons, List.length_append] at hlen
    -- The boundary is at this message or before it, right behind it, or further on.
    rcases List.suffix_or_suffix_of_suffix hsuffix hns with hbefore | hafter
    · have hle := length_flatMap_le_of_suffix wire hbefore
      rw [List.flatMap_cons, List.length_append] at hle
      omega
    · by_cases hself : ns = m :: rest
      · rw [hself, List.flatMap_cons, List.length_append] at hlen
        omega
      · have htail : ns <:+ rest := by
          rcases List.suffix_cons_iff.mp hafter with heq | htail
          · exact absurd heq hself
          · exact htail
        cases rest with
        | nil =>
          rw [List.suffix_nil.mp htail] at hlen
          simp only [List.flatMap_nil, List.length_nil] at hlen
          exact Or.inr ⟨rfl, by omega⟩
        | cons m' rest =>
          left
          have hnext := hwire m'
          by_cases hall : ns = m' :: rest
          · rw [hall] at hlen
            have hpos : 0 < ((m' :: rest).flatMap wire).length := by
              rw [List.flatMap_cons, List.length_append]
              omega
            omega
          · have hgap := length_add_le_of_suffix wire htail hall
            omega
  · intro htaken
    have hrest : rest <:+ ms := (List.suffix_cons m rest).trans hsuffix
    have hdrop : ((m :: rest).flatMap wire).drop n = rest.flatMap wire := by
      rw [List.flatMap_cons]
      rcases htaken with rfl | ⟨rfl, hle⟩
      · exact List.drop_left
      · rw [List.flatMap_nil, List.append_nil, List.drop_eq_nil_of_le hle]
    rw [hdrop]
    exact atBoundary_of_suffix hrest

/-- A reader may also take several messages at once: then it took whole messages. -/
theorem atBoundary_drop_iff_take {ms : List μ} {m : μ} {rest : List μ} (hsuffix : m :: rest <:+ ms) {n : ℕ}
    (hn : 0 < n) (hle : n ≤ ((m :: rest).flatMap wire).length) :
    AtBoundary wire ms (((m :: rest).flatMap wire).drop n) ↔
      ∃ k, n = (wire m).length + ((rest.take k).flatMap wire).length := by
  have hsplit (k : ℕ) : rest.flatMap wire = (rest.take k).flatMap wire ++ (rest.drop k).flatMap wire := by
    rw [← List.flatMap_append, List.take_append_drop]
  constructor
  · intro hbound
    obtain ⟨ns, hns, heq⟩ := exists_suffix_of_atBoundary hbound
    have hlen := congrArg List.length heq
    rw [List.length_drop] at hlen
    rcases List.suffix_or_suffix_of_suffix hsuffix hns with hbefore | hafter
    · -- Something was taken, so the boundary is not at this message.
      have hshorter := length_flatMap_le_of_suffix wire hbefore
      omega
    · rcases List.suffix_cons_iff.mp hafter with rfl | htail
      · omega
      · obtain ⟨k, rfl⟩ : ∃ k, ns = rest.drop k := ⟨_, List.suffix_iff_eq_drop.mp htail⟩
        refine ⟨k, ?_⟩
        rw [List.flatMap_cons, List.length_append] at hlen hle
        have htotal := congrArg List.length (hsplit k)
        rw [List.length_append] at htotal
        omega
  · rintro ⟨k, rfl⟩
    have hdrop : ((m :: rest).flatMap wire).drop ((wire m).length + ((rest.take k).flatMap wire).length) =
        (rest.drop k).flatMap wire := by
      rw [List.flatMap_cons, hsplit k, ← List.append_assoc]
      exact List.drop_left' List.length_append
    rw [hdrop]
    exact atBoundary_of_suffix ((List.drop_suffix k rest).trans ((List.suffix_cons m rest).trans hsuffix))

end VhalClient.Lib
