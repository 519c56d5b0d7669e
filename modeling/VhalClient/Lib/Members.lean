/-
# VhalClient.Lib.Members — a struct of words that is filled member by member.

The members of a C struct lie one behind the other.  A `Shape` lists them with the number of words of each, and
an `Object` is the memory from the beginning of such a struct on, with the elements that were stored in it.  As
in C, `store` does not look whether a member has the index it is given: behind the last element of a member is
the first of the next.

`fill` stores the elements of a list whose computation may fail, and stops at the first that does; `fillAll`
does so for one member after the other.  Whether every element that is stored is one of its member depends on
the lengths alone (`within_fillAll_iff`), and then each member holds what it was filled with, whatever the
others were filled with (`words_fillAll`).
-/
import Mathlib.Logic.Function.Basic
import Mathlib.Data.List.Basic

namespace VhalClient.Lib

variable {μ α : Type} [DecidableEq μ]

/-- The members of a struct in the order of their declaration, with the words of each. -/
structure Shape (μ : Type) where
  members : List μ
  complete : ∀ m, m ∈ members
  length : μ → ℕ

namespace Shape

/-- The words in front of the first occurrence of a member. -/
def offsetIn (length : μ → ℕ) (m : μ) : List μ → ℕ
  | [] => 0
  | m' :: ms => if m' = m then 0 else length m' + offsetIn length m ms

def offset (s : Shape μ) (m : μ) : ℕ := offsetIn s.length m s.members

theorem offsetIn_apart {length : μ → ℕ} {m m' : μ} (hne : m ≠ m') {ms : List μ} (hm : m ∈ ms)
    (hm' : m' ∈ ms) :
    offsetIn length m ms + length m ≤ offsetIn length m' ms ∨
      offsetIn length m' ms + length m' ≤ offsetIn length m ms := by
  induction ms with
  | nil => cases hm
  | cons k ms ih =>
    by_cases hk : k = m
    · have hk' : k ≠ m' := fun h => hne (hk.symm.trans h)
      left
      rw [offsetIn, if_pos hk, offsetIn, if_neg hk', hk]
      omega
    · by_cases hk' : k = m'
      · right
        rw [offsetIn, if_pos hk', offsetIn, if_neg hk, hk']
        omega
      · have hrest := ih ((List.mem_cons.mp hm).resolve_left (Ne.symm hk))
          ((List.mem_cons.mp hm').resolve_left (Ne.symm hk'))
        rw [offsetIn, if_neg hk, offsetIn, if_neg hk']
        omega

/-- Elements of different members are different words. -/
theorem offset_add_ne (s : Shape μ) {m m' : μ} (hne : m ≠ m') {i j : ℕ} (hi : i < s.length m)
    (hj : j < s.length m') : s.offset m + i ≠ s.offset m' + j := by
  have hapart : s.offset m + s.length m ≤ s.offset m' ∨ s.offset m' + s.length m' ≤ s.offset m :=
    offsetIn_apart hne (s.complete m) (s.complete m')
  omega

end Shape

/-- Memory from the beginning of a struct on, and the elements that were stored. -/
structure Object (μ α : Type) where
  words : ℕ → α
  stored : List (μ × ℕ)

namespace Object

/-- `o.m[i] = a` -/
def store (s : Shape μ) (m : μ) (i : ℕ) (a : α) (o : Object μ α) : Object μ α :=
  ⟨Function.update o.words (s.offset m + i) a, o.stored ++ [(m, i)]⟩

omit [DecidableEq μ] in
/-- Every element that was stored is one of its member. -/
def Within (s : Shape μ) (o : Object μ α) : Prop := ∀ e ∈ o.stored, e.2 < s.length e.1

theorem within_store_iff {s : Shape μ} {m : μ} {i : ℕ} {a : α} {o : Object μ α} :
    (o.store s m i a).Within s ↔ o.Within s ∧ i < s.length m := by
  simp only [Within, store, List.mem_append, List.mem_singleton, or_imp, forall_and, forall_eq]

theorem words_store_of_ne {s : Shape μ} {m : μ} {i : ℕ} {a : α} {o : Object μ α} {addr : ℕ}
    (h : addr ≠ s.offset m + i) : (o.store s m i a).words addr = o.words addr := by
  show Function.update o.words (s.offset m + i) a addr = o.words addr
  rw [Function.update_of_ne h]

end Object

/-! ## Filling a member -/

/-- A program that works on one object and may stop with an exception. -/
abbrev Filling (μ α β : Type) := EStateM Unit (Object μ α) β

/-- The object a program leaves, also when it stops early. -/
def left {β : Type} : EStateM.Result Unit (Object μ α) β → Object μ α
  | .ok _ o => o
  | .error _ o => o

def store (s : Shape μ) (m : μ) (i : ℕ) (a : α) : Filling μ α Unit := modify (Object.store s m i a)

def orThrow {β : Type} : Option β → Filling μ α β
  | some b => pure b
  | none => throw ()

/-- The elements of a list, from an index on. -/
def fill (s : Shape μ) (m : μ) : ℕ → List (Option α) → Filling μ α Unit
  | _, [] => pure ()
  | i, v :: vs => do
    store s m i (← orThrow v)
    fill s m (i + 1) vs

/-- How many elements there are in front of the first that fails. -/
def prefixLength (vs : List (Option α)) : ℕ := (vs.takeWhile Option.isSome).length

variable {s : Shape μ} {m : μ} {i : ℕ} {a : α} {vs : List (Option α)} {o o' : Object μ α}

theorem fill_nil : fill s m i [] o = .ok () o := rfl

theorem fill_none : fill s m i (none :: vs) o = .error () o := rfl

theorem fill_some : fill s m i (some a :: vs) o = fill s m (i + 1) vs (o.store s m i a) := rfl

omit [DecidableEq μ] in
theorem prefixLength_none : prefixLength (none :: vs) = 0 := rfl

omit [DecidableEq μ] in
theorem prefixLength_some : prefixLength (some a :: vs) = prefixLength vs + 1 := rfl

/-- A member is filled to the end exactly when no element fails. -/
theorem fill_ok_iff : (∃ o', fill s m i vs o = .ok () o') ↔ vs.all Option.isSome = true := by
  induction vs generalizing i o with
  | nil => simp [fill_nil]
  | cons v vs ih =>
    cases v with
    | none => simp [fill_none]
    | some a =>
      rw [fill_some, ih]
      simp

theorem fill_ok_of_all (h : vs.all Option.isSome = true) (s : Shape μ) (m : μ) (o : Object μ α) :
    ∃ o', fill s m 0 vs o = .ok () o' := fill_ok_iff.mpr h

theorem fill_error_of_all (h : vs.all Option.isSome = false) (s : Shape μ) (m : μ) (o : Object μ α) :
    fill s m 0 vs o = .error () (left (fill s m 0 vs o)) := by
  cases hfill : fill s m 0 vs o with
  | ok u o' =>
    rw [fill_ok_iff.mp ⟨o', hfill⟩] at h
    cases h
  | error e o' => rfl

theorem within_fill_iff :
    (left (fill s m i vs o)).Within s ↔ o.Within s ∧ (prefixLength vs = 0 ∨ i + prefixLength vs ≤ s.length m) := by
  induction vs generalizing i o with
  | nil => simp [fill_nil, left, prefixLength]
  | cons v vs ih =>
    cases v with
    | none => simp [fill_none, left, prefixLength_none]
    | some a =>
      rw [fill_some, ih, Object.within_store_iff, prefixLength_some, and_assoc]
      constructor
      · rintro ⟨ho, hi, hrest⟩
        exact ⟨ho, by omega⟩
      · rintro ⟨ho, hrest⟩
        exact ⟨ho, by omega, by omega⟩

/-- Words that are not elements of the member below the index reached are not touched. -/
theorem words_fill_of_ne {addr : ℕ} (h : ∀ j, i ≤ j → j < i + prefixLength vs → addr ≠ s.offset m + j) :
    (left (fill s m i vs o)).words addr = o.words addr := by
  induction vs generalizing i o with
  | nil => rfl
  | cons v vs ih =>
    cases v with
    | none => rfl
    | some a =>
      rw [prefixLength_some] at h
      rw [fill_some, ih fun j hle hlt => h j (by omega) (by omega)]
      exact Object.words_store_of_ne (h i (Nat.le_refl i) (by omega))

/-- What an element of a filled member is: the one of the list, or what it was. -/
def filledWith (vs : List (Option α)) (i : ℕ) (old : α) : α := (vs[i]?.join).getD old

/-- A member that is filled to the end. -/
theorem words_fill (h : fill s m i vs o = .ok () o') (j : ℕ) :
    o'.words (s.offset m + (i + j)) = filledWith vs j (o.words (s.offset m + (i + j))) := by
  induction vs generalizing i o j with
  | nil =>
    cases h
    simp [filledWith]
  | cons v vs ih =>
    cases v with
    | none => cases h
    | some a =>
      rw [fill_some] at h
      cases j with
      | zero =>
        have hframe : (left (fill s m (i + 1) vs (o.store s m i a))).words (s.offset m + i) =
            (o.store s m i a).words (s.offset m + i) := by
          apply words_fill_of_ne
          intro j hle _
          omega
        rw [h, left] at hframe
        rw [Nat.add_zero, hframe]
        simp [Object.store, filledWith]
      | succ j =>
        have hrest := ih h j
        have hindex : i + 1 + j = i + (j + 1) := by omega
        rw [hindex] at hrest
        have hsame : (o.store s m i a).words (s.offset m + (i + (j + 1))) = o.words (s.offset m + (i + (j + 1))) :=
          Object.words_store_of_ne (by omega)
        rw [hrest, hsame]
        simp [filledWith]

/-! ## Filling one member after the other -/

def fillAll (s : Shape μ) : List (μ × List (Option α)) → Filling μ α Unit
  | [] => pure ()
  | (m, vs) :: more => do
    fill s m 0 vs
    fillAll s more

/-- What is stored of each list has room in its member, as far as the lists go through. -/
def Room (s : Shape μ) : List (μ × List (Option α)) → Prop
  | [] => True
  | (m, vs) :: more => prefixLength vs ≤ s.length m ∧ (vs.all Option.isSome = true → Room s more)

instance Room.decidable (s : Shape μ) : (ms : List (μ × List (Option α))) → Decidable (Room s ms)
  | [] => inferInstanceAs (Decidable True)
  | (m, vs) :: more =>
    have := Room.decidable s more
    inferInstanceAs (Decidable (prefixLength vs ≤ s.length m ∧ (vs.all Option.isSome = true → Room s more)))

variable {more : List (μ × List (Option α))}

omit [DecidableEq μ] in
/-- Lists that are no longer than their members. -/
theorem room_of_length_le (h : ∀ e ∈ more, e.2.length ≤ s.length e.1) : Room s more := by
  induction more with
  | nil => trivial
  | cons e more ih =>
    rw [List.forall_mem_cons] at h
    exact ⟨Nat.le_trans (List.takeWhile_sublist _).length_le h.1, fun _ => ih h.2⟩

theorem fillAll_cons_ok (h : fill s m 0 vs o = .ok () o') :
    fillAll s ((m, vs) :: more) o = fillAll s more o' := by
  show EStateM.bind (fill s m 0 vs) _ o = _
  rw [EStateM.bind, h]

theorem fillAll_cons_error (h : fill s m 0 vs o = .error () o') :
    fillAll s ((m, vs) :: more) o = .error () o' := by
  show EStateM.bind (fill s m 0 vs) _ o = _
  rw [EStateM.bind, h]

/-- Storing never undoes an element that is not one of its member. -/
theorem within_of_fillAll (h : (left (fillAll s more o)).Within s) : o.Within s := by
  induction more generalizing o with
  | nil => exact h
  | cons e more ih =>
    obtain ⟨m, vs⟩ := e
    by_cases hall : vs.all Option.isSome = true
    · obtain ⟨o', hfill⟩ := fill_ok_of_all hall s m o
      rw [fillAll_cons_ok hfill] at h
      have hwithin := ih h
      have hleft : left (fill s m 0 vs o) = o' := by rw [hfill, left]
      exact (within_fill_iff.mp (hleft ▸ hwithin)).1
    · have hfill := fill_error_of_all (eq_false_of_ne_true hall) s m o
      rw [fillAll_cons_error hfill, left] at h
      exact (within_fill_iff.mp h).1

/-- **Every element stored is one of its member exactly when the lists have room.** -/
theorem within_fillAll_iff (ho : o.Within s) : (left (fillAll s more o)).Within s ↔ Room s more := by
  induction more generalizing o with
  | nil => exact iff_of_true ho trivial
  | cons e more ih =>
    obtain ⟨m, vs⟩ := e
    have hfirst : (left (fill s m 0 vs o)).Within s ↔ prefixLength vs ≤ s.length m := by
      rw [within_fill_iff, and_iff_right ho]
      omega
    by_cases hall : vs.all Option.isSome = true
    · obtain ⟨o', hfill⟩ := fill_ok_of_all hall s m o
      rw [hfill, left] at hfirst
      rw [fillAll_cons_ok hfill, Room]
      constructor
      · intro h
        have ho' := within_of_fillAll h
        exact ⟨hfirst.mp ho', fun _ => (ih ho').mp h⟩
      · rintro ⟨hle, hrest⟩
        exact (ih (hfirst.mpr hle)).mpr (hrest hall)
    · have hfill := fill_error_of_all (eq_false_of_ne_true hall) s m o
      rw [fillAll_cons_error hfill, left, hfirst, Room]
      exact ⟨fun hle => ⟨hle, fun h => absurd h hall⟩, fun h => h.1⟩

/-- All members are filled to the end exactly when no element fails. -/
theorem fillAll_ok_iff :
    (∃ o', fillAll s more o = .ok () o') ↔ ∀ e ∈ more, e.2.all Option.isSome = true := by
  induction more generalizing o with
  | nil => exact iff_of_true ⟨o, rfl⟩ (by simp)
  | cons e more ih =>
    obtain ⟨m, vs⟩ := e
    rw [List.forall_mem_cons]
    by_cases hall : vs.all Option.isSome = true
    · obtain ⟨o', hfill⟩ := fill_ok_of_all hall s m o
      rw [fillAll_cons_ok hfill, ih, and_iff_right hall]
    · have hfill := fill_error_of_all (eq_false_of_ne_true hall) s m o
      rw [fillAll_cons_error hfill]
      simp [hall]

/-- The elements of a member are not touched by lists for others that have room. -/
theorem words_fillAll_of_notMem (hroom : Room s more) (h : fillAll s more o = .ok () o')
    (hm : m ∉ more.map Prod.fst) (hi : i < s.length m) :
    o'.words (s.offset m + i) = o.words (s.offset m + i) := by
  induction more generalizing o with
  | nil =>
    cases h
    rfl
  | cons e more ih =>
    obtain ⟨m', vs⟩ := e
    rw [List.map_cons, List.mem_cons, not_or] at hm
    have hall := fillAll_ok_iff.mp ⟨o', h⟩ (m', vs) List.mem_cons_self
    obtain ⟨o₁, hfill⟩ := fill_ok_of_all hall s m' o
    rw [fillAll_cons_ok hfill] at h
    rw [ih (hroom.2 hall) h hm.2]
    have hframe : (left (fill s m' 0 vs o)).words (s.offset m + i) = o.words (s.offset m + i) := by
      apply words_fill_of_ne
      intro j _ hj
      have hle : prefixLength vs ≤ s.length m' := hroom.1
      have hne : m ≠ m' := hm.1
      exact s.offset_add_ne hne hi (by omega)
    rwa [hfill, left] at hframe

/-- **With room, a member holds what it was filled with, whatever the others were filled with.** -/
theorem words_fillAll (hnodup : (more.map Prod.fst).Nodup) (hroom : Room s more)
    (h : fillAll s more o = .ok () o') (hmem : (m, vs) ∈ more) (hi : i < s.length m) :
    o'.words (s.offset m + i) = filledWith vs i (o.words (s.offset m + i)) := by
  induction more generalizing o with
  | nil => cases hmem
  | cons e more ih =>
    obtain ⟨m', vs'⟩ := e
    rw [List.map_cons, List.nodup_cons] at hnodup
    have hall := fillAll_ok_iff.mp ⟨o', h⟩ (m', vs') List.mem_cons_self
    obtain ⟨o₁, hfill⟩ := fill_ok_of_all hall s m' o
    rw [fillAll_cons_ok hfill] at h
    rcases List.mem_cons.mp hmem with heq | hmem
    · cases heq
      rw [words_fillAll_of_notMem (hroom.2 hall) h hnodup.1 hi]
      simpa using words_fill hfill i
    · have hne : m' ≠ m := by
        intro heq
        exact hnodup.1 (List.mem_map.mpr ⟨(m, vs), hmem, heq.symm⟩)
      have hframe : (left (fill s m' 0 vs' o)).words (s.offset m + i) = o.words (s.offset m + i) := by
        apply words_fill_of_ne
        intro j _ hj
        have hle : prefixLength vs' ≤ s.length m' := hroom.1
        exact s.offset_add_ne hne.symm hi (by omega)
      rw [hfill, left] at hframe
      rw [ih hnodup.2 (hroom.2 hall) h hmem, hframe]

end VhalClient.Lib
