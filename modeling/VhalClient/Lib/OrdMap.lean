/-
# VhalClient.Lib.OrdMap — `std::map` as a sorted list of entries.

What a caller of `std::map` can observe is which value a key finds and in which order iteration visits
the entries, so the map is its list of entries in key order, with the order as a field: an `OrdMap` with
two entries for one key, or out of order, cannot be built.  `insert` is `std::map::insert`, which leaves an
existing entry alone, and not `operator[]`.

Everything is stated through `find` and through membership in `entries`; the two agree by
`find_eq_some_iff`.
-/
import Mathlib.Data.List.Nodup
import Mathlib.Order.Lattice

namespace VhalClient.Lib

variable {κ ν : Type*} [LinearOrder κ]

/-- Entries in strictly increasing key order. -/
structure OrdMap (κ ν : Type*) [LinearOrder κ] where
  entries : List (κ × ν)
  sorted : entries.Pairwise (·.1 < ·.1)

namespace OrdMap

@[ext] theorem ext {m m' : OrdMap κ ν} (h : m.entries = m'.entries) : m = m' := by
  cases m
  cases m'
  cases h
  rfl

instance [DecidableEq ν] : DecidableEq (OrdMap κ ν) := fun _ _ => decidable_of_iff _ OrdMap.ext_iff.symm

/-- The map without entries. -/
def empty : OrdMap κ ν := ⟨[], List.Pairwise.nil⟩

/-- `find`, as the value it leads to. -/
def find (m : OrdMap κ ν) (k : κ) : Option ν :=
  (m.entries.find? fun e => e.1 = k).map Prod.snd

/-- The keys in order. -/
def keys (m : OrdMap κ ν) : List κ := m.entries.map Prod.fst

/-- Put an entry at its place in a sorted list, unless its key is there. -/
def insertEntry (k : κ) (v : ν) : List (κ × ν) → List (κ × ν)
  | [] => [(k, v)]
  | e :: l =>
    if k < e.1 then (k, v) :: e :: l
    else if k = e.1 then e :: l
    else e :: insertEntry k v l

theorem mem_of_mem_insertEntry {k : κ} {v : ν} {l : List (κ × ν)} {e : κ × ν}
    (h : e ∈ insertEntry k v l) : e = (k, v) ∨ e ∈ l := by
  induction l with
  | nil => simpa [insertEntry] using h
  | cons a l ih =>
    rw [insertEntry] at h
    split at h
    · simpa using h
    · split at h
      · exact Or.inr h
      · rw [List.mem_cons] at h
        rcases h with rfl | h
        · simp
        · rcases ih h with rfl | h
          · exact Or.inl rfl
          · exact Or.inr (List.mem_cons_of_mem a h)

theorem mem_insertEntry_of_mem {k : κ} {v : ν} {l : List (κ × ν)} {e : κ × ν} (h : e ∈ l) :
    e ∈ insertEntry k v l := by
  induction l with
  | nil => simp at h
  | cons a l ih =>
    rw [insertEntry]
    split
    · exact List.mem_cons_of_mem _ h
    · split
      · exact h
      · rw [List.mem_cons] at h ⊢
        exact h.imp_right ih

theorem sorted_insertEntry {k : κ} {v : ν} {l : List (κ × ν)} (h : l.Pairwise (·.1 < ·.1)) :
    (insertEntry k v l).Pairwise (·.1 < ·.1) := by
  induction l with
  | nil => simp [insertEntry]
  | cons a l ih =>
    obtain ⟨ha, hl⟩ := List.pairwise_cons.mp h
    rw [insertEntry]
    split
    · rename_i hlt
      refine List.pairwise_cons.mpr ⟨?_, h⟩
      intro b hb
      rcases List.mem_cons.mp hb with rfl | hb
      · exact hlt
      · exact lt_trans hlt (ha b hb)
    · split
      · exact h
      · rename_i hlt hne
        refine List.pairwise_cons.mpr ⟨?_, ih hl⟩
        intro b hb
        rcases mem_of_mem_insertEntry hb with rfl | hb
        · exact lt_of_le_of_ne (not_lt.mp hlt) (Ne.symm hne)
        · exact ha b hb

theorem mem_insertEntry_self {k : κ} {v : ν} {l : List (κ × ν)} (h : ∀ e ∈ l, e.1 ≠ k) :
    (k, v) ∈ insertEntry k v l := by
  induction l with
  | nil => simp [insertEntry]
  | cons a l ih =>
    obtain ⟨ha, hl⟩ := List.forall_mem_cons.mp h
    rw [insertEntry]
    split
    · simp
    · rw [if_neg (Ne.symm ha)]
      exact List.mem_cons_of_mem a (ih hl)

theorem insertEntry_of_mem {k : κ} {v : ν} {l : List (κ × ν)} (hl : l.Pairwise (·.1 < ·.1))
    (h : ∃ e ∈ l, e.1 = k) : insertEntry k v l = l := by
  induction l with
  | nil => simp at h
  | cons a l ih =>
    obtain ⟨ha, hl⟩ := List.pairwise_cons.mp hl
    obtain ⟨e, he, rfl⟩ := h
    rw [insertEntry]
    rcases List.mem_cons.mp he with rfl | he
    · simp
    · rw [if_neg (not_lt.mpr (le_of_lt (ha e he))), if_neg (ne_of_gt (ha e he)), ih hl ⟨e, he, rfl⟩]

/-- `std::map::insert`: no effect on a key that is there. -/
def insert (m : OrdMap κ ν) (k : κ) (v : ν) : OrdMap κ ν :=
  ⟨insertEntry k v m.entries, sorted_insertEntry m.sorted⟩

/-- `erase` by key. -/
def erase (m : OrdMap κ ν) (k : κ) : OrdMap κ ν :=
  ⟨m.entries.filter fun e => e.1 ≠ k, m.sorted.filter _⟩

/-! ## Lookup and membership -/

theorem nodup_keys (m : OrdMap κ ν) : m.keys.Nodup := by
  rw [keys, List.Nodup, List.pairwise_map]
  exact m.sorted.imp ne_of_lt

/-- A key has one entry. -/
theorem eq_of_mem {m : OrdMap κ ν} {k : κ} {v v' : ν} (h : (k, v) ∈ m.entries)
    (h' : (k, v') ∈ m.entries) : v = v' := by
  have heq : (k, v) = (k, v') := List.inj_on_of_nodup_map m.nodup_keys h h' rfl
  exact congrArg Prod.snd heq

theorem find_eq_some_iff {m : OrdMap κ ν} {k : κ} {v : ν} :
    m.find k = some v ↔ (k, v) ∈ m.entries := by
  rw [find, Option.map_eq_some_iff]
  constructor
  · rintro ⟨⟨k', v'⟩, hfind, rfl⟩
    have hkey : k' = k := by simpa using List.find?_some hfind
    exact hkey ▸ List.mem_of_find?_eq_some hfind
  · intro h
    -- The first entry with this key is the only one.
    cases hfind : m.entries.find? fun e => e.1 = k with
    | none =>
      rw [List.find?_eq_none] at hfind
      exact absurd (decide_eq_true rfl) (hfind (k, v) h)
    | some e =>
      obtain ⟨k', v'⟩ := e
      have hkey : k' = k := by simpa using List.find?_some hfind
      have hmem : (k, v') ∈ m.entries := hkey ▸ List.mem_of_find?_eq_some hfind
      exact ⟨(k', v'), rfl, eq_of_mem hmem h⟩

theorem find_eq_none_iff {m : OrdMap κ ν} {k : κ} : m.find k = none ↔ k ∉ m.keys := by
  rw [keys, List.mem_map, Option.eq_none_iff_forall_ne_some]
  constructor
  · rintro h ⟨⟨k', v⟩, hmem, rfl⟩
    exact h v (find_eq_some_iff.mpr hmem)
  · intro h v hv
    exact h ⟨(k, v), find_eq_some_iff.mp hv, rfl⟩

theorem mem_keys_iff {m : OrdMap κ ν} {k : κ} : k ∈ m.keys ↔ ∃ v, m.find k = some v := by
  rw [← Option.isSome_iff_exists, ← Option.ne_none_iff_isSome, ne_eq, find_eq_none_iff, not_not]

/-- An insert on a key that is there changes nothing. -/
theorem insert_of_mem {m : OrdMap κ ν} {k : κ} (v : ν) (h : k ∈ m.keys) : m.insert k v = m := by
  apply OrdMap.ext
  rw [keys, List.mem_map] at h
  exact insertEntry_of_mem m.sorted h

theorem mem_insert_iff {m : OrdMap κ ν} {k : κ} {v : ν} (h : k ∉ m.keys) {e : κ × ν} :
    e ∈ (m.insert k v).entries ↔ e = (k, v) ∨ e ∈ m.entries := by
  have hkeys : ∀ a ∈ m.entries, a.1 ≠ k := by
    intro a ha heq
    exact h (heq ▸ List.mem_map_of_mem ha)
  constructor
  · exact mem_of_mem_insertEntry
  · rintro (rfl | he)
    · exact mem_insertEntry_self hkeys
    · exact mem_insertEntry_of_mem he

theorem mem_erase_iff {m : OrdMap κ ν} {k : κ} {e : κ × ν} :
    e ∈ (m.erase k).entries ↔ e ∈ m.entries ∧ e.1 ≠ k := by
  simp [erase]

theorem find_insert {m : OrdMap κ ν} {k : κ} (v : ν) (h : k ∉ m.keys) (k' : κ) :
    (m.insert k v).find k' = if k' = k then some v else m.find k' := by
  apply Option.ext
  intro w
  rw [find_eq_some_iff, mem_insert_iff h]
  by_cases hk : k' = k
  · subst hk
    have hnone : (k', w) ∉ m.entries := fun hmem => h (List.mem_map_of_mem (f := Prod.fst) hmem)
    simp [hnone, eq_comm]
  · simp [hk, find_eq_some_iff]

theorem find_erase (m : OrdMap κ ν) (k k' : κ) :
    (m.erase k).find k' = if k' = k then none else m.find k' := by
  apply Option.ext
  intro w
  rw [find_eq_some_iff, mem_erase_iff]
  by_cases hk : k' = k
  · simp [hk]
  · simp [hk, find_eq_some_iff]

theorem nodup_entries (m : OrdMap κ ν) : m.entries.Nodup := List.Nodup.of_map _ m.nodup_keys

/-- A new key brings one entry more. -/
theorem insert_perm {m : OrdMap κ ν} {k : κ} {v : ν} (h : k ∉ m.keys) :
    (m.insert k v).entries.Perm ((k, v) :: m.entries) := by
  have hnew : (k, v) ∉ m.entries := fun hmem => h (List.mem_map_of_mem (f := Prod.fst) hmem)
  have hnodup : ((k, v) :: m.entries).Nodup := List.nodup_cons.mpr ⟨hnew, m.nodup_entries⟩
  apply (List.perm_ext_iff_of_nodup (m.insert k v).nodup_entries hnodup).mpr
  intro e
  rw [mem_insert_iff h, List.mem_cons]

/-- Erasing a key that is there takes its entry away and no other. -/
theorem erase_perm {m : OrdMap κ ν} {k : κ} {v : ν} (h : (k, v) ∈ m.entries) :
    m.entries.Perm ((k, v) :: (m.erase k).entries) := by
  have hgone : (k, v) ∉ (m.erase k).entries := fun hmem => (mem_erase_iff.mp hmem).2 rfl
  have hnodup : ((k, v) :: (m.erase k).entries).Nodup :=
    List.nodup_cons.mpr ⟨hgone, (m.erase k).nodup_entries⟩
  apply (List.perm_ext_iff_of_nodup m.nodup_entries hnodup).mpr
  rintro ⟨k', v'⟩
  rw [List.mem_cons, mem_erase_iff]
  constructor
  · intro he
    by_cases hk : k' = k
    · subst hk
      exact Or.inl (congrArg (Prod.mk k') (eq_of_mem he h))
    · exact Or.inr ⟨he, hk⟩
  · rintro (heq | ⟨he, -⟩)
    · exact heq ▸ h
    · exact he

theorem mem_keys_insert {m : OrdMap κ ν} {k : κ} {v : ν} {k' : κ} :
    k' ∈ (m.insert k v).keys ↔ k' = k ∨ k' ∈ m.keys := by
  by_cases h : k ∈ m.keys
  · rw [insert_of_mem v h]
    constructor
    · exact Or.inr
    · rintro (rfl | hk)
      · exact h
      · exact hk
  · rw [mem_keys_iff, find_insert v h, mem_keys_iff]
    by_cases hk : k' = k <;> simp [hk]

theorem mem_keys_erase {m : OrdMap κ ν} {k k' : κ} :
    k' ∈ (m.erase k).keys ↔ k' ∈ m.keys ∧ k' ≠ k := by
  rw [mem_keys_iff, mem_keys_iff, find_erase]
  by_cases hk : k' = k <;> simp [hk]

end OrdMap

/-- Keys that are 64-bit words. -/
instance linearOrderUInt64 : LinearOrder UInt64 where
  le_refl := UInt64.le_refl
  le_trans _ _ _ := UInt64.le_trans
  le_antisymm _ _ := UInt64.le_antisymm
  le_total := UInt64.le_total
  lt_iff_le_not_ge a b := by rw [UInt64.not_le, UInt64.lt_iff_le_and_ne]; grind
  toDecidableLE := inferInstance

end VhalClient.Lib
