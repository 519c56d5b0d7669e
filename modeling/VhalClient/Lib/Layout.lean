/-
# VhalClient.Lib.Layout — C structs as they lie in memory.

A `Layout α` writes a value of `α` as `size` bytes and reads one back; that reading undoes writing, also in
front of further bytes, is a field, so a layout that loses information cannot be built.  The layouts of
the basic types compose with `prod` (one member behind the other, no padding), `array` and `map` (a
structure in place of nested pairs) to the layouts of whole structs.

Reading is total: bytes that are missing read as zero, which is what is left in a zero-initialised struct
after a short `recv` into it.
-/
import VhalClient.Lib.Bytes

namespace VhalClient.Lib

/-- How values of a C type lie in memory. -/
structure Layout (α : Type*) where
  size : ℕ
  write : α → List UInt8
  read : List UInt8 → α
  length_write : ∀ a, (write a).length = size
  read_write_append : ∀ a rest, read (write a ++ rest) = a

namespace Layout

attribute [simp] length_write read_write_append

variable {α β : Type*}

@[simp] theorem read_write (l : Layout α) (a : α) : l.read (l.write a) = a := by
  simpa using l.read_write_append a []

theorem drop_write_append (l : Layout α) (a : α) (rest : List UInt8) :
    (l.write a ++ rest).drop l.size = rest :=
  List.drop_left' (l.length_write a)

/-- `uint32_t` -/
def word32 : Layout UInt32 where
  size := 4
  write := bytes32
  read := u32
  length_write := length_bytes32
  read_write_append := u32_bytes32_append

/-- `uint64_t` -/
def word64 : Layout UInt64 where
  size := 8
  write := bytes64
  read := u64
  length_write := length_bytes64
  read_write_append := u64_bytes64_append

/-- A type that is another type's values under different names. -/
def map (l : Layout α) (f : α → β) (g : β → α) (h : ∀ b, f (g b) = b) : Layout β where
  size := l.size
  write b := l.write (g b)
  read bs := f (l.read bs)
  length_write b := l.length_write (g b)
  read_write_append b rest := by rw [l.read_write_append, h]

/-- `int32_t` -/
def int32 : Layout Int32 :=
  word32.map UInt32.toInt32 Int32.toUInt32 Int32.toInt32_toUInt32

/-- `int16_t` -/
def int16 : Layout Int16 where
  size := 2
  write i := leBytes 2 i.toUInt16.toNat
  read bs := (UInt16.ofNat (leNat (bs.take 2))).toInt16
  length_write i := length_leBytes 2 _
  read_write_append i rest := by
    rw [List.take_left' (length_leBytes 2 _), leNat_leBytes i.toUInt16.toNat_lt, UInt16.ofNat_toNat,
      Int16.toInt16_toUInt16]

/-- Two members, one behind the other. -/
def prod (l : Layout α) (m : Layout β) : Layout (α × β) where
  size := l.size + m.size
  write p := l.write p.1 ++ m.write p.2
  read bs := (l.read bs, m.read (bs.drop l.size))
  length_write p := by rw [List.length_append, l.length_write, m.length_write]
  read_write_append p rest := by
    rw [List.append_assoc, l.read_write_append, l.drop_write_append, m.read_write_append]

/-- The first `n` values of a run of bytes. -/
def readList (l : Layout α) : ℕ → List UInt8 → List α
  | 0, _ => []
  | n + 1, bs => l.read bs :: l.readList n (bs.drop l.size)

theorem length_readList (l : Layout α) (n : ℕ) (bs : List UInt8) : (l.readList n bs).length = n := by
  induction n generalizing bs with
  | zero => rfl
  | succ n ih => rw [readList, List.length_cons, ih]

theorem readList_flatMap_write (l : Layout α) (as : List α) (rest : List UInt8) :
    l.readList as.length (as.flatMap l.write ++ rest) = as := by
  induction as with
  | nil => rfl
  | cons a as ih =>
    rw [List.length_cons, readList, List.flatMap_cons, List.append_assoc, l.read_write_append,
      l.drop_write_append, ih]

theorem length_flatMap_write (l : Layout α) (as : List α) :
    (as.flatMap l.write).length = as.length * l.size := by
  induction as with
  | nil => simp
  | cons a as ih =>
    rw [List.flatMap_cons, List.length_append, l.length_write, ih, List.length_cons, Nat.succ_mul,
      Nat.add_comm]

/-- The front of a stream of values, by its length. -/
theorem eq_flatMap_take (l : Layout α) (hpos : 0 < l.size) {bytes : List UInt8} {n : ℕ} {as : List α}
    (hfront : bytes <+: as.flatMap l.write) (hlength : bytes.length = n * l.size) :
    bytes = (as.take n).flatMap l.write ∧ n ≤ as.length := by
  have hle : n ≤ as.length := by
    have hbytes := hfront.length_le
    rw [hlength, length_flatMap_write] at hbytes
    exact Nat.le_of_mul_le_mul_right hbytes hpos
  have htake : (as.take n).flatMap l.write <+: as.flatMap l.write := by
    conv_rhs => rw [← List.take_append_drop n as, List.flatMap_append]
    exact List.prefix_append _ _
  have hsame : bytes.length = ((as.take n).flatMap l.write).length := by
    rw [hlength, length_flatMap_write, List.length_take_of_le hle]
  exact ⟨(List.prefix_of_prefix_length_le hfront htake hsame.le).eq_of_length hsame, hle⟩

/-- An array member of `n` elements. -/
def array (l : Layout α) (n : ℕ) : Layout (Vector α n) where
  size := n * l.size
  write v := v.toList.flatMap l.write
  read bs := ⟨(l.readList n bs).toArray, by rw [List.size_toArray, length_readList]⟩
  length_write v := by rw [length_flatMap_write, Vector.length_toList]
  read_write_append v rest := by
    have hlist : l.readList n (v.toList.flatMap l.write ++ rest) = v.toList := by
      have h := l.readList_flatMap_write v.toList rest
      rwa [Vector.length_toList] at h
    apply Vector.toList_inj.mp
    show (l.readList n (v.toList.flatMap l.write ++ rest)) = v.toList
    exact hlist

end Layout

end VhalClient.Lib
