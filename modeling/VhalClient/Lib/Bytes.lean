/-
# VhalClient.Lib.Bytes — little-endian words.

The wire formats are C structs sent as they lie in memory on a little-endian machine.  `leNat` reads a
run of bytes and `leBytes k` writes `k` of them; a run that is too short reads as if the missing high
bytes were zero, which is what a partly filled, zero-initialised struct holds.
-/
import Mathlib.Tactic.Ring
import Mathlib.Data.Nat.Notation

namespace VhalClient.Lib

/-- The number a run of bytes stands for, low byte first. -/
def leNat : List UInt8 → ℕ
  | [] => 0
  | b :: bs => b.toNat + 256 * leNat bs

/-- The low `k` bytes of a number, low byte first. -/
def leBytes : ℕ → ℕ → List UInt8
  | 0, _ => []
  | k + 1, n => UInt8.ofNat n :: leBytes k (n / 256)

@[simp] theorem length_leBytes (k n : ℕ) : (leBytes k n).length = k := by
  induction k generalizing n with
  | zero => rfl
  | succ k ih => simp [leBytes, ih]

theorem leNat_lt (bs : List UInt8) : leNat bs < 256 ^ bs.length := by
  induction bs with
  | nil => simp [leNat]
  | cons b bs ih =>
    have hb : b.toNat < 256 := b.toNat_lt
    rw [leNat, List.length_cons, pow_succ]
    omega

theorem leNat_leBytes {k n : ℕ} (h : n < 256 ^ k) : leNat (leBytes k n) = n := by
  induction k generalizing n with
  | zero => simp only [pow_zero, Nat.lt_one_iff] at h; simp [leBytes, leNat, h]
  | succ k ih =>
    have hdiv : n / 256 < 256 ^ k := Nat.div_lt_of_lt_mul (by rw [pow_succ] at h; omega)
    rw [leBytes, leNat, ih hdiv, UInt8.toNat_ofNat']
    omega

theorem leBytes_leNat (bs : List UInt8) : leBytes bs.length (leNat bs) = bs := by
  induction bs with
  | nil => rfl
  | cons b bs ih =>
    have hb : b.toNat < 256 := b.toNat_lt
    have hhead : UInt8.ofNat (b.toNat + 256 * leNat bs) = b := by
      apply UInt8.toNat_inj.mp
      rw [UInt8.toNat_ofNat']
      omega
    have htail : (b.toNat + 256 * leNat bs) / 256 = leNat bs := by omega
    rw [List.length_cons, leNat, leBytes, hhead, htail, ih]

/-- The 32-bit word at the front of the bytes. -/
def u32 (bs : List UInt8) : UInt32 := UInt32.ofNat (leNat (bs.take 4))

/-- The 64-bit word at the front of the bytes. -/
def u64 (bs : List UInt8) : UInt64 := UInt64.ofNat (leNat (bs.take 8))

def bytes32 (w : UInt32) : List UInt8 := leBytes 4 w.toNat

def bytes64 (w : UInt64) : List UInt8 := leBytes 8 w.toNat

@[simp] theorem length_bytes32 (w : UInt32) : (bytes32 w).length = 4 := length_leBytes 4 _

@[simp] theorem length_bytes64 (w : UInt64) : (bytes64 w).length = 8 := length_leBytes 8 _

@[simp] theorem u32_bytes32_append (w : UInt32) (bs : List UInt8) : u32 (bytes32 w ++ bs) = w := by
  rw [u32, List.take_left' (length_bytes32 w), bytes32, leNat_leBytes (by simpa using w.toNat_lt),
    UInt32.ofNat_toNat]

@[simp] theorem u64_bytes64_append (w : UInt64) (bs : List UInt8) : u64 (bytes64 w ++ bs) = w := by
  rw [u64, List.take_left' (length_bytes64 w), bytes64, leNat_leBytes (by simpa using w.toNat_lt),
    UInt64.ofNat_toNat]

@[simp] theorem u32_bytes32 (w : UInt32) : u32 (bytes32 w) = w := by
  simpa using u32_bytes32_append w []

/-- Four bytes are the word they stand for. -/
theorem bytes32_u32 {bs : List UInt8} (h : bs.length = 4) : bytes32 (u32 bs) = bs := by
  have hlt : leNat bs < 2 ^ 32 := by simpa [h] using leNat_lt bs
  rw [bytes32, u32, List.take_of_length_le h.le, UInt32.toNat_ofNat_of_lt' hlt, ← h, leBytes_leNat]

/-- Memory after bytes were stored from its start on. -/
def overwrite (bytes memory : List UInt8) : List UInt8 :=
  bytes ++ memory.drop bytes.length

/-- A count that is kept in an `int` reads as itself exactly below 2^31. -/
theorem toInt_int32_ofNat_eq_iff (n : ℕ) : (Int32.ofNat n).toInt = n ↔ n < 2 ^ 31 := by
  constructor
  · intro h
    have hlt : (Int32.ofNat n).toInt < 2 ^ 31 := (Int32.ofNat n).toInt_lt
    omega
  · exact Int32.toInt_ofNat_of_lt

end VhalClient.Lib
