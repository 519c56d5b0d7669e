/-
# VhalClient.Lib.Scanf — `sscanf` integer conversions over a C string.

A format such as `"%c %d %d"` reads one character and then converts integers one after the other, and
stops at the first conversion that fails; the arguments behind it keep the values they had.
`scanInts n` is the list of values the `n` integer conversions store.  `isspace` is that of the "C"
locale, so a conversion skips line feeds like blanks.  C leaves the stored value open when the number
written does not fit an `int`; `overlong` stands for whatever the library stores then, and no lemma
constrains it.

`scanInts_append` is the rule for text that is continued by more text: if the conversions ran out of
input they go on in the continuation, otherwise the continuation is never looked at.
-/
import Mathlib.Algebra.Group.Int.Defs
import Mathlib.Algebra.GroupWithZero.Nat
import Mathlib.Data.List.Basic
import Mathlib.Data.List.TakeWhile
import Mathlib.Data.Nat.Notation

namespace VhalClient.Lib.Scanf

/-- `isspace` in the "C" locale: blank, `\t`, `\n`, `\v`, `\f`, `\r`. -/
def isSpace (b : UInt8) : Bool := b == 32 || (9 ≤ b && b ≤ 13)

def isDigit (b : UInt8) : Bool := 48 ≤ b && b ≤ 57

/-- The value of a run of decimal digits. -/
def natOfDigits (ds : List UInt8) : ℕ := ds.foldl (fun n d => 10 * n + (d.toNat - 48)) 0

/-- What `%d` stores for the number `n` written in the text. -/
def store (overlong : ℤ → Int32) (n : ℤ) : Int32 :=
  if -2 ^ 31 ≤ n ∧ n < 2 ^ 31 then Int32.ofInt n else overlong n

/-- The outcome of one `%d`: a stored value with the text behind it, a matching failure, or the end
of the input before any character that is not white space. -/
inductive Conversion where
  | value (v : Int32) (rest : List UInt8)
  | mismatch
  | exhausted
  deriving DecidableEq

/-- One `%d`: skip white space, an optional sign, then the longest run of digits. -/
def scanInt (overlong : ℤ → Int32) (t : List UInt8) : Conversion :=
  match t.dropWhile isSpace with
  | [] => .exhausted
  | c :: cs =>
    -- A sign with no digit behind it is a matching failure.
    let body := if c == 45 || c == 43 then cs else c :: cs
    match body.takeWhile isDigit with
    | [] => .mismatch
    | d :: ds =>
      let n : ℤ := natOfDigits (d :: ds)
      .value (store overlong (if c == 45 then -n else n)) (body.dropWhile isDigit)

/-- The number an integer conversion finds, with the text behind it: what `%d` and `%hu` have in common. -/
def scanNumber (t : List UInt8) : Option (ℤ × List UInt8) :=
  match t.dropWhile isSpace with
  | [] => none
  | c :: cs =>
    let body := if c == 45 || c == 43 then cs else c :: cs
    match body.takeWhile isDigit with
    | [] => none
    | d :: ds =>
      let n : ℤ := natOfDigits (d :: ds)
      some (if c == 45 then -n else n, body.dropWhile isDigit)

/-- What `%hu` stores for the number `n` written in the text. -/
def storeU16 (overlong : ℤ → UInt16) (n : ℤ) : UInt16 :=
  if 0 ≤ n ∧ n < 2 ^ 16 then UInt16.ofNat n.toNat else overlong n

/-- The values stored by `n` consecutive `%d`. -/
def scanInts (overlong : ℤ → Int32) : ℕ → List UInt8 → List Int32
  | 0, _ => []
  | n + 1, t =>
    match scanInt overlong t with
    | .value v rest => v :: scanInts overlong n rest
    | .mismatch => []
    | .exhausted => []

/-- The `n` conversions ran out of input: none of them failed on a character of the text, and at
least one is left with nothing but white space. -/
def drained (overlong : ℤ → Int32) : ℕ → List UInt8 → Bool
  | 0, _ => false
  | n + 1, t =>
    match scanInt overlong t with
    | .value _ rest => drained overlong n rest
    | .mismatch => false
    | .exhausted => true

variable {overlong : ℤ → Int32}

/-- `%d` stores the number it finds, if it finds one. -/
theorem scanInt_eq_value_iff {t rest : List UInt8} {v : Int32} :
    scanInt overlong t = .value v rest ↔ ∃ n, scanNumber t = some (n, rest) ∧ store overlong n = v := by
  unfold scanInt scanNumber
  cases t.dropWhile isSpace with
  | nil => simp
  | cons c cs =>
    dsimp only
    generalize (if c == 45 || c == 43 then cs else c :: cs) = body
    cases body.takeWhile isDigit with
    | nil => simp
    | cons d ds => simp [and_comm]

/-- A digit run is not lengthened by a continuation that does not start with a digit. -/
theorem takeWhile_isDigit_append (t u : List UInt8) (hu : ∀ b ∈ u.head?, isDigit b = false) :
    (t ++ u).takeWhile isDigit = t.takeWhile isDigit := by
  induction t with
  | nil =>
    cases u with
    | nil => rfl
    | cons b u => simp [hu b (by simp)]
  | cons c t ih =>
    rw [List.cons_append, List.takeWhile_cons, List.takeWhile_cons, ih]

theorem dropWhile_isDigit_append (t u : List UInt8) (hu : ∀ b ∈ u.head?, isDigit b = false) :
    (t ++ u).dropWhile isDigit = t.dropWhile isDigit ++ u := by
  induction t with
  | nil =>
    cases u with
    | nil => rfl
    | cons b u => simp [hu b (by simp)]
  | cons c t ih =>
    rw [List.cons_append, List.dropWhile_cons, List.dropWhile_cons, ih]
    split <;> rfl

/-- **One conversion over continued text.** -/
theorem scanInt_append (t u : List UInt8) (hu : ∀ b ∈ u.head?, isDigit b = false) :
    scanInt overlong (t ++ u) =
      match scanInt overlong t with
      | .value v rest => .value v (rest ++ u)
      | .mismatch => .mismatch
      | .exhausted => scanInt overlong u := by
  cases hd : t.dropWhile isSpace with
  | nil =>
    have happ : (t ++ u).dropWhile isSpace = u.dropWhile isSpace := by
      rw [List.dropWhile_append, hd]
      rfl
    have ht : scanInt overlong t = .exhausted := by simp only [scanInt, hd]
    rw [ht]
    simp only [scanInt, happ]
  | cons c cs =>
    have happ : (t ++ u).dropWhile isSpace = c :: (cs ++ u) := by
      rw [List.dropWhile_append, hd]
      rfl
    -- The sign, if there is one, belongs to `t`, so the digits are those of `t`'s own body.
    set body := if c == 45 || c == 43 then cs else c :: cs with hbody
    have hbodyu : (if c == 45 || c == 43 then cs ++ u else c :: (cs ++ u)) = body ++ u := by
      rw [hbody]
      split <;> rfl
    simp only [scanInt, happ, hd, hbodyu, ← hbody, takeWhile_isDigit_append body u hu,
      dropWhile_isDigit_append body u hu]
    cases body.takeWhile isDigit <;> rfl

/-- **The conversions over continued text.** They go on in the continuation exactly when they ran
out of input in the text itself. -/
theorem scanInts_append (n : ℕ) (t u : List UInt8) (hu : ∀ b ∈ u.head?, isDigit b = false) :
    scanInts overlong n (t ++ u) =
      scanInts overlong n t ++
        if drained overlong n t then scanInts overlong (n - (scanInts overlong n t).length) u
        else [] := by
  induction n generalizing t with
  | zero => simp [scanInts, drained]
  | succ n ih =>
    cases hs : scanInt overlong t with
    | value v rest => simp [scanInts, drained, scanInt_append t u hu, hs, ih rest]
    | mismatch => simp [scanInts, drained, scanInt_append t u hu, hs]
    | exhausted => simp [scanInts, drained, scanInt_append t u hu, hs]

/-- Conversions that all succeeded did not run out of input. -/
theorem length_lt_of_drained {n : ℕ} {t : List UInt8} (h : drained overlong n t = true) :
    (scanInts overlong n t).length < n := by
  induction n generalizing t with
  | zero => simp [drained] at h
  | succ n ih =>
    simp only [drained, scanInts] at h ⊢
    cases hs : scanInt overlong t with
    | value v rest =>
      rw [hs] at h
      simpa using ih h
    | mismatch => simp [hs] at h
    | exhausted => simp

/-! ## Printed numbers -/

/-- The text of a number in decimal, without a sign or leading zeros. -/
def decimal (n : ℕ) : List UInt8 := (Nat.toDigits 10 n).map Char.toUInt8

/-- Arguments as a command line has them: each behind a blank. -/
def arguments (ns : List ℕ) : List UInt8 := ns.flatMap fun n => 32 :: decimal n

theorem toNat_toUInt8_of_isDigit {c : Char} (h : c.isDigit = true) :
    c.toUInt8.toNat = c.toNat ∧ 48 ≤ c.toNat ∧ c.toNat ≤ 57 := by
  rw [Char.isDigit, Bool.and_eq_true, decide_eq_true_iff, decide_eq_true_iff] at h
  have hge : 48 ≤ c.toNat := UInt32.le_iff_toNat_le.mp h.1
  have hle : c.toNat ≤ 57 := UInt32.le_iff_toNat_le.mp h.2
  have hmod : c.toUInt8.toNat = c.toNat % 256 := UInt32.toNat_toUInt8 c.val
  exact ⟨by omega, hge, hle⟩

theorem isDigit_iff {b : UInt8} : isDigit b = true ↔ 48 ≤ b.toNat ∧ b.toNat ≤ 57 := by
  rw [isDigit, Bool.and_eq_true, decide_eq_true_iff, decide_eq_true_iff, UInt8.le_iff_toNat_le,
    UInt8.le_iff_toNat_le]
  rfl

/-- A digit is no white space and no sign. -/
theorem not_isSpace_of_isDigit {b : UInt8} (h : isDigit b = true) :
    isSpace b = false ∧ (b == 45) = false ∧ (b == 43) = false := by
  have hge := (isDigit_iff.mp h).1
  have hne : ∀ n : UInt8, n.toNat < 48 → (b == n) = false := by
    intro n hn
    rw [beq_eq_false_iff_ne]
    rintro rfl
    omega
  have hcontrol : (decide (b ≤ 13)) = false := by
    rw [decide_eq_false_iff_not, UInt8.le_iff_toNat_le, show (13 : UInt8).toNat = 13 from rfl]
    omega
  refine ⟨?_, hne 45 (by decide), hne 43 (by decide)⟩
  rw [isSpace, hne 32 (by decide), hcontrol, Bool.and_false]
  rfl

theorem isDigit_decimal {n : ℕ} {b : UInt8} (hb : b ∈ decimal n) : isDigit b = true := by
  obtain ⟨c, hc, rfl⟩ := List.mem_map.mp hb
  obtain ⟨hnat, hbounds⟩ := toNat_toUInt8_of_isDigit
    (Nat.isDigit_of_mem_toDigits (by decide) (by decide) hc)
  rw [isDigit_iff, hnat]
  exact hbounds

theorem natOfDigits_decimal (n : ℕ) : natOfDigits (decimal n) = n := by
  have hfold : natOfDigits (decimal n) = Nat.ofDigitChars 10 (Nat.toDigits 10 n) 0 := by
    rw [natOfDigits, decimal, List.foldl_map, Nat.ofDigitChars_eq_foldl]
    refine List.foldl_ext _ _ 0 ?_
    intro m c hc
    rw [(toNat_toUInt8_of_isDigit (Nat.isDigit_of_mem_toDigits (by decide) (by decide) hc)).1]
    rfl
  rw [hfold, Nat.ofDigitChars_ten_toDigits]

/-- A printed number is digits, the first of which is neither a blank nor a sign. -/
theorem decimal_eq_cons (n : ℕ) :
    ∃ d ds, decimal n = d :: ds ∧ (isSpace d = false ∧ (d == 45) = false ∧ (d == 43) = false) ∧
      (d :: ds).takeWhile isDigit = d :: ds ∧ (d :: ds).dropWhile isDigit = [] ∧ natOfDigits (d :: ds) = n := by
  obtain ⟨d, ds, hd⟩ : ∃ d ds, decimal n = d :: ds :=
    List.exists_cons_of_ne_nil (by simp [decimal, Nat.toDigits_ne_nil])
  have hdigit : ∀ b ∈ d :: ds, isDigit b = true := fun b hb => isDigit_decimal (hd ▸ hb)
  refine ⟨d, ds, hd, not_isSpace_of_isDigit (hdigit d List.mem_cons_self), ?_, ?_, ?_⟩
  · exact List.takeWhile_eq_self_iff.mpr hdigit
  · exact List.dropWhile_eq_nil_iff.mpr hdigit
  · rw [← hd]
    exact natOfDigits_decimal n

/-- **One conversion undoes printing**, for a number that fits an `int`. -/
theorem scanInt_decimal {n : ℕ} (hn : n < 2 ^ 31) :
    scanInt overlong (32 :: decimal n) = .value (Int32.ofNat n) [] := by
  have hstore : store overlong (n : ℤ) = Int32.ofNat n := by
    rw [store, if_pos ⟨by omega, by exact_mod_cast hn⟩]
    rfl
  obtain ⟨d, ds, hd, ⟨hspace, hminus, hplus⟩, hall, hnone, hvalue⟩ := decimal_eq_cons n
  have htext : (32 :: d :: ds).dropWhile isSpace = d :: ds := by
    rw [List.dropWhile_cons_of_pos (by decide), List.dropWhile_cons_of_neg (by simp [hspace])]
  simp only [hd, scanInt, htext, hminus, hplus, Bool.or_self, Bool.false_eq_true, if_false, hall, hnone,
    hvalue, hstore]

theorem arguments_cons (n : ℕ) (ns : List ℕ) :
    arguments (n :: ns) = (32 :: decimal n) ++ arguments ns := rfl

/-- What follows an argument is a blank or nothing, so it does not lengthen the number. -/
theorem head_arguments (ns : List ℕ) : ∀ b ∈ (arguments ns).head?, isDigit b = false := by
  cases ns with
  | nil => simp [arguments]
  | cons n ns =>
    intro b hb
    obtain rfl : (32 : UInt8) = b := by simpa [arguments_cons] using hb
    rfl

/-- **The conversions undo printing.** -/
theorem scanInts_arguments {ns : List ℕ} (h : ∀ n ∈ ns, n < 2 ^ 31) :
    scanInts overlong ns.length (arguments ns) = ns.map Int32.ofNat := by
  induction ns with
  | nil => rfl
  | cons n ns ih =>
    have hn : n < 2 ^ 31 := h n List.mem_cons_self
    have hrest := ih fun m hm => h m (List.mem_cons_of_mem n hm)
    simp only [List.length_cons, scanInts, arguments_cons, List.map_cons]
    rw [scanInt_append _ _ (head_arguments ns), scanInt_decimal hn]
    simp only [List.nil_append, hrest]

end VhalClient.Lib.Scanf
