/-
# VhalClient.Lib.Yaml — indented YAML as a program that prints it sees it.

A `Block` is the list of entries of a map: scalars, flow sequences of scalars, and maps again.  `print` writes
a block with four blanks for each level, `stream` a list of documents with their markers, and `WellFormed`
keeps to texts that stand for themselves in YAML, and to documents that are not empty and not nested deeply.  A
`Node` is what a reader of such a document holds; looking up a key that is absent gives `undefined`, which is
not a map.

The reader is a third-party library, so it is a `Loader`, a parameter: a parser for whole streams and a
conversion for each number type.  `Documented` is what a program that relies on such a library may assume:
nesting follows indentation, flow sequences keep their order, and numbers that are in the range of their type
convert to their value, as decimals, in hexadecimal or with a decimal point.  `ReadsDecimals` and `RejectsMinus`
are about unsigned numbers only.  An exception is a `none`.
-/
import Mathlib.Data.String.Basic
import Mathlib.Data.Nat.Notation
import Mathlib.Algebra.Group.Int.Defs

namespace VhalClient.Lib.Yaml

/-- The entries of a map, in order. -/
inductive Block where
  | nil
  | scalar (key text : String) (rest : Block)
  | seq (key : String) (items : List String) (rest : Block)
  | map (key : String) (inner rest : Block)
  deriving DecidableEq, Repr

inductive Node where
  | undefined
  | scalar (text : String)
  | seq (items : List String)
  | map (entries : Block)
  deriving DecidableEq, Repr

namespace Block

/-- The entry of a key, the first if there are several. -/
def get : Block → String → Node
  | nil, _ => .undefined
  | scalar k text rest, key => if k = key then .scalar text else rest.get key
  | seq k items rest, key => if k = key then .seq items else rest.get key
  | map k inner rest, key => if k = key then .map inner else rest.get key

def keys : Block → List String
  | nil => []
  | scalar key _ rest => key :: rest.keys
  | seq key _ rest => key :: rest.keys
  | map key _ rest => key :: rest.keys

end Block

namespace Node

def isMap : Node → Bool
  | map _ => true
  | _ => false

/-- `operator[]` on a node that is a map or has no contents. -/
def get : Node → String → Node
  | map entries, key => entries.get key
  | _, _ => .undefined

/-- `operator[]` on any node: a scalar has no entries, and to ask it for one is an exception. -/
def subscript : Node → String → Option Node
  | scalar _, _ => none
  | node, key => some (node.get key)

theorem get_of_subscript {node entry : Node} {key : String} (h : node.subscript key = some entry) :
    node.get key = entry := by
  cases node with
  | scalar text => cases h
  | _ => exact Option.some.inj h

end Node

/-! ## Printing -/

def line (level : ℕ) (text : String) : List Char :=
  List.replicate (4 * level) ' ' ++ text.toList ++ ['\n']

/-- A flow sequence. -/
def flow (items : List String) : String := "[" ++ ", ".intercalate items ++ "]"

def Block.print (level : ℕ) : Block → List Char
  | nil => []
  | scalar key text rest => line level (key ++ ": " ++ text) ++ rest.print level
  | seq key items rest => line level (key ++ ": " ++ flow items) ++ rest.print level
  | map key inner rest => line level (key ++ ":") ++ inner.print (level + 1) ++ rest.print level

/-- A document behind the mark of its beginning. -/
def document (b : Block) : List Char := line 0 "\n---" ++ b.print 0

/-- The documents, from the second on behind the mark of an end. -/
def documents : List Block → List Char
  | [] => []
  | b :: bs => document b ++ bs.flatMap fun b => line 0 "\n..." ++ document b

/-- A file of comments and documents. -/
def stream (comments : List String) (bs : List Block) : List Char :=
  comments.flatMap (line 0) ++ documents bs

/-! ### Texts that stand for themselves -/

/-- The first of the characters may open a plain scalar that is not a null. -/
def opens : List Char → Bool
  | c :: cs => (c.isAlphanum && c != 'n' && c != 'N') || (c == '-' && (cs.head?.any Char.isDigit))
  | [] => false

/-- A character of a plain scalar. -/
def isPlainChar (c : Char) : Bool := c.isAlphanum || c == '_' || c == '-' || c == '.'

/-- A scalar without quotes. -/
def isPlain (text : String) : Bool := opens text.toList && text.toList.all isPlainChar

/-- The scalars without quotes that stand for no value. -/
def nullWords : List String := ["null", "Null", "NULL"]

@[simp] theorem mem_nullWords {key : String} :
    key ∈ nullWords ↔ key = "null" ∨ key = "Null" ∨ key = "NULL" := by
  simp [nullWords]

/-- A word of letters, digits and underscores, not a null, and no longer than a key on one line may be. -/
def isKey (key : String) : Bool :=
  key ≠ "" && key.toList.all (fun c => c.isAlphanum || c == '_') && !nullWords.contains key &&
    key.toList.length < 1024

/-- A comment of printable characters. -/
def isComment (text : String) : Bool :=
  text.toList.head? == some '#' && text.toList.all fun c => ' ' ≤ c && c ≤ '~'

namespace Block

/-- All keys are words, no two of a map are the same, and no map is empty. -/
def wellKeyed : Block → Bool
  | nil => true
  | scalar key _ rest => isKey key && !rest.keys.contains key && rest.wellKeyed
  | seq key items rest => isKey key && !rest.keys.contains key && !items.isEmpty && rest.wellKeyed
  | map key inner rest =>
    isKey key && !rest.keys.contains key && !inner.keys.isEmpty && inner.wellKeyed && rest.wellKeyed

/-- The scalars, also those in sequences. -/
def texts : Block → List String
  | nil => []
  | scalar _ text rest => text :: rest.texts
  | seq _ items rest => items ++ rest.texts
  | map _ inner rest => inner.texts ++ rest.texts

/-- How many maps stand in each other, at most. -/
def depth : Block → ℕ
  | nil => 0
  | scalar _ _ rest => rest.depth
  | seq _ _ rest => rest.depth
  | map _ inner rest => max (inner.depth + 1) rest.depth

/-- A document that its printing says all about: a map with entries, and no deeper than a reader goes. -/
structure WellFormed (b : Block) : Prop where
  wellKeyed : b.wellKeyed = true
  texts : ∀ text ∈ b.texts, isPlain text = true
  nonempty : b.keys ≠ []
  shallow : b.depth ≤ 64

end Block

/-! ### Numbers -/

def hexadecimal (n : ℕ) : String := "0x" ++ String.ofList ((Nat.toDigits 16 n).map Char.toUpper)

/-- The nearest integer to a quotient, the even one of two. -/
def roundDiv (a b : ℕ) : ℕ :=
  if 2 * (a % b) < b ∨ (2 * (a % b) = b ∧ a / b % 2 = 0) then a / b else a / b + 1

/-- A number of millionths, with its decimal point. -/
def fixedPoint (n : ℕ) : String :=
  toString (n / 10 ^ 6) ++ "." ++
    String.ofList (List.replicate (6 - (Nat.toDigits 10 (n % 10 ^ 6)).length) '0' ++
      Nat.toDigits 10 (n % 10 ^ 6))

/-- The millionths of the largest `float`. -/
def maxFloat : ℕ := (2 ^ 128 - 2 ^ 104) * 10 ^ 6

/-! ## Reading -/

/-- What a program uses of a YAML library.  A `float` is its 32 bits. -/
structure Loader where
  loadAll : List Char → Option (List Node)
  asUnsigned : String → Option UInt32
  asUnsignedLong : String → Option UInt64
  asInt : String → Option Int32
  asShort : String → Option Int16
  asFloat : String → Option UInt32

namespace Loader

/-- Unsigned decimals in range convert to their value. -/
structure ReadsDecimals (y : Loader) : Prop where
  asUnsigned_decimal : ∀ n < 2 ^ 32, y.asUnsigned (toString n) = some (UInt32.ofNat n)
  asUnsignedLong_decimal : ∀ n < 2 ^ 64, y.asUnsignedLong (toString n) = some (UInt64.ofNat n)

structure Documented (y : Loader) : Prop extends ReadsDecimals y where
  loadAll_stream : ∀ comments bs, (∀ c ∈ comments, isComment c = true) → (∀ b ∈ bs, b.WellFormed) →
    y.loadAll (stream comments bs) = some (bs.map .map)
  asUnsigned_hexadecimal : ∀ n < 2 ^ 32, y.asUnsigned (hexadecimal n) = some (UInt32.ofNat n)
  asInt_decimal : ∀ i : ℤ, -2 ^ 31 ≤ i → i < 2 ^ 31 → y.asInt (toString i) = some (Int32.ofInt i)
  asShort_decimal : ∀ i : ℤ, -2 ^ 15 ≤ i → i < 2 ^ 15 → y.asShort (toString i) = some (Int16.ofInt i)
  asFloat_fixedPoint : ∀ n ≤ maxFloat, (y.asFloat (fixedPoint n)).isSome

/-- A scalar with a minus sign does not convert to an unsigned type. -/
structure RejectsMinus (y : Loader) : Prop where
  asUnsigned : ∀ text, text.toList.head? = some '-' → y.asUnsigned text = none
  asUnsignedLong : ∀ text, text.toList.head? = some '-' → y.asUnsignedLong text = none

variable (y : Loader)

/-- `as`: what is no scalar has no value. -/
def scalarAs {α : Type} (convert : String → Option α) : Node → Option α
  | .scalar text => convert text
  | _ => none

end Loader

/-! ## Streams -/

theorem documents_append_singleton (bs : List Block) (b : Block) :
    documents (bs ++ [b]) =
      documents bs ++ (if bs = [] then [] else line 0 "\n...") ++ document b := by
  cases bs with
  | nil => simp [documents]
  | cons c bs => simp [documents]

/-! ### Numbers are plain -/

theorem exists_of_mem_toDigits {b n : ℕ} (hb : 1 < b) {c : Char} (hc : c ∈ Nat.toDigits b n) :
    ∃ d < b, c = Nat.digitChar d := by
  induction n using Nat.strong_induction_on with
  | _ n ih =>
    rw [Nat.toDigits_eq_if hb] at hc
    split at hc
    · rename_i hlt
      exact ⟨n, hlt, by simpa using hc⟩
    · rename_i hle
      rcases List.mem_append.mp hc with hc | hc
      · exact ih (n / b) (Nat.div_lt_self (by omega) hb) hc
      · exact ⟨n % b, Nat.mod_lt _ (by omega), by simpa using hc⟩

theorem isPlainChar_of_isDigit {c : Char} (h : c.isDigit = true) : isPlainChar c = true := by
  simp [isPlainChar, Char.isAlphanum, h]

theorem isPlain_of_isDigit {c : Char} {cs : List Char} {text : String} (htext : text.toList = c :: cs)
    (hc : c.isDigit = true) (hcs : ∀ d ∈ cs, isPlainChar d = true) : isPlain text = true := by
  have hne : c ≠ 'n' ∧ c ≠ 'N' := by
    constructor <;> rintro rfl <;> simp at hc
  have hopens : opens (c :: cs) = true := by
    simp [opens, Char.isAlphanum, hc, hne]
  rw [isPlain, htext, hopens, Bool.true_and, List.all_eq_true]
  intro d hd
  rcases List.mem_cons.mp hd with rfl | hd
  · exact isPlainChar_of_isDigit hc
  · exact hcs d hd

theorem isPlain_toString_nat (n : ℕ) : isPlain (toString n) = true := by
  have hlist : (toString n).toList = Nat.toDigits 10 n := Nat.toList_repr
  obtain ⟨c, cs, hcons⟩ := List.exists_cons_of_ne_nil (Nat.toDigits_ne_nil (n := n) (b := 10))
  have hdigit (d : Char) (hd : d ∈ c :: cs) : d.isDigit = true :=
    Nat.isDigit_of_mem_toDigits (by decide) (by decide) (hcons ▸ hd)
  exact isPlain_of_isDigit (hlist.trans hcons) (hdigit c (List.mem_cons_self ..))
    fun d hd => isPlainChar_of_isDigit (hdigit d (List.mem_cons_of_mem _ hd))

theorem isPlain_toString_int (i : ℤ) : isPlain (toString i) = true := by
  cases i with
  | ofNat n => exact isPlain_toString_nat n
  | negSucc n =>
    have hlist : (toString (Int.negSucc n)).toList = '-' :: Nat.toDigits 10 (n + 1) := by
      show ("-" ++ Nat.repr (n + 1)).toList = _
      simp
    obtain ⟨c, cs, hcons⟩ := List.exists_cons_of_ne_nil (Nat.toDigits_ne_nil (n := n + 1) (b := 10))
    have hdigit (d : Char) (hd : d ∈ c :: cs) : d.isDigit = true :=
      Nat.isDigit_of_mem_toDigits (by decide) (by decide) (hcons ▸ hd)
    rw [isPlain, hlist, hcons, Bool.and_eq_true, List.all_eq_true]
    refine ⟨by simp [opens, hdigit c (List.mem_cons_self ..)], ?_⟩
    intro d hd
    rcases List.mem_cons.mp hd with rfl | hd
    · rfl
    · exact isPlainChar_of_isDigit (hdigit d hd)

theorem isPlain_hexadecimal (n : ℕ) : isPlain (hexadecimal n) = true := by
  have hlist : (hexadecimal n).toList = '0' :: 'x' :: (Nat.toDigits 16 n).map Char.toUpper := by
    simp [hexadecimal]
  refine isPlain_of_isDigit hlist rfl ?_
  intro d hd
  rcases List.mem_cons.mp hd with rfl | hd
  · rfl
  · obtain ⟨c, hc, rfl⟩ := List.mem_map.mp hd
    obtain ⟨k, hk, rfl⟩ := exists_of_mem_toDigits (by decide) hc
    have hall : ∀ k < 16, isPlainChar (Nat.digitChar k).toUpper = true := by decide
    exact hall k hk

theorem isPlain_fixedPoint (n : ℕ) : isPlain (fixedPoint n) = true := by
  obtain ⟨c, cs, hcons⟩ := List.exists_cons_of_ne_nil (Nat.toDigits_ne_nil (n := n / 10 ^ 6) (b := 10))
  have hdigit (m : ℕ) (d : Char) (hd : d ∈ Nat.toDigits 10 m) : d.isDigit = true :=
    Nat.isDigit_of_mem_toDigits (by decide) (by decide) hd
  have hlist : (fixedPoint n).toList = c :: (cs ++ '.' ::
      (List.replicate (6 - (Nat.toDigits 10 (n % 10 ^ 6)).length) '0' ++ Nat.toDigits 10 (n % 10 ^ 6))) := by
    have hwhole : (toString (n / 10 ^ 6)).toList = c :: cs := Nat.toList_repr.trans hcons
    simp only [fixedPoint, String.toList_append, hwhole, String.toList_ofList]
    simp
  refine isPlain_of_isDigit hlist (hdigit (n / 10 ^ 6) c (hcons ▸ List.mem_cons_self ..)) ?_
  intro d hd
  rcases List.mem_append.mp hd with hd | hd
  · exact isPlainChar_of_isDigit (hdigit (n / 10 ^ 6) d (hcons ▸ List.mem_cons_of_mem _ hd))
  rcases List.mem_cons.mp hd with rfl | hd
  · rfl
  rcases List.mem_append.mp hd with hd | hd
  · rw [List.eq_of_mem_replicate hd]
    rfl
  · exact isPlainChar_of_isDigit (hdigit _ d hd)

end VhalClient.Lib.Yaml
