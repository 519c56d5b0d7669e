/-
# VhalClient.Input.Minitouch — printed commands are read back.

The README gives the touch protocol as lines: a letter, then decimal arguments behind blanks, ended by
a line feed.  `Command` is a command of that protocol with its arguments in range, `Command.line`
prints it, and `Command.send` is the direct call of the `Send*` operation it stands for.

A printed line has all its arguments, so it does not borrow from the text behind it
(`not_borrows_line`), although `onInputMessage` hands over more than the line.  The message is
therefore the run of its lines, and `interpret_line` reads each line back.
-/
import VhalClient.Input.Lines

namespace VhalClient.Input

open VhalClient.Lib.Scanf

variable (overlong : ℤ → Int32)

/-! ## Commands and their text -/

/-- The arguments of `d` and `m`. -/
structure ContactArgs where
  slot : Fin kMaxSlot
  x : Fin (kMaxPositionX + 1)
  y : Fin (kMaxPositionY + 1)
  pressure : Fin (kMaxPressure + 1)

inductive Command where
  | down (c : ContactArgs)
  | move (c : ContactArgs)
  | up (slot : Fin kMaxSlot)
  | commit
  | reset
  | wait (ms : { n : ℕ // 0 < n ∧ n < 2 ^ 31 })

def ContactArgs.numbers (c : ContactArgs) : List ℕ := [c.slot, c.x, c.y, c.pressure]

def Command.letter : Command → Char
  | .down _ => 'd'
  | .move _ => 'm'
  | .up _ => 'u'
  | .commit => 'c'
  | .reset => 'r'
  | .wait _ => 'w'

def Command.numbers : Command → List ℕ
  | .down c | .move c => c.numbers
  | .up slot => [slot]
  | .commit | .reset => []
  | .wait ms => [ms.val]

/-- The line of a command, without its line feed. -/
def Command.line (c : Command) : List UInt8 := c.letter.toUInt8 :: arguments c.numbers

/-- The commands as one message. -/
def messageOf (cmds : List Command) : List UInt8 := cmds.flatMap fun c => c.line ++ [10]

/-- The direct call.  `SendWait` only sleeps. -/
def Command.send (s : Receiver) : Command → Receiver
  | .down c => (sendDown s (.ofNat c.slot) (.ofNat c.x) (.ofNat c.y) (.ofNat c.pressure)).2
  | .move c => (sendMove s (.ofNat c.slot) (.ofNat c.x) (.ofNat c.y) (.ofNat c.pressure)).2
  | .up slot => (sendUp s (.ofNat slot)).2
  | .commit => (sendCommit s).2
  | .reset => (sendReset s).2
  | .wait _ => s

/-! ## A line is read back -/

theorem Command.lt_of_mem_numbers (c : Command) : ∀ n ∈ c.numbers, n < 2 ^ 31 := by
  have hcontact : ∀ args : ContactArgs, ∀ n ∈ args.numbers, n < 2 ^ 31 := by
    intro args n hn
    have hslot := args.slot.isLt
    have hx := args.x.isLt
    have hy := args.y.isLt
    have hp := args.pressure.isLt
    simp only [kMaxSlot, kMaxPositionX, kMaxPositionY, kMaxPressure] at hslot hx hy hp
    simp only [ContactArgs.numbers, List.mem_cons, List.not_mem_nil, or_false] at hn
    rcases hn with rfl | rfl | rfl | rfl <;> omega
  cases c with
  | down args => exact hcontact args
  | move args => exact hcontact args
  | up slot =>
    intro n hn
    obtain rfl : n = slot := by simpa [Command.numbers] using hn
    exact Nat.lt_trans slot.isLt (by decide)
  | commit => simp [Command.numbers]
  | reset => simp [Command.numbers]
  | wait ms =>
    intro n hn
    obtain rfl : n = ms.val := by simpa [Command.numbers] using hn
    exact ms.property.2

/-- The letter is that of the command, and its format has a conversion for every number. -/
theorem Command.arity_letter (c : Command) :
    (letterOf c.letter.toUInt8).arity = c.numbers.length := by
  cases c <;> rfl

/-- A line is printable text: no NUL, no line feed. -/
theorem Command.mem_line {c : Command} {b : UInt8} (hb : b ∈ c.line) : 32 ≤ b.toNat := by
  rw [Command.line, List.mem_cons] at hb
  rcases hb with rfl | hb
  · have hletter : Nat.ble 32 c.letter.toUInt8.toNat = true := by cases c <;> rfl
    exact Nat.le_of_ble_eq_true hletter
  · rw [arguments, List.mem_flatMap] at hb
    obtain ⟨n, -, hb⟩ := hb
    rw [List.mem_cons] at hb
    rcases hb with rfl | hb
    · decide
    · have hdigit := (isDigit_iff.mp (isDigit_decimal hb)).1
      omega

theorem Command.zero_notMem_line (c : Command) : 0 ∉ c.line := by
  intro h
  exact absurd (Command.mem_line h) (by decide)

theorem Command.scanInts_line (c : Command) :
    scanInts overlong (letterOf (c.line.headD 0)).arity c.line.tail = c.numbers.map Int32.ofNat := by
  rw [Command.line, List.headD_cons, List.tail_cons, c.arity_letter]
  exact scanInts_arguments c.lt_of_mem_numbers

/-- A number up to a bound passes the two comparisons of a range check. -/
theorem inRange {n bound : ℕ} (hn : n ≤ bound) (hb : bound < 2 ^ 31) :
    ¬ Int32.ofNat n < 0 ∧ ¬ bound < (Int32.ofNat n).toUInt32.toNat := by
  have hsmall : n < 2 ^ 31 := by omega
  refine ⟨?_, ?_⟩
  · rw [Int32.lt_iff_toInt_lt, Int32.toInt_ofNat_of_lt hsmall, show (0 : Int32).toInt = 0 from rfl]
    omega
  · rw [Int32.toUInt32_ofNat', UInt32.toNat_ofNat']
    omega

theorem badContact_contactArgs (c : ContactArgs) :
    badContact (.ofNat c.slot) (.ofNat c.x) (.ofNat c.y) (.ofNat c.pressure) = false := by
  have hslot := inRange (Nat.le_of_lt c.slot.isLt) (by decide)
  have hx := inRange (Nat.le_of_lt_succ c.x.isLt) (by decide)
  have hy := inRange (Nat.le_of_lt_succ c.y.isLt) (by decide)
  have hp := inRange (Nat.le_of_lt_succ c.pressure.isLt) (by decide)
  simp only [badContact, Bool.or_eq_false_iff, decide_eq_false_iff_not]
  exact ⟨⟨⟨⟨⟨⟨⟨hslot.1, hslot.2⟩, hx.1⟩, hx.2⟩, hy.1⟩, hy.2⟩, hp.1⟩, hp.2⟩

/-- **One line.** The printed command does what the direct call does. -/
theorem runCommand_line (s : Receiver) (c : Command) : runCommand overlong s c.line = c.send s := by
  have hargs : sscanf overlong (letterOf (c.line.headD 0)).arity c.line =
      c.numbers.map Int32.ofNat := by
    rw [sscanf, cStr_of_notMem c.zero_notMem_line, c.scanInts_line overlong]
  have hletter : letterOf (c.line.headD 0) = letterOf c.letter.toUInt8 := rfl
  rw [runCommand_eq, interpret]
  simp only [hargs]
  rw [hletter]
  cases c with
  | down args =>
    have hd : letterOf 'd'.toUInt8 = .down := rfl
    simp only [Command.letter, hd, touchOf, Command.numbers, ContactArgs.numbers, List.map_cons,
      List.getD_cons_zero, List.getD_cons_succ, badContact_contactArgs args]
    rfl
  | move args =>
    have hm : letterOf 'm'.toUInt8 = .move := rfl
    simp only [Command.letter, hm, touchOf, Command.numbers, ContactArgs.numbers, List.map_cons,
      List.getD_cons_zero, List.getD_cons_succ, badContact_contactArgs args]
    rfl
  | up slot =>
    have hu : letterOf 'u'.toUInt8 = .up := rfl
    have hslot := inRange (Nat.le_of_lt slot.isLt) (by decide)
    have hgood : badSlot (.ofNat slot) = false := by
      simp only [badSlot, Bool.or_eq_false_iff, decide_eq_false_iff_not]
      exact hslot
    simp only [Command.letter, hu, touchOf, Command.numbers, List.map_cons, List.getD_cons_zero, hgood]
    rfl
  | commit => rfl
  | reset => rfl
  | wait ms =>
    -- A wait leaves the state alone, accepted or not.
    have hw : letterOf 'w'.toUInt8 = .wait := rfl
    simp only [Command.letter, hw, touchOf]
    split <;> rfl

/-! ## A message is read back -/

/-- A line with all its arguments never looks at the text behind it. -/
theorem not_borrows_line (c : Command) (tail : List UInt8) : ¬ Borrows overlong c.line tail := by
  rintro ⟨-, hd, -⟩
  have hlt := length_lt_of_drained hd
  rw [c.scanInts_line overlong, List.length_map] at hlt
  exact absurd hlt (by rw [Command.line, List.headD_cons, c.arity_letter]; omega)

/-- One line and its line feed are one round. -/
theorem linesOf_line (c : Command) : linesOf (c.line ++ [10]) = [c.line] := by
  have hlf : ∀ b ∈ c.line, (b == 10) = false := by
    intro b hb
    rw [beq_eq_false_iff_ne]
    rintro rfl
    exact absurd (Command.mem_line hb) (by decide)
  have hfind : find (c.line ++ [10]) 10 0 = some c.line.length := by
    have hidx : (c.line ++ [10]).findIdx? (· == 10) = some c.line.length := by
      rw [List.findIdx?_append, List.findIdx?_eq_none_iff.mpr hlf]
      simp
    rw [find, List.drop_zero, hidx]
    simp
  have hnext : nextStart (c.line ++ [10]) c.line.length = (c.line ++ [10]).length := by
    rw [nextStart, List.getElem?_eq_none (by simp), if_neg (by simp)]
    simp
  have hend : find (c.line ++ [10]) 10 (nextStart (c.line ++ [10]) c.line.length) = none := by
    rw [hnext, find, List.drop_length]
    rfl
  have hrounds : roundsOf (c.line ++ [10]) = [(0, c.line.length)] :=
    (rounds_roundsOf _).unique (.line hfind (.done hend))
  rw [linesOf, hrounds]
  simp [ownLine, substr]

theorem head_messageOf (cmds : List Command) : (messageOf cmds).head? ≠ some 13 := by
  cases cmds with
  | nil => simp [messageOf]
  | cons c cmds =>
    have hhead : (messageOf (c :: cmds)).head? = some c.letter.toUInt8 := rfl
    rw [hhead, ne_eq, Option.some.injEq]
    intro hcr
    have hmem : c.letter.toUInt8 ∈ c.line := List.mem_cons_self
    rw [hcr] at hmem
    exact absurd (Command.mem_line hmem) (by decide)

theorem linesOf_messageOf (cmds : List Command) : linesOf (messageOf cmds) = cmds.map Command.line := by
  induction cmds with
  | nil => rfl
  | cons c cmds ih =>
    have hcons : messageOf (c :: cmds) = (c.line ++ [10]) ++ messageOf cmds := rfl
    rw [hcons, linesOf_append (by simp) (head_messageOf cmds), linesOf_line, ih]
    rfl

theorem noBorrow_messageOf (cmds : List Command) : NoBorrow overlong (messageOf cmds) := by
  intro r hr
  have hline : ownLine (messageOf cmds) r ∈ cmds.map Command.line := by
    rw [← linesOf_messageOf]
    exact List.mem_map_of_mem hr
  obtain ⟨c, -, hc⟩ := List.mem_map.mp hline
  rw [← hc]
  exact not_borrows_line overlong c _

/-- **Parsing undoes printing.** For every list of commands in range, from every state, one
`onInputMessage` call with their lines has the effect of the direct calls in order: the same contact
table and counters, and the same events. -/
theorem onInputMessage_messageOf (s : Receiver) (cmds : List Command) :
    (onInputMessage overlong s (messageOf cmds)).2 = cmds.foldl Command.send s := by
  have hown := (ownLines_iff_noBorrow overlong _).mpr (noBorrow_messageOf overlong cmds)
  rw [onInputMessage_of_ownLines overlong hown, linesOf_messageOf, List.foldl_map]
  refine List.foldl_ext _ _ s ?_
  intro t c _
  exact runCommand_line overlong t c

/-- The text of the README's tap: `d 0 10 10 50`, `c`, `u 0`, `c`. -/
example :
    messageOf [.down ⟨0, 10, 10, 50⟩, .commit, .up 0, .commit] =
      ascii ['d', ' ', '0', ' ', '1', '0', ' ', '1', '0', ' ', '5', '0', '\n', 'c', '\n', 'u', ' ',
        '0', '\n', 'c', '\n'] := by
  decide

end VhalClient.Input
