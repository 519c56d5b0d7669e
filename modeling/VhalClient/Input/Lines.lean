/-
# VhalClient.Input.Lines — which text a command of a message is read from.

`onInputMessage` splits at line feeds and hands `msg.substr(begin, end)` to `ProcessOneCommand`.  The
second argument of `substr` is a count, so from the second line on the command goes on behind its own
line feed, by as many bytes as stand before the line.  `sscanf` skips line feeds, so a line that runs
out of arguments takes them from there.

`Borrows line tail` names that event on the text alone: the conversions ran out of input on the line,
and the numbers found behind it complete the command to an accepted one.  `interpret_append_iff` says
that this is exactly when the longer text is read differently from the line, and
`concat_iff_noBorrow` is the resulting law for messages sent in one piece or in two.
-/
import VhalClient.Input.Receiver
import Mathlib.Data.List.GetD

namespace VhalClient.Input

open VhalClient.Lib.Scanf

variable (overlong : ℤ → Int32)

/-! ## A line and the text behind it -/

/-- The line of a round, without its line feed. -/
def ownLine (msg : List UInt8) (r : ℕ × ℕ) : List UInt8 := substr msg r.1 (r.2 - r.1)

/-- What the command of a round contains behind its own line. -/
def overrun (msg : List UInt8) (r : ℕ × ℕ) : List UInt8 := (msg.drop r.2).take r.1

/-- The line ran out of arguments, and the text behind it completes the command. -/
def Borrows (line tail : List UInt8) : Prop :=
  let letter := letterOf (line.headD 0)
  let own := scanInts overlong letter.arity line.tail
  0 ∉ line ∧ drained overlong letter.arity line.tail = true ∧
    (touchOf letter (own ++ scanInts overlong (letter.arity - own.length) (cStr tail))).1 = true

instance (line tail : List UInt8) : Decidable (Borrows overlong line tail) :=
  inferInstanceAs (Decidable (_ ∧ _ ∧ _))

theorem cStr_append (line tail : List UInt8) :
    cStr (line ++ tail) = if 0 ∈ line then cStr line else line ++ cStr tail := by
  unfold cStr
  induction line with
  | nil => simp
  | cons b line ih =>
    by_cases hb : b = 0
    · simp [hb]
    · have hb' : (0 : UInt8) ≠ b := fun h => hb h.symm
      simp only [List.cons_append, List.takeWhile_cons, bne_iff_ne, ne_eq, hb, not_false_eq_true,
        if_true, ih, List.mem_cons, hb', false_or]
      split <;> rfl

theorem cStr_of_notMem {line : List UInt8} (h : 0 ∉ line) : cStr line = line := by
  simpa [h, cStr] using cStr_append line []

/-- A refused command has no effect, whatever its letter. -/
theorem touchOf_of_refused {letter : Letter} {args : List Int32}
    (h : (touchOf letter args).1 ≠ true) : touchOf letter args = (false, .idle) := by
  cases letter
  case commit => exact absurd rfl h
  case reset => exact absurd rfl h
  case other => exact absurd rfl h
  all_goals
    simp only [touchOf] at h ⊢
    split at h
    · rw [if_pos ‹_›]
    · exact absurd rfl h

/-- A command with an argument missing is refused: the defaults fail the checks. -/
theorem touchOf_of_short {letter : Letter} {args : List Int32} (h : args.length < letter.arity) :
    touchOf letter args = (false, .idle) := by
  have hlast : letter.arity = 4 → args.getD 3 (-1) = -1 := by
    intro h4
    exact List.getD_eq_default _ _ (by omega)
  cases letter with
  | commit => simp [Letter.arity] at h
  | reset => simp [Letter.arity] at h
  | other => simp [Letter.arity] at h
  | up =>
    obtain rfl : args = [] := by simpa [Letter.arity] using h
    rfl
  | wait =>
    obtain rfl : args = [] := by simpa [Letter.arity] using h
    rfl
  | down =>
    simp only [touchOf, hlast rfl, badContact]
    rw [if_pos (by simp)]
  | move =>
    simp only [touchOf, hlast rfl, badContact]
    rw [if_pos (by simp)]

/-- A continuation that starts with a line feed, as every overrun does. -/
def Continues (tail : List UInt8) : Prop := tail = [] ∨ tail.head? = some 10

/-- The conversions of a line, read over the text behind it. -/
theorem sscanf_append (n : ℕ) {c : UInt8} {line tail : List UInt8} (h0 : 0 ∉ c :: line)
    (ht : Continues tail) :
    sscanf overlong n (c :: line ++ tail) =
      scanInts overlong n line ++
        if drained overlong n line then
          scanInts overlong (n - (scanInts overlong n line).length) (cStr tail)
        else [] := by
  have htext : cStr (c :: line ++ tail) = c :: (line ++ cStr tail) := by
    rw [cStr_append, if_neg h0]
    rfl
  have hnot : ∀ b ∈ (cStr tail).head?, isDigit b = false := by
    rcases ht with rfl | ht
    · simp [cStr]
    · cases tail with
      | nil => simp at ht
      | cons b tail =>
        obtain rfl : b = 10 := by simpa using ht
        simp [cStr, isDigit]
  rw [sscanf, htext, List.tail_cons, scanInts_append n line (cStr tail) hnot]

/-- A line that borrows is refused by itself and accepted with the text behind it. -/
theorem interpret_of_borrows {line tail : List UInt8} (ht : Continues tail)
    (hb : Borrows overlong line tail) :
    (interpret overlong (line ++ tail)).1 = true ∧ (interpret overlong line).1 = false := by
  obtain ⟨h0, hd, hacc⟩ := hb
  cases line with
  | nil =>
    have hother : letterOf (([] : List UInt8).headD 0) = .other := rfl
    rw [hother] at hd
    simp [Letter.arity, drained] at hd
  | cons c line =>
    simp only [List.headD_cons, List.tail_cons] at hd hacc
    refine ⟨?_, ?_⟩
    · simp only [interpret, List.cons_append, List.headD_cons]
      rw [← List.cons_append, sscanf_append overlong _ h0 ht, if_pos hd]
      exact hacc
    · simp only [interpret, List.headD_cons, sscanf, cStr_of_notMem h0, List.tail_cons]
      rw [touchOf_of_short (length_lt_of_drained hd)]

/-- Otherwise the text behind the line makes no difference. -/
theorem interpret_of_not_borrows {line tail : List UInt8} (ht : Continues tail)
    (hb : ¬ Borrows overlong line tail) :
    interpret overlong (line ++ tail) = interpret overlong line := by
  cases line with
  | nil =>
    -- An empty line: the letter is NUL or the line feed, and neither is a command.
    rcases ht with rfl | ht
    · rfl
    · cases tail with
      | nil => rfl
      | cons b tail =>
        obtain rfl : b = 10 := by simpa using ht
        rfl
  | cons c line =>
    by_cases h0 : 0 ∈ c :: line
    · -- A NUL ends the C string inside the line, so the text behind is never scanned.
      have htext : cStr (c :: line ++ tail) = cStr (c :: line) := by rw [cStr_append, if_pos h0]
      simp only [interpret, sscanf, htext]
      rfl
    · simp only [interpret, List.cons_append, List.headD_cons]
      rw [← List.cons_append, sscanf_append overlong _ h0 ht]
      have hown : sscanf overlong (letterOf c).arity (c :: line) =
          scanInts overlong (letterOf c).arity line := by
        rw [sscanf, cStr_of_notMem h0, List.tail_cons]
      by_cases hd : drained overlong (letterOf c).arity line = true
      · -- The line alone is refused, and the longer text is not completed either.
        rw [if_pos hd, hown, touchOf_of_short (length_lt_of_drained hd)]
        exact touchOf_of_refused fun hacc => hb ⟨h0, hd, hacc⟩
      · rw [if_neg hd, hown, List.append_nil]

/-- **Reading past the line.** A command is read like its own line exactly when the line does not
borrow from the text behind it. -/
theorem processOneCommand_append_iff (line : List UInt8) {tail : List UInt8} (ht : Continues tail) :
    (∀ s, processOneCommand overlong s (line ++ tail) = processOneCommand overlong s line) ↔
      ¬ Borrows overlong line tail := by
  constructor
  · intro h hb
    obtain ⟨hlong, hown⟩ := interpret_of_borrows overlong ht hb
    have hresult := congrArg Prod.fst (h {})
    rw [processOneCommand_eq, processOneCommand_eq, hlong, hown] at hresult
    exact Bool.noConfusion hresult
  · intro hb s
    rw [processOneCommand_eq, processOneCommand_eq, interpret_of_not_borrows overlong ht hb]

/-! ## The rounds of a message -/

theorem find_eq_some {msg : List UInt8} {b : UInt8} {start stop : ℕ}
    (h : find msg b start = some stop) :
    start ≤ stop ∧ stop < msg.length ∧ msg[stop]? = some b := by
  simp only [find, Option.map_eq_some_iff] at h
  obtain ⟨k, hk, rfl⟩ := h
  rw [List.findIdx?_eq_some_iff_getElem] at hk
  obtain ⟨hlt, hb, _⟩ := hk
  rw [List.length_drop] at hlt
  refine ⟨Nat.le_add_right _ _, by omega, ?_⟩
  rw [List.getElem_drop, beq_iff_eq] at hb
  rw [List.getElem?_eq_getElem (by omega), hb]

theorem find_eq_none {msg : List UInt8} {b : UInt8} {start : ℕ} (h : find msg b start = none)
    {k : ℕ} (hk : start ≤ k) : msg[k]? ≠ some b := by
  simp only [find, Option.map_eq_none_iff, List.findIdx?_eq_none_iff, beq_eq_false_iff_ne] at h
  intro hb
  refine h b ?_ rfl
  rw [List.mem_iff_getElem?]
  refine ⟨k - start, ?_⟩
  rw [List.getElem?_drop, Nat.add_sub_cancel' hk, hb]

/-- The rounds of the loop, without the fuel. -/
inductive Rounds (msg : List UInt8) : ℕ → List (ℕ × ℕ) → Prop
  | done {start : ℕ} : find msg 10 start = none → Rounds msg start []
  | line {start stop : ℕ} {rs : List (ℕ × ℕ)} :
      find msg 10 start = some stop → Rounds msg (nextStart msg stop) rs →
      Rounds msg start ((start, stop) :: rs)

theorem Rounds.unique {msg : List UInt8} {start : ℕ} {rs rs' : List (ℕ × ℕ)}
    (h : Rounds msg start rs) (h' : Rounds msg start rs') : rs = rs' := by
  induction h generalizing rs' with
  | done hnone =>
    cases h' with
    | done _ => rfl
    | line hsome _ => rw [hnone] at hsome; cases hsome
  | line hsome _ ih =>
    cases h' with
    | done hnone => rw [hsome] at hnone; cases hnone
    | line hsome' hrest =>
      rw [hsome] at hsome'
      cases hsome'
      rw [ih hrest]

theorem lt_nextStart (msg : List UInt8) (stop : ℕ) : stop < nextStart msg stop := by
  unfold nextStart
  split <;> omega

/-- Every round passes its line feed, so the length of the message is enough fuel. -/
theorem rounds_roundsFrom (msg : List UInt8) {fuel start : ℕ} (h : msg.length < fuel + start) :
    Rounds msg start (roundsFrom msg fuel start) := by
  induction fuel generalizing start with
  | zero =>
    refine .done ?_
    cases hf : find msg 10 start with
    | none => rfl
    | some stop =>
      obtain ⟨hle, hlt, _⟩ := find_eq_some hf
      omega
  | succ fuel ih =>
    rw [roundsFrom]
    cases hf : find msg 10 start with
    | none => exact .done hf
    | some stop =>
      have hnext := lt_nextStart msg stop
      obtain ⟨hle, _, _⟩ := find_eq_some hf
      exact .line hf (ih (by omega))

theorem rounds_roundsOf (msg : List UInt8) : Rounds msg 0 (roundsOf msg) :=
  rounds_roundsFrom msg (by omega)

/-- Every round lies inside the message and ends at a line feed. -/
theorem Rounds.mem {msg : List UInt8} {start : ℕ} {rs : List (ℕ × ℕ)} (h : Rounds msg start rs)
    {r : ℕ × ℕ} (hr : r ∈ rs) : r.1 ≤ r.2 ∧ r.2 < msg.length ∧ msg[r.2]? = some 10 := by
  induction h with
  | done => cases hr
  | line hsome _ ih =>
    rcases List.mem_cons.mp hr with rfl | hr
    · exact find_eq_some hsome
    · exact ih hr

/-- The command of a round is its own line, then the overrun. -/
theorem substr_eq_ownLine_append (msg : List UInt8) {r : ℕ × ℕ} (h : r.1 ≤ r.2) :
    substr msg r.1 r.2 = ownLine msg r ++ overrun msg r := by
  have hlen : r.2 = (r.2 - r.1) + r.1 := by omega
  unfold substr ownLine overrun substr
  conv_lhs => rw [hlen, List.take_add, List.drop_drop]
  rw [Nat.add_sub_cancel' h]

theorem overrun_continues {msg : List UInt8} {r : ℕ × ℕ} (h : msg[r.2]? = some 10) :
    Continues (overrun msg r) := by
  unfold overrun
  -- The first round starts at offset 0, where the end offset is the count as well.
  rcases Nat.eq_zero_or_pos r.1 with h0 | hpos
  · exact Or.inl (by simp [h0])
  · refine Or.inr ?_
    rw [List.head?_take, if_neg (by omega), List.head?_drop, h]

/-- Every command of the message is read from its own line only. -/
def OwnLines (msg : List UInt8) : Prop :=
  ∀ r ∈ roundsOf msg, ∀ s,
    processOneCommand overlong s (substr msg r.1 r.2) = processOneCommand overlong s (ownLine msg r)

/-- No line of the message borrows from the text behind it. -/
def NoBorrow (msg : List UInt8) : Prop :=
  ∀ r ∈ roundsOf msg, ¬ Borrows overlong (ownLine msg r) (overrun msg r)

instance (msg : List UInt8) : Decidable (NoBorrow overlong msg) :=
  inferInstanceAs (Decidable (∀ r ∈ roundsOf msg, _))

theorem ownLines_iff_noBorrow (msg : List UInt8) : OwnLines overlong msg ↔ NoBorrow overlong msg := by
  refine forall₂_congr ?_
  intro r hr
  obtain ⟨hle, _, hlf⟩ := (rounds_roundsOf msg).mem hr
  rw [substr_eq_ownLine_append msg hle]
  exact processOneCommand_append_iff overlong (ownLine msg r) (overrun_continues hlf)

/-- The lines of a message. -/
def linesOf (msg : List UInt8) : List (List UInt8) := (roundsOf msg).map (ownLine msg)

/-- A message whose commands are read from their own lines is the run of its lines. -/
theorem onInputMessage_of_ownLines {msg : List UInt8} (h : OwnLines overlong msg) (s : Receiver) :
    (onInputMessage overlong s msg).2 = (linesOf msg).foldl (runCommand overlong) s := by
  unfold onInputMessage commandsOf linesOf
  rw [List.foldl_map, List.foldl_map]
  refine List.foldl_ext _ _ s ?_
  intro t r hr
  rw [runCommand, runCommand, h r hr t]

/-! ## Concatenated messages -/

/-- Rounds behind a prefix are the rounds of the rest, shifted. -/
theorem Rounds.shift (a : List UInt8) {b : List UInt8} {start : ℕ} {rs : List (ℕ × ℕ)}
    (h : Rounds b start rs) :
    Rounds (a ++ b) (a.length + start) (rs.map fun r => (a.length + r.1, a.length + r.2)) := by
  have hfind : ∀ k, find (a ++ b) 10 (a.length + k) = (find b 10 k).map (a.length + ·) := by
    intro k
    unfold find
    rw [← List.drop_drop, List.drop_left, Option.map_map]
    congr 1
    funext n
    exact Nat.add_assoc _ _ _
  induction h with
  | done hnone => exact .done (by rw [hfind, hnone]; rfl)
  | @line start stop rs hsome _ ih =>
    have hnext : nextStart (a ++ b) (a.length + stop) = a.length + nextStart b stop := by
      unfold nextStart
      rw [List.getElem?_append_right (by omega),
        show a.length + stop + 1 - a.length = stop + 1 from by omega]
      split <;> omega
    refine .line (by rw [hfind, hsome]; rfl) ?_
    rw [hnext]
    exact ih

/-- Rounds of a message that ends in a line feed, continued by a message that does not start with
a carriage return. -/
theorem Rounds.append {a b : List UInt8} (ha : a.getLast? = some 10) (hb : b.head? ≠ some 13)
    {start : ℕ} (hstart : start ≤ a.length) {ra rb : List (ℕ × ℕ)} (hra : Rounds a start ra)
    (hrb : Rounds b 0 rb) :
    Rounds (a ++ b) start (ra ++ rb.map fun r => (a.length + r.1, a.length + r.2)) := by
  induction hra with
  | @done start hnone =>
    -- The line feed at the end of `a` is always found, so the rounds of `a` stop at its very end.
    have hend : start = a.length := by
      by_contra hne
      refine find_eq_none hnone (show start ≤ a.length - 1 by omega) ?_
      rw [← List.getLast?_eq_getElem?]
      exact ha
    subst hend
    simpa using hrb.shift a
  | @line start stop rs hsome _ ih =>
    obtain ⟨hle, hlt, _⟩ := find_eq_some hsome
    have hfind : find (a ++ b) 10 start = some stop := by
      unfold find at hsome ⊢
      rw [Option.map_eq_some_iff] at hsome ⊢
      obtain ⟨k, hk, hks⟩ := hsome
      refine ⟨k, ?_, hks⟩
      rw [List.drop_append_of_le_length (by omega), List.findIdx?_append, hk]
      rfl
    have hnext : nextStart (a ++ b) stop = nextStart a stop := by
      unfold nextStart
      rcases Nat.lt_or_ge (stop + 1) a.length with h | h
      · rw [List.getElem?_append_left h]
      · -- The last line feed of `a`: what is behind it is the head of `b`, no carriage return.
        have hlen : stop + 1 = a.length := by omega
        rw [hlen, List.getElem?_append_right (le_refl _), Nat.sub_self, List.getElem?_length,
          ← List.head?_eq_getElem?, if_neg hb]
        simp
    have hnextle : nextStart a stop ≤ a.length := by
      unfold nextStart
      split
      · have := (List.getElem?_eq_some_iff.mp ‹_›).1
        omega
      · omega
    refine .line hfind ?_
    rw [hnext]
    exact ih hnextle

/-- The lines of the joined text are those of the two parts. -/
theorem linesOf_append {a b : List UInt8} (ha : a.getLast? = some 10) (hb : b.head? ≠ some 13) :
    linesOf (a ++ b) = linesOf a ++ linesOf b := by
  have hrounds : roundsOf (a ++ b) =
      roundsOf a ++ (roundsOf b).map fun r => (a.length + r.1, a.length + r.2) :=
    (rounds_roundsOf (a ++ b)).unique
      (Rounds.append ha hb (Nat.zero_le _) (rounds_roundsOf a) (rounds_roundsOf b))
  unfold linesOf
  rw [hrounds, List.map_append, List.map_map]
  congr 1
  · refine List.map_congr_left ?_
    intro r hr
    obtain ⟨hle, hlt, _⟩ := (rounds_roundsOf a).mem hr
    unfold ownLine substr
    rw [List.drop_append_of_le_length (by omega), List.take_append_of_le_length]
    rw [List.length_drop]
    omega
  · refine List.map_congr_left ?_
    intro r _
    simp only [Function.comp_apply, ownLine, substr]
    rw [← List.drop_drop, List.drop_left, Nat.add_sub_add_left]

/-- Two messages in one call have the effect of two calls, and in all three calls every command is
read from its own line only. -/
structure SplitLaw (a b : List UInt8) : Prop where
  effect : ∀ s, (onInputMessage overlong s (a ++ b)).2 =
    (onInputMessage overlong (onInputMessage overlong s a).2 b).2
  joined : OwnLines overlong (a ++ b)
  first : OwnLines overlong a
  second : OwnLines overlong b

/-- **Splitting a message at a line feed.** For `a` ending in LF and `b` not starting with CR, the
law holds if and only if no line of the joined text or of the parts borrows from the text behind
it. -/
theorem splitLaw_iff_noBorrow (a b : List UInt8) (ha : a.getLast? = some 10)
    (hb : b.head? ≠ some 13) :
    SplitLaw overlong a b ↔
      NoBorrow overlong (a ++ b) ∧ NoBorrow overlong a ∧ NoBorrow overlong b := by
  simp only [← ownLines_iff_noBorrow]
  constructor
  · intro h
    exact ⟨h.joined, h.first, h.second⟩
  · rintro ⟨hab, hfirst, hsecond⟩
    refine ⟨?_, hab, hfirst, hsecond⟩
    intro s
    rw [onInputMessage_of_ownLines overlong hab, onInputMessage_of_ownLines overlong hfirst,
      onInputMessage_of_ownLines overlong hsecond, linesOf_append ha hb, List.foldl_append]

/-- A tap sent in two pieces. -/
theorem splitLaw_tap :
    SplitLaw (fun _ => 0)
      (ascii ['d', ' ', '0', ' ', '1', ' ', '1', ' ', '1', '\n', 'c', '\n'])
      (ascii ['u', ' ', '0', '\n']) :=
  (splitLaw_iff_noBorrow _ _ _ (by decide) (by decide)).mpr (by decide)

/-- `d 0` on the second line takes the coordinates from the third. -/
theorem not_splitLaw_short_line :
    ¬ ∀ (overlong : ℤ → Int32) (a b : List UInt8), a.getLast? = some 10 → b.head? ≠ some 13 →
      ∀ s, (onInputMessage overlong s (a ++ b)).2 =
        (onInputMessage overlong (onInputMessage overlong s a).2 b).2 := by
  intro h
  have hsame := h (fun _ => 0)
    (ascii ['x', 'x', 'x', 'x', 'x', 'x', 'x', 'x', '\n', 'd', ' ', '0', '\n'])
    (ascii ['1', ' ', '2', ' ', '3', '\n']) (by decide) (by decide) {}
  exact absurd (congrArg Receiver.mEnabledSlots hsame) (by decide)

end VhalClient.Input
