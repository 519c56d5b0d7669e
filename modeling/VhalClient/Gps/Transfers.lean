/-
# VhalClient.Gps.Transfers — `Write` and `Read` of `VirtualGpsReceiver`, call by call.

The two functions are one loop around another: the inner one makes a system call again while it is
interrupted, the outer one goes on until nothing is left, and the counter `attempt` belongs to both.  Here
every call is kept, with its place in the buffer and the counter at that moment; `read_eq` says that this
`Read` is the one the worker makes.  The counter is 32 bits wide and unsigned as in the code, the budget of
`Lib.Transfer` is a natural number: that the calls of the code are those of a `Transfer`
(`transfer_loop`) is what shows that the counter is never decremented at 0.
-/
import Mathlib.Data.Stream.Init
import VhalClient.Gps.GpsReceiver
import VhalClient.Lib.Transfer

namespace VhalClient.Gps

open VhalClient.Lib

/-! ## The loops -/

/-- What a `write` or a `read` returned: a number of bytes, which is one more than `more` and at most what was
asked for; 0; -1 with `errno`, which is `EINTR` or another. -/
inductive Ret where
  | bytes (more : ℕ)
  | closed (strerror : String)
  | eintr (strerror : String)
  | error (strerror : String)

def Sys.ret : Sys → Ret
  | .bytes _ bs => .bytes bs.length
  | .closed e => .closed e
  | .eintr e => .eintr e
  | .error e => .error e

/-- A system call of one of the two loops, the locals as they were when it was made, and the answer. -/
structure SysCall (α : Type) where
  offset : ℕ
  left : ℕ
  attempt : UInt32
  answer : α

/-- The bytes a call moved. -/
def SysCall.size {α : Type} (ret : α → Ret) (c : SysCall α) : ℕ :=
  match ret c.answer with
  | .bytes more => min (more + 1) c.left
  | _ => 0

/-- What came of the inner loop: its calls, the last answer, the counter, and the answers to come. -/
structure Retried (α : Type) where
  calls : List (SysCall α)
  last : α
  attempt : UInt32
  answers : Stream' α

/-- What came of a `Write` or a `Read`. -/
structure Transferred (α : Type) where
  result : ℤ × String
  calls : List (SysCall α)
  receiver : Receiver

variable {α : Type} (ret : α → Ret)

/-- `do ... while (size < 0 && errno == EINTR && (--attempt > 0))`. -/
def retries (offset left : ℕ) (attempt : UInt32) (answers : Stream' α) : Retried α :=
  let call : SysCall α := ⟨offset, left, attempt, answers.head⟩
  match ret answers.head with
  | .eintr _ =>
    if 0 < attempt - 1 then
      let r := retries offset left (attempt - 1) answers.tail
      { r with calls := call :: r.calls }
    else ⟨[call], answers.head, attempt - 1, answers.tail⟩
  | _ => ⟨[call], answers.head, attempt, answers.tail⟩
termination_by (attempt - 1).toNat
decreasing_by
  have hpos : 0 < (attempt - 1).toNat := by simpa [UInt32.lt_iff_toNat_lt] using ‹0 < attempt - 1›
  have hle : 1 ≤ attempt - 1 := by
    rw [UInt32.le_iff_toNat_le]
    exact hpos
  rw [UInt32.toNat_sub_of_le _ _ hle]
  exact Nat.sub_lt hpos Nat.one_pos

/-- `while (left > 0)`. -/
def transferLoop (offset left : ℕ) (size : ℤ) (attempt : UInt32) (answers : Stream' α) (s : Receiver) :
    Transferred α :=
  if left = 0 then ⟨((if 0 < offset then (offset : ℤ) else size), ""), [], s⟩
  else
    let r := retries ret offset left attempt answers
    match ret r.last with
    | .closed e => ⟨(0, e), r.calls, s.disconnect.2⟩
    | .eintr e => ⟨(-1, e), r.calls, s⟩
    | .error e => ⟨(-1, e), r.calls, s⟩
    | .bytes more =>
      let size := min (more + 1) left
      let t := transferLoop (offset + size) (left - size) size r.attempt r.answers s
      { t with calls := r.calls ++ t.calls }
termination_by left
decreasing_by omega

namespace Receiver

def write (buf : List UInt8) (answers : Stream' Ret) (s : Receiver) : Transferred Ret :=
  transferLoop id 0 buf.length 0 100 answers s

/-- `Read`, with its calls. -/
def readCalls (len : ℕ) (answers : Stream' Sys) (s : Receiver) : Transferred Sys :=
  transferLoop Sys.ret 0 len 0 100 answers s

end Receiver

/-- What `write` took from the buffer, in the order of the calls: each is given `buf + offset`. -/
def accepted (buf : List UInt8) (calls : List (SysCall Ret)) : List UInt8 :=
  calls.flatMap fun c => (buf.drop c.offset).take (c.size id)

/-- The bytes `read` delivers. -/
def SysCall.delivered (c : SysCall Sys) : List UInt8 :=
  match c.answer with
  | .bytes b bs => (b :: bs).take c.left
  | _ => []

/-- The buffer behind the calls of a `Read`: each stores at `buf + offset`. -/
def stored (buf : List UInt8) (calls : List (SysCall Sys)) : List UInt8 :=
  calls.foldl (fun buf c => storeAt c.offset c.delivered buf) buf

/-! ## The calls are those of a transfer -/

/-- What of a call the transfer is about. -/
def SysCall.piece (c : SysCall α) : Piece := ⟨c.offset, c.left, c.attempt.toNat, c.size ret⟩

theorem toNat_pred {w : UInt32} (h : 0 < w) : w.toNat = (w - 1).toNat + 1 := by
  have hpos : 0 < w.toNat := by simpa [UInt32.lt_iff_toNat_lt] using h
  have hle : (1 : UInt32) ≤ w := by
    rw [UInt32.le_iff_toNat_le]
    exact hpos
  rw [UInt32.toNat_sub_of_le _ _ hle]
  exact (Nat.sub_add_cancel hpos).symm

variable {ret}

/-- An interrupted call moves nothing, whether it is the last one or not. -/
theorem piece_of_eintr (offset left : ℕ) (attempt : UInt32) {answer : α} {e : String}
    (h : ret answer = .eintr e) :
    SysCall.piece ret ⟨offset, left, attempt, answer⟩ = ⟨offset, left, attempt.toNat, 0⟩ := by
  simp [SysCall.piece, SysCall.size, h]

/-- The inner loop behind which bytes were moved. -/
theorem transfer_retries_move {offset left : ℕ} (hleft : 0 < left) {attempt : UInt32} (hatt : 0 < attempt)
    {answers : Stream' α} {more : ℕ}
    (hlast : ret (retries ret offset left attempt answers).last = .bytes more) :
    0 < (retries ret offset left attempt answers).attempt ∧
      ∀ {calls whole},
        Transfer (SysCall.piece ret) (offset + min (more + 1) left) (left - min (more + 1) left)
          (retries ret offset left attempt answers).attempt.toNat calls whole →
        Transfer (SysCall.piece ret) offset left attempt.toNat
          ((retries ret offset left attempt answers).calls ++ calls) whole := by
  fun_induction retries ret offset left attempt answers with
  | case1 attempt answers call e heintr hpos r ih =>
    obtain ⟨hrest, hcalls⟩ := ih hpos hlast
    refine ⟨hrest, ?_⟩
    intro calls whole htail
    have hpiece := piece_of_eintr offset left attempt heintr
    rw [toNat_pred hatt] at hpiece ⊢
    exact .again hpiece (by simpa [UInt32.lt_iff_toNat_lt] using hpos) (hcalls htail)
  | case2 attempt answers call e heintr hzero =>
    simp [heintr] at hlast
  | case3 attempt answers call hno =>
    refine ⟨hatt, ?_⟩
    intro calls whole htail
    apply Transfer.move _ _ _ htail
    · simp [SysCall.piece, SysCall.size, call, hlast]
    · omega
    · omega

/-- The inner loop behind which the outer one is left. -/
theorem transfer_retries_stop {offset left : ℕ} (hleft : 0 < left) {attempt : UInt32} (hatt : 0 < attempt)
    {answers : Stream' α}
    (hlast : ∀ more, ret (retries ret offset left attempt answers).last ≠ .bytes more) :
    Transfer (SysCall.piece ret) offset left attempt.toNat
      (retries ret offset left attempt answers).calls false := by
  fun_induction retries ret offset left attempt answers with
  | case1 attempt answers call e heintr hpos r ih =>
    have hpiece := piece_of_eintr offset left attempt heintr
    rw [toNat_pred hatt] at hpiece ⊢
    exact .again hpiece (by simpa [UInt32.lt_iff_toNat_lt] using hpos) (ih hpos hlast)
  | case2 attempt answers call e heintr hzero => exact .stop (piece_of_eintr offset left attempt heintr) hleft
  | case3 attempt answers call hno =>
    apply Transfer.stop _ hleft
    -- `hlast` excludes the one answer with which the call would have moved something.
    simp only [SysCall.piece, SysCall.size, call]

/-- **The calls of the loop are those of a transfer**, and the result says whether it got to its end. -/
theorem transfer_loop (ret : α → Ret) (offset left : ℕ) (size : ℤ) {attempt : UInt32} (hatt : 0 < attempt)
    (answers : Stream' α) (s : Receiver) :
    ∃ whole,
      Transfer (SysCall.piece ret) offset left attempt.toNat
        (transferLoop ret offset left size attempt answers s).calls whole ∧
      if whole then
        (transferLoop ret offset left size attempt answers s).result.1 =
          if 0 < offset + left then ((offset + left : ℕ) : ℤ) else size
      else (transferLoop ret offset left size attempt answers s).result.1 ≤ 0 := by
  fun_induction transferLoop ret offset left size attempt answers s with
  | case1 offset size attempt answers => exact ⟨true, .done offset attempt.toNat, by simp⟩
  | case2 offset left size attempt answers hleft r e hlast =>
    refine ⟨false, transfer_retries_stop (by omega) hatt ?_, by simp⟩
    intro more hmore
    exact absurd (hlast.symm.trans hmore) (by simp)
  | case3 offset left size attempt answers hleft r e hlast =>
    refine ⟨false, transfer_retries_stop (by omega) hatt ?_, by simp⟩
    intro more hmore
    exact absurd (hlast.symm.trans hmore) (by simp)
  | case4 offset left size attempt answers hleft r e hlast =>
    refine ⟨false, transfer_retries_stop (by omega) hatt ?_, by simp⟩
    intro more hmore
    exact absurd (hlast.symm.trans hmore) (by simp)
  | case5 offset left size attempt answers hleft r more hlast n t ih =>
    obtain ⟨hrest, hcalls⟩ := transfer_retries_move (by omega) hatt hlast
    obtain ⟨whole, htail, hresult⟩ := ih hrest
    refine ⟨whole, hcalls htail, ?_⟩
    have hsum : offset + n + (left - n) = offset + left := by omega
    have hpos : 0 < offset + left := by omega
    rw [hsum, if_pos hpos] at hresult
    rw [if_pos hpos]
    exact hresult

/-! ### The calls have the answers in order -/

/-- The calls of the inner loop take their answers one by one, and the last one is what it leaves with. -/
theorem answers_retries (ret : α → Ret) (offset left : ℕ) (attempt : UInt32) (answers : Stream' α) :
    (retries ret offset left attempt answers).calls.map SysCall.answer ++ₛ
        (retries ret offset left attempt answers).answers = answers ∧
      ∃ c ∈ (retries ret offset left attempt answers).calls,
        c.answer = (retries ret offset left attempt answers).last := by
  fun_induction retries ret offset left attempt answers with
  | case1 attempt answers call e heintr hpos r ih =>
    obtain ⟨htail, c, hc, hlast⟩ := ih
    refine ⟨?_, c, List.mem_cons_of_mem call hc, hlast⟩
    rw [List.map_cons, Stream'.cons_append_stream, htail]
    exact Stream'.eta answers
  | case2 attempt answers call e heintr hzero =>
    exact ⟨Stream'.append_stream_head_tail answers, call, List.mem_cons_self, rfl⟩
  | case3 attempt answers call hno =>
    exact ⟨Stream'.append_stream_head_tail answers, call, List.mem_cons_self, rfl⟩

theorem answers_loop (ret : α → Ret) (offset left : ℕ) (size : ℤ) (attempt : UInt32) (answers : Stream' α)
    (s : Receiver) :
    ∃ later,
      (transferLoop ret offset left size attempt answers s).calls.map SysCall.answer ++ₛ later = answers := by
  fun_induction transferLoop ret offset left size attempt answers s with
  | case1 offset size attempt answers => exact ⟨answers, rfl⟩
  | case2 offset left size attempt answers hleft r e hlast =>
    exact ⟨r.answers, (answers_retries ret offset left attempt answers).1⟩
  | case3 offset left size attempt answers hleft r e hlast =>
    exact ⟨r.answers, (answers_retries ret offset left attempt answers).1⟩
  | case4 offset left size attempt answers hleft r e hlast =>
    exact ⟨r.answers, (answers_retries ret offset left attempt answers).1⟩
  | case5 offset left size attempt answers hleft r more hlast n t ih =>
    obtain ⟨later, hlater⟩ := ih
    refine ⟨later, ?_⟩
    rw [List.map_append, Stream'.append_append_stream, hlater]
    exact (answers_retries ret offset left attempt answers).1

/-- If every call moved something, the loop went to its end. -/
theorem result_of_served (ret : α → Ret) (offset left : ℕ) (size : ℤ) (attempt : UInt32) (answers : Stream' α)
    (s : Receiver)
    (hserved : ∀ c ∈ (transferLoop ret offset left size attempt answers s).calls,
      ∃ more, ret c.answer = .bytes more) :
    (transferLoop ret offset left size attempt answers s).result.1 =
      if 0 < offset + left then ((offset + left : ℕ) : ℤ) else size := by
  have hbytes {offset left : ℕ} {attempt : UInt32} {answers : Stream' α}
      (h : ∀ c ∈ (retries ret offset left attempt answers).calls, ∃ more, ret c.answer = .bytes more) :
      ∃ more, ret (retries ret offset left attempt answers).last = .bytes more := by
    obtain ⟨-, c, hc, hlast⟩ := answers_retries ret offset left attempt answers
    exact hlast ▸ h c hc
  fun_induction transferLoop ret offset left size attempt answers s with
  | case1 offset size attempt answers => rw [Nat.add_zero]
  | case2 offset left size attempt answers hleft r e hlast =>
    obtain ⟨more, hmore⟩ := hbytes hserved
    exact absurd (hlast.symm.trans hmore) (by simp)
  | case3 offset left size attempt answers hleft r e hlast =>
    obtain ⟨more, hmore⟩ := hbytes hserved
    exact absurd (hlast.symm.trans hmore) (by simp)
  | case4 offset left size attempt answers hleft r e hlast =>
    obtain ⟨more, hmore⟩ := hbytes hserved
    exact absurd (hlast.symm.trans hmore) (by simp)
  | case5 offset left size attempt answers hleft r more hlast n t ih =>
    have hsum : offset + n + (left - n) = offset + left := by omega
    have hpos : 0 < offset + left := by omega
    have hrest := ih fun c hc => hserved c (List.mem_append_right _ hc)
    rw [hsum, if_pos hpos] at hrest
    rw [if_pos hpos]
    exact hrest

/-! ### The worker's `Read` is this one -/

theorem retry_eq (offset left : ℕ) (attempt : UInt32) (answers : Stream' Sys) :
    Receiver.retry attempt answers =
      ((retries Sys.ret offset left attempt answers).last,
        (retries Sys.ret offset left attempt answers).attempt,
        (retries Sys.ret offset left attempt answers).answers) := by
  fun_induction retries Sys.ret offset left attempt answers with
  | case1 attempt answers call e heintr hpos r ih =>
    unfold Receiver.retry
    cases h : answers.head with
    | eintr e' => simpa [h, hpos] using ih
    | _ => simp [h, Sys.ret] at heintr
  | case2 attempt answers call e heintr hzero =>
    unfold Receiver.retry
    cases h : answers.head with
    | eintr e' => simp [hzero]
    | _ => simp [h, Sys.ret] at heintr
  | case3 attempt answers call hno =>
    unfold Receiver.retry
    cases h : answers.head with
    | eintr e' => exact absurd (hno e') (by simp [h, Sys.ret])
    | _ => simp

theorem length_delivered (c : SysCall Sys) : c.delivered.length = (c.piece Sys.ret).moved := by
  unfold SysCall.delivered SysCall.piece SysCall.size
  cases c.answer <;> simp [Sys.ret, Nat.min_comm]

/-- The calls of the inner loop before the last deliver nothing. -/
theorem delivered_retries (offset left : ℕ) (attempt : UInt32) (answers : Stream' Sys) :
    (retries Sys.ret offset left attempt answers).calls.flatMap SysCall.delivered =
      SysCall.delivered ⟨offset, left, attempt, (retries Sys.ret offset left attempt answers).last⟩ := by
  fun_induction retries Sys.ret offset left attempt answers with
  | case1 attempt answers call e heintr hpos r ih =>
    have hnone : call.delivered = [] := by
      cases h : answers.head <;> simp [call, SysCall.delivered, h, Sys.ret] at heintr ⊢
    rw [List.flatMap_cons, hnone, List.nil_append, ih]
    rfl
  | case2 attempt answers call e heintr hzero => simp [call, SysCall.delivered]
  | case3 attempt answers call hno => simp [call, SysCall.delivered]

theorem readLoop_eq (left : ℕ) (size : ℤ) (attempt : UInt32) (answers : Stream' Sys) (buf : List UInt8)
    (s : Receiver) :
    s.readLoop left size attempt answers buf =
      (((transferLoop Sys.ret buf.length left size attempt answers s).result,
        buf ++ (transferLoop Sys.ret buf.length left size attempt answers s).calls.flatMap SysCall.delivered),
        (transferLoop Sys.ret buf.length left size attempt answers s).receiver) := by
  induction left using Nat.strong_induction_on generalizing size attempt answers buf with
  | _ left ih =>
    rw [Receiver.readLoop, transferLoop]
    split
    · simp
    · rw [retry_eq buf.length left]
      have hdelivered := delivered_retries buf.length left attempt answers
      generalize retries Sys.ret buf.length left attempt answers = r at hdelivered ⊢
      cases hlast : r.last with
      | closed e => simp [Sys.ret, hlast, hdelivered, SysCall.delivered]
      | eintr e => simp [Sys.ret, hlast, hdelivered, SysCall.delivered]
      | error e => simp [Sys.ret, hlast, hdelivered, SysCall.delivered]
      | bytes b bs =>
        rename_i hleft
        have hgot : (b :: bs.take (left - 1)).length = min (bs.length + 1) left := by
          simp only [List.length_cons, List.length_take]
          omega
        have hlen : (buf ++ b :: bs.take (left - 1)).length = buf.length + min (bs.length + 1) left := by
          rw [List.length_append, hgot]
        dsimp only [Sys.ret]
        rw [hgot, ih (left - min (bs.length + 1) left) (by omega), hlen]
        have htake : (b :: bs).take left = b :: bs.take (left - 1) := List.take_cons (Nat.pos_of_ne_zero hleft)
        simp [hdelivered, SysCall.delivered, hlast, htake]

theorem Receiver.read_eq (len : ℕ) (answers : Stream' Sys) (s : Receiver) :
    s.read len answers =
      (((s.readCalls len answers).result, (s.readCalls len answers).calls.flatMap SysCall.delivered),
        (s.readCalls len answers).receiver) := by
  rw [Receiver.read, readLoop_eq]
  rfl

/-! ## What a transfer comes to -/

/-- A transfer of `len` bytes with these calls, of which the caller gets to know `res`: the calls have the answers
in their order and are bounded, the counter was at least 1 whenever one was made, and `res` is `len` or not
positive, according to whether all bytes were moved, as they are if no call comes back without any. -/
structure Settles (ret : α → Ret) (answers : Stream' α) (len moved : ℕ) (calls : List (SysCall α)) (res : ℤ) :
    Prop where
  answered : ∃ later, calls.map SysCall.answer ++ₛ later = answers
  calls_le : calls.length ≤ len + 100
  attempts : ∀ c ∈ calls, 1 ≤ c.attempt.toNat ∧ c.attempt.toNat ≤ 100
  moved_le : moved ≤ len
  whole : 0 < len → (res = len ↔ moved = len)
  short : 0 < len → moved ≠ len → res ≤ 0
  served : (∀ c ∈ calls, ∃ more, ret c.answer = .bytes more) → moved = len ∧ res = len

theorem settles_loop (len : ℕ) (answers : Stream' α) (s : Receiver) :
    Settles ret answers len (movedBy (SysCall.piece ret) (transferLoop ret 0 len 0 100 answers s).calls)
      (transferLoop ret 0 len 0 100 answers s).calls (transferLoop ret 0 len 0 100 answers s).result.1 := by
  obtain ⟨whole, htransfer, hresult⟩ := transfer_loop ret 0 len 0 (show (0 : UInt32) < 100 by decide) answers s
  rw [show (100 : UInt32).toNat = 100 from rfl] at htransfer
  have hwhole := htransfer.whole_iff
  refine ⟨answers_loop ret 0 len 0 100 answers s, htransfer.length_le, ?_, htransfer.movedBy_le, ?_, ?_, ?_⟩
  · exact htransfer.budget_bounds (by decide)
  · intro hlen
    rw [← hwhole]
    cases whole with
    | true => simpa [hlen] using hresult
    | false =>
      have hneg : (transferLoop ret 0 len 0 100 answers s).result.1 ≤ 0 := by simpa using hresult
      constructor
      · intro heq
        omega
      · intro h
        cases h
  · intro hlen hmoved
    cases whole with
    | true => exact absurd (hwhole.mp rfl) hmoved
    | false => simpa using hresult
  · intro hserved
    have hres := result_of_served ret 0 len 0 100 answers s hserved
    rw [Nat.zero_add] at hres
    rcases Nat.eq_zero_or_pos len with rfl | hlen
    · exact ⟨Nat.le_zero.mp htransfer.movedBy_le, hres⟩
    · rw [if_pos hlen] at hres
      cases whole with
      | true => exact ⟨hwhole.mp rfl, hres⟩
      | false =>
        have hneg : (transferLoop ret 0 len 0 100 answers s).result.1 ≤ 0 := by simpa using hresult
        omega

/-- **`Write` hands the socket a prefix of the buffer, `Read` fills a prefix of it, and both report it as they
should**, for every buffer and every sequence of answers, within the calls the buffer and the counter allow. -/
theorem transfers_settle :
    (∀ (buf : List UInt8) (answers : Stream' Ret) (s : Receiver),
      accepted buf (s.write buf answers).calls <+: buf ∧
      Settles id answers buf.length (accepted buf (s.write buf answers).calls).length (s.write buf answers).calls
        (s.write buf answers).result.1) ∧
    (∀ (buf : List UInt8) (answers : Stream' Sys) (s : Receiver),
      let got := (s.readCalls buf.length answers).calls.flatMap SysCall.delivered
      s.read buf.length answers =
        (((s.readCalls buf.length answers).result, got), (s.readCalls buf.length answers).receiver) ∧
      stored buf (s.readCalls buf.length answers).calls = got ++ buf.drop got.length ∧
      Settles Sys.ret answers buf.length got.length (s.readCalls buf.length answers).calls
        (s.readCalls buf.length answers).result.1) := by
  constructor
  · intro buf answers s
    obtain ⟨whole, htransfer, -⟩ :=
      transfer_loop id 0 buf.length 0 (show (0 : UInt32) < 100 by decide) answers s
    have haccepted : accepted buf (s.write buf answers).calls =
        buf.take (movedBy (SysCall.piece id) (s.write buf answers).calls) := htransfer.flatMap_window buf
    have hsettles : Settles id answers buf.length (movedBy (SysCall.piece id) (s.write buf answers).calls)
        (s.write buf answers).calls (s.write buf answers).result.1 := settles_loop buf.length answers s
    have hlen : (accepted buf (s.write buf answers).calls).length =
        movedBy (SysCall.piece id) (s.write buf answers).calls := by
      rw [haccepted, List.length_take_of_le hsettles.moved_le]
    rw [hlen]
    refine ⟨?_, hsettles⟩
    rw [haccepted]
    exact List.take_prefix _ buf
  · intro buf answers s
    obtain ⟨whole, htransfer, -⟩ :=
      transfer_loop Sys.ret 0 buf.length 0 (show (0 : UInt32) < 100 by decide) answers s
    have hstored : stored buf (s.readCalls buf.length answers).calls =
        storeAt 0 ((s.readCalls buf.length answers).calls.flatMap SysCall.delivered) buf :=
      htransfer.foldl_storeAt (fun c _ => length_delivered c) (Nat.zero_add buf.length).le
    have hsettles : Settles Sys.ret answers buf.length
        (movedBy (SysCall.piece Sys.ret) (s.readCalls buf.length answers).calls)
        (s.readCalls buf.length answers).calls (s.readCalls buf.length answers).result.1 :=
      settles_loop buf.length answers s
    have hlen : ((s.readCalls buf.length answers).calls.flatMap SysCall.delivered).length =
        movedBy (SysCall.piece Sys.ret) (s.readCalls buf.length answers).calls := by
      rw [List.length_flatMap, movedBy]
      simp only [length_delivered]
    refine ⟨s.read_eq buf.length answers, ?_, ?_⟩
    · rw [hstored, storeAt, List.take_zero, List.nil_append, Nat.zero_add]
    · rw [hlen]
      exact hsettles

end VhalClient.Gps
