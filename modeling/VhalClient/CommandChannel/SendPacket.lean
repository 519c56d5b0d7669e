/-
# VhalClient.CommandChannel.SendPacket — `SendDataPacket` and what the sockets took.

A packet goes out in two sends, the length as an `int` and the message, to the socket that the message type
names.  `::send` may take fewer bytes than it was given, and `SendDataPacket` looks at nothing but the -1 of a
failure: it reports the whole size also when the socket took a part of it, when the type names no socket, and
when the size is none an `int` can hold.

`delivers_iff_accounted` says exactly when the result can be believed.  How much a `::send` takes is any number from 1 to
what it was given, or it fails; this is in the type of its outcome.
-/
import VhalClient.CommandChannel.Talker
import VhalClient.Lib.Layout

namespace VhalClient.CommandChannel

open VhalClient.Lib

/-! ## The code -/

/-- What `::send` of `n` bytes does: it takes some of them, or it fails with a text for `errno`. -/
inductive SendOutcome (n : ℕ) where
  | took (k : ℕ) (le : k ≤ n) (pos : 0 < n → 0 < k)
  | failed (strerror : String)

namespace SendOutcome

variable {n : ℕ}

/-- `IOResult`, as `TcpStreamSocketClient::Send` makes it. -/
def result : SendOutcome n → ℤ × String
  | took k _ _ => (k, "")
  | failed strerror => (-1, strerror)

/-- The bytes that are on their way afterwards. -/
def bytes (data : List UInt8) : SendOutcome n → List UInt8
  | took k _ _ => data.take k
  | failed _ => []

end SendOutcome

/-- The socket a message type names. -/
def MsgType.service : MsgType → Option Talker
  | .kNone => none
  | .kActivityMonitor => some .ams
  | .kAicCommand => some .acs
  | .kFileTransfer => some .ftc

/-- `int sent = std::get<0>(ior)`, and the comparison with -1. -/
def sentFailed (ior : ℤ × String) : Bool := Int32.ofInt ior.1 = -1

/-- `message_length`, an `int`. -/
def messageLength (size : ℕ) : Int32 := Int32.ofNat size

/-- The bytes `SendDataPacket` wrote to each socket. -/
abbrev Written := Talker → List UInt8

/-- The two sends of a branch, on the socket of the branch. -/
def sendFrame (service : Talker) (message : List UInt8) (header : SendOutcome 4)
    (body : SendOutcome message.length) : (ℤ × String) × Written :=
  let length := Layout.int32.write (messageLength message.length)
  let wrote (bytes : List UInt8) : Written := fun t => if t = service then bytes else []
  if sentFailed header.result then (header.result, wrote (header.bytes length))
  else if sentFailed body.result then
    (body.result, wrote (header.bytes length ++ body.bytes message))
  else ((message.length, ""), wrote (header.bytes length ++ body.bytes message))

def sendDataPacket (msgType : MsgType) (message : List UInt8) (header : SendOutcome 4)
    (body : SendOutcome message.length) : (ℤ × String) × Written :=
  match msgType with
  | .kActivityMonitor => sendFrame .ams message header body
  | .kAicCommand => sendFrame .acs message header body
  | .kFileTransfer => sendFrame .ftc message header body
  | .kNone => ((message.length, ""), fun _ => [])

/-! ## When the result can be believed -/

/-- The result says that all was sent only if it was: the socket the type names has the length, which is the
number of bytes, and the message. -/
def Delivers (msgType : MsgType) (message : List UInt8) (header : SendOutcome 4)
    (body : SendOutcome message.length) : Prop :=
  (sendDataPacket msgType message header body).1 = ((message.length : ℤ), "") →
    ∃ service len, msgType.service = some service ∧
      (sendDataPacket msgType message header body).2 service = Layout.int32.write len ++ message ∧
      len.toInt = message.length

/-- A send fails, or both take everything and the size fits an `int`.  A count that is -1 as an `int` is
returned as it is, which is the size only if it was all taken. -/
def Accounted {message : List UInt8} (header : SendOutcome 4) (body : SendOutcome message.length) : Prop :=
  match header, body with
  | .failed _, _ => True
  | _, .failed _ => True
  | .took j _ _, .took k _ _ =>
    (j = 4 ∧ k = message.length ∧ message.length < 2 ^ 31) ∨ (Int32.ofNat k = -1 ∧ k ≠ message.length)

/-! ## The two sends -/

theorem sentFailed_failed {n : ℕ} (strerror : String) :
    sentFailed (SendOutcome.failed strerror : SendOutcome n).result = true := by
  simp [sentFailed, SendOutcome.result]

theorem sentFailed_took {n k : ℕ} (le : k ≤ n) (pos : 0 < n → 0 < k) :
    sentFailed (SendOutcome.took k le pos).result = decide (Int32.ofNat k = -1) := rfl

/-- A count that is -1 as an `int` is beyond the range of an `int`. -/
theorem le_of_ofNat_eq_neg_one {k : ℕ} (h : Int32.ofNat k = -1) : 2 ^ 31 ≤ k := by
  by_contra hlt
  have hk : (Int32.ofNat k).toInt = k := (toInt_int32_ofNat_eq_iff k).mpr (by omega)
  rw [h] at hk
  have hneg : (-1 : Int32).toInt = -1 := rfl
  omega

theorem ofNat_ne_neg_one {j : ℕ} (h : j ≤ 4) : ¬ Int32.ofNat j = -1 := by
  intro hneg
  have := le_of_ofNat_eq_neg_one hneg
  omega

/-- A failure is not reported as a size. -/
theorem failed_ne_size (strerror : String) (size : ℕ) : ((-1 : ℤ), strerror) ≠ ((size : ℤ), "") := by
  intro h
  have hsize : (-1 : ℤ) = size := congrArg Prod.fst h
  omega

section

variable (service : Talker) {message : List UInt8} {j k : ℕ} {hj : j ≤ 4} {hj' : 0 < 4 → 0 < j}
  {hk : k ≤ message.length} {hk' : 0 < message.length → 0 < k}

/-- Two sends that did not fail: the size is the result, unless the second count is a -1 to the code. -/
theorem sendFrame_took :
    sendFrame service message (.took j hj hj') (.took k hk hk') =
      ((if Int32.ofNat k = -1 then ((k : ℤ), "") else ((message.length : ℤ), "")),
        fun t => if t = service then
          (Layout.int32.write (messageLength message.length)).take j ++ message.take k else []) := by
  simp only [sendFrame, sentFailed_took, decide_eq_true_eq, if_neg (ofNat_ne_neg_one hj)]
  split <;> rfl

/-- What was taken is a frame exactly when all of it was taken and the length is one. -/
theorem frame_iff (hj : j ≤ 4) (hk : k ≤ message.length) :
    (∃ len : Int32, (Layout.int32.write (messageLength message.length)).take j ++ message.take k =
        Layout.int32.write len ++ message ∧ len.toInt = message.length) ↔
      j = 4 ∧ k = message.length ∧ message.length < 2 ^ 31 := by
  have hlen : ∀ i : Int32, (Layout.int32.write i).length = 4 := Layout.int32.length_write
  constructor
  · rintro ⟨len, heq, hsize⟩
    have hcount := congrArg List.length heq
    rw [List.length_append, List.length_append, List.length_take, List.length_take, hlen, hlen] at hcount
    have hint : len.toInt < 2 ^ 31 := len.toInt_lt
    omega
  · rintro ⟨rfl, rfl, hsmall⟩
    refine ⟨messageLength message.length, ?_, (toInt_int32_ofNat_eq_iff _).mpr hsmall⟩
    rw [List.take_of_length_le (hlen _).le, List.take_length]

end

/-- One branch. -/
theorem sendFrame_delivers_iff (service : Talker) {message : List UInt8} (header : SendOutcome 4)
    (body : SendOutcome message.length) :
    ((sendFrame service message header body).1 = ((message.length : ℤ), "") →
        ∃ len : Int32, (sendFrame service message header body).2 service =
          Layout.int32.write len ++ message ∧ len.toInt = message.length) ↔
      Accounted header body := by
  cases header with
  | failed e =>
    refine iff_of_true (fun h => absurd h ?_) trivial
    rw [sendFrame, sentFailed_failed]
    exact failed_ne_size e message.length
  | took j hj hj' =>
    cases body with
    | failed e =>
      refine iff_of_true (fun h => absurd h ?_) trivial
      have hheader : sentFailed (SendOutcome.took j hj hj').result = false := by
        rw [sentFailed_took, decide_eq_false_iff_not]
        exact ofNat_ne_neg_one hj
      rw [sendFrame, hheader, sentFailed_failed]
      exact failed_ne_size e message.length
    | took k hk hk' =>
      rw [sendFrame_took, Accounted]
      simp only [if_true]
      rw [frame_iff hj hk]
      by_cases hwrap : Int32.ofNat k = -1
      · have hlarge := le_of_ofNat_eq_neg_one hwrap
        rw [if_pos hwrap]
        have hcount : ((k : ℤ), "") = ((message.length : ℤ), "") ↔ k = message.length := by simp
        rw [hcount]
        constructor
        · intro h
          refine Or.inr ⟨hwrap, ?_⟩
          intro heq
          have hsmall := (h heq).2.2
          omega
        · rintro (h | ⟨-, hne⟩) heq
          · exact h
          · exact absurd heq hne
      · rw [if_neg hwrap]
        simp [hwrap]

/-- **When `SendDataPacket` tells the truth.** For every type, message and outcome of the two sends: a result
of the whole size means that the named service was sent the frame, exactly when the type names a service and
the sends are accounted for. -/
theorem delivers_iff_accounted (msgType : MsgType) (message : List UInt8) (header : SendOutcome 4)
    (body : SendOutcome message.length) :
    Delivers msgType message header body ↔ msgType ≠ .kNone ∧ Accounted header body := by
  have hbranch (service : Talker) (hservice : msgType.service = some service)
      (hsend : sendDataPacket msgType message header body = sendFrame service message header body) :
      Delivers msgType message header body ↔ msgType ≠ .kNone ∧ Accounted header body := by
    have hne : msgType ≠ .kNone := by
      rintro rfl
      cases hservice
    rw [Delivers, ← sendFrame_delivers_iff service header body, hsend, hservice]
    simp [hne]
  cases msgType with
  | kNone =>
    refine iff_of_false (fun h => ?_) (fun h => h.1 rfl)
    obtain ⟨service, len, hservice, -⟩ := h rfl
    cases hservice
  | kActivityMonitor => exact hbranch .ams rfl rfl
  | kAicCommand => exact hbranch .acs rfl rfl
  | kFileTransfer => exact hbranch .ftc rfl rfl

/-- A socket that takes one byte of a message of two. -/
theorem not_delivers_partial :
    ¬ ∀ (msgType : MsgType) (message : List UInt8) (header : SendOutcome 4)
      (body : SendOutcome message.length), Delivers msgType message header body := by
  intro h
  have hpartial := h .kAicCommand [1, 2] (.took 4 (by decide) (by decide)) (.took 1 (by decide) (by decide))
  obtain ⟨service, len, hservice, hwritten, -⟩ := hpartial rfl
  obtain rfl : Talker.acs = service := Option.some.inj hservice
  have hcount := congrArg List.length hwritten
  rw [List.length_append, Layout.int32.length_write] at hcount
  cases hcount

end VhalClient.CommandChannel
