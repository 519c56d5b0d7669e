/-
# VhalClient.Socket.StreamClient — the members behind `IStreamSocketClient`.

The TCP, Unix and vsock clients keep a descriptor and a flag, and write `Connect` and `Close` the same way;
they differ in the address they connect to.  What a talker can see of its client is in the flag.
-/
import Mathlib.Data.Int.Notation

namespace VhalClient.Socket

/-- What `::socket` and `::connect` return during one `Connect`, and the text behind a failure. -/
structure Dial where
  socket : ℤ
  connect : ℤ
  strerror : String

/-- How a `Connect` ends: the pair it returns, or `std::system_error` because there is no socket. -/
inductive Connection where
  | returned (connected : Bool) (errorMsg : String)
  | threw
  deriving DecidableEq, Repr

/-- `fd_` and `connected_`, and the descriptors closed so far, newest first. -/
structure StreamClient where
  fd : ℤ
  connected : Bool
  closed : List ℤ
  deriving DecidableEq, Repr

namespace StreamClient

def initial : StreamClient := ⟨-1, false, []⟩

def close (c : StreamClient) : StreamClient :=
  if c.fd < 0 then { c with connected := false }
  else ⟨-1, false, c.fd :: c.closed⟩

def connect (d : Dial) (c : StreamClient) : Connection × StreamClient :=
  let c := if 0 ≤ c.fd then c.close else c
  let c := { c with fd := d.socket }
  if c.fd < 0 then (.threw, c)
  else
    let connected : Bool := d.connect = 0
    (.returned connected (if connected then "" else d.strerror), { c with connected := connected })

@[simp] theorem connected_close (c : StreamClient) : c.close.connected = false := by
  unfold close
  split <;> rfl

/-- A `Connect` that returns leaves its result in `connected_`. -/
theorem connected_connect {d : Dial} {c : StreamClient} {ok : Bool} {msg : String}
    (h : (c.connect d).1 = .returned ok msg) : (c.connect d).2.connected = ok := by
  unfold connect at h ⊢
  dsimp only at h ⊢
  split at h
  · cases h
  · rename_i hfd
    rw [if_neg hfd]
    injection h

/-- A `Connect` that throws leaves no connection that was not there. -/
theorem connected_of_threw {d : Dial} {c : StreamClient} (h : (c.connect d).1 = .threw)
    (hup : (c.connect d).2.connected = true) : c.connected = true := by
  unfold connect at h hup
  dsimp only at h hup
  split at h
  · rename_i hfd
    rw [if_pos hfd] at hup
    split at hup
    · exact absurd (c.connected_close.symm.trans hup) Bool.false_ne_true
    · exact hup
  · cases h

end StreamClient

end VhalClient.Socket
