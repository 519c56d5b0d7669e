/-
# VhalClient.Input.Device — the pipe behind `SendEvent`, and the status file.

A `VirtualInputReceiver` opens its pipe when it is constructed, opens it again inside `SendEvent` when a write
failed, and closes it when it is destroyed; a status file says whether the pipe is open.  The state is `mFd` and
every system call made so far, newest first, so that the last text in the status file and the descriptors that
are open are read off the trace and not off the member.

`lifetime` is about every life of a receiver, with any results of `open` and `write`: the three pieces of state
move together, at most one descriptor is open at any moment, and the destructor leaves none; and what was opened
and written is what the results say, a descriptor staying in use until a write to it fails.
-/
import VhalClient.Lib.Run
import VhalClient.Lib.Lease
import VhalClient.Input.Receiver

namespace VhalClient.Input

open VhalClient.Lib

/-! ## The device -/

/-- A system call, or a text written to the status file. -/
inductive Sys where
  /-- `UpdateStatus` -/
  | status (text : String)
  | opened (fd : ℤ)
  | openFailed
  | write (fd : ℤ) (ev : InputEvent)
  | close (fd : ℤ)
  deriving DecidableEq

/-- The members and what was done so far, newest first. -/
structure Device where
  mFd : ℤ
  trace : List Sys

namespace Device

def emit (d : Device) (c : Sys) : Device := { d with trace := c :: d.trace }

def updateStatus (d : Device) (text : String) : Device := d.emit (.status text)

/-- `CreateTouchDevice`; `fd` is what `open` returns. -/
def createTouchDevice (fd : ℤ) (d : Device) : Bool × Device :=
  if -1 < d.mFd then (true, d)
  else if 0 ≤ fd then (true, ({ d with mFd := fd }.emit (.opened fd)).updateStatus "connected")
  else (false, { d with mFd := fd }.emit .openFailed)

/-- The constructor. -/
def construct (fd : ℤ) : Device :=
  (({ mFd := -1, trace := [] } : Device).updateStatus "disconnected" |>.createTouchDevice fd).2

/-- A call of `SendEvent`, with the results of its `write` and of the `open` it makes if that failed. -/
structure Send where
  ev : InputEvent
  written : ℤ
  fd : ℤ

/-- `SendEvent`: a failed `write` closes `mFd`, also when there is no descriptor in it. -/
def sendEvent (d : Device) (c : Send) : Bool × Device :=
  let d := d.emit (.write d.mFd c.ev)
  if c.written < 0 then
    let d := (d.updateStatus "disconnected").emit (.close d.mFd)
    { d with mFd := -1 }.createTouchDevice c.fd
  else (true, d)

def step (d : Device) (c : Send) : Device := (d.sendEvent c).2

/-- The destructor. -/
def destroy (d : Device) : Device :=
  if 0 ≤ d.mFd then (d.updateStatus "disconnected").emit (.close d.mFd) else d

end Device

/-! ## What the trace says -/

/-- The last text in the status file. -/
def lastStatus : List Sys → Option String
  | [] => none
  | .status text :: _ => some text
  | _ :: trace => lastStatus trace

/-- The calls that make a descriptor and give it up; `close(-1)` is about none. -/
def Sys.use : Sys → Option (Use ℤ)
  | .opened fd => some (.acquire fd)
  | .close fd => if 0 ≤ fd then some (.release fd) else none
  | _ => none

def uses (trace : List Sys) : List (Use ℤ) := trace.filterMap Sys.use

@[simp] theorem uses_status (text : String) (trace : List Sys) : uses (.status text :: trace) = uses trace := rfl

@[simp] theorem uses_openFailed (trace : List Sys) : uses (.openFailed :: trace) = uses trace := rfl

@[simp] theorem uses_opened (fd : ℤ) (trace : List Sys) :
    uses (.opened fd :: trace) = .acquire fd :: uses trace := rfl

theorem uses_close (fd : ℤ) (trace : List Sys) :
    uses (.close fd :: trace) = if 0 ≤ fd then .release fd :: uses trace else uses trace := by
  by_cases hfd : 0 ≤ fd
  · rw [if_pos hfd, uses, List.filterMap_cons_some (by rw [Sys.use, if_pos hfd])]
    rfl
  · rw [if_neg hfd, uses, List.filterMap_cons_none (by rw [Sys.use, if_neg hfd])]
    rfl

/-- The calls of `write`, oldest first. -/
def writes (trace : List Sys) : List (ℤ × InputEvent) :=
  (trace.filterMap fun
    | .write fd ev => some (fd, ev)
    | _ => none).reverse

theorem writes_write (fd : ℤ) (ev : InputEvent) (trace : List Sys) :
    writes (.write fd ev :: trace) = writes trace ++ [(fd, ev)] :=
  List.reverse_cons

/-- What holds between two calls: the status file says what `mFd` says, and the descriptor in `mFd` is the one
that was opened and not closed. -/
structure Device.Consistent (d : Device) : Prop where
  status : lastStatus d.trace = some (if 0 ≤ d.mFd then "connected" else "disconnected")
  lease : Leased (uses d.trace) (if 0 ≤ d.mFd then some d.mFd else none)

/-! ## One call -/

namespace Device

/-- Without a descriptor, `CreateTouchDevice` opens one or leaves the status as it was. -/
theorem consistent_createTouchDevice {d : Device} (fd : ℤ) (hfd : d.mFd = -1)
    (hstatus : lastStatus d.trace = some "disconnected") (hlease : Leased (uses d.trace) none) :
    (d.createTouchDevice fd).2.Consistent := by
  rw [createTouchDevice, if_neg (by omega)]
  by_cases hopen : 0 ≤ fd
  · rw [if_pos hopen]
    refine ⟨?_, ?_⟩
    · simp [emit, updateStatus, lastStatus, hopen]
    · have hnext := hlease.acquire fd
      simpa [emit, updateStatus, hopen] using hnext
  · rw [if_neg hopen]
    refine ⟨?_, ?_⟩
    · simpa [emit, lastStatus, hopen] using hstatus
    · simpa [emit, hopen] using hlease

theorem consistent_construct (fd : ℤ) : (construct fd).Consistent :=
  consistent_createTouchDevice fd rfl rfl leased_nil

/-- Giving up `mFd`: what `SendEvent` does behind a failed write, and the destructor. -/
theorem Consistent.leased_close {d : Device} (h : d.Consistent) :
    Leased (uses (.close d.mFd :: .status "disconnected" :: d.trace)) none := by
  have hlease := h.lease
  by_cases hopen : 0 ≤ d.mFd
  · rw [if_pos hopen] at hlease
    simpa [uses_close, hopen] using hlease.release
  · rw [if_neg hopen] at hlease
    simpa [uses_close, hopen] using hlease

/-- A write changes nothing here. -/
theorem Consistent.write {d : Device} (h : d.Consistent) (ev : InputEvent) :
    (d.emit (.write d.mFd ev)).Consistent := ⟨h.status, h.lease⟩

theorem consistent_step {d : Device} (h : d.Consistent) (c : Send) : (d.step c).Consistent := by
  have hwrite := h.write c.ev
  simp only [step, sendEvent]
  split
  · exact consistent_createTouchDevice c.fd rfl rfl hwrite.leased_close
  · exact hwrite

/-! ## What the results come to -/

/-- The results of `open`, oldest first: the constructor calls it, and `SendEvent` behind each `write` that
fails. -/
def opens (fd : ℤ) (calls : List Send) : List ℤ := fd :: (calls.filter (·.written < 0)).map Send.fd

/-- What the calls write, and on which descriptor: on what the last `open` returned. -/
def written (fd : ℤ) : List Send → List (ℤ × InputEvent)
  | [] => []
  | c :: calls => (fd, c.ev) :: written (if c.written < 0 then c.fd else fd) calls

/-- What `open` returned so far, and what was written. -/
structure Did (d : Device) (fds : List ℤ) (ws : List (ℤ × InputEvent)) : Prop where
  mFd : fds.getLast? = some d.mFd
  opened : acquired (uses d.trace) = fds.filter (0 ≤ ·)
  wrote : writes d.trace = ws

theorem did_createTouchDevice {d : Device} {fds : List ℤ} {ws : List (ℤ × InputEvent)} (fd : ℤ)
    (hfd : d.mFd = -1) (hopened : acquired (uses d.trace) = fds.filter (0 ≤ ·)) (hwrote : writes d.trace = ws) :
    (d.createTouchDevice fd).2.Did (fds ++ [fd]) ws := by
  rw [createTouchDevice, if_neg (by omega)]
  by_cases hopen : 0 ≤ fd
  · rw [if_pos hopen]
    refine ⟨List.getLast?_concat, ?_, hwrote⟩
    show acquired (uses d.trace) ++ [fd] = _
    rw [hopened, List.filter_append, List.filter_singleton, decide_eq_true hopen]
    rfl
  · rw [if_neg hopen]
    refine ⟨List.getLast?_concat, ?_, hwrote⟩
    show acquired (uses d.trace) = _
    rw [hopened, List.filter_append, List.filter_singleton, decide_eq_false hopen]
    exact (List.append_nil _).symm

theorem did_construct (fd : ℤ) : (construct fd).Did [fd] [] := by
  have hnone : acquired (uses [.status "disconnected"]) = ([] : List ℤ).filter (0 ≤ ·) := rfl
  exact did_createTouchDevice (d := updateStatus ⟨-1, []⟩ "disconnected") fd rfl hnone rfl

/-- Giving up `mFd` opens and writes nothing. -/
theorem acquired_close (fd : ℤ) (trace : List Sys) :
    acquired (uses (.close fd :: .status "disconnected" :: trace)) = acquired (uses trace) := by
  rw [uses_close, uses_status]
  split
  · rfl
  · rfl

theorem mFd_step (d : Device) (c : Send) : (d.step c).mFd = if c.written < 0 then c.fd else d.mFd := by
  simp only [step, sendEvent]
  split
  · rw [createTouchDevice, if_neg (lt_irrefl (-1))]
    split
    · rfl
    · rfl
  · rfl

theorem Did.step {d : Device} {fds : List ℤ} {ws : List (ℤ × InputEvent)} (h : d.Did fds ws) (c : Send) :
    (d.step c).Did (fds ++ if c.written < 0 then [c.fd] else []) (ws ++ [(d.mFd, c.ev)]) := by
  have hwrote : writes (.write d.mFd c.ev :: d.trace) = ws ++ [(d.mFd, c.ev)] := by rw [writes_write, h.wrote]
  simp only [Device.step, sendEvent]
  split
  · exact did_createTouchDevice c.fd rfl ((acquired_close _ _).trans h.opened) hwrote
  · rw [List.append_nil]
    exact ⟨h.mFd, h.opened, hwrote⟩

theorem Did.run {d : Device} {fds : List ℤ} {ws : List (ℤ × InputEvent)} (h : d.Did fds ws) (calls : List Send) :
    (calls.foldl Device.step d).Did (fds ++ (calls.filter (·.written < 0)).map Send.fd)
      (ws ++ written d.mFd calls) := by
  induction calls generalizing d fds ws with
  | nil =>
    rw [List.filter_nil, List.map_nil, List.append_nil, written, List.append_nil]
    exact h
  | cons c calls ih =>
    have hnext := ih (h.step c)
    rw [mFd_step, List.append_assoc, List.append_assoc] at hnext
    have hfds : (if c.written < 0 then [c.fd] else []) ++ (calls.filter (·.written < 0)).map Send.fd =
        ((c :: calls).filter (·.written < 0)).map Send.fd := by
      by_cases hfails : c.written < 0
      · rw [if_pos hfails, List.filter_cons_of_pos (by simpa using hfails), List.map_cons]
        rfl
      · rw [if_neg hfails, List.filter_cons_of_neg (by simpa using hfails), List.nil_append]
    rw [hfds] at hnext
    exact hnext

/-- The destructor opens and writes nothing. -/
theorem trace_destroy (d : Device) :
    acquired (uses d.destroy.trace) = acquired (uses d.trace) ∧ writes d.destroy.trace = writes d.trace := by
  unfold destroy
  split
  · exact ⟨acquired_close _ _, rfl⟩
  · exact ⟨rfl, rfl⟩

/-! ## A life -/

theorem consistent_run (fd : ℤ) (calls : List Send) :
    ∀ d ∈ calls.scanl step (construct fd), d.Consistent :=
  Along.invariant (I := Consistent) (P := fun _ _ => True) (fun _ c h _ => consistent_step h c) (consistent_construct fd)
    (along_of_forall (fun _ _ => trivial) _ calls)

theorem Consistent.status_iff {d : Device} (h : d.Consistent) :
    lastStatus d.trace = some "connected" ↔ 0 ≤ d.mFd := by
  rw [h.status]
  split <;> simp [*]

/-- The destructor leaves no descriptor open and says so. -/
theorem Consistent.destroy {d : Device} (h : d.Consistent) :
    Leased (uses d.destroy.trace) none ∧ lastStatus d.destroy.trace = some "disconnected" := by
  unfold Device.destroy
  split
  · exact ⟨h.leased_close, rfl⟩
  · rename_i hopen
    have hlease := h.lease
    have hstatus := h.status
    rw [if_neg hopen] at hlease hstatus
    exact ⟨hlease, hstatus⟩

/-- **The life of a receiver.** Constructed, asked to send any events and destroyed, with any results of
`open` and `write`: between two calls the status file says "connected" exactly when `mFd` is a descriptor; at
every moment at most one descriptor is open; in the end each one was closed exactly once, in the order in
which they were opened, and the file says "disconnected".  The descriptors are those `open` returned to the
constructor and behind the writes that failed, and each event was written once, to the last of them. -/
theorem lifetime (fd : ℤ) (calls : List Send) :
    (∀ d ∈ calls.scanl step (construct fd), lastStatus d.trace = some "connected" ↔ 0 ≤ d.mFd) ∧
      (opens fd calls).getLast? = some (calls.foldl step (construct fd)).mFd ∧
      let d := (calls.foldl step (construct fd)).destroy
      (∀ moment, moment <:+ d.trace → AtMostOne (uses moment)) ∧
        released (uses d.trace) = acquired (uses d.trace) ∧ lastStatus d.trace = some "disconnected" ∧
        acquired (uses d.trace) = (opens fd calls).filter (0 ≤ ·) ∧ writes d.trace = written fd calls := by
  have hrun := consistent_run fd calls
  have hfirst : (construct fd).mFd = fd := (Option.some_inj.mp (did_construct fd).mFd).symm
  have hdid := (did_construct fd).run calls
  rw [hfirst, List.nil_append] at hdid
  obtain ⟨hlease, hstatus⟩ := (hrun _ (foldl_mem_scanl _ calls)).destroy
  obtain ⟨hopens, hwrites⟩ := trace_destroy (calls.foldl step (construct fd))
  refine ⟨fun d hd => (hrun d hd).status_iff, hdid.mFd, fun moment hmoment => ?_, hlease.settled, hstatus,
    hopens.trans hdid.opened, hwrites.trans hdid.wrote⟩
  exact hlease.always _ (hmoment.filterMap Sys.use)

end Device

end VhalClient.Input
