/-
# VhalClient.Lib.Pipe — two parties with a pipe between them.

One party puts messages into a pipe and the other takes them out, at any time each.  A `Pipe` is what such a
pair comes to: the messages taken so far and those still in flight.  Whatever the order of the steps, the two
together are what was put in (`puts_foldl`), and as many takes as there were puts leave nothing in flight
(`flight_take_eq_nil`).

A system is known to be such a pair by a forward simulation: `Along.simulates` takes the step lemma, in which
every step of the system is matched by steps of the model with the same labels, to whole runs.  Nothing here
names a program.
-/
import Mathlib.Data.List.Infix
import VhalClient.Lib.Run

namespace VhalClient.Lib

variable {σ τ ι κ β μ : Type*}

/-! ## Forward simulation -/

structure Pipe (μ : Type*) where
  taken : List μ
  flight : List μ

namespace Pipe

inductive Act (μ : Type*) where
  | put (m : μ)
  | take

def Act.puts : Act μ → List μ
  | put m => [m]
  | take => []

def empty : Pipe μ := ⟨[], []⟩

/-- Everything that was ever put in, in order. -/
def puts (p : Pipe μ) : List μ := p.taken ++ p.flight

/-- A take from an empty pipe waits. -/
def step (p : Pipe μ) : Act μ → Pipe μ
  | .put m => ⟨p.taken, p.flight ++ [m]⟩
  | .take =>
    match p.flight with
    | [] => p
    | m :: ms => ⟨p.taken ++ [m], ms⟩

theorem step_take_cons {taken ms : List μ} {m : μ} : step ⟨taken, m :: ms⟩ .take = ⟨taken ++ [m], ms⟩ := rfl

theorem puts_step (p : Pipe μ) (a : Act μ) : (p.step a).puts = p.puts ++ a.puts := by
  obtain ⟨taken, flight⟩ := p
  cases a with
  | put m => exact (List.append_assoc _ _ _).symm
  | take =>
    cases flight with
    | nil => exact (List.append_nil _).symm
    | cons m ms =>
      show (taken ++ [m]) ++ ms = (taken ++ m :: ms) ++ []
      rw [List.append_nil, List.append_assoc, List.singleton_append]

/-- **Nothing is lost, doubled or reordered**: what was taken and what is in flight is what was put in. -/
theorem puts_foldl (p : Pipe μ) (as : List (Act μ)) :
    (as.foldl step p).puts = p.puts ++ as.flatMap Act.puts := by
  induction as generalizing p with
  | nil => exact (List.append_nil _).symm
  | cons a as ih => rw [List.foldl_cons, ih, puts_step, List.append_assoc, List.flatMap_cons]

/-- As many takes as there are messages in flight leave none. -/
theorem flight_take_eq_nil {p : Pipe μ} {n : ℕ} (h : p.flight.length ≤ n) :
    ((List.replicate n Act.take).foldl step p).flight = [] := by
  induction n generalizing p with
  | zero => exact List.length_eq_zero_iff.mp (Nat.le_zero.mp h)
  | succ n ih =>
    obtain ⟨taken, flight⟩ := p
    rw [List.replicate_succ, List.foldl_cons]
    apply ih
    cases flight with
    | nil => exact Nat.zero_le n
    | cons m ms => exact Nat.le_of_succ_le_succ h

theorem puts_takes (p : Pipe μ) (n : ℕ) : ((List.replicate n Act.take).foldl step p).puts = p.puts := by
  have hnone : (List.replicate n Act.take).flatMap Act.puts = ([] : List μ) := by
    rw [List.flatMap_eq_nil_iff]
    intro a ha
    rw [List.eq_of_mem_replicate ha]
    rfl
  rw [puts_foldl, hnone, List.append_nil]

end Pipe

end VhalClient.Lib
