/-
# VhalClient.Lib.Checked — commands that stop at the first call that fails.

C code that tests the status of every call and returns it when it is an error is an `EStateM`: an error
leaves the state as it was when the error came up.  `bind_eq_ok` takes a sequence that went through apart
into its calls; the others do the same for the primitive commands and for a command repeated over a list.
`Raises` says which errors a command can stop with, and `after` is the state it leaves, however it ends.  States
and errors are arbitrary.
-/
import Mathlib.Data.Nat.Notation

namespace VhalClient.Lib.Checked

universe u

variable {ε σ α β : Type u} {s s' : σ}

/-- A sequence goes through when each part does. -/
theorem bind_eq_ok {x : EStateM ε σ α} {f : α → EStateM ε σ β} {b : β} :
    (x >>= f) s = .ok b s' ↔ ∃ a t, x s = .ok a t ∧ f a t = .ok b s' := by
  show EStateM.bind x f s = _ ↔ _
  unfold EStateM.bind
  cases hx : x s with
  | ok a t =>
    constructor
    · exact fun h => ⟨a, t, rfl, h⟩
    · rintro ⟨a', t', heq, h⟩
      cases heq
      exact h
  | error e t => simp

theorem pure_eq_ok {a b : α} : (pure a : EStateM ε σ α) s = .ok b s' ↔ a = b ∧ s = s' := by
  show EStateM.Result.ok a s = EStateM.Result.ok b s' ↔ _
  simp

theorem get_eq_ok {t : σ} : (get : EStateM ε σ σ) s = .ok t s' ↔ s = t ∧ s = s' := by
  show EStateM.Result.ok s s = EStateM.Result.ok t s' ↔ _
  simp

theorem set_eq_ok {t : σ} {u : PUnit} : (set t : EStateM ε σ PUnit) s = .ok u s' ↔ t = s' := by
  show EStateM.Result.ok PUnit.unit t = EStateM.Result.ok u s' ↔ _
  simp

theorem modify_eq_ok {f : σ → σ} {u : PUnit} :
    (modify f : EStateM ε σ PUnit) s = .ok u s' ↔ f s = s' := by
  show EStateM.Result.ok PUnit.unit (f s) = EStateM.Result.ok u s' ↔ _
  simp

theorem throw_ne_ok {e : ε} {a : α} : (throw e : EStateM ε σ α) s ≠ .ok a s' := by
  show EStateM.Result.error e s ≠ EStateM.Result.ok a s'
  simp

/-- A test whose failure is thrown goes through when it holds, and what follows does. -/
theorem guard_eq_ok {c : Prop} [Decidable c] {e : ε} {f : PUnit → EStateM ε σ α} {a : α} :
    (if c then throw e >>= f else f ⟨⟩) s = .ok a s' ↔ ¬ c ∧ f ⟨⟩ s = .ok a s' := by
  by_cases hc : c
  · rw [if_pos hc]
    constructor
    · intro hok
      obtain ⟨_, _, hthrow, -⟩ := bind_eq_ok.mp hok
      exact absurd hthrow throw_ne_ok
    · exact fun hok => absurd hc hok.1
  · rw [if_neg hc]
    exact (and_iff_right hc).symm

/-! ## The state a command leaves -/

/-- The state behind a command that went through or stopped. -/
def after : EStateM.Result ε σ α → σ
  | .ok _ s => s
  | .error _ s => s

@[simp] theorem after_ok {a : α} : after (.ok a s : EStateM.Result ε σ α) = s := rfl

@[simp] theorem after_error {e : ε} : after (.error e s : EStateM.Result ε σ α) = s := rfl

theorem after_pure {a : α} : after ((pure a : EStateM ε σ α) s) = s := rfl

theorem get_bind {f : σ → EStateM ε σ α} : (get >>= f) s = f s s := rfl

/-- A sequence leaves what its second part leaves, or what its first part left when it stopped. -/
theorem after_bind {Q : σ → Prop} {x : EStateM ε σ α} {f : α → EStateM ε σ β}
    (hok : ∀ a t, x s = .ok a t → Q (after (f a t))) (herror : ∀ e t, x s = .error e t → Q t) :
    Q (after ((x >>= f) s)) := by
  show Q (after (EStateM.bind x f s))
  unfold EStateM.bind
  cases hx : x s with
  | ok a t => exact hok a t hx
  | error e t => exact herror e t hx

/-- A first part that went through. -/
theorem after_bind_ok {x : EStateM ε σ α} {f : α → EStateM ε σ β} {a : α} (hx : x s = .ok a s') :
    after ((x >>= f) s) = after (f a s') := by
  show after (EStateM.bind x f s) = _
  rw [EStateM.bind, hx]

/-- A first part that stopped. -/
theorem after_bind_error {x : EStateM ε σ α} {f : α → EStateM ε σ β} {e : ε} (hx : x s = .error e s') :
    after ((x >>= f) s) = s' := by
  show after (EStateM.bind x f s) = _
  rw [EStateM.bind, hx]
  rfl

/-- A test whose failure is thrown leaves the state as it was, or what follows leaves. -/
theorem after_guard {Q : σ → Prop} {c : Prop} [Decidable c] {e : ε} {f : PUnit → EStateM ε σ α}
    (hstop : c → Q s) (hpass : ¬ c → Q (after (f ⟨⟩ s))) :
    Q (after ((if c then throw e >>= f else f ⟨⟩) s)) := by
  by_cases hc : c
  · rw [if_pos hc]
    exact hstop hc
  · rw [if_neg hc]
    exact hpass hc

/-! ## The errors of a command -/

section Raises

variable {P : ε → Prop} {x : EStateM ε σ α}

/-- Every error the command stops with meets `P`, whatever state it starts in. -/
def Raises (P : ε → Prop) (x : EStateM ε σ α) : Prop := ∀ s e s', x s = .error e s' → P e

namespace Raises

theorem pure (a : α) : Raises P (pure a : EStateM ε σ α) := fun _ _ _ h => nomatch h

theorem get : Raises P (get : EStateM ε σ σ) := fun _ _ _ h => nomatch h

theorem set (t : σ) : Raises P (set t : EStateM ε σ PUnit) := fun _ _ _ h => nomatch h

theorem modify (f : σ → σ) : Raises P (modify f : EStateM ε σ PUnit) := fun _ _ _ h => nomatch h

theorem throw {e : ε} (he : P e) : Raises P (throw e : EStateM ε σ α) := by
  intro s e' s' h
  cases h
  exact he

theorem bind {f : α → EStateM ε σ β} (hx : Raises P x) (hf : ∀ a, Raises P (f a)) : Raises P (x >>= f) := by
  intro s e s' h
  change EStateM.bind x f s = .error e s' at h
  unfold EStateM.bind at h
  cases hrun : x s with
  | ok a t =>
    rw [hrun] at h
    exact hf a t e s' h
  | error e' t =>
    rw [hrun] at h
    cases h
    exact hx s e s' hrun

theorem ite {c : Prop} [Decidable c] {x y : EStateM ε σ α} (hx : c → Raises P x) (hy : ¬ c → Raises P y) :
    Raises P (if c then x else y) := by
  by_cases hc : c
  · rw [if_pos hc]
    exact hx hc
  · rw [if_neg hc]
    exact hy hc

/-- A test whose failure is thrown, and what follows it. -/
theorem guard {c : Prop} [Decidable c] {e : ε} {f : PUnit → EStateM ε σ α} (he : P e)
    (hf : ¬ c → Raises P (f ⟨⟩)) : Raises P (if c then MonadExcept.throw e >>= f else f ⟨⟩) := by
  refine ite (fun _ => ?_) hf
  have hstop : (MonadExcept.throw e >>= f : EStateM ε σ α) = MonadExcept.throw e := rfl
  rw [hstop]
  exact throw he

end Raises

end Raises

/-! ## What a command leaves alone -/

section Keeps

variable {φ : Type*} {v : σ → φ} {x : EStateM ε σ α}

/-- The command leaves the part `v` of the state as it was, whether it goes through or stops. -/
def Keeps (v : σ → φ) (x : EStateM ε σ α) : Prop := ∀ s, v (after (x s)) = v s

namespace Keeps

/-- A command that went through. -/
theorem of_ok (hx : Keeps v x) {a : α} (hok : x s = .ok a s') : v s' = v s := by
  rw [← hx s, hok]
  rfl

theorem pure (a : α) : Keeps v (pure a : EStateM ε σ α) := fun _ => rfl

theorem get : Keeps v (get : EStateM ε σ σ) := fun _ => rfl

theorem throw (e : ε) : Keeps v (throw e : EStateM ε σ α) := fun _ => rfl

theorem bind {f : α → EStateM ε σ β} (hx : Keeps v x) (hf : ∀ a, Keeps v (f a)) : Keeps v (x >>= f) := by
  intro s
  refine after_bind (Q := fun t => v t = v s) ?_ ?_
  · intro a t hok
    rw [hf a t, hx.of_ok hok]
  · intro e t herror
    rw [← hx s, herror]
    rfl

theorem ite {c : Prop} [Decidable c] {x y : EStateM ε σ α} (hx : Keeps v x) (hy : Keeps v y) :
    Keeps v (if c then x else y) := by
  by_cases hc : c
  · rw [if_pos hc]
    exact hx
  · rw [if_neg hc]
    exact hy

/-- A test whose failure is thrown, and what follows it. -/
theorem guard {c : Prop} [Decidable c] {e : ε} {f : PUnit → EStateM ε σ α} (hf : Keeps v (f ⟨⟩)) :
    Keeps v (if c then MonadExcept.throw e >>= f else f ⟨⟩) := ite (fun _ => rfl) hf

end Keeps

end Keeps

/-! ## A list of commands -/

variable {ι : Type*} {f : ι → EStateM ε σ PUnit}

/-- One command for each element, in order. -/
def runAll (f : ι → EStateM ε σ PUnit) : List ι → EStateM ε σ PUnit
  | [] => pure ⟨⟩
  | i :: is => do
    f i
    runAll f is

theorem runAll_cons {i : ι} {is : List ι} {u : PUnit} :
    runAll f (i :: is) s = .ok u s' ↔ ∃ t, f i s = .ok ⟨⟩ t ∧ runAll f is t = .ok u s' := by
  rw [runAll, bind_eq_ok]
  constructor
  · exact fun ⟨_, t, hfirst, hrest⟩ => ⟨t, hfirst, hrest⟩
  · exact fun ⟨t, hfirst, hrest⟩ => ⟨⟨⟩, t, hfirst, hrest⟩

theorem runAll_append {is js : List ι} {u : PUnit} :
    runAll f (is ++ js) s = .ok u s' ↔ ∃ t, runAll f is s = .ok ⟨⟩ t ∧ runAll f js t = .ok u s' := by
  induction is generalizing s with
  | nil =>
    constructor
    · exact fun hok => ⟨s, rfl, hok⟩
    · rintro ⟨t, hnil, hok⟩
      obtain ⟨-, rfl⟩ := pure_eq_ok.mp hnil
      exact hok
  | cons i is ih =>
    constructor
    · intro hok
      obtain ⟨t, hfirst, hok⟩ := runAll_cons.mp hok
      obtain ⟨t', his, hjs⟩ := ih.mp hok
      exact ⟨t', runAll_cons.mpr ⟨t, hfirst, his⟩, hjs⟩
    · rintro ⟨t', hall, hjs⟩
      obtain ⟨t, hfirst, his⟩ := runAll_cons.mp hall
      exact runAll_cons.mpr ⟨t, hfirst, ih.mpr ⟨t', his, hjs⟩⟩

end VhalClient.Lib.Checked
