import Aivpn.Lib.Bytes
import Mathlib.Logic.Relation

/-!
# Commands on a state

`Action σ ε α` is a command on states `σ` that returns a value, fails or panics, and leaves a
state in each of these cases. Commands are composed with `do`.

`ReachesFrom R x s` says that the command `x`, started in `s`, only makes changes of the kind `R`,
one after the other, whether it returns or fails. The rules follow the structure of a command, so
that what a program can do is read off its text once (`ReachesFrom.bind`). `Keeps f x` is the frame
condition: `x` leaves the part `f` of the state alone.
-/

set_option autoImplicit false

namespace Aivpn.Lib

universe u

/-- A command: a function from states to an outcome and the state it leaves. -/
def Action (σ ε α : Type u) : Type u := σ → Exec ε α × σ

namespace Action

variable {σ ε α β : Type u}

instance : Monad (Action σ ε) where
  pure a := fun s => (.ok a, s)
  bind x f := fun s => match x s with
    | (.ok a, s') => f a s'
    | (.error e, s') => (.error e, s')

/-- The command that fails with `e`. -/
def throw (e : ε) : Action σ ε α := fun s => (.error (.error e), s)

/-- The command with the given outcome that leaves the state alone. -/
def ofExec (x : Exec ε α) : Action σ ε α := fun s => (x, s)

/-- The command with the outcome of a function that may fail but not panic. -/
def ofExcept : Except ε α → Action σ ε α
  | .ok a => pure a
  | .error e => throw e

/-- The command that reads a part of the state. -/
def gets (f : σ → α) : Action σ ε α := fun s => (.ok (f s), s)

/-- The command that changes the state and returns a value. -/
def update (f : σ → α × σ) : Action σ ε α := fun s => (.ok (f s).1, (f s).2)

/-- The command that changes the state. -/
def modify (f : σ → σ) : Action σ ε PUnit := fun s => (.ok .unit, f s)

@[simp] theorem pure_apply (a : α) (s : σ) : (pure a : Action σ ε α) s = (.ok a, s) := rfl

@[simp] theorem throw_apply (e : ε) (s : σ) :
    (throw e : Action σ ε α) s = (.error (.error e), s) := rfl

@[simp] theorem ofExec_apply (x : Exec ε α) (s : σ) : (ofExec x : Action σ ε α) s = (x, s) := rfl

@[simp] theorem ofExcept_ok (a : α) (s : σ) :
    (ofExcept (.ok a) : Action σ ε α) s = (.ok a, s) := rfl

@[simp] theorem ofExcept_error (e : ε) (s : σ) :
    (ofExcept (.error e) : Action σ ε α) s = (.error (.error e), s) := rfl

@[simp] theorem gets_apply (f : σ → α) (s : σ) : (gets f : Action σ ε α) s = (.ok (f s), s) := rfl

@[simp] theorem update_apply (f : σ → α × σ) (s : σ) :
    (update f : Action σ ε α) s = (.ok (f s).1, (f s).2) := rfl

@[simp] theorem modify_apply (f : σ → σ) (s : σ) :
    (modify f : Action σ ε PUnit) s = (.ok .unit, f s) := rfl

theorem bind_apply (x : Action σ ε α) (f : α → Action σ ε β) (s : σ) :
    (x >>= f) s = match x s with
      | (.ok a, s') => f a s'
      | (.error e, s') => (.error e, s') := rfl

theorem bind_of_ok {x : Action σ ε α} {s s' : σ} {a : α} (h : x s = (.ok a, s'))
    (f : α → Action σ ε β) : (x >>= f) s = f a s' := by
  rw [bind_apply, h]

theorem bind_of_error {x : Action σ ε α} {s s' : σ} {e : Fault ε} (h : x s = (.error e, s'))
    (f : α → Action σ ε β) : (x >>= f) s = (.error e, s') := by
  rw [bind_apply, h]

/-- Sequences associate. -/
theorem bind_bind {γ : Type u} (x : Action σ ε α) (f : α → Action σ ε β)
    (k : β → Action σ ε γ) : x >>= f >>= k = x >>= fun a => f a >>= k := by
  funext s
  rw [bind_apply, bind_apply, bind_apply]
  rcases x s with ⟨r, s'⟩
  cases r with
  | error e => rfl
  | ok a => rfl

/-- Nothing to do before a command. -/
theorem pure_bind' (a : α) (f : α → Action σ ε β) : (pure a : Action σ ε α) >>= f = f a := rfl

/-- A sequence that returns does so through both parts. -/
theorem bind_eq_ok {x : Action σ ε α} {f : α → Action σ ε β} {s t : σ} {b : β} :
    (x >>= f) s = (.ok b, t) ↔ ∃ a s', x s = (.ok a, s') ∧ f a s' = (.ok b, t) := by
  rw [bind_apply]
  rcases x s with ⟨r, s'⟩
  cases r with
  | error e' => simp
  | ok a => simp

/-! ## What a command can do -/

/-- Started in `s`, the command makes only changes of the kind `R`. -/
def ReachesFrom (R : σ → σ → Prop) (x : Action σ ε α) (s : σ) : Prop :=
  Relation.ReflTransGen R s (x s).2

variable {R : σ → σ → Prop} {s : σ}

theorem reachesFrom_pure (a : α) : ReachesFrom R (pure a : Action σ ε α) s :=
  Relation.ReflTransGen.refl

theorem reachesFrom_throw (e : ε) : ReachesFrom R (throw e : Action σ ε α) s :=
  Relation.ReflTransGen.refl

theorem reachesFrom_ofExec (x : Exec ε α) : ReachesFrom R (ofExec x : Action σ ε α) s :=
  Relation.ReflTransGen.refl

theorem reachesFrom_ofExcept (x : Except ε α) :
    ReachesFrom R (ofExcept x : Action σ ε α) s := by
  cases x with
  | error e => exact Relation.ReflTransGen.refl
  | ok a => exact Relation.ReflTransGen.refl

theorem reachesFrom_modify {f : σ → σ} (h : R s (f s)) :
    ReachesFrom R (modify f : Action σ ε PUnit) s :=
  Relation.ReflTransGen.single h

/-- The rule for sequences: the second part starts where the first one returned. -/
theorem ReachesFrom.bind {x : Action σ ε α} {f : α → Action σ ε β} (hx : ReachesFrom R x s)
    (hf : ∀ a s', x s = (.ok a, s') → ReachesFrom R (f a) s') : ReachesFrom R (x >>= f) s := by
  unfold ReachesFrom at hx ⊢
  rw [bind_apply]
  rcases hxs : x s with ⟨r, s'⟩
  rw [hxs] at hx
  cases r with
  | error e => exact hx
  | ok a => exact hx.trans (hf a s' hxs)

/-- Reading the state is no change. -/
theorem reachesFrom_gets_bind {g : σ → α} {f : α → Action σ ε β}
    (h : ReachesFrom R (f (g s)) s) : ReachesFrom R (gets g >>= f) s := h

/-! ## Frame conditions -/

/-- The command leaves the part `f` of the state alone. -/
def Keeps {τ : Type u} (f : σ → τ) (x : Action σ ε α) : Prop := ∀ s, f (x s).2 = f s

variable {τ : Type u} {f : σ → τ}

theorem keeps_pure (a : α) : Keeps f (pure a : Action σ ε α) := fun _ => rfl

theorem keeps_throw (e : ε) : Keeps f (throw e : Action σ ε α) := fun _ => rfl

theorem keeps_ofExec (x : Exec ε α) : Keeps f (ofExec x : Action σ ε α) := fun _ => rfl

theorem keeps_ofExcept (x : Except ε α) : Keeps f (ofExcept x : Action σ ε α) := by
  cases x with
  | error e => exact keeps_throw e
  | ok a => exact keeps_pure a

theorem keeps_gets (g : σ → α) : Keeps f (gets g : Action σ ε α) := fun _ => rfl

theorem keeps_modify {h : σ → σ} (hh : ∀ s, f (h s) = f s) :
    Keeps f (modify h : Action σ ε PUnit) := hh

theorem keeps_update {h : σ → α × σ} (hh : ∀ s, f (h s).2 = f s) :
    Keeps f (update h : Action σ ε α) := hh

theorem Keeps.bind {x : Action σ ε α} {k : α → Action σ ε β} (hx : Keeps f x)
    (hk : ∀ a, Keeps f (k a)) : Keeps f (x >>= k) := by
  intro s
  have hxs := hx s
  rw [bind_apply]
  rcases hr : x s with ⟨r, s'⟩
  rw [hr] at hxs
  cases r with
  | error e => exact hxs
  | ok a => exact (hk a s').trans hxs

end Action

end Aivpn.Lib
