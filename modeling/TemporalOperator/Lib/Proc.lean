import Mathlib.Logic.Basic

/-!
# Computations on a state that may fail

`Proc σ ε α` : a computation that changes a state `σ` and ends in a value or an error. A failure keeps the state, as a
controller pass that is given up leaves behind what it has done.

* `attempt` : hand the error to the caller; `mapError` : add to it; `ofExcept` : a pure result;
* `Triple P m Q E` : from a state with `P`, `m` ends in a value with `Q` or in an error with `E`; one rule for each way
  to build a computation, loops included (`triple_foldlM`, `triple_forM`), and `Triple.conseq`; `Keeps I m` : one
  condition throughout.
-/

namespace TemporalOperator.Lib

/-- A computation on a state `σ`; an error keeps the state reached. -/
abbrev Proc (σ ε : Type) := ExceptT ε (StateM σ)

namespace Proc

variable {σ ε ε' α β : Type}

def exec (m : Proc σ ε α) (s : σ) : Except ε α × σ := Id.run (StateT.run (ExceptT.run m) s)

/-- Run `m` and hand its result, error included, to the caller. -/
def attempt (m : Proc σ ε α) : Proc σ ε' (Except ε α) := ExceptT.mk fun s => (.ok (m.exec s).1, (m.exec s).2)

def ofExcept (r : Except ε α) : Proc σ ε α := ExceptT.mk fun s => (r, s)

def mapError (f : ε → ε') (m : Proc σ ε α) : Proc σ ε' α := do
  let r ← attempt m
  ofExcept (r.mapError f)

/-! ## Running -/

@[simp] theorem exec_get (s : σ) : (get : Proc σ ε σ).exec s = (.ok s, s) := rfl

@[simp] theorem exec_modify (f : σ → σ) (s : σ) : (modify f : Proc σ ε Unit).exec s = (.ok (), f s) := rfl

@[simp] theorem exec_attempt (m : Proc σ ε α) (s : σ) :
    (attempt m : Proc σ ε' (Except ε α)).exec s = (.ok (m.exec s).1, (m.exec s).2) := rfl

theorem exec_bind (m : Proc σ ε α) (f : α → Proc σ ε β) (s : σ) :
    (m >>= f).exec s =
      match m.exec s with
      | (.ok a, s') => (f a).exec s'
      | (.error e, s') => (.error e, s') := by
  have hrun : (m >>= f).exec s =
      match m.exec s with
      | (r, s') => Id.run (StateT.run (ExceptT.bindCont f r) s') := rfl
  rw [hrun]
  rcases m.exec s with ⟨r, s'⟩
  cases r <;> rfl

theorem exec_then_pure (m : Proc σ ε α) (b : β) (s : σ) : ((m >>= fun _ => pure b).exec s).2 = (m.exec s).2 := by
  rw [exec_bind]
  rcases m.exec s with ⟨r, s'⟩
  cases r <;> rfl

/-! ## Pre- and postconditions -/

/-- From a state with `P`, the computation ends in a value and a state with `Q`, or in an error and a state with `E`. -/
def Triple (P : σ → Prop) (m : Proc σ ε α) (Q : α → σ → Prop) (E : ε → σ → Prop) : Prop :=
  ∀ s, P s →
    match m.exec s with
    | (.ok a, s') => Q a s'
    | (.error e, s') => E e s'

abbrev Keeps (I : σ → Prop) (m : Proc σ ε α) : Prop := Triple I m (fun _ => I) fun _ => I

variable {P P' : σ → Prop} {Q Q' : α → σ → Prop} {R : β → σ → Prop} {E E' : ε → σ → Prop} {m : Proc σ ε α}

theorem Triple.conseq (h : Triple P m Q E) (hP : ∀ s, P' s → P s) (hQ : ∀ a s, Q a s → Q' a s)
    (hE : ∀ e s, E e s → E' e s) : Triple P' m Q' E' := by
  intro s hs
  have hm := h s (hP s hs)
  rcases hx : m.exec s with ⟨r, s'⟩
  rw [hx] at hm
  cases r with
  | ok a => exact hQ a s' hm
  | error e => exact hE e s' hm

theorem Triple.pre (h : Triple P m Q E) (hP : ∀ s, P' s → P s) : Triple P' m Q E :=
  h.conseq hP (fun _ _ hs => hs) fun _ _ hs => hs

theorem Triple.errors (h : Triple P m Q E) (hE : ∀ e s, E e s → E' e s) : Triple P m Q E' :=
  h.conseq (fun _ hs => hs) (fun _ _ hs => hs) hE

theorem Triple.and {P' : σ → Prop} {Q' : α → σ → Prop} {E' : ε → σ → Prop} (h : Triple P m Q E) (h' : Triple P' m Q' E') :
    Triple (fun s => P s ∧ P' s) m (fun a s => Q a s ∧ Q' a s) fun e s => E e s ∧ E' e s := by
  intro s hs
  have hm := h s hs.1
  have hm' := h' s hs.2
  rcases hx : m.exec s with ⟨r, s'⟩
  rw [hx] at hm hm'
  cases r with
  | ok a => exact ⟨hm, hm'⟩
  | error e => exact ⟨hm, hm'⟩

/-- A postcondition for both ends. -/
theorem triple_of_exec {I : σ → Prop} (h : ∀ s, P s → I (m.exec s).2) : Triple P m (fun _ => I) fun _ => I := by
  intro s hs
  have hm := h s hs
  rcases hx : m.exec s with ⟨r, s'⟩
  rw [hx] at hm
  cases r <;> exact hm

theorem Triple.exec {I : σ → Prop} (h : Triple P m (fun _ => I) fun _ => I) {s : σ} (hs : P s) : I (m.exec s).2 := by
  have hm := h s hs
  rcases hx : m.exec s with ⟨r, s'⟩
  rw [hx] at hm
  cases r <;> exact hm

theorem triple_pure {a : α} (h : ∀ s, P s → Q a s) : Triple P (pure a) Q E := h

theorem triple_throw {e : ε} (h : ∀ s, P s → E e s) : Triple P (throw e) Q E := h

theorem triple_get : Triple P (get : Proc σ ε σ) (fun a s => a = s ∧ P s) E := fun _ hs => ⟨rfl, hs⟩

theorem triple_modify {f : σ → σ} {Q : Unit → σ → Prop} (h : ∀ s, P s → Q () (f s)) :
    Triple P (modify f : Proc σ ε Unit) Q E := h

theorem triple_bind {f : α → Proc σ ε β} (hm : Triple P m Q E) (hf : ∀ a, Triple (Q a) (f a) R E) :
    Triple P (m >>= f) R E := by
  intro s hs
  have h := hm s hs
  rcases hx : m.exec s with ⟨r, s'⟩
  rw [hx] at h
  rw [exec_bind, hx]
  cases r with
  | ok a => exact hf a s' h
  | error e => exact h

theorem keeps_pure {I : σ → Prop} (a : α) : Keeps I (pure a : Proc σ ε α) := fun _ hs => hs

theorem keeps_bind {I : σ → Prop} {f : α → Proc σ ε β} (hm : Keeps I m) (hf : ∀ a, Keeps I (f a)) : Keeps I (m >>= f) :=
  triple_bind hm hf

/-- The caller of an attempt goes on from both ends. -/
theorem triple_attempt_bind {E₁ : ε' → σ → Prop} {m : Proc σ ε' α} {f : Except ε' α → Proc σ ε β}
    (hm : Triple P m Q E₁) (hok : ∀ a, Triple (Q a) (f (.ok a)) R E)
    (herror : ∀ e, Triple (E₁ e) (f (.error e)) R E) : Triple P (attempt m >>= f) R E := by
  intro s hs
  have h := hm s hs
  rw [exec_bind, exec_attempt]
  rcases hx : m.exec s with ⟨r, s'⟩
  rw [hx] at h
  cases r with
  | ok a => exact hok a s' h
  | error e => exact herror e s' h

/-- Loops that hand on a value: `I` speaks of what is still to be done, and of the value. -/
theorem triple_foldlM {f : β → α → Proc σ ε β} {I : List α → β → σ → Prop} {E : ε → σ → Prop}
    (h : ∀ a as b, Triple (I (a :: as) b) (f b a) (fun b' => I as b') E) (as : List α) (b : β) :
    Triple (I as b) (as.foldlM f b) (fun b' => I [] b') E := by
  induction as generalizing b with
  | nil => exact triple_pure fun _ hs => hs
  | cons a as ih =>
    rw [List.foldlM_cons]
    exact triple_bind (h a as b) fun b' => ih b'

theorem triple_forM {f : α → Proc σ ε PUnit} {I : List α → σ → Prop} {E : ε → σ → Prop}
    (h : ∀ a as, Triple (I (a :: as)) (f a) (fun _ => I as) E) (as : List α) :
    Triple (I as) (as.forM f) (fun _ => I []) E := by
  induction as with
  | nil => exact triple_pure fun _ hs => hs
  | cons a as ih => exact triple_bind (h a as) fun _ => ih

theorem triple_ofExcept {I : σ → Prop} {r : Except ε α} : Triple I (ofExcept r) (fun _ => I) fun _ => I := by
  intro s hs
  cases r <;> exact hs

theorem triple_mapError {f : ε → ε'} {I : σ → Prop} (hm : Triple P m Q fun _ => I) :
    Triple P (mapError f m) Q fun _ => I :=
  triple_attempt_bind hm (fun _ _ hs => hs) fun _ _ hs => hs

end Proc

end TemporalOperator.Lib
