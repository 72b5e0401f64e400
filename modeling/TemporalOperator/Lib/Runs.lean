import Mathlib.Logic.Basic

/-!
# Runs of a system with a history

A system takes an event to a next state and a history entry. Histories are kept newest first.

* `Run ok s₀ s h` : `s` is reached from `s₀` with history `h` by events that meet `ok` (a condition on the
  state and the history before the event, and on the event); `Run.invariant` is the induction, `Run.last` takes the
  newest entry off;
* `exec`, `Fits`, `Run.exec` : a run from a list of events, to be evaluated on concrete ones;
* `since p h` : the newest part of `h`, back to and including the last entry with `p`.
-/

namespace TemporalOperator.Lib

/-- A deterministic system: states `σ`, events `ε`, history entries `ι`. -/
structure System (σ ε ι : Type) where
  step : σ → ε → σ × ι

namespace System

variable {σ ε ι : Type} (S : System σ ε ι)

/-- The states and histories reached from `s₀` by events that meet `ok`. -/
inductive Run (ok : σ → List ι → ε → Prop) (s₀ : σ) : σ → List ι → Prop
  | start : Run ok s₀ s₀ []
  | step {s : σ} {h : List ι} (e : ε) (run : Run ok s₀ s h) (he : ok s h e) :
      Run ok s₀ (S.step s e).1 ((S.step s e).2 :: h)

variable {S}

/-- What holds at the start and is kept by every event that meets the condition holds along the run. -/
theorem Run.invariant {ok : σ → List ι → ε → Prop} {s₀ s : σ} {h : List ι} {I : σ → List ι → Prop} (start : I s₀ [])
    (step : ∀ s h e, S.Run ok s₀ s h → I s h → ok s h e → I (S.step s e).1 ((S.step s e).2 :: h))
    (hr : S.Run ok s₀ s h) : I s h := by
  induction hr with
  | start => exact start
  | step e run he ih => exact step _ _ e run ih he

/-- The run that was there before the newest entry, and the event that made it. -/
theorem Run.last {ok : σ → List ι → ε → Prop} {s₀ s : σ} {i : ι} {h : List ι}
    (hr : S.Run ok s₀ s (i :: h)) :
    ∃ s' e, S.Run ok s₀ s' h ∧ ok s' h e ∧ s = (S.step s' e).1 ∧ i = (S.step s' e).2 := by
  cases hr with
  | step e run he => exact ⟨_, e, run, he, rfl, rfl⟩

/-! ## Evaluating runs -/

variable (S)

/-- Continue from state `s` and history `h` through a list of events. -/
def exec : σ → List ι → List ε → σ × List ι
  | s, h, [] => (s, h)
  | s, h, e :: es => exec (S.step s e).1 ((S.step s e).2 :: h) es

def Fits (ok : σ → List ι → ε → Prop) : σ → List ι → List ε → Prop
  | _, _, [] => True
  | s, h, e :: es => ok s h e ∧ Fits ok (S.step s e).1 ((S.step s e).2 :: h) es

instance decidableFits (ok : σ → List ι → ε → Prop) [∀ s h e, Decidable (ok s h e)] :
    ∀ (s : σ) (h : List ι) (es : List ε), Decidable (S.Fits ok s h es)
  | _, _, [] => .isTrue trivial
  | s, h, e :: es =>
    haveI := decidableFits ok (S.step s e).1 ((S.step s e).2 :: h) es
    inferInstanceAs (Decidable (ok s h e ∧ _))

variable {S}

theorem Run.exec {ok : σ → List ι → ε → Prop} {s₀ s : σ} {h : List ι} {es : List ε}
    (hr : S.Run ok s₀ s h) (hf : S.Fits ok s h es) :
    S.Run ok s₀ (S.exec s h es).1 (S.exec s h es).2 := by
  induction es generalizing s h with
  | nil => exact hr
  | cons e es ih => exact ih (.step e hr hf.1) hf.2

end System

/-! ## The newest part of a history -/

variable {ι : Type}

/-- The entries back to, and including, the last one with `p`. -/
def since (p : ι → Bool) : List ι → List ι
  | [] => []
  | i :: h => if p i then [i] else i :: since p h

theorem since_cons_of_true {p : ι → Bool} {i : ι} (hi : p i = true) (h : List ι) :
    since p (i :: h) = [i] := by
  simp [since, hi]

theorem since_cons_of_false {p : ι → Bool} {i : ι} (hi : p i = false) (h : List ι) :
    since p (i :: h) = i :: since p h := by
  simp [since, hi]

theorem mem_since_cons_self (p : ι → Bool) (i : ι) (h : List ι) : i ∈ since p (i :: h) := by
  unfold since
  split <;> simp

/-- Entries of `since p h` stay when an entry without `p` is added. -/
theorem mem_since_cons {p : ι → Bool} {i j : ι} {h : List ι} (hi : p i = false)
    (hj : j ∈ since p h) : j ∈ since p (i :: h) := by
  rw [since_cons_of_false hi]
  exact List.mem_cons_of_mem _ hj

end TemporalOperator.Lib
