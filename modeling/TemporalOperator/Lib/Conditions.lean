import Mathlib.Logic.Basic

/-!
# Status conditions

`meta.SetStatusCondition` and `meta.IsStatusConditionTrue` over any type `κ` of condition types. A new
condition replaces the one of its type, or is appended (`isTrue_set_self`, `isTrue_set_of_ne`, `find_set_of_ne`).
`isStatusConditionTrue_eq` : a condition is true when it is found with this status.
-/

namespace TemporalOperator.Lib

inductive ConditionStatus
  | true
  | false
  | unknown
  deriving DecidableEq, Repr

structure Condition (κ : Type) where
  type : κ
  status : ConditionStatus
  reason : String
  message : String
  observedGeneration : Nat
  deriving DecidableEq, Repr

variable {κ : Type} [DecidableEq κ]

/-- `meta.SetStatusCondition` (without transition times). -/
def setStatusCondition (new : Condition κ) : List (Condition κ) → List (Condition κ)
  | [] => [new]
  | c :: cs => if c.type = new.type then new :: cs else c :: setStatusCondition new cs

def isStatusConditionTrue (t : κ) : List (Condition κ) → Bool
  | [] => false
  | c :: cs => if c.type = t then c.status = .true else isStatusConditionTrue t cs

/-- `meta.FindStatusCondition`. -/
def findStatusCondition (t : κ) (cs : List (Condition κ)) : Option (Condition κ) := cs.find? (·.type = t)

theorem isStatusConditionTrue_eq (t : κ) (cs : List (Condition κ)) :
    isStatusConditionTrue t cs = decide ((findStatusCondition t cs).map (·.status) = some .true) := by
  unfold findStatusCondition
  induction cs with
  | nil => rfl
  | cons c cs ih =>
    rw [isStatusConditionTrue, List.find?_cons]
    by_cases hc : c.type = t
    · simp [hc]
    · simp [hc, ih]

theorem find_set_of_ne {new : Condition κ} {t : κ} (h : new.type ≠ t) (cs : List (Condition κ)) :
    findStatusCondition t (setStatusCondition new cs) = findStatusCondition t cs := by
  unfold findStatusCondition
  induction cs with
  | nil => simp [setStatusCondition, h]
  | cons c cs ih =>
    by_cases hc : c.type = new.type
    · simp [setStatusCondition, hc, h]
    · rw [setStatusCondition, if_neg hc, List.find?_cons, List.find?_cons, ih]

@[simp] theorem isTrue_set_self (new : Condition κ) (cs : List (Condition κ)) :
    isStatusConditionTrue new.type (setStatusCondition new cs) = decide (new.status = .true) := by
  induction cs with
  | nil => simp [setStatusCondition, isStatusConditionTrue]
  | cons c cs ih =>
    by_cases h : c.type = new.type
    · simp [setStatusCondition, isStatusConditionTrue, h]
    · simp [setStatusCondition, isStatusConditionTrue, h, ih]

theorem isTrue_set_of_ne {new : Condition κ} {t : κ} (h : new.type ≠ t) (cs : List (Condition κ)) :
    isStatusConditionTrue t (setStatusCondition new cs) = isStatusConditionTrue t cs := by
  induction cs with
  | nil => simp [setStatusCondition, isStatusConditionTrue, h]
  | cons c cs ih =>
    by_cases hc : c.type = new.type
    · have ht : c.type ≠ t := hc ▸ h
      rw [setStatusCondition, if_pos hc, isStatusConditionTrue, if_neg h, isStatusConditionTrue, if_neg ht]
    · rw [setStatusCondition, if_neg hc, isStatusConditionTrue, isStatusConditionTrue, ih]

end TemporalOperator.Lib
