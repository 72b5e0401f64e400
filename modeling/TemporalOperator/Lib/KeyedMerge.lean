import Mathlib.Data.Option.Basic

/-!
# Merging by key

A list whose entries have keys is patched entry by entry. What a patch says about the entry under a key is seen through
one field of the entry.

* `EntryPatch` : what a patch says about the field; `EntryPatch.apply` : what becomes of it;
* `EntryPatch.Keeps` : the patch keeps a value; `EntryPatch.apply_apply_eq_iff` : two patches keep it;
* `mergeEntry` : the entry under a key is changed, or added; `map_find?_mergeEntry` : as a patch.
-/

namespace TemporalOperator.Lib

inductive EntryPatch (α : Type)
  /-- The patch does not name the entry. -/
  | silent
  /-- The patch names the entry, with the value it sets, if any. -/
  | merge (value : Option α)
  /-- The patch deletes the entry, or replaces the list by one without it. -/
  | remove
  deriving DecidableEq, Repr

namespace EntryPatch
variable {α : Type}

/-- The value after the patch; `none` when there is no entry. -/
def apply [Inhabited α] : EntryPatch α → Option α → Option α
  | .silent, value => value
  | .merge new, value => some (new.getD (value.getD default))
  | .remove, _ => none

def LeavesValue (p : EntryPatch α) : Prop := p = .silent ∨ p = .merge none

/-- The patch leaves the value, or sets it to what it is. -/
def Keeps (p : EntryPatch α) (a : α) : Prop := p = .merge (some a) ∨ p.LeavesValue

variable [Inhabited α] {a : α}

theorem apply_eq_iff {p : EntryPatch α} : p.apply (some a) = some a ↔ p.Keeps a := by
  cases p with
  | merge new => cases new <;> simp [apply, Keeps, LeavesValue]
  | _ => simp [apply, Keeps, LeavesValue]

/-- Of two patches the last one that sets a value counts. An entry that the first one removes comes back empty. -/
theorem apply_apply_eq_iff {first last : EntryPatch α} (h : a ≠ default) :
    last.apply (first.apply (some a)) = some a ↔ last = .merge (some a) ∨ last.LeavesValue ∧ first.Keeps a := by
  cases last with
  | remove => simp [apply, LeavesValue]
  | silent => simp [apply, LeavesValue, apply_eq_iff.symm]
  | merge new =>
    cases new with
    | some b => simp [apply, LeavesValue]
    | none =>
      cases first with
      | merge new => cases new <;> simp [apply, Keeps, LeavesValue]
      | silent => simp [apply, Keeps, LeavesValue]
      | remove => simpa [apply, Keeps, LeavesValue] using h.symm

end EntryPatch

/-! ## Lists with keys -/

section
variable {κ α : Type} [DecidableEq κ]

/-- Change the first entry with the key, or add `new` at the end. -/
def mergeEntry (key : α → κ) (k : κ) (change : α → α) (new : α) : List α → List α
  | [] => [new]
  | a :: as => if key a = k then change a :: as else a :: mergeEntry key k change new as

theorem find?_mergeEntry {key : α → κ} {k : κ} {change : α → α} {new : α} (hchange : ∀ a, key (change a) = key a)
    (hnew : key new = k) (as : List α) (k' : κ) :
    (mergeEntry key k change new as).find? (fun a => key a = k') =
      if k' = k then some ((as.find? fun a => key a = k).elim new change) else as.find? fun a => key a = k' := by
  by_cases hk : k' = k
  · subst hk
    induction as with
    | nil => simp [mergeEntry, hnew]
    | cons a as ih => by_cases ha : key a = k' <;> simp_all [mergeEntry]
  · have hk' : k ≠ k' := Ne.symm hk
    rw [if_neg hk]
    induction as with
    | nil => simp [mergeEntry, hnew, hk']
    | cons a as ih =>
      by_cases ha : key a = k
      · simp [mergeEntry, ha, hchange, hk']
      · by_cases ha' : key a = k' <;> simp_all [mergeEntry]

/-- A merge that sets a field of the entry under `k`, as a patch. -/
theorem map_find?_mergeEntry {β : Type} [Inhabited β] {key : α → κ} {k : κ} {change : α → α} {new : α} {b : β}
    (field : α → β) (as : List α) (k' : κ) (hchange : ∀ a, key (change a) = key a ∧ field (change a) = b)
    (hnew : key new = k ∧ field new = b) :
    ((mergeEntry key k change new as).find? fun a => key a = k').map field =
      (if k' = k then EntryPatch.merge (some b) else .silent).apply ((as.find? fun a => key a = k').map field) := by
  rw [find?_mergeEntry (fun a => (hchange a).1) hnew.1]
  split
  · cases as.find? fun a => key a = k with
    | none => exact congrArg some hnew.2
    | some a => exact congrArg some (hchange a).2
  · rfl

end

end TemporalOperator.Lib
