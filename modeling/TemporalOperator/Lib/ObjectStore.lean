import Mathlib.Logic.Basic

/-!
# A server that stores one object

An object has metadata, a spec that users write and a status that a controller writes. The server counts versions: a
write that carries another version than the stored one is refused. An object with finalizers is only marked as deleted;
it goes away when the last finalizer is taken off.

* `Edit.apply`, `edits` : what users do, as far as `admits` (a check of the old spec against the new one) lets them;
* `Object.checkVersion`, `written`, `writtenStatus`, `marked` : the controller's writes;
* `edits_induction` : what one edit keeps, any number of edits keeps; `edits_status` : the status is one such thing;
* `ReadAt` : optimistic concurrency, a stored object of the version that was read is the one that was read;
* `edits_edited` : what is left of an object after edits has the same spec if it has the same generation;
  `edits_unchanged` : it is the same if it has the same version.
-/

namespace TemporalOperator.Lib

/-- An object with spec `S` and status `T`. -/
structure Object (S T : Type) where
  name : String
  uid : String := ""
  generation : Nat := 1
  resourceVersion : Nat := 0
  /-- The deletion timestamp is set. -/
  deleting : Bool := false
  finalizers : List String := []
  spec : S
  status : T
  deriving DecidableEq, Repr

inductive StoreErr
  | notFound
  | conflict
  deriving DecidableEq, Repr

variable {S T : Type}

namespace Object

def orGone (o : Object S T) : Option (Object S T) := if o.deleting && o.finalizers.isEmpty then none else some o

theorem orGone_eq_some {o o' : Object S T} (h : o.orGone = some o') : o' = o := by
  unfold orGone at h
  split at h
  · cases h
  · exact (Option.some.inj h).symm

/-- The write of `o` meets the version it was read at. -/
def checkVersion (o : Object S T) : Option (Object S T) → Except StoreErr (Object S T)
  | none => .error .notFound
  | some cur => if cur.resourceVersion = o.resourceVersion then .ok cur else .error .conflict

theorem checkVersion_eq_ok {o cur : Object S T} {stored : Option (Object S T)}
    (h : o.checkVersion stored = .ok cur) : cur ∈ stored ∧ cur.resourceVersion = o.resourceVersion := by
  cases stored with
  | none => cases h
  | some c =>
    rw [checkVersion] at h
    split at h
    · obtain rfl := Except.ok.inj h
      exact ⟨rfl, ‹_›⟩
    · cases h

theorem checkVersion_eq_error {o cur : Object S T} {stored : Option (Object S T)} {e : StoreErr}
    (h : o.checkVersion stored = .error e) (hcur : cur ∈ stored) : cur.resourceVersion ≠ o.resourceVersion := by
  obtain rfl := Option.mem_def.mp hcur
  rw [checkVersion] at h
  split at h
  · cases h
  · assumption

/-- The object stored when `o` is written over `cur`: the status stays. -/
def written (o cur : Object S T) : Object S T :=
  { o with status := cur.status, resourceVersion := cur.resourceVersion + 1 }

/-- The object stored when the status `st` is written over `cur`: everything else stays. -/
def writtenStatus (st : T) (cur : Object S T) : Object S T :=
  { cur with status := st, resourceVersion := cur.resourceVersion + 1 }

/-- A deletion marks an object that has finalizers. -/
def marked (o : Object S T) : Option (Object S T) :=
  if o.finalizers = [] then none
  else if o.deleting then some o
  else some { o with deleting := true, generation := o.generation + 1, resourceVersion := o.resourceVersion + 1 }

end Object

/-! ## Versions -/

/-- The stored object is the one that was read at version `v` with `spec`, or a later one. -/
def ReadAt (v : Nat) (spec : S) (stored : Option (Object S T)) : Prop :=
  ∀ o ∈ stored, v ≤ o.resourceVersion ∧ (o.resourceVersion = v → o.spec = spec)

theorem readAt_orGone (o : Object S T) : ReadAt o.resourceVersion o.spec o.orGone := by
  intro o' ho'
  rw [Object.orGone_eq_some ho']
  exact ⟨Nat.le_refl _, fun _ => rfl⟩

/-- A version that has been overwritten is not met again. -/
theorem readAt_orGone_of_lt {o : Object S T} {v : Nat} {spec : S} (h : v < o.resourceVersion) :
    ReadAt v spec o.orGone := by
  intro o' ho'
  rw [Object.orGone_eq_some ho']
  exact ⟨Nat.le_of_lt h, fun heq => absurd heq (Nat.ne_of_gt h)⟩

/-! ## Users -/

inductive Edit (S : Type)
  | edit (spec : S) (finalizers : List String)
  | delete
  deriving DecidableEq, Repr

variable [DecidableEq S]

/-- What an edit makes of the stored object. A refused edit changes nothing, and neither does one that is the same as
what is stored; no finalizer is added to an object that is being deleted. -/
def Edit.apply (admits : S → S → Bool) (o : Object S T) : Edit S → Option (Object S T)
  | .edit spec finalizers =>
    if !admits o.spec spec || (o.deleting && finalizers.any (· ∉ o.finalizers)) then some o
    else if spec = o.spec ∧ finalizers = o.finalizers then some o
    else
      Object.orGone
        { o with
          spec, finalizers
          generation := if spec = o.spec then o.generation else o.generation + 1
          resourceVersion := o.resourceVersion + 1 }
  | .delete => o.marked

def edits (admits : S → S → Bool) : List (Edit S) → Option (Object S T) → Option (Object S T)
  | [], stored => stored
  | e :: es, stored => edits admits es (stored.bind (Edit.apply admits · e))

theorem edits_delete (admits : S → S → Bool) (o : Object S T) : edits admits [.delete] (some o) = o.marked := rfl

theorem edits_none (admits : S → S → Bool) (es : List (Edit S)) : edits admits es (none : Option (Object S T)) = none := by
  induction es with
  | nil => rfl
  | cons e es ih => exact ih

/-- What a single edit can do. -/
theorem Edit.apply_cases {admits : S → S → Bool} {o o' : Object S T} {e : Edit S} (h : e.apply admits o = some o') :
    o' = o ∨
      (∃ spec finalizers generation, admits o.spec spec = true ∧
        o' = { o with spec, finalizers, generation, resourceVersion := o.resourceVersion + 1 }) ∨
      o' = { o with deleting := true, generation := o.generation + 1, resourceVersion := o.resourceVersion + 1 } := by
  cases e with
  | edit spec finalizers =>
    simp only [Edit.apply] at h
    split at h
    · exact .inl (Option.some.inj h).symm
    · rename_i hadm
      simp only [Bool.or_eq_true, Bool.not_eq_true', not_or, Bool.not_eq_false] at hadm
      split at h
      · exact .inl (Option.some.inj h).symm
      · exact .inr (.inl ⟨_, _, _, hadm.1, Object.orGone_eq_some h⟩)
  | delete =>
    simp only [Edit.apply, Object.marked] at h
    split at h
    · cases h
    · split at h
      · exact .inl (Option.some.inj h).symm
      · exact .inr (.inr (Option.some.inj h).symm)

/-- What every edit keeps is kept by any number of them. -/
theorem edits_induction {admits : S → S → Bool} {I : Object S T → Prop}
    (step : ∀ o e o', I o → Edit.apply admits o e = some o' → I o') (es : List (Edit S)) {stored : Option (Object S T)}
    (h : ∀ o ∈ stored, I o) : ∀ o ∈ edits admits es stored, I o := by
  induction es generalizing stored with
  | nil => exact h
  | cons e es ih =>
    refine ih fun o' ho' => ?_
    obtain ⟨o, ho, happ⟩ := Option.bind_eq_some_iff.mp ho'
    exact step o e o' (h o ho) happ

theorem Edit.apply_status {admits : S → S → Bool} {o o' : Object S T} {e : Edit S} (h : e.apply admits o = some o') :
    o'.status = o.status := by
  obtain rfl | ⟨spec, finalizers, generation, -, rfl⟩ | rfl := Edit.apply_cases h <;> rfl

theorem edits_status (admits : S → S → Bool) {P : T → Prop} (es : List (Edit S)) {stored : Option (Object S T)}
    (h : ∀ o ∈ stored, P o.status) : ∀ o ∈ edits admits es stored, P o.status := by
  refine edits_induction (I := fun o => P o.status) (fun o e o' ho happ => ?_) es h
  rw [Edit.apply_status happ]
  exact ho

theorem edits_deleting (admits : S → S → Bool) (es : List (Edit S)) {stored : Option (Object S T)}
    (h : ∀ o ∈ stored, o.deleting = true) : ∀ o ∈ edits admits es stored, o.deleting = true := by
  refine edits_induction (fun o e o' ho happ => ?_) es h
  obtain rfl | ⟨spec, finalizers, generation, -, rfl⟩ | rfl := Edit.apply_cases happ
  · exact ho
  · exact ho
  · rfl

/-- Under optimistic concurrency, what users do shows in the version. -/
theorem ReadAt.edited {admits : S → S → Bool} {v : Nat} {spec : S} {stored : Option (Object S T)}
    (h : ReadAt v spec stored) (es : List (Edit S)) : ReadAt v spec (edits admits es stored) := by
  refine edits_induction (fun o e o' ho happ => ?_) es h
  have hlt : v < o.resourceVersion + 1 := Nat.lt_succ_of_le ho.1
  obtain rfl | ⟨spec', finalizers, generation, -, rfl⟩ | rfl := Edit.apply_cases happ
  · exact ho
  · exact ⟨Nat.le_of_lt hlt, fun heq => absurd heq (Nat.ne_of_gt hlt)⟩
  · exact ⟨Nat.le_of_lt hlt, fun heq => absurd heq (Nat.ne_of_gt hlt)⟩

/-- Edits raise the generation with the spec. -/
theorem Edit.apply_generation {admits : S → S → Bool} {o o' : Object S T} {e : Edit S} (h : e.apply admits o = some o') :
    o.generation ≤ o'.generation ∧ (o'.generation = o.generation → o'.spec = o.spec) := by
  cases e with
  | edit spec finalizers =>
    simp only [Edit.apply] at h
    split at h
    · obtain rfl := Option.some.inj h
      exact ⟨Nat.le_refl _, fun _ => rfl⟩
    · split at h
      · obtain rfl := Option.some.inj h
        exact ⟨Nat.le_refl _, fun _ => rfl⟩
      · rw [Object.orGone_eq_some h]
        by_cases hspec : spec = o.spec
        · exact ⟨by simp [hspec], fun _ => hspec⟩
        · simp [hspec]
  | delete =>
    simp only [Edit.apply, Object.marked] at h
    split at h
    · cases h
    · split at h
      · obtain rfl := Option.some.inj h
        exact ⟨Nat.le_refl _, fun _ => rfl⟩
      · obtain rfl := Option.some.inj h
        exact ⟨Nat.le_succ _, fun _ => rfl⟩

/-- What users make of an object: a later one of the same name and status. -/
structure Edited (o o' : Object S T) : Prop where
  name : o'.name = o.name
  status : o'.status = o.status
  generation : o.generation ≤ o'.generation
  spec : o'.generation = o.generation → o'.spec = o.spec

omit [DecidableEq S] in
theorem Edited.refl (o : Object S T) : Edited o o := ⟨rfl, rfl, Nat.le_refl _, fun _ => rfl⟩

theorem edits_edited {admits : S → S → Bool} (es : List (Edit S)) (o : Object S T) :
    ∀ o' ∈ edits admits es (some o), Edited o o' := by
  refine edits_induction (fun o₁ e o₂ h happ => ?_) es fun o' ho' => Option.some.inj ho' ▸ Edited.refl o
  have hgen := Edit.apply_generation happ
  refine ⟨?_, (Edit.apply_status happ).trans h.status, Nat.le_trans h.generation hgen.1, fun heq => ?_⟩
  · obtain rfl | ⟨spec, finalizers, generation, -, rfl⟩ | rfl := Edit.apply_cases happ <;> exact h.name
  · have h₁ : o₁.generation = o.generation := Nat.le_antisymm (heq ▸ hgen.1) h.generation
    exact (hgen.2 (heq.trans h₁.symm)).trans (h.spec h₁)

/-- An object that still has the version that was read is the one that was read. -/
theorem edits_unchanged {admits : S → S → Bool} (es : List (Edit S)) {o o' : Object S T}
    (ho' : o' ∈ edits admits es (some o)) (hversion : o'.resourceVersion = o.resourceVersion) : o' = o := by
  have h : o.resourceVersion ≤ o'.resourceVersion ∧ (o'.resourceVersion = o.resourceVersion → o' = o) := by
    refine edits_induction (I := fun o' => o.resourceVersion ≤ o'.resourceVersion ∧
      (o'.resourceVersion = o.resourceVersion → o' = o)) (fun o₁ e o₂ h happ => ?_) es (fun o₁ ho₁ => ?_) o' ho'
    · have hlt : o.resourceVersion < o₁.resourceVersion + 1 := Nat.lt_succ_of_le h.1
      obtain rfl | ⟨spec, finalizers, generation, -, rfl⟩ | rfl := Edit.apply_cases happ
      · exact h
      · exact ⟨Nat.le_of_lt hlt, fun heq => absurd heq (Nat.ne_of_gt hlt)⟩
      · exact ⟨Nat.le_of_lt hlt, fun heq => absurd heq (Nat.ne_of_gt hlt)⟩
    · obtain rfl := Option.some.inj ho₁
      exact ⟨Nat.le_refl _, fun _ => rfl⟩
  exact h.2 hversion

end TemporalOperator.Lib
