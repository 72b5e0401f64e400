import TemporalOperator.Satellite.Namespace
import Mathlib.Data.List.Count
import Mathlib.Data.List.Perm.Subperm

/-!
# Drift of a namespace's clusters

`equalStringSets` counts the declared clusters up and the observed ones down, and stops at the first count below zero.

* `countUp_apply`, `countDown_iff` : what the two loops compute;
* `equalStringSets_iff` : the lists are permutations of each other;
* `namespaceDrifted_iff` : what counts as drift.
-/

namespace TemporalOperator.Satellite.Namespace

/-! ## The two loops -/

/-- From any counts, the first loop adds what the list has of each string. -/
theorem foldl_count (a : List String) (counts : String → Int) (s : String) :
    (a.foldl (fun counts s => Function.update counts s (counts s + 1)) counts) s = counts s + a.count s := by
  induction a generalizing counts with
  | nil => simp
  | cons t a ih =>
    rw [List.foldl_cons, ih]
    by_cases hst : s = t
    · subst hst
      rw [Function.update_self, List.count_cons_self]
      omega
    · rw [Function.update_of_ne hst, List.count_cons_of_ne (Ne.symm hst)]

theorem countUp_apply (a : List String) (s : String) : countUp a s = a.count s := by
  unfold countUp
  rw [foldl_count, Int.zero_add]

/-- The second loop ends well when no string is taken more often than it has been counted. -/
theorem countDown_iff {counts : String → Int} (hcounts : ∀ s, 0 ≤ counts s) (b : List String) :
    countDown counts b = true ↔ ∀ s, (b.count s : Int) ≤ counts s := by
  induction b generalizing counts with
  | nil =>
    refine ⟨fun _ s => ?_, fun _ => rfl⟩
    rw [List.count_nil]
    exact hcounts s
  | cons t b ih =>
    unfold countDown
    dsimp only
    rw [Function.update_self]
    split
    · rename_i hneg
      -- the string has been taken more often than it was there
      refine ⟨nofun, fun h => ?_⟩
      have ht := h t
      rw [List.count_cons_self] at ht
      omega
    · rename_i hnonneg
      rw [ih]
      · refine forall_congr' fun s => ?_
        by_cases hst : s = t
        · subst hst
          rw [Function.update_self, List.count_cons_self]
          omega
        · rw [Function.update_of_ne hst, List.count_cons_of_ne (Ne.symm hst)]
      · intro s
        by_cases hst : s = t
        · subst hst
          rw [Function.update_self]
          omega
        · rw [Function.update_of_ne hst]
          exact hcounts s

/-! ## The comparison -/

theorem equalStringSets_iff (a b : List String) : equalStringSets a b = true ↔ a.Perm b := by
  unfold equalStringSets
  split
  · rename_i hlen
    exact ⟨nofun, fun h => absurd h.length_eq hlen⟩
  · rename_i hlen
    have hcounts : ∀ s, 0 ≤ countUp a s := fun s => by
      rw [countUp_apply]
      omega
    rw [countDown_iff hcounts]
    constructor
    · intro h
      have hsub : b.Subperm a := List.subperm_ext_iff.mpr fun s _ => by
        have hs := h s
        rw [countUp_apply] at hs
        omega
      exact (hsub.perm_of_length_le (by omega)).symm
    · intro h s
      rw [countUp_apply, h.count_eq]

theorem equalStringSets_self (a : List String) : equalStringSets a a = true :=
  (equalStringSets_iff a a).mpr (List.Perm.refl a)

theorem namespaceDrifted_iff (p : NamespaceParams) (info : NamespaceInfo) :
    namespaceDrifted p info = true ↔
      p.clusters ≠ [] ∧ ¬ p.clusters.Perm info.clusters ∨ p.description ≠ info.description ∨
        p.ownerEmail ≠ info.ownerEmail ∨ p.retentionPeriod ≠ info.retentionPeriod := by
  unfold namespaceDrifted
  rw [← equalStringSets_iff]
  simp [or_assoc]

/-- `namespaceDrifted` with the pointer that it is given: a namespace that has not been described has drifted. -/
def driftedFrom (p : NamespaceParams) : Option NamespaceInfo → Bool
  | none => true
  | some info => namespaceDrifted p info

/-- **Clusters are compared as multisets: the comparison holds of permutations only, the order of the server's list does
not matter, and another multiset is always drift.** -/
theorem clusters_compared_as_multisets :
    (∀ a b, equalStringSets a b = true ↔ a.Perm b) ∧
      (∀ p info clusters, info.clusters.Perm clusters →
        driftedFrom p (some { info with clusters }) = driftedFrom p (some info)) ∧
      ∀ p info, p.clusters ≠ [] → (∀ i ∈ info, ¬ p.clusters.Perm i.clusters) → driftedFrom p info = true := by
  refine ⟨equalStringSets_iff, ?_, ?_⟩
  · intro p info clusters hperm
    have hsame : p.clusters.Perm clusters ↔ p.clusters.Perm info.clusters :=
      ⟨fun h => h.trans hperm.symm, fun h => h.trans hperm⟩
    show namespaceDrifted p { info with clusters } = namespaceDrifted p info
    rw [Bool.eq_iff_iff, namespaceDrifted_iff, namespaceDrifted_iff]
    dsimp only
    rw [hsame]
  · intro p info hdeclared hdiffer
    cases info with
    | none => rfl
    | some i => exact (namespaceDrifted_iff p i).mpr (.inl ⟨hdeclared, hdiffer i rfl⟩)

/-- Two clusters in the other order, and one of them twice. -/
theorem clusters_compared_two :
    let p : NamespaceParams := ⟨"orders", "", "", 0, true, ["a", "b"], "a"⟩
    let info : NamespaceInfo := { clusters := ["a", "b"] }
    equalStringSets ["a", "b"] ["b", "a"] = true ∧
      driftedFrom p (some { info with clusters := ["b", "a"] }) = driftedFrom p (some info) ∧
      driftedFrom p (some { info with clusters := ["a", "a"] }) = true := by
  intro p info
  have hperm : ["a", "b"].Perm ["b", "a"] := by decide
  have hdeclared : p.clusters ≠ [] := by decide
  have hdiffer : ∀ i ∈ some { info with clusters := ["a", "a"] }, ¬ p.clusters.Perm i.clusters := by decide
  exact ⟨(clusters_compared_as_multisets.1 _ _).mpr hperm, clusters_compared_as_multisets.2.1 p info _ hperm,
    clusters_compared_as_multisets.2.2 p _ hdeclared hdiffer⟩

end TemporalOperator.Satellite.Namespace
