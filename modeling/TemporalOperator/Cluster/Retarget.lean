import TemporalOperator.Cluster.Runs

/-!
# Moving the target of an upgrade

The webhook compares an update with the spec it replaces, the controller upgrades from `status.version` to
`spec.version`. While an upgrade is on its way the two differ.

* `upgrade_follows_edge` : the record is an edge of the matrix as long as the version is only moved along edges from
  the running version (`MovesFromRunning`); `upgrade_off_edge` : otherwise it need not be;
* `applied_versions_ascend` : no service is taken back as long as the version is not moved once servers roll
  (`RetargetsBeforeRolling`); `retarget_takes_frontend_back` : otherwise one can be.
-/

namespace TemporalOperator
open Lib

/-! ## Edges -/

/-- Once a version runs, an admitted update that changes the version goes along an edge from the running one. -/
def MovesFromRunning (c : Cluster) (_ : List Entry) : Input → Prop
  | .update spec annotations =>
    ClusterWebhook.validateUpdate c (submit c spec annotations) = [] → spec.version ≠ c.spec.version →
      c.status.version = "" ∨ canUpgrade supportedVersions c.status.version spec.version = .ok true
  | .pass _ => True

instance (c : Cluster) (h : List Entry) : (e : Input) → Decidable (MovesFromRunning c h e)
  | .update _ _ => inferInstanceAs (Decidable (_ → _))
  | .pass _ => inferInstanceAs (Decidable True)

/-- The spec is where the cluster runs, or an edge away, and so is the record. -/
structure OnEdge (c : Cluster) : Prop where
  spec : c.status.version = "" ∨ c.status.version = c.spec.version ∨
    canUpgrade supportedVersions c.status.version c.spec.version = .ok true
  record : ∀ up, c.status.upgrade = some up →
    canUpgrade supportedVersions up.fromVersion up.toVersion = .ok true

theorem OnEdge.stored {env : PassEnv} {c : Cluster} {st st' : ClusterStatus} (he : OnEdge c) (hc : Coherent c)
    (hs : Stored env c st st') : OnEdge { c with status := st' } := by
  cases hs with
  | steady due upgrade version =>
    refine ⟨?_, fun up hu => ?_⟩
    · rcases version with hver | hver
      · simpa only [hver] using he.spec
      · exact .inr (.inl hver)
    · rw [upgrade] at hu
      cases hu
  | moved up move upgrade version =>
    refine ⟨by simpa only [version] using he.spec, fun up' hu => ?_⟩
    obtain rfl := Option.some.inj (upgrade.symm.trans hu)
    rw [hc.moved_fromVersion move, move.toVersion]
    exact (he.spec.resolve_left move.due.1).resolve_left move.due.2
  | completed due phase upgrade version =>
    refine ⟨.inr (.inl version), fun up hu => ?_⟩
    rw [upgrade] at hu
    cases hu

theorem OnEdge.edited {c : Cluster} {h : List Entry} {spec : ClusterSpec} {annotations : List (String × String)}
    (he : OnEdge c) (hok : MovesFromRunning c h (.update spec annotations))
    (hv : ClusterWebhook.validateUpdate c (submit c spec annotations) = []) :
    OnEdge (submit c spec annotations) := by
  refine ⟨?_, he.record⟩
  by_cases hne : spec.version = c.spec.version
  · simpa only [submit_version, submit_status, hne] using he.spec
  · rcases hok hv hne with h0 | hedge
    · exact .inl h0
    · exact .inr (.inr hedge)

theorem ClusterRun.onEdge {c₀ c : Cluster} {h : List Entry} (hc : Created c₀)
    (run : ClusterRun MovesFromRunning c₀ c h) : OnEdge c := by
  refine ClusterRun.invariant (I := fun c _ => OnEdge c) ?_ ?_ ?_ ?_ ?_ run
  · refine ⟨?_, fun up hu => ?_⟩
    · rw [hc.status]
      exact .inl rfl
    · rw [hc.status] at hu
      cases hu
  · exact fun c h spec annotations _ ih hok hv => ih.edited hok hv
  · exact fun c h _ ih => ih
  · exact fun c h env _ ih _ _ => ih
  · intro c h env st run ih _ hw
    obtain ⟨_, _, _, hs⟩ := stored_of_wrote hw
    exact ih.stored (run.coherent hc.coherent) hs

/-- **An upgrade goes from the running version along an edge of the matrix**, when the version was only moved along
edges from the running one. -/
theorem upgrade_follows_edge {c₀ c : Cluster} {h : List Entry} (hc : Created c₀)
    (run : ClusterRun MovesFromRunning c₀ c h) {up : UpgradeStatus} (hu : c.status.upgrade = some up) :
    up.fromVersion = c.status.version ∧ canUpgrade supportedVersions up.fromVersion up.toVersion = .ok true :=
  ⟨((run.coherent hc.coherent).record up hu).2.1, (run.onEdge hc).record up hu⟩

/-- Install, then move one minor version up. -/
def oneMove : List Input :=
  [.pass (steadyEnv newestSchema "1.30.4"), moveTo "1.31.0", .pass (steadyEnv newestSchema "1.30.4")]

theorem upgrade_follows_edge_oneMove :
    ∃ up, (clusterSystem.exec (sampleCluster "1.30.4") [] oneMove).1.status.upgrade = some up ∧
      up.fromVersion = (clusterSystem.exec (sampleCluster "1.30.4") [] oneMove).1.status.version ∧
        canUpgrade supportedVersions up.fromVersion up.toVersion = .ok true := by
  have hcreated : Created (sampleCluster "1.30.4") := by decide +kernel
  obtain ⟨hfits, hsome⟩ : clusterSystem.Fits MovesFromRunning (sampleCluster "1.30.4") [] oneMove ∧
      (clusterSystem.exec (sampleCluster "1.30.4") [] oneMove).1.status.upgrade.isSome := by
    decide +kernel
  obtain ⟨up, hu⟩ := Option.isSome_iff_exists.mp hsome
  exact ⟨up, hu, upgrade_follows_edge hcreated (.exec .start hfits) hu⟩

/-- A second admitted move while the first upgrade is still in `PreflightChecks`. -/
def twoMoves : List Input := oneMove ++ [moveTo "1.32.0", .pass (steadyEnv newestSchema "1.30.4")]

/-- Two admitted moves make the controller upgrade over a minor version, which the matrix does not allow. -/
theorem upgrade_off_edge :
    ∃ c h up, Created (sampleCluster "1.30.4") ∧ ClusterRun Completes (sampleCluster "1.30.4") c h ∧
      c.status.upgrade = some up ∧ canUpgrade supportedVersions up.fromVersion up.toVersion = .ok false := by
  obtain ⟨hfits, hup⟩ : clusterSystem.Fits Completes (sampleCluster "1.30.4") [] twoMoves ∧
      (clusterSystem.exec (sampleCluster "1.30.4") [] twoMoves).1.status.upgrade =
        some ⟨"1.30.4", "1.32.0", .preflight, true, 0⟩ := by
    decide +kernel
  exact ⟨_, _, _, by decide +kernel, .exec .start hfits, hup, by decide +kernel⟩

/-! ## Applied versions -/

/-- The phases in which every service still runs the old version. -/
def BeforeRolling (p : UpgradePhase) : Prop := p = .pending ∨ p = .preflight ∨ p = .schemaMigrating

instance (p : UpgradePhase) : Decidable (BeforeRolling p) := inferInstanceAs (Decidable (_ ∨ _))

theorem BeforeRolling.rank_lt {p : UpgradePhase} (h : BeforeRolling p) : p.rank < 3 := by
  rcases h with rfl | rfl | rfl <;> decide

/-- Passes come to their end, and an admitted update that changes the version finds no upgrade that rolls servers. -/
def RetargetsBeforeRolling (c : Cluster) (_ : List Entry) : Input → Prop
  | .update spec annotations =>
    ClusterWebhook.validateUpdate c (submit c spec annotations) = [] → spec.version ≠ c.spec.version →
      ∀ up ∈ c.status.upgrade, BeforeRolling up.phase
  | .pass env => (⟨env, c⟩ : PassReport).wrote.isSome

instance (c : Cluster) (h : List Entry) : (e : Input) → Decidable (RetargetsBeforeRolling c h e)
  | .update _ _ => inferInstanceAs (Decidable (_ → _))
  | .pass env => inferInstanceAs (Decidable ((⟨env, c⟩ : PassReport).wrote.isSome = true))

/-- The version up to which a service can have been taken. -/
def versionBound (c : Cluster) (s : Service) : String :=
  if c.status.version = "" then c.spec.version
  else
    match c.status.upgrade with
    | none => c.status.version
    | some up => versionAt up s

/-- A record that rolls servers still has the target of the spec. -/
def RollsToSpec (c : Cluster) : Prop :=
  ∀ up, c.status.upgrade = some up → 3 ≤ up.phase.rank → up.toVersion = c.spec.version

section Assigned

variable {env : PassEnv} {c : Cluster} {st st' : ClusterStatus}

theorem Coherent.status_le_spec (hc : Coherent c) (hne : c.status.version ≠ "") :
    versionLE c.status.version c.spec.version :=
  (hc.running.resolve_left hne).2

theorem Coherent.status_le_self (hc : Coherent c) (hne : c.status.version ≠ "") :
    versionLE c.status.version c.status.version :=
  parse_patches _ (hc.running.resolve_left hne).1

theorem Coherent.versionBound_le_spec (hc : Coherent c) (hroll : RollsToSpec c) (s : Service) :
    versionLE (versionBound c s) c.spec.version := by
  unfold versionBound
  split
  · exact parse_patches _ hc.spec
  · rename_i hne
    cases hu : c.status.upgrade with
    | none => exact hc.status_le_spec hne
    | some up =>
      simp only
      rw [versionAt_eq]
      split
      · rename_i hrank
        rw [hroll up hu (by omega)]
        exact parse_patches _ hc.spec
      · rw [(hc.record up hu).2.1]
        exact hc.status_le_spec hne

theorem Coherent.status_le_versionAt {up : UpgradeStatus} (hc : Coherent c) (move : Moved env c st up) (s : Service) :
    versionLE c.status.version (versionAt up s) := by
  rw [hc.moved_versionAt move s]
  split
  · exact hc.status_le_spec move.due.1
  · exact hc.status_le_self move.due.1

theorem Coherent.versionBound_le_versionAt {up : UpgradeStatus} (hc : Coherent c) (hroll : RollsToSpec c)
    (move : Moved env c st up) (s : Service) : versionLE (versionBound c s) (versionAt up s) := by
  rw [versionBound, if_neg move.due.1]
  cases hu : c.status.upgrade with
  | none => exact hc.status_le_versionAt move s
  | some old =>
    simp only
    rw [versionAt_eq]
    split
    · -- the old record had the service at its target; that target is the spec's, so the record was continued
      rename_i hrank
      have htarget := hroll old hu (by omega)
      have hle := move.phase.rank_le
      rw [← htarget, phaseFor_of_targets hu] at hle
      rw [hc.moved_versionAt move s, if_pos (hrank.trans hle), htarget]
      exact parse_patches _ hc.spec
    · rw [(hc.record old hu).2.1]
      exact hc.status_le_versionAt move s

/-- What a pass assigns to a service lies between the bound before it and the bound after it. -/
theorem Coherent.assigned_between (hc : Coherent c) (hroll : RollsToSpec c)
    (hend : st'.upgrade = (upgradeOutcome env c.spec st).upgrade) (hs : Stored env c st st') (s : Service) :
    versionLE (versionBound c s) (serviceVersion c.spec (upgradeOutcome env c.spec st) s) ∧
      versionLE (serviceVersion c.spec (upgradeOutcome env c.spec st) s)
        (versionBound { c with status := st' } s) := by
  have hspec := parse_patches _ hc.spec
  cases hs with
  | steady due upgrade version =>
    rw [serviceVersion_of_none (hend.symm.trans upgrade)]
    refine ⟨hc.versionBound_le_spec hroll s, ?_⟩
    simp only [versionBound, upgrade]
    split
    · exact hspec
    · rename_i hne
      rcases version with hver | hver
      · rw [hver] at hne ⊢
        rw [(not_upgradeDue.mp due).resolve_left hne]
        exact hspec
      · rw [hver]
        exact hspec
  | moved up move upgrade version =>
    rw [serviceVersion_of_some (hend.symm.trans upgrade)]
    refine ⟨hc.versionBound_le_versionAt hroll move s, ?_⟩
    have hne : st'.version ≠ "" := version ▸ move.due.1
    simp only [versionBound, if_neg hne, upgrade]
    rw [hc.moved_versionAt move s]
    split
    · exact hspec
    · exact hc.status_le_self move.due.1
  | completed due phase upgrade version =>
    rw [serviceVersion_of_none (hend.symm.trans upgrade)]
    refine ⟨hc.versionBound_le_spec hroll s, ?_⟩
    simp only [versionBound, upgrade, version]
    split <;> exact hspec

theorem Stored.rollsToSpec (hs : Stored env c st st') : RollsToSpec { c with status := st' } :=
  fun _ hu _ => hs.toVersion hu

end Assigned

structure Ascending (c : Cluster) (h : List Entry) : Prop where
  rolls : RollsToSpec c
  pairwise : ∀ s, (appliedVersions s h).Pairwise fun newer older => versionLE older newer
  bounded : ∀ s, ∀ v ∈ appliedVersions s h, versionLE v (versionBound c s)

theorem Ascending.edited {c : Cluster} {h : List Entry} {spec : ClusterSpec} {annotations : List (String × String)}
    (ha : Ascending c h) (hc : Coherent c) (hok : RetargetsBeforeRolling c h (.update spec annotations))
    (hv : ClusterWebhook.validateUpdate c (submit c spec annotations) = []) :
    Ascending (submit c spec annotations) (.edited c (submit c spec annotations) :: h) := by
  refine ⟨fun up hu hrank => ?_, ha.pairwise, fun s v hmem => ?_⟩
  · by_cases hne : spec.version = c.spec.version
    · exact (ha.rolls up hu hrank).trans hne.symm
    · have hlt := (hok hv hne up hu).rank_lt
      omega
  · have hb := ha.bounded s v hmem
    by_cases h0 : c.status.version = ""
    · have h0' : (submit c spec annotations).status.version = "" := h0
      rw [versionBound, if_pos h0] at hb
      rw [versionBound, if_pos h0']
      exact versionLE.trans hb (hc.admitted hv).2
    · have h0' : (submit c spec annotations).status.version ≠ "" := h0
      rw [versionBound, if_neg h0] at hb
      rw [versionBound, if_neg h0']
      exact hb

theorem Ascending.stored {env : PassEnv} {c : Cluster} {h : List Entry} {st : ClusterStatus} (ha : Ascending c h)
    (hc : Coherent c) (hw : (⟨env, c⟩ : PassReport).wrote = some st) :
    Ascending { c with status := st } (.passed ⟨env, c⟩ :: h) := by
  obtain ⟨st₁, hat, hend, hs⟩ := stored_of_wrote hw
  have hbetween := hc.assigned_between ha.rolls hend.upgrade hs
  have happ : ∀ s, ∀ v ∈ (⟨env, c⟩ : PassReport).appliedTo s,
      v = serviceVersion c.spec (upgradeOutcome env c.spec st₁) s :=
    fun s v hmem => (hat.appliedTo hmem).2
  have hself : ∀ s, versionLE (serviceVersion c.spec (upgradeOutcome env c.spec st₁) s)
      (serviceVersion c.spec (upgradeOutcome env c.spec st₁) s) := by
    intro s
    obtain ⟨x, y, hx, hy, -⟩ := (versionLE_iff _ _).mp (hbetween s).2
    exact (versionLE_iff _ _).mpr ⟨x, x, hx, hx, .refl x⟩
  refine ⟨hs.rollsToSpec, fun s => ?_, fun s v hmem => ?_⟩
  · refine pairwise_passed (fun v hv v' hv' => ?_) (fun v hv v' hv' => ?_) (ha.pairwise s)
    · rw [happ s v hv, happ s v' hv']
      exact hself s
    · rw [happ s v hv]
      exact versionLE.trans (ha.bounded s v' hv') (hbetween s).1
  · rcases List.mem_append.mp hmem with hmem | hmem
    · rw [happ s v (List.mem_reverse.mp hmem)]
      exact (hbetween s).2
    · exact versionLE.trans (ha.bounded s v hmem) (versionLE.trans (hbetween s).1 (hbetween s).2)

theorem ClusterRun.ascending {c₀ c : Cluster} {h : List Entry} (hc : Created c₀)
    (run : ClusterRun RetargetsBeforeRolling c₀ c h) : Ascending c h := by
  refine ClusterRun.invariant (I := Ascending) ?_ ?_ ?_ ?_ ?_ run
  · refine ⟨fun up hu => ?_, fun s => .nil, fun s v hv => by cases hv⟩
    rw [hc.status] at hu
    cases hu
  · exact fun c h spec annotations run ih hok hv => ih.edited (run.coherent hc.coherent) hok hv
  · exact fun c h _ ih => ⟨ih.rolls, ih.pairwise, ih.bounded⟩
  · intro c h env _ _ hok hw
    rw [RetargetsBeforeRolling, hw] at hok
    cases hok
  · exact fun c h env st run ih _ hw => ih.stored (run.coherent hc.coherent) hw

/-- **No service is taken back to an older version**, when the version is not moved while servers roll. -/
theorem applied_versions_ascend {c₀ c : Cluster} {h : List Entry} (hc : Created c₀)
    (run : ClusterRun RetargetsBeforeRolling c₀ c h) (s : Service) :
    (appliedVersions s h).Pairwise fun newer older => versionLE older newer :=
  (run.ascending hc).pairwise s

/-- The upgrade of `oneMove`, up to the pass that takes the frontend to the new version. -/
def rollFrontend : List Input :=
  oneMove ++ [.pass (steadyEnv newestSchema "1.30.4"), .pass (steadyEnv newestSchema "1.30.4")]

theorem applied_versions_ascend_rollFrontend :
    appliedVersions .frontend (clusterSystem.exec (sampleCluster "1.30.4") [] rollFrontend).2 =
        ["1.31.0", "1.30.4", "1.30.4", "1.30.4"] ∧
      (appliedVersions .frontend (clusterSystem.exec (sampleCluster "1.30.4") [] rollFrontend).2).Pairwise
        fun newer older => versionLE older newer := by
  have hcreated : Created (sampleCluster "1.30.4") := by decide +kernel
  obtain ⟨hfits, happlied⟩ : clusterSystem.Fits RetargetsBeforeRolling (sampleCluster "1.30.4") [] rollFrontend ∧
      appliedVersions .frontend (clusterSystem.exec (sampleCluster "1.30.4") [] rollFrontend).2 =
        ["1.31.0", "1.30.4", "1.30.4", "1.30.4"] := by
    decide +kernel
  exact ⟨happlied, applied_versions_ascend hcreated (.exec .start hfits) .frontend⟩

/-- The target is moved to the next patch while the frontend rolls. -/
def retargetRolling : List Input := rollFrontend ++ [moveTo "1.31.1", .pass (steadyEnv newestSchema "1.31.0")]

/-- Moving the target while servers roll starts the upgrade anew, and the frontend goes back to the old version. -/
theorem retarget_takes_frontend_back :
    ∃ c h, Created (sampleCluster "1.30.4") ∧ ClusterRun Completes (sampleCluster "1.30.4") c h ∧
      ¬ (appliedVersions .frontend h).Pairwise fun newer older => versionLE older newer := by
  obtain ⟨hfits, hback⟩ : clusterSystem.Fits Completes (sampleCluster "1.30.4") [] retargetRolling ∧
      ¬ (appliedVersions .frontend (clusterSystem.exec (sampleCluster "1.30.4") [] retargetRolling).2).Pairwise
        fun newer older => versionLE older newer := by
    decide +kernel
  exact ⟨_, _, by decide +kernel, .exec .start hfits, hback⟩

end TemporalOperator
