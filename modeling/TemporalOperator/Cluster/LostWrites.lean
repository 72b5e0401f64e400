import TemporalOperator.Cluster.Runs

/-!
# Lost status writes during a roll

A pass advances the phase in memory, applies the Deployments and only then writes the status. When that write is lost
the next pass starts from the old phase, with the Deployments already ahead of it.

* `TakenTo` : how a service can have been applied at the new version when the stored phase is `p`;
* `lost_writes_keep_roll` : no service is taken back when a service once seen rolled out is seen so again
  (`StaysRolledOut`); `flapping_takes_history_back` : otherwise one can be.
-/

namespace TemporalOperator
open Lib

/-- Only passes; and a pass that starts in the rolling phase of a service that was seen rolled out before finds it
rolled out. -/
def StaysRolledOut (c : Cluster) (h : List Entry) : Input → Prop
  | .update _ _ => False
  | .pass env => ∀ s ∈ rollingPhaseService (phaseFor c.status c.spec.version),
      SawRolledOut s c.spec.version h → serviceRolledOut env c.spec s c.spec.version = true

instance (c : Cluster) (h : List Entry) : (e : Input) → Decidable (StaysRolledOut c h e)
  | .update _ _ => inferInstanceAs (Decidable False)
  | .pass _ => inferInstanceAs (Decidable (∀ s ∈ rollingPhaseService _, _))

/-- The service has been applied at the new version: the stored phase says so, or a pass went one phase further and
was lost. -/
def TakenTo (spec : ClusterSpec) (p : UpgradePhase) (h : List Entry) (s : Service) : Prop :=
  upgradeIndex s + 3 ≤ p.rank ∨ p = .schemaMigrating ∧ s = .frontend ∨
    ∃ s', rollingPhaseService p = some s' ∧ SawRolledOut s' spec.version h ∧
      upgradeIndex s + 3 ≤ (nextRollingPhase spec p).rank

section Step

variable {env : PassEnv} {spec : ClusterSpec} {st : ClusterStatus} {p p' : UpgradePhase} {h : List Entry} {s : Service}

theorem TakenTo.mono (ht : TakenTo spec p h s) (e : Entry) : TakenTo spec p (e :: h) s := by
  rcases ht with ht | ht | ⟨s', hs', hsaw, hr⟩
  · exact .inl ht
  · exact .inr (.inl ht)
  · exact .inr (.inr ⟨s', hs', hsaw.mono fun _ he => List.mem_cons_of_mem _ he, hr⟩)

theorem TakenTo.moved (ht : TakenTo spec p h s) (hstep : PhaseStep env spec st spec.version p p')
    (hstays : ∀ s, rollingPhaseService p = some s → SawRolledOut s spec.version h →
      serviceRolledOut env spec s spec.version = true) :
    upgradeIndex s + 3 ≤ p'.rank ∨ p' = .schemaMigrating ∧ s = .frontend ∧ st.holds .schemaReady = false := by
  rcases ht with ht | ⟨rfl, rfl⟩ | ⟨s', hs', hsaw, hr⟩
  · exact .inl (ht.trans hstep.rank_le)
  · cases hstep with
    | migrating hready => exact .inr ⟨rfl, rfl, hready⟩
    | roll => exact .inl (by decide)
    | rolling hs => cases hs
    | rolled hs => cases hs
  · have hout := hstays s' hs' hsaw
    cases hstep with
    | @rolling _ s'' hs'' hnot =>
      obtain rfl := Option.some.inj (hs'.symm.trans hs'')
      rw [hout] at hnot
      cases hnot
    | rolled => exact .inl hr
    | _ => cases hs'

end Step

/-- Along passes over one spec: the version is the old or the new one, and the services taken to the new version are
those the stored phase accounts for. -/
structure Unbroken (c₀ c : Cluster) (h : List Entry) : Prop where
  spec : c.spec = c₀.spec
  version : c.status.version = c₀.status.version ∨ c.status.version = c₀.spec.version
  taken : c.status.version = c₀.status.version → ∀ s, c.spec.version ∈ appliedVersions s h →
    TakenTo c.spec (phaseFor c.status c.spec.version) h s
  pairwise : ∀ s, (appliedVersions s h).Pairwise fun newer older =>
    older = c₀.spec.version → newer ≠ c₀.status.version

section Pass

variable {c₀ c : Cluster} {h : List Entry} {env : PassEnv}

theorem Unbroken.due (hu : Unbroken c₀ c h) (due : UpgradeDue c₀.spec c₀.status)
    (hver : c.status.version = c₀.status.version) : UpgradeDue c.spec c.status := by
  rw [UpgradeDue, hver, hu.spec]
  exact due

theorem Unbroken.not_due (hu : Unbroken c₀ c h) (hver : c.status.version = c₀.spec.version) :
    ¬ UpgradeDue c.spec c.status := by
  rw [not_upgradeDue, hver, hu.spec]
  exact .inr rfl

theorem Unbroken.applied (hu : Unbroken c₀ c h) (hc : Coherent c) (due : UpgradeDue c₀.spec c₀.status)
    (hok : StaysRolledOut c h (.pass env)) {s : Service} {v : String}
    (hv : v ∈ (⟨env, c⟩ : PassReport).appliedTo s) :
    v = c.spec.version ∨ c.spec.version ∉ appliedVersions s h := by
  obtain ⟨d, hd⟩ := mem_appliedTo hv
  obtain ⟨st, hat, hready, -, rfl⟩ := deployment_event hd
  rcases hu.version with hver | hver
  · rcases hat.outcome (hu.due due hver) with ⟨up, hmove, hup, -⟩ | ⟨-, hup, -⟩
    · rw [serviceVersion_of_some hup, hc.moved_versionAt hmove]
      by_cases hr : upgradeIndex s + 3 ≤ up.phase.rank
      · exact .inl (if_pos hr)
      · refine .inr fun hmem => ?_
        rcases (hu.taken hver s hmem).moved hmove.phase hok with h | ⟨-, -, h⟩
        · exact hr h
        · rw [hready] at h
          cases h
    · exact .inl (serviceVersion_of_none hup _ _)
  · exact .inl (serviceVersion_of_none (hat.outcome_of_not_due (hu.not_due hver)).1 _ _)

theorem Unbroken.takenTo (hu : Unbroken c₀ c h) (hc : Coherent c) (due : UpgradeDue c₀.spec c₀.status)
    (hver : c.status.version = c₀.status.version) {s : Service}
    (hv : c.spec.version ∈ (⟨env, c⟩ : PassReport).appliedTo s) :
    TakenTo c.spec (phaseFor c.status c.spec.version) (.passed ⟨env, c⟩ :: h) s := by
  have hdue := hu.due due hver
  obtain ⟨d, hd⟩ := mem_appliedTo hv
  obtain ⟨st, hat, -, -, hv⟩ := deployment_event hd
  rcases hat.outcome hdue with ⟨up, hmove, hup, -⟩ | ⟨hphase, -, -⟩
  · have hr : upgradeIndex s + 3 ≤ up.phase.rank := hc.rank_of_assigned hmove hup hv.symm
    rcases hmove.phase.gained hr with h | h | ⟨s', hs', hout, h⟩
    · exact .inl h
    · exact .inr (.inl h)
    · -- the stored phase need not have moved yet: the pass itself is the evidence
      have hseen := hat.rolloutSeen hdue hs'
      rw [hout] at hseen
      exact .inr (.inr ⟨s', hs', ⟨_, List.mem_cons_self, hseen⟩, h⟩)
  · rw [hphase]
    exact .inl (by cases s <;> decide)

theorem Unbroken.pairwise_pass (hu : Unbroken c₀ c h) (hc : Coherent c) (due : UpgradeDue c₀.spec c₀.status)
    (hok : StaysRolledOut c h (.pass env)) (s : Service) :
    (appliedVersions s (.passed ⟨env, c⟩ :: h)).Pairwise fun newer older =>
      older = c₀.spec.version → newer ≠ c₀.status.version := by
  have hspec : c.spec.version = c₀.spec.version := by rw [hu.spec]
  have hne : ∀ {v}, v = c.spec.version → v ≠ c₀.status.version := by
    rintro v rfl he
    exact due.2 (he.symm.trans hspec)
  refine pairwise_passed (fun v hv v' hv' hold => ?_) (fun v hv v' hv' hold => ?_) (hu.pairwise s)
  · obtain ⟨d, hd⟩ := mem_appliedTo hv
    obtain ⟨st, hat, -, -, -⟩ := deployment_event hd
    rw [(hat.appliedTo hv).2, ← (hat.appliedTo hv').2]
    exact hne (hold.trans hspec.symm)
  · rcases hu.applied hc due hok hv with h | h
    · exact hne h
    · rw [hold, ← hspec] at hv'
      exact absurd hv' h

theorem Unbroken.lost (hu : Unbroken c₀ c h) (hc : Coherent c) (due : UpgradeDue c₀.spec c₀.status)
    (hok : StaysRolledOut c h (.pass env)) : Unbroken c₀ c (.passed ⟨env, c⟩ :: h) := by
  refine ⟨hu.spec, hu.version, fun hver s hmem => ?_, hu.pairwise_pass hc due hok⟩
  rcases List.mem_append.mp hmem with hmem | hmem
  · exact hu.takenTo hc due hver (List.mem_reverse.mp hmem)
  · exact (hu.taken hver s hmem).mono _

theorem Unbroken.stored (hu : Unbroken c₀ c h) (hc : Coherent c) (due : UpgradeDue c₀.spec c₀.status)
    (hok : StaysRolledOut c h (.pass env)) {st' : ClusterStatus} (hw : (⟨env, c⟩ : PassReport).wrote = some st') :
    Unbroken c₀ { c with status := st' } (.passed ⟨env, c⟩ :: h) := by
  have hspec : c.spec.version = c₀.spec.version := by rw [hu.spec]
  obtain ⟨st, hat, hend, hs⟩ := stored_of_wrote hw
  have hpair := hu.pairwise_pass hc due hok
  cases hs with
  | steady notDue upgrade version =>
    have hver : st'.version = c₀.spec.version := by
      rcases hu.version with hold | hold
      · exact absurd (hu.due due hold) notDue
      · rcases version with hv | hv
        · exact hv.trans hold
        · exact hv.trans hspec
    exact ⟨hu.spec, .inr hver, fun hv => absurd (hv.symm.trans hver) due.2, hpair⟩
  | moved up move upgrade version =>
    have hold : c.status.version = c₀.status.version := by
      rcases hu.version with hold | hold
      · exact hold
      · exact absurd move.due (hu.not_due hold)
    refine ⟨hu.spec, .inl (version.trans hold), fun _ s hmem => ?_, hpair⟩
    simp only [move.phaseFor_stored upgrade]
    rcases List.mem_append.mp hmem with hmem | hmem
    · have hv := (hat.appliedTo (List.mem_reverse.mp hmem)).2
      exact .inl (hc.rank_of_assigned move (hend.upgrade.symm.trans upgrade) hv.symm)
    · rcases (hu.taken hold s hmem).moved move.phase hok with h | ⟨h, hs, -⟩
      · exact .inl h
      · exact .inr (.inl ⟨h, hs⟩)
  | completed _ phase upgrade version =>
    have hver : st'.version = c₀.spec.version := version.trans hspec
    exact ⟨hu.spec, .inr hver, fun hv => absurd (hv.symm.trans hver) due.2, hpair⟩

end Pass

theorem ClusterRun.unbroken {c₀ c : Cluster} {h : List Entry} (hc : Coherent c₀)
    (due : UpgradeDue c₀.spec c₀.status) (run : ClusterRun StaysRolledOut c₀ c h) : Unbroken c₀ c h := by
  refine ClusterRun.invariant (I := Unbroken c₀) ?_ ?_ ?_ ?_ ?_ run
  · exact ⟨rfl, .inl rfl, fun _ s hmem => (by cases hmem), fun s => .nil⟩
  · exact fun c h spec annotations _ _ hok _ => hok.elim
  · exact fun c h _ ih => ⟨ih.spec, ih.version, fun hv s hmem => (ih.taken hv s hmem).mono _, ih.pairwise⟩
  · exact fun c h env run ih hok _ => ih.lost (run.coherent hc) due hok
  · exact fun c h env st run ih hok hw => ih.stored (run.coherent hc) due hok hw

/-- **A roll is not undone by lost status writes**, when a service once seen rolled out stays so: from any reachable
object with an upgrade due, no pass takes a service from the new version to the old one. -/
theorem lost_writes_keep_roll {c₁ c₀ c : Cluster} {h₀ h : List Entry} (hc : Created c₁)
    (reached : ClusterRun anyInput c₁ c₀ h₀) (due : UpgradeDue c₀.spec c₀.status)
    (run : ClusterRun StaysRolledOut c₀ c h) (s : Service) :
    (appliedVersions s h).Pairwise fun newer older => older = c₀.spec.version → newer ≠ c₀.status.version :=
  (run.unbroken (reached.coherent hc.coherent) due).pairwise s

def PassesOnly (_ : Cluster) (_ : List Entry) : Input → Prop
  | .update _ _ => False
  | .pass _ => True

instance (c : Cluster) (h : List Entry) : (e : Input) → Decidable (PassesOnly c h e)
  | .update _ _ => inferInstanceAs (Decidable False)
  | .pass _ => inferInstanceAs (Decidable True)

/-- The sample cluster, installed at one version and moved to the next. -/
def movedSample : Cluster × List Entry :=
  clusterSystem.exec (sampleCluster "1.30.4") [] [.pass (steadyEnv newestSchema "1.30.4"), moveTo "1.31.0"]

theorem movedSample_run : ClusterRun anyInput (sampleCluster "1.30.4") movedSample.1 movedSample.2 :=
  .ofInputs _ _

/-- A pass whose status write is answered with a conflict. -/
def lostWrite (env : PassEnv) : PassEnv := { env with statusErr := some ⟨.conflict, "the object has been modified"⟩ }

/-- Three passes to the phase `RollingFrontend`, then one that sees the frontend rolled out and is lost. -/
def lostAdvance : List Input :=
  [.pass (steadyEnv newestSchema "1.30.4"), .pass (steadyEnv newestSchema "1.30.4"),
    .pass (steadyEnv newestSchema "1.30.4"), .pass (lostWrite (steadyEnv newestSchema "1.31.0"))]

theorem lost_writes_keep_roll_lostAdvance :
    let h := (clusterSystem.exec movedSample.1 [] (lostAdvance ++ [.pass (steadyEnv newestSchema "1.31.0")])).2
    appliedVersions .history h = ["1.31.0", "1.31.0", "1.30.4", "1.30.4", "1.30.4"] ∧
      (appliedVersions .history h).Pairwise fun newer older => older = "1.31.0" → newer ≠ "1.30.4" := by
  have hcreated : Created (sampleCluster "1.30.4") := by decide +kernel
  obtain ⟨hdue, hspec, hstatus⟩ : UpgradeDue movedSample.1.spec movedSample.1.status ∧
      movedSample.1.spec.version = "1.31.0" ∧ movedSample.1.status.version = "1.30.4" := by
    decide +kernel
  obtain ⟨hfits, happlied⟩ : clusterSystem.Fits StaysRolledOut movedSample.1 []
        (lostAdvance ++ [.pass (steadyEnv newestSchema "1.31.0")]) ∧
      appliedVersions .history
          (clusterSystem.exec movedSample.1 [] (lostAdvance ++ [.pass (steadyEnv newestSchema "1.31.0")])).2 =
        ["1.31.0", "1.31.0", "1.30.4", "1.30.4", "1.30.4"] := by
    decide +kernel
  have hkeep := lost_writes_keep_roll hcreated movedSample_run hdue (.exec .start hfits) .history
  rw [hspec, hstatus] at hkeep
  exact ⟨happlied, hkeep⟩

/-- The frontend has no ready replica again when the next pass looks. -/
def flapped : PassEnv :=
  { steadyEnv newestSchema "1.31.0" with rollout := fun _ => .ok { deployedAt "1.31.0" with readyReplicas := 0 } }

/-- A lost write, and a frontend that is not ready when the next pass looks: the history service has been applied at
the new version and is applied at the old one. -/
theorem flapping_takes_history_back :
    ∃ c₀ h₀ c h, Created (sampleCluster "1.30.4") ∧ ClusterRun anyInput (sampleCluster "1.30.4") c₀ h₀ ∧
      UpgradeDue c₀.spec c₀.status ∧ ClusterRun PassesOnly c₀ c h ∧
      ¬ (appliedVersions .history h).Pairwise fun newer older =>
        older = c₀.spec.version → newer ≠ c₀.status.version := by
  obtain ⟨hdue, hfits, hback⟩ : UpgradeDue movedSample.1.spec movedSample.1.status ∧
      clusterSystem.Fits PassesOnly movedSample.1 [] (lostAdvance ++ [.pass flapped]) ∧
      ¬ (appliedVersions .history (clusterSystem.exec movedSample.1 [] (lostAdvance ++ [.pass flapped])).2).Pairwise
        fun newer older => older = movedSample.1.spec.version → newer ≠ movedSample.1.status.version := by
    decide +kernel
  exact ⟨_, _, _, _, by decide +kernel, movedSample_run, hdue, .exec .start hfits, hback⟩

end TemporalOperator
