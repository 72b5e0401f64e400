import TemporalOperator.Cluster.Runs

/-!
# The order of a roll

The phase of an upgrade record is evidence: each phase is only reached after the services before it were seen rolled
out. The entries of one record are those since it was opened (`since opened h`).

* `Evidence` : what a phase says about the entries of its record, and `ClusterRun.evidence` : it holds along every run,
  through lost writes, retargets and changes of the enabled services;
* `roll_order` : a service gets the new version only after every enabled service before it has rolled out;
* `version_earned` : what is known when `status.version` changes; `install_before_rollout` : a fresh install does not
  wait for the rollouts.
-/

namespace TemporalOperator
open Lib

def Event.assigns (s : Service) (v : String) : Event → Bool
  | .versionsAssigned versions => versions.lookup s = some v
  | _ => false

def AssignedTo (s : Service) (v : String) (h : List Entry) : Prop := ∃ e ∈ h, ∃ w ∈ e.log, w.assigns s v = true

instance (s : Service) (v : String) (h : List Entry) : Decidable (AssignedTo s v h) :=
  inferInstanceAs (Decidable (∃ e ∈ h, _))

theorem assignedTo_pass {env : PassEnv} {c : Cluster} {s : Service} {v : String}
    (h : AssignedTo s v [.passed ⟨env, c⟩]) :
    ∃ st, AtUpgrade env c st ∧ serviceVersion c.spec (upgradeOutcome env c.spec st) s = v := by
  obtain ⟨e, he, w, hw, hassign⟩ := h
  obtain rfl := List.mem_singleton.mp he
  unfold Event.assigns at hassign
  split at hassign
  · obtain ⟨st, hat, rfl⟩ := assigned_event hw
    rw [lookup_serviceVersions, decide_eq_true_eq] at hassign
    split at hassign
    · exact ⟨st, hat, Option.some.inj hassign⟩
    · cases hassign
  · cases hassign

/-- A completed pass went from `RollingMatching` to `RollingWorker`, with the internal frontend not enabled. -/
def SkippedInternalFrontend (h : List Entry) : Prop :=
  ∃ r st up, Entry.passed r ∈ h ∧ internalFrontendEnabled r.read.spec = false ∧
    phaseFor r.read.status r.read.spec.version = .rollingMatching ∧
    r.wrote = some st ∧ st.upgrade = some up ∧ up.phase = .rollingWorker

/-- What the phase of a record for `v` says about the entries of the record. -/
structure Evidence (v : String) (p : UpgradePhase) (h : List Entry) : Prop where
  seen : ∀ s, s ≠ .internalFrontend → upgradeIndex s + 4 ≤ p.rank → SawRolledOut s v h
  internalFrontend : 7 ≤ p.rank → SawRolledOut .internalFrontend v h ∨ SkippedInternalFrontend h
  worker : 7 ≤ p.rank → AssignedTo .worker v h

namespace Evidence

variable {v : String} {p : UpgradePhase} {h h' : List Entry}

theorem of_rank_lt (hr : p.rank < 4) : Evidence v p h :=
  ⟨fun s _ hs => by omega, fun hs => by omega, fun hs => by omega⟩

theorem mono (he : Evidence v p h) (hsub : ∀ e ∈ h, e ∈ h') : Evidence v p h' := by
  refine ⟨fun s hs hr => (he.seen s hs hr).mono hsub, fun hr => ?_, fun hr => ?_⟩
  · rcases he.internalFrontend hr with hsaw | ⟨r, st, up, hr, hrest⟩
    · exact .inl (hsaw.mono hsub)
    · exact .inr ⟨r, st, up, hsub _ hr, hrest⟩
  · obtain ⟨e, hmem, hlog⟩ := he.worker hr
    exact ⟨e, hsub e hmem, hlog⟩

end Evidence

/-- The stored phase of an object, with its evidence in the entries of the record. -/
def HasEvidence (c : Cluster) (h : List Entry) : Prop :=
  Evidence c.spec.version (phaseFor c.status c.spec.version) (since opened h)

theorem HasEvidence.cons {c : Cluster} {h : List Entry} (he : HasEvidence c h) {e : Entry} (ho : opened e = false) :
    HasEvidence c (e :: h) :=
  Evidence.mono he fun _ hmem => mem_since_cons ho hmem

section Move

variable {c : Cluster} {h : List Entry} {env : PassEnv} {st st' : ClusterStatus} {up : UpgradeStatus}

/-- A pass that sees the service of its phase rolled out is in its own record. -/
theorem AtUpgrade.sawRolledOut (hat : AtUpgrade env c st) (due : UpgradeDue c.spec c.status) {s : Service}
    (hs : rollingPhaseService (phaseFor c.status c.spec.version) = some s)
    (hrolled : serviceRolledOut env c.spec s c.spec.version = true) (h : List Entry) :
    SawRolledOut s c.spec.version (since opened (.passed ⟨env, c⟩ :: h)) := by
  have hseen := hat.rolloutSeen due hs
  rw [hrolled] at hseen
  exact ⟨_, mem_since_cons_self opened _ h, hseen⟩

theorem Moved.not_opened (move : Moved env c st up) (hr : 2 ≤ up.phase.rank) :
    opened (.passed ⟨env, c⟩) = false := by
  rw [Bool.eq_false_iff]
  intro ho
  have hstep := move.phase
  rw [phaseFor_of_not_targets (not_targets_of_opened ho)] at hstep
  rw [hstep.of_pending] at hr
  exact absurd hr (by decide)

theorem HasEvidence.seen_of_moved (he : HasEvidence c h) (hat : AtUpgrade env c st) (move : Moved env c st up)
    {s : Service} (hs : s ≠ .internalFrontend) (hr : upgradeIndex s + 4 ≤ up.phase.rank) :
    SawRolledOut s c.spec.version (since opened (.passed ⟨env, c⟩ :: h)) := by
  rcases move.phase.seen hs hr with hr' | ⟨hroll, hrolled⟩
  · exact (he.cons (move.not_opened (by omega))).seen s hs hr'
  · exact hat.sawRolledOut move.due hroll hrolled h

theorem HasEvidence.moved (he : HasEvidence c h) (hc : Coherent c) (hat : AtUpgrade env c st)
    (move : Moved env c st up) (hout : (upgradeOutcome env c.spec st).upgrade = some up)
    (hw : (⟨env, c⟩ : PassReport).wrote = some st') (hup : st'.upgrade = some up) :
    Evidence c.spec.version up.phase (since opened (.passed ⟨env, c⟩ :: h)) := by
  have hself := mem_since_cons_self opened (.passed ⟨env, c⟩) h
  refine ⟨fun s hs hr => he.seen_of_moved hat move hs hr, fun hr => ?_, fun hr => ?_⟩
  · rcases move.phase.internalFrontend hr with hr' | ⟨hp, hrolled⟩ | ⟨hp, hp', hdis⟩
    · exact (he.cons (move.not_opened (by omega))).internalFrontend hr'
    · exact .inl (hat.sawRolledOut move.due (by rw [hp]; rfl) hrolled h)
    · exact .inr ⟨_, st', up, hself, hdis, hp, hw, hup, hp'⟩
  · refine ⟨_, hself, _, hat.versionsAssigned, ?_⟩
    have hworker : Enabled c.spec .worker := (enabled_iff c.spec .worker).mpr (.inl (by decide))
    rw [Event.assigns, decide_eq_true_eq, lookup_serviceVersions, if_pos hworker, serviceVersion_of_some hout,
      hc.moved_versionAt move]
    exact congrArg some (if_pos hr)

end Move

theorem recordInvariant_hasEvidence : RecordInvariant HasEvidence where
  of_not_targets ht := by
    refine Evidence.of_rank_lt ?_
    rw [phaseFor_of_not_targets ht]
    decide
  cons he ho := he.cons ho
  congr he hstatus hversion := by
    rw [HasEvidence, hstatus, hversion]
    exact he
  moved he hc hat move hend hw hup := by
    have hev := he.moved hc hat move (hend.upgrade.symm.trans hup) hw hup
    rw [← move.phaseFor_stored hup] at hev
    exact hev

theorem ClusterRun.evidence {ok : Cluster → List Entry → Input → Prop} {c₀ c : Cluster} {h : List Entry}
    (hc : Created c₀) (run : ClusterRun ok c₀ c h) : HasEvidence c h :=
  recordInvariant_hasEvidence.of_run hc run

/-! ## Order -/

/-- **Roll order.** In the first pass of an upgrade record that assigns the new version to `s`, every enabled service
before `s` has been seen rolled out at it, in this pass or an earlier one of the record. -/
theorem roll_order {c₀ c : Cluster} {h : List Entry} {r : PassReport} (hc : Created c₀)
    (run : ClusterRun anyInput c₀ c (.passed r :: h)) (due : UpgradeDue r.read.spec r.read.status)
    {s : Service} (now : AssignedTo s r.read.spec.version [.passed r])
    (first : ¬ AssignedTo s r.read.spec.version (since opened (.passed r :: h)).tail) :
    ∀ s', Enabled r.read.spec s' → upgradeIndex s' < upgradeIndex s →
      SawRolledOut s' r.read.spec.version (since opened (.passed r :: h)) := by
  obtain ⟨env, c'⟩ := r
  have hread := run.last_passed.1
  have hcoh : Coherent c' := hread.coherent hc.coherent
  have hev : HasEvidence c' h := hread.evidence hc
  obtain ⟨st, hat, hsv⟩ := assignedTo_pass now
  intro s' hen hlt
  -- the worker is the only service with the internal frontend before it, and it must not have been assigned before
  have hworker : s' = .internalFrontend → s = .worker := by
    rintro rfl
    revert hlt
    cases s <;> decide
  have hidx := upgradeIndex_le s
  rcases hat.outcome due with ⟨up, move, hout, -⟩ | ⟨hphase, -, -⟩
  · have hr : upgradeIndex s + 3 ≤ up.phase.rank := hcoh.rank_of_assigned move hout hsv
    rw [since_cons_of_false (move.not_opened (by omega)), List.tail_cons] at first
    by_cases hif : s' = .internalFrontend
    · obtain rfl := hworker hif
      subst hif
      -- the worker's phase is reached from its own, over the internal frontend, or around it
      rcases move.phase.internalFrontend hr with hr' | ⟨hp, hrolled⟩ | ⟨-, -, hdis⟩
      · exact absurd (hev.worker hr') first
      · exact hat.sawRolledOut due (by rw [hp]; rfl) hrolled h
      · rcases (enabled_iff c'.spec .internalFrontend).mp hen with hne | hena
        · exact absurd rfl hne
        · rw [hdis] at hena
          cases hena
    · exact hev.seen_of_moved hat move hif (by omega)
  · -- the pass drops a record at `Complete`; the evidence is what the passes before it have gathered
    have hrank : (phaseFor c'.status c'.spec.version).rank = 9 := by rw [hphase]; rfl
    have ho := not_opened_of_rank env (c := c') (by omega)
    rw [since_cons_of_false ho, List.tail_cons] at first
    by_cases hif : s' = .internalFrontend
    · obtain rfl := hworker hif
      exact absurd (hev.worker (by omega)) first
    · exact (hev.cons ho).seen s' hif (by omega)

/-- The sample upgrade up to the pass that takes the history service to the new version. -/
def rollHistory : List Input :=
  [.pass (steadyEnv newestSchema "1.30.4"), moveTo "1.31.0", .pass (steadyEnv newestSchema "1.30.4"),
    .pass (steadyEnv newestSchema "1.30.4"), .pass (steadyEnv newestSchema "1.30.4")]

theorem roll_order_rollHistory :
    let before := clusterSystem.exec (sampleCluster "1.30.4") [] rollHistory
    let r : PassReport := ⟨steadyEnv newestSchema "1.31.0", before.1⟩
    AssignedTo .history r.read.spec.version [.passed r] ∧
      SawRolledOut .frontend r.read.spec.version (since opened (.passed r :: before.2)) := by
  intro before r
  have hcreated : Created (sampleCluster "1.30.4") := by decide +kernel
  have hrun := (ClusterRun.ofInputs (sampleCluster "1.30.4") rollHistory).pass r.env trivial
  -- one evaluation: the kernel goes through the run once for all four
  obtain ⟨hnow, hdue, hfirst, hfrontend⟩ : AssignedTo .history r.read.spec.version [.passed r] ∧
      UpgradeDue r.read.spec r.read.status ∧
      ¬ AssignedTo .history r.read.spec.version (since opened (.passed r :: before.2)).tail ∧
      Enabled r.read.spec .frontend := by
    decide +kernel
  exact ⟨hnow, roll_order hcreated hrun hdue hnow hfirst .frontend hfrontend (by decide)⟩

/-! ## The running version -/

/-- **The running version is earned.** A completed pass that changes `status.version` makes it `spec.version`. After an
upgrade every enabled service was seen rolled out at it since the record was opened, but for an internal frontend that
was not enabled in the pass that ended `RollingMatching`. On a fresh install every enabled service was applied at it in
the same pass and had a ready replica. -/
theorem version_earned {c₀ c : Cluster} {h : List Entry} {r : PassReport} (hc : Created c₀)
    (run : ClusterRun anyInput c₀ c (.passed r :: h)) {st : ClusterStatus} (hw : r.wrote = some st)
    (hchange : st.version ≠ r.read.status.version) :
    st.version = r.read.spec.version ∧
      (r.read.status.version ≠ "" → phaseFor r.read.status r.read.spec.version = .complete ∧
        ∀ s, Enabled r.read.spec s → SawRolledOut s st.version (since opened (.passed r :: h)) ∨
          s = .internalFrontend ∧ SkippedInternalFrontend (since opened (.passed r :: h))) ∧
      (r.read.status.version = "" → ∀ s, Enabled r.read.spec s →
        (∃ n : Int, 1 ≤ n ∧ Event.readinessSeen s n ∈ r.log) ∧
          ∃ d, Event.applied (.deployment s st.version d) ∈ r.log) := by
  obtain ⟨env, c'⟩ := r
  obtain ⟨st₁, hat, hend, hs⟩ := stored_of_wrote hw
  cases hs with
  | steady due upgrade version =>
    -- no upgrade is due: only the stamp of a ready cluster changes the version
    have hver : st.version = c'.spec.version := version.resolve_left hchange
    refine ⟨hver, fun hne => ?_, fun _ s hen => ?_⟩
    · rcases not_upgradeDue.mp due with h | h
      · exact absurd h hne
      · exact absurd (hver.trans h.symm) hchange
    · rcases hend.version with h | ⟨-, -, hready⟩
      · exact absurd (h.trans (hat.outcome_of_not_due due).2) hchange
      · rw [hver]
        exact hready s hen
  | moved up move upgrade version => exact absurd version hchange
  | completed due phase upgrade version =>
    refine ⟨version, fun _ => ⟨phase, fun s hen => ?_⟩, fun h0 => absurd h0 due.1⟩
    have hread : ClusterRun anyInput c₀ c' h := run.last_passed.1
    have hrank : (phaseFor c'.status c'.spec.version).rank = 9 := by
      rw [phase]
      rfl
    have hev := (hread.evidence hc).cons (not_opened_of_rank env (c := c') (by omega))
    have hidx := upgradeIndex_le s
    rw [version]
    by_cases hif : s = .internalFrontend
    · rcases hev.internalFrontend (by omega) with hsaw | hskip
      · exact .inl (hif ▸ hsaw)
      · exact .inr ⟨hif, hskip⟩
    · exact .inl (hev.seen s hif (by omega))

/-- The sample upgrade up to the phase `Complete`. -/
def rollAll : List Input :=
  [.pass (steadyEnv newestSchema "1.30.4"), moveTo "1.31.0"] ++ List.replicate 8 (.pass (steadyEnv newestSchema "1.31.0"))

theorem version_earned_rollAll :
    let before := clusterSystem.exec (sampleCluster "1.30.4") [] rollAll
    let r : PassReport := ⟨steadyEnv newestSchema "1.31.0", before.1⟩
    ∃ st, r.wrote = some st ∧ st.version = "1.31.0" ∧ r.read.status.version = "1.30.4" ∧
      (SawRolledOut .worker st.version (since opened (.passed r :: before.2)) ∨
        Service.worker = .internalFrontend ∧ SkippedInternalFrontend (since opened (.passed r :: before.2))) := by
  intro before r
  have hcreated : Created (sampleCluster "1.30.4") := by decide +kernel
  have hrun := (ClusterRun.ofInputs (sampleCluster "1.30.4") rollAll).pass r.env trivial
  obtain ⟨hold, hnew, hworker⟩ : r.read.status.version = "1.30.4" ∧
      r.wrote.map ClusterStatus.version = some "1.31.0" ∧ Enabled r.read.spec .worker := by
    decide +kernel
  obtain ⟨st, hw, hver⟩ := Option.map_eq_some_iff.mp hnew
  have hearned := version_earned hcreated hrun hw (by rw [hver, hold]; decide)
  exact ⟨st, hw, hver, hold, (hearned.2.1 (by rw [hold]; decide)).2 .worker hworker⟩

/-- The pass read a Deployment of the service that is rolled out at the version. -/
def Entry.readRolledOut (s : Service) (v : String) : Entry → Bool
  | .passed r =>
    serviceRolledOut r.env r.read.spec s v ||
      match r.env.rollup s with
      | .ok dep => rolledOutAt r.read.spec dep v
      | .error _ => false
  | _ => false

def partlyUp : Deployment :=
  { deployedAt "1.30.4" with replicas := some 3, updatedReplicas := 3, readyReplicas := 1 }

def installing : PassEnv :=
  { steadyEnv newestSchema "1.30.4" with rollout := fun _ => .ok partlyUp, rollup := fun _ => .ok partlyUp }

/-- A fresh install reports its version with one of three replicas up: no Deployment read by any pass so far was in a
state that `serviceRolledOut` accepts. -/
theorem install_before_rollout :
    ∃ c r st, Created (sampleCluster "1.30.4") ∧ ClusterRun Completes (sampleCluster "1.30.4") c [.passed r] ∧
      r.wrote = some st ∧ st.version ≠ r.read.status.version ∧ Enabled r.read.spec .history ∧
      ∀ e ∈ [Entry.passed r], e.readRolledOut .history st.version = false := by
  have hsome : (⟨installing, sampleCluster "1.30.4"⟩ : PassReport).wrote.map ClusterStatus.version = some "1.30.4" := by
    decide +kernel
  obtain ⟨st, hw, hver⟩ := Option.map_eq_some_iff.mp hsome
  refine ⟨(clusterStep (sampleCluster "1.30.4") (.pass installing)).1, ⟨installing, sampleCluster "1.30.4"⟩, st,
    by decide +kernel, ?_, hw, ?_, by decide +kernel, ?_⟩
  · exact ClusterRun.pass .start installing (by decide +kernel)
  · rw [hver]
    decide +kernel
  · rw [hver]
    decide +kernel

end TemporalOperator
