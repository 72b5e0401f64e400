import TemporalOperator.Cluster.Migration
import TemporalOperator.Cluster.Runs

/-!
# The rollbackable flag

`reconcilePersistence` migrates the schema for `spec.version` before the upgrade record is even opened, and without
looking at it. The flag of the record is lowered when the phase leaves `PreflightChecks`.

* `rollbackable_truthful` : while the flag is up no stored pass has changed a schema since the version was moved, if the
  passes that open records have nothing to change (`OpensUnmigrated`);
* `rollbackable_after_migration` : otherwise the pass that opens the record can create the first schema Job.
-/

namespace TemporalOperator
open Lib

/-- The update that moved `spec.version` to `v`. -/
def becameVersion (v : String) : Entry → Bool
  | .edited old new => old.spec.version ≠ new.spec.version && new.spec.version = v
  | _ => false

def Unmigrated (h : List Entry) : Prop :=
  ∀ r, Entry.passed r ∈ h → r.wrote.isSome = true → ∀ e ∈ r.log, e.changesSchema = false

/-- A pass that opens an upgrade record finds nothing to change: the datastore does not answer, or every store can be
left as it is. -/
def OpensUnmigrated (c : Cluster) (_ : List Entry) : Input → Prop
  | .update _ _ => True
  | .pass env => UpgradeDue c.spec c.status → ¬ Targets c.status c.spec.version → migrates env c = false

instance (c : Cluster) (h : List Entry) : (e : Input) → Decidable (OpensUnmigrated c h e)
  | .update _ _ => inferInstanceAs (Decidable True)
  | .pass env => inferInstanceAs (Decidable (_ → ¬ Targets c.status c.spec.version → migrates env c = false))

theorem Unmigrated.cons {h : List Entry} (hu : Unmigrated h) {e : Entry}
    (he : ∀ r, e = .passed r → r.wrote.isSome = true → ∀ w ∈ r.log, w.changesSchema = false) : Unmigrated (e :: h) := by
  intro r hr
  rcases List.mem_cons.mp hr with hr | hr
  · exact he r hr.symm
  · exact hu r hr

theorem changed_event {env : PassEnv} {c : Cluster} {e : Event} (he : e.changesSchema = true)
    (h : e ∈ (⟨env, c⟩ : PassReport).log) : migrates env c = true :=
  migrates_of_changed he (migrate_event (Event.stage_of_changesSchema he) h)

/-- The flag and what it says, and that an upgrade that is due without a record has not seen a stored pass. -/
structure FlagTruthful (c : Cluster) (h : List Entry) : Prop where
  unopened : UpgradeDue c.spec c.status → ¬ Targets c.status c.spec.version →
    ∀ r, Entry.passed r ∈ since (becameVersion c.spec.version) h → r.wrote = none
  flagged : ∀ up, c.status.upgrade = some up → up.rollbackable = true →
    up.phase = .preflight ∧ Unmigrated (since (becameVersion up.toVersion) h)

namespace FlagTruthful

variable {c : Cluster} {h : List Entry}

theorem cons_since {v : String} {e : Entry} (hb : becameVersion v e = false) {r : PassReport}
    (hr : Entry.passed r ∈ since (becameVersion v) (e :: h)) :
    e = .passed r ∨ Entry.passed r ∈ since (becameVersion v) h := by
  rw [since_cons_of_false hb] at hr
  rcases List.mem_cons.mp hr with hr | hr
  · exact .inl hr.symm
  · exact .inr hr

theorem edited (hf : FlagTruthful c h) (hc : Coherent c) {spec : ClusterSpec} {annotations : List (String × String)}
    (hv : ClusterWebhook.validateUpdate c (submit c spec annotations) = []) :
    FlagTruthful (submit c spec annotations) (.edited c (submit c spec annotations) :: h) := by
  by_cases hne : spec.version = c.spec.version
  · have hb : ∀ v, becameVersion v (.edited c (submit c spec annotations)) = false := by
      intro v
      simp [becameVersion, hne]
    refine ⟨fun due hnot r hr => ?_, fun up hu hflag => ?_⟩
    · rcases cons_since (hb _) hr with hr | hr
      · cases hr
      · rw [submit_version, hne] at hr
        refine hf.unopened ⟨due.1, hne ▸ due.2⟩ (fun ht => hnot ?_) r hr
        rw [submit_version, hne]
        exact ht
    · obtain ⟨hp, hun⟩ := hf.flagged up hu hflag
      rw [since_cons_of_false (hb _)]
      exact ⟨hp, hun.cons fun r hr => by cases hr⟩
  · refine ⟨fun _ _ r hr => ?_, fun up hu hflag => ?_⟩
    · have hb : becameVersion spec.version (.edited c (submit c spec annotations)) = true := by
        simp [becameVersion, Ne.symm hne]
      rw [submit_version, since_cons_of_true hb, List.mem_singleton] at hr
      cases hr
    · have hto : spec.version ≠ up.toVersion :=
        fun he => hc.not_targets_of_edited hv hne ⟨up, hu, he.symm⟩
      have hb : becameVersion up.toVersion (.edited c (submit c spec annotations)) = false := by
        simp [becameVersion, hto]
      obtain ⟨hp, hun⟩ := hf.flagged up hu hflag
      rw [since_cons_of_false hb]
      exact ⟨hp, hun.cons fun r hr => by cases hr⟩

theorem lost (hf : FlagTruthful c h) {env : PassEnv} (hw : (⟨env, c⟩ : PassReport).wrote = none) :
    FlagTruthful c (.passed ⟨env, c⟩ :: h) := by
  refine ⟨fun due hnot r hr => ?_, fun up hu hflag => ?_⟩
  · rcases cons_since rfl hr with hr | hr
    · obtain rfl := Entry.passed.inj hr
      exact hw
    · exact hf.unopened due hnot r hr
  · obtain ⟨hp, hun⟩ := hf.flagged up hu hflag
    rw [since_cons_of_false rfl]
    refine ⟨hp, hun.cons fun r hr hsome => ?_⟩
    obtain rfl := Entry.passed.inj hr
    rw [hw] at hsome
    cases hsome

theorem moved (hf : FlagTruthful c h) {env : PassEnv} {st : ClusterStatus} {up : UpgradeStatus}
    (hok : OpensUnmigrated c h (.pass env)) (hat : AtUpgrade env c st) (move : Moved env c st up)
    (hflag : up.rollbackable = true) :
    up.phase = .preflight ∧ (∀ e ∈ (⟨env, c⟩ : PassReport).log, e.changesSchema = false) ∧
      Unmigrated (since (becameVersion c.spec.version) h) := by
  obtain ⟨hold, -, hreach⟩ := advanced_rollbackable move.step hflag
  by_cases ht : Targets c.status c.spec.version
  · obtain ⟨old, hu, htarget⟩ := ht
    have hrec : recordFor env c.status c.spec.version = old := by
      rw [← htarget]
      exact recordFor_of_targets env hu
    rw [hrec] at hold hreach
    obtain ⟨hphase, hun⟩ := hf.flagged old hu hold
    have hunreach := hreach hphase
    refine ⟨?_, fun e he => ?_, htarget ▸ hun⟩
    · have hstep := move.phase
      rw [← htarget, phaseFor_of_targets hu, hphase] at hstep
      exact hstep.of_preflight hunreach
    · rw [Bool.eq_false_iff]
      intro hch
      have hstage := Event.stage_of_changesSchema hch
      have hinspect := (hat.stale hunreach).2 e (migrate_event hstage he)
      rw [hstage] at hinspect
      cases hinspect
  · have hnone := hf.unopened move.due ht
    refine ⟨?_, fun e he => ?_, fun r hr hsome => ?_⟩
    · have hstep := move.phase
      rw [phaseFor_of_not_targets ht] at hstep
      exact hstep.of_pending
    · rw [Bool.eq_false_iff]
      intro hch
      have hm := changed_event hch he
      rw [hok move.due ht] at hm
      cases hm
    · rw [hnone r hr] at hsome
      cases hsome

theorem stored (hf : FlagTruthful c h) {env : PassEnv} {st' : ClusterStatus} (hok : OpensUnmigrated c h (.pass env))
    (hw : (⟨env, c⟩ : PassReport).wrote = some st') :
    FlagTruthful { c with status := st' } (.passed ⟨env, c⟩ :: h) := by
  obtain ⟨st, hat, -, hs⟩ := stored_of_wrote hw
  cases hs with
  | steady notDue upgrade version =>
    refine ⟨fun due => ?_, fun up hu => ?_⟩
    · rcases version with hver | hver
      · exact absurd ⟨hver ▸ due.1, hver ▸ due.2⟩ notDue
      · exact absurd hver due.2
    · rw [upgrade] at hu
      cases hu
  | moved up move upgrade version =>
    refine ⟨fun _ hnot => absurd ⟨up, upgrade, move.toVersion⟩ hnot, fun up' hu hflag => ?_⟩
    obtain rfl := Option.some.inj (upgrade.symm.trans hu)
    -- a record that is still flagged was opened by this pass or waits in `PreflightChecks`
    obtain ⟨hphase, hlog, hun⟩ := hf.moved hok hat move hflag
    rw [since_cons_of_false rfl, move.toVersion]
    refine ⟨hphase, hun.cons fun r hr _ => ?_⟩
    obtain rfl := Entry.passed.inj hr
    exact hlog
  | completed due phase upgrade version =>
    refine ⟨fun due => absurd version due.2, fun up hu => ?_⟩
    rw [upgrade] at hu
    cases hu

end FlagTruthful

theorem ClusterRun.flagTruthful {c₀ c : Cluster} {h : List Entry} (hc : Created c₀)
    (run : ClusterRun OpensUnmigrated c₀ c h) : FlagTruthful c h := by
  refine ClusterRun.invariant (I := FlagTruthful) ?_ ?_ ?_ ?_ ?_ run
  · refine ⟨fun due => ?_, fun up hu => ?_⟩
    · have hempty : c₀.status.version = "" := by rw [hc.status]
      exact absurd hempty due.1
    · rw [hc.status] at hu
      cases hu
  · exact fun c h spec annotations run ih _ hv => ih.edited (run.coherent hc.coherent) hv
  · intro c h _ ih
    refine ⟨fun due hnot r hr => ?_, fun up hu hflag => ?_⟩
    · rcases FlagTruthful.cons_since rfl hr with hr | hr
      · cases hr
      · exact ih.unopened due hnot r hr
    · obtain ⟨hp, hun⟩ := ih.flagged up hu hflag
      rw [since_cons_of_false rfl]
      exact ⟨hp, hun.cons fun r hr => by cases hr⟩
  · exact fun c h env _ ih _ hw => ih.lost hw
  · exact fun c h env st _ ih hok hw => ih.stored hok hw

/-- **The flag is truthful**: while a stored record is rollbackable, no stored pass since `spec.version` became its
target has created a schema Job or applied a schema, if the passes that open records have nothing to change. -/
theorem rollbackable_truthful {c₀ c : Cluster} {h : List Entry} (hc : Created c₀)
    (run : ClusterRun OpensUnmigrated c₀ c h) {up : UpgradeStatus} (hu : c.status.upgrade = some up)
    (hflag : up.rollbackable = true) : Unmigrated (since (becameVersion up.toVersion) h) :=
  ((run.flagTruthful hc).flagged up hu hflag).2

/-- Install, then move the version; the stores record `schema`. -/
def moveOn (schema : Persistence.RecordedVersion) : List Input :=
  [.pass (steadyEnv schema "1.30.4"), moveTo "1.31.0"]

theorem rollbackable_truthful_moveOn :
    let run := clusterSystem.exec (sampleCluster "1.30.4") []
      (moveOn newestSchema ++ [.pass (steadyEnv newestSchema "1.30.4")])
    ∃ up, run.1.status.upgrade = some up ∧ up.rollbackable = true ∧
      Unmigrated (since (becameVersion up.toVersion) run.2) := by
  intro run
  have hcreated : Created (sampleCluster "1.30.4") := by decide +kernel
  obtain ⟨hfits, hflag⟩ : clusterSystem.Fits OpensUnmigrated (sampleCluster "1.30.4") []
        (moveOn newestSchema ++ [.pass (steadyEnv newestSchema "1.30.4")]) ∧
      run.1.status.upgrade.map UpgradeStatus.rollbackable = some true := by
    decide +kernel
  obtain ⟨up, hu, hr⟩ := Option.map_eq_some_iff.mp hflag
  exact ⟨up, hu, hr, rollbackable_truthful hcreated (.exec .start hfits) hu hr⟩

/-- The pass that opens the record creates the update Job of the new version and leaves the flag up. -/
theorem rollbackable_after_migration :
    ∃ c h up r job, Created (sampleCluster "1.30.4") ∧
      ClusterRun Completes (sampleCluster "1.30.4") c (.passed r :: h) ∧
      c.status.upgrade = some up ∧ up.rollbackable = true ∧
      Entry.passed r ∈ since (becameVersion up.toVersion) (.passed r :: h) ∧ r.wrote.isSome = true ∧
      Event.jobCreated .default .update job ∈ r.log ∧ jobRunsImage job (adminToolsImage up.toVersion) = true := by
  let before := clusterSystem.exec (sampleCluster "1.30.4") [] (moveOn olderSchema)
  let r : PassReport := ⟨steadyEnv olderSchema "1.30.4", before.1⟩
  let up : UpgradeStatus := ⟨"1.30.4", "1.31.0", .preflight, true, 0⟩
  let job : Job := ((buildSchemaJob r.env (schemaJobParams r.env before.1 .default .update)).toOption).getD {}
  obtain ⟨hfits, hcompletes, hup, hwrote, hjob⟩ :
      clusterSystem.Fits Completes (sampleCluster "1.30.4") [] (moveOn olderSchema) ∧
      Completes before.1 before.2 (.pass r.env) ∧ (clusterStep before.1 (.pass r.env)).1.status.upgrade = some up ∧
      r.wrote.isSome = true ∧ Event.jobCreated .default .update job ∈ r.log := by
    decide +kernel
  have hrun : ClusterRun Completes (sampleCluster "1.30.4") before.1 before.2 := .exec .start hfits
  exact ⟨_, _, up, r, job, by decide +kernel, hrun.pass r.env hcompletes, hup, rfl, mem_since_cons_self _ _ _, hwrote,
    hjob, by decide +kernel⟩

end TemporalOperator
