import TemporalOperator.Cluster.Reconcile
import TemporalOperator.Lib.Runs
import TemporalOperator.Webhook.Cluster

/-!
# Runs of a cluster

The object of a `TemporalCluster` under spec updates, which pass the webhooks, and passes of the controller, each
with arbitrary answers of its environment.

* `clusterSystem` : the system, with the object as its state; an update that is rejected and a pass that does not
  come to its end leave the object as it was;
* `ClusterRun.invariant` : the induction over a run, with one case for each thing an event can do;
* `appliedVersions` : the versions at which a service's Deployment was applied;
* `Stored` : what a pass that came to its end has made of the version and the upgrade record (`stored_of_wrote`);
* `Coherent` : what holds of the versions in every reachable object (`ClusterRun.coherent`);
* `RecordInvariant` : the induction over a run for properties of the current upgrade record.
-/

namespace TemporalOperator
open Lib

/-! ## The system -/

/-- A pass: what its environment answered, and the object it read. -/
structure PassReport where
  env : PassEnv
  read : Cluster

namespace PassReport

def log (r : PassReport) : List Event := (reconcile r.env r.read).log

/-- The status the pass has stored, if it came to its end. -/
def wrote (r : PassReport) : Option ClusterStatus := (reconcile r.env r.read).res.toOption

end PassReport

inductive Input
  | update (spec : ClusterSpec) (annotations : List (String × String))
  | pass (env : PassEnv)

inductive Entry
  | edited (old new : Cluster)
  | rejected (old : Cluster)
  | passed (r : PassReport)

/-- The object of an update request after the defaulting webhook. -/
def submit (c : Cluster) (spec : ClusterSpec) (annotations : List (String × String)) : Cluster :=
  let new := ClusterWebhook.default { c with spec := spec, annotations := annotations }
  { new with generation := if new.spec = c.spec then c.generation else c.generation + 1 }

def clusterStep (c : Cluster) : Input → Cluster × Entry
  | .update spec annotations =>
    let new := submit c spec annotations
    if ClusterWebhook.validateUpdate c new = [] then (new, .edited c new) else (c, .rejected c)
  | .pass env =>
    match (⟨env, c⟩ : PassReport).wrote with
    | some st => ({ c with status := st }, .passed ⟨env, c⟩)
    | none => (c, .passed ⟨env, c⟩)

def clusterSystem : System Cluster Input Entry := ⟨clusterStep⟩

/-- The object as the webhooks admit it on creation. -/
structure Created (c : Cluster) : Prop where
  valid : ClusterWebhook.validateCreate c = []
  status : c.status = {}

instance (c : Cluster) : Decidable (Created c) :=
  decidable_of_iff (ClusterWebhook.validateCreate c = [] ∧ c.status = {}) ⟨fun h => ⟨h.1, h.2⟩, fun h => ⟨h.1, h.2⟩⟩

abbrev ClusterRun (ok : Cluster → List Entry → Input → Prop) := clusterSystem.Run ok

def anyInput (_ : Cluster) (_ : List Entry) (_ : Input) : Prop := True

def Completes (c : Cluster) (_ : List Entry) : Input → Prop
  | .update _ _ => True
  | .pass env => (⟨env, c⟩ : PassReport).wrote.isSome

instance (c : Cluster) (h : List Entry) : (e : Input) → Decidable (Completes c h e)
  | .update _ _ => inferInstanceAs (Decidable True)
  | .pass env => inferInstanceAs (Decidable ((⟨env, c⟩ : PassReport).wrote.isSome = true))

/-- The induction over a run: an edit, a rejected update, a pass that stored nothing, a pass that stored a status. -/
theorem ClusterRun.invariant {ok : Cluster → List Entry → Input → Prop} {c₀ c : Cluster} {h : List Entry}
    {I : Cluster → List Entry → Prop} (start : I c₀ [])
    (edited : ∀ c h spec annotations, ClusterRun ok c₀ c h → I c h → ok c h (.update spec annotations) →
      ClusterWebhook.validateUpdate c (submit c spec annotations) = [] →
      I (submit c spec annotations) (.edited c (submit c spec annotations) :: h))
    (rejected : ∀ c h, ClusterRun ok c₀ c h → I c h → I c (.rejected c :: h))
    (lost : ∀ c h env, ClusterRun ok c₀ c h → I c h → ok c h (.pass env) → (⟨env, c⟩ : PassReport).wrote = none →
      I c (.passed ⟨env, c⟩ :: h))
    (stored : ∀ c h env st, ClusterRun ok c₀ c h → I c h → ok c h (.pass env) →
      (⟨env, c⟩ : PassReport).wrote = some st → I { c with status := st } (.passed ⟨env, c⟩ :: h))
    (run : ClusterRun ok c₀ c h) : I c h := by
  refine System.Run.invariant start (fun c h e run ih he => ?_) run
  cases e with
  | update spec annotations =>
    simp only [clusterSystem, clusterStep]
    split
    · rename_i hv
      exact edited c h spec annotations run ih he hv
    · exact rejected c h run ih
  | pass env =>
    simp only [clusterSystem, clusterStep]
    split
    · rename_i st hw
      exact stored c h env st run ih he hw
    · rename_i hw
      exact lost c h env run ih he hw

theorem ClusterRun.pass {ok : Cluster → List Entry → Input → Prop} {c₀ c : Cluster} {h : List Entry}
    (run : ClusterRun ok c₀ c h) (env : PassEnv) (hok : ok c h (.pass env)) :
    ClusterRun ok c₀ (clusterStep c (.pass env)).1 (.passed ⟨env, c⟩ :: h) := by
  have hentry : (clusterStep c (.pass env)).2 = .passed ⟨env, c⟩ := by
    unfold clusterStep
    simp only
    split <;> rfl
  rw [← hentry]
  exact .step _ run hok

theorem ClusterRun.ofInputs (c₀ : Cluster) (es : List Input) :
    ClusterRun anyInput c₀ (clusterSystem.exec c₀ [] es).1 (clusterSystem.exec c₀ [] es).2 := by
  refine System.Run.exec .start ?_
  have hfits : ∀ es c h, clusterSystem.Fits anyInput c h es := by
    intro es
    induction es with
    | nil => exact fun c h => trivial
    | cons e es ih => exact fun c h => ⟨trivial, ih _ _⟩
  exact hfits es c₀ []

theorem ClusterRun.last_passed {ok : Cluster → List Entry → Input → Prop} {c₀ c : Cluster} {h : List Entry}
    {r : PassReport} (run : ClusterRun ok c₀ c (.passed r :: h)) :
    ClusterRun ok c₀ r.read h ∧ ok r.read h (.pass r.env) := by
  obtain ⟨c', e, run', hok, -, he⟩ := run.last
  cases e with
  | update spec annotations =>
    simp only [clusterSystem, clusterStep] at he
    split at he <;> cases he
  | pass env =>
    simp only [clusterSystem, clusterStep] at he
    split at he <;> cases he <;> exact ⟨run', hok⟩

/-! ## What a history has seen -/

def Entry.log : Entry → List Event
  | .passed r => r.log
  | _ => []

/-- A pass of the history saw the service rolled out at the version. -/
def SawRolledOut (s : Service) (v : String) (h : List Entry) : Prop := ∃ e ∈ h, Event.rolloutSeen s v true ∈ e.log

instance (s : Service) (v : String) (h : List Entry) : Decidable (SawRolledOut s v h) :=
  inferInstanceAs (Decidable (∃ e ∈ h, _))

theorem SawRolledOut.mono {s : Service} {v : String} {h h' : List Entry} (hs : SawRolledOut s v h)
    (hsub : ∀ e ∈ h, e ∈ h') : SawRolledOut s v h' := by
  obtain ⟨e, he, hlog⟩ := hs
  exact ⟨e, hsub e he, hlog⟩

theorem AtUpgrade.rolloutSeen {env : PassEnv} {c : Cluster} {st : ClusterStatus} (hat : AtUpgrade env c st)
    (due : UpgradeDue c.spec c.status) {s : Service}
    (hs : rollingPhaseService (phaseFor c.status c.spec.version) = some s) :
    Event.rolloutSeen s c.spec.version (serviceRolledOut env c.spec s c.spec.version) ∈
      (⟨env, c⟩ : PassReport).log := by
  refine hat.upgrade_log ((mem_log_reconcileUpgrade rfl).mpr (.inr (.inr ⟨hat.upgradeDue_iff.mpr due, s, ?_, rfl⟩)))
  rw [hat.recordFor_eq, recordFor_phase]
  exact hs

theorem assigned_event {env : PassEnv} {c : Cluster} {versions : List (Service × String)}
    (h : Event.versionsAssigned versions ∈ (⟨env, c⟩ : PassReport).log) :
    ∃ st, AtUpgrade env c st ∧ versions = serviceVersions c.spec (upgradeOutcome env c.spec st) := by
  obtain ⟨st, hat, hmem⟩ := upgrade_event rfl h
  rcases (mem_log_reconcileUpgrade rfl).mp hmem with he | ⟨-, -, he⟩ | ⟨-, s, -, he⟩
  · exact ⟨st, hat, Event.versionsAssigned.inj he⟩
  · cases he
  · cases he

theorem AtUpgrade.versionsAssigned {env : PassEnv} {c : Cluster} {st : ClusterStatus} (hat : AtUpgrade env c st) :
    Event.versionsAssigned (serviceVersions c.spec (upgradeOutcome env c.spec st)) ∈ (⟨env, c⟩ : PassReport).log :=
  hat.upgrade_log ((mem_log_reconcileUpgrade rfl).mpr (.inl rfl))

def opened (e : Entry) : Bool :=
  e.log.any fun
    | .upgradeStarted _ _ => true
    | _ => false

theorem not_targets_of_opened {env : PassEnv} {c : Cluster} (h : opened (.passed ⟨env, c⟩) = true) :
    ¬ Targets c.status c.spec.version := by
  obtain ⟨e, he, hstarted⟩ := List.any_eq_true.mp h
  split at hstarted
  · obtain ⟨st, hat, hmem⟩ := upgrade_event rfl he
    rcases (mem_log_reconcileUpgrade rfl).mp hmem with he | ⟨-, hnot, -⟩ | ⟨-, s, -, he⟩
    · cases he
    · exact fun ht => hnot ((hat.targets_iff _).mpr ht)
    · cases he
  · cases hstarted

/-! ## The versions a history applied -/

/-- The versions at which a pass applies the Deployment of `s`, oldest first. -/
def PassReport.appliedTo (s : Service) (r : PassReport) : List String :=
  r.log.filterMap fun
    | .applied (.deployment s' v _) => if s' = s then some v else none
    | _ => none

/-- The versions at which the Deployment of `s` was applied along a history, newest first. -/
def appliedVersions (s : Service) : List Entry → List String
  | [] => []
  | .passed r :: h => (r.appliedTo s).reverse ++ appliedVersions s h
  | _ :: h => appliedVersions s h

theorem mem_appliedTo {s : Service} {r : PassReport} {v : String} (h : v ∈ r.appliedTo s) :
    ∃ d, Event.applied (.deployment s v d) ∈ r.log := by
  obtain ⟨e, he, hv⟩ := List.mem_filterMap.mp h
  split at hv
  · split at hv
    · rename_i hs
      obtain rfl := Option.some.inj hv
      exact ⟨_, hs ▸ he⟩
    · cases hv
  · cases hv

theorem AtUpgrade.appliedTo {env : PassEnv} {c : Cluster} {st : ClusterStatus} (hat : AtUpgrade env c st)
    {s : Service} {v : String} (h : v ∈ (⟨env, c⟩ : PassReport).appliedTo s) :
    st.holds .schemaReady = true ∧ v = serviceVersion c.spec (upgradeOutcome env c.spec st) s := by
  obtain ⟨d, hd⟩ := mem_appliedTo h
  obtain ⟨st₂, hat₂, hready, -, hv⟩ := deployment_event hd
  rw [hat.unique hat₂]
  exact ⟨hready, hv⟩

theorem pairwise_passed {R : String → String → Prop} {s : Service} {r : PassReport} {h : List Entry}
    (hnew : ∀ v ∈ r.appliedTo s, ∀ v' ∈ r.appliedTo s, R v v')
    (hold : ∀ v ∈ r.appliedTo s, ∀ v' ∈ appliedVersions s h, R v v') (hp : (appliedVersions s h).Pairwise R) :
    (appliedVersions s (.passed r :: h)).Pairwise R := by
  refine List.pairwise_append.mpr ⟨?_, hp, fun v hv v' hv' => hold v (List.mem_reverse.mp hv) v' hv'⟩
  refine List.pairwise_iff_forall_sublist.mpr fun {v v'} hsub => ?_
  exact hnew v (List.mem_reverse.mp (hsub.subset (by simp))) v' (List.mem_reverse.mp (hsub.subset (by simp)))

/-! ## What a completed pass makes of the version and the record -/

/-- A pass that reached the upgrade with `st` has moved the record for the spec's version to `up`. -/
structure Moved (env : PassEnv) (c : Cluster) (st : ClusterStatus) (up : UpgradeStatus) : Prop where
  due : UpgradeDue c.spec c.status
  step : advanced env c.spec st (recordFor env c.status c.spec.version) = some up

/-- The three ways a pass that reached the upgrade with `st` can leave the stored status `st'`. -/
inductive Stored (env : PassEnv) (c : Cluster) (st st' : ClusterStatus) : Prop
  /-- No upgrade is due; the version may be stamped. -/
  | steady (due : ¬ UpgradeDue c.spec c.status) (upgrade : st'.upgrade = none)
      (version : st'.version = c.status.version ∨ st'.version = c.spec.version)
  /-- The record has made a move. -/
  | moved (up : UpgradeStatus) (move : Moved env c st up) (upgrade : st'.upgrade = some up)
      (version : st'.version = c.status.version)
  /-- The upgrade has been completed. -/
  | completed (due : UpgradeDue c.spec c.status) (phase : phaseFor c.status c.spec.version = .complete)
      (upgrade : st'.upgrade = none) (version : st'.version = c.spec.version)

theorem Moved.phase {env : PassEnv} {c : Cluster} {st : ClusterStatus} {up : UpgradeStatus}
    (h : Moved env c st up) :
    PhaseStep env c.spec st c.spec.version (phaseFor c.status c.spec.version) up.phase := by
  have hstep := (advanced_eq_some h.step).2.2
  rwa [recordFor_toVersion, recordFor_phase] at hstep

theorem Moved.toVersion {env : PassEnv} {c : Cluster} {st : ClusterStatus} {up : UpgradeStatus}
    (h : Moved env c st up) : up.toVersion = c.spec.version :=
  (advanced_eq_some h.step).2.1.trans (recordFor_toVersion env c.status c.spec.version)

/-- What an upgrade that is due comes to in a pass: a move, or its completion. -/
theorem AtUpgrade.outcome {env : PassEnv} {c : Cluster} {st : ClusterStatus} (hat : AtUpgrade env c st)
    (due : UpgradeDue c.spec c.status) :
    (∃ up, Moved env c st up ∧ (upgradeOutcome env c.spec st).upgrade = some up ∧
        (upgradeOutcome env c.spec st).version = c.status.version) ∨
      phaseFor c.status c.spec.version = .complete ∧ (upgradeOutcome env c.spec st).upgrade = none ∧
        (upgradeOutcome env c.spec st).version = c.spec.version := by
  rw [upgradeOutcome_of_due env (hat.upgradeDue_iff.mpr due), hat.recordFor_eq]
  cases ha : advanced env c.spec st (recordFor env c.status c.spec.version) with
  | some up => exact .inl ⟨up, ⟨due, ha⟩, rfl, hat.version⟩
  | none =>
    have hp := advanced_eq_none.mp ha
    rw [recordFor_phase] at hp
    exact .inr ⟨hp, rfl, rfl⟩

theorem AtUpgrade.outcome_of_not_due {env : PassEnv} {c : Cluster} {st : ClusterStatus} (hat : AtUpgrade env c st)
    (due : ¬ UpgradeDue c.spec c.status) :
    (upgradeOutcome env c.spec st).upgrade = none ∧ (upgradeOutcome env c.spec st).version = c.status.version := by
  rw [upgradeOutcome_of_not_due env fun hd => due (hat.upgradeDue_iff.mp hd)]
  exact ⟨rfl, hat.version⟩

theorem res_of_wrote {r : PassReport} {st : ClusterStatus} (h : r.wrote = some st) :
    (reconcile r.env r.read).res = .ok st := by
  unfold PassReport.wrote at h
  cases hr : (reconcile r.env r.read).res with
  | error e => rw [hr] at h; cases h
  | ok st' => rw [hr] at h; rw [Option.some.inj h]

theorem stored_of_wrote {env : PassEnv} {c : Cluster} {st' : ClusterStatus}
    (h : (⟨env, c⟩ : PassReport).wrote = some st') :
    ∃ st, AtUpgrade env c st ∧ PassEnd c (reconcile env c).log (upgradeOutcome env c.spec st) st' ∧
      Stored env c st st' := by
  obtain ⟨st, hat, hend⟩ := reconcile_ok (res_of_wrote h)
  refine ⟨st, hat, hend, ?_⟩
  have hup := hend.upgrade
  by_cases hdue : UpgradeDue c.spec c.status
  · rcases hat.outcome hdue with ⟨up, hmove, hu, hv⟩ | ⟨hphase, hu, hv⟩
    · refine .moved up hmove (hup.trans hu) ?_
      rcases hend.version with hver | ⟨-, hnone, -⟩
      · exact hver.trans hv
      · rw [hu] at hnone
        cases hnone
    · refine .completed hdue hphase (hup.trans hu) ?_
      rcases hend.version with hver | ⟨hver, -, -⟩
      · exact hver.trans hv
      · exact hver
  · obtain ⟨hu, hv⟩ := hat.outcome_of_not_due hdue
    refine .steady hdue (hup.trans hu) ?_
    rcases hend.version with hver | ⟨hver, -, -⟩
    · exact .inl (hver.trans hv)
    · exact .inr hver

theorem Stored.toVersion {env : PassEnv} {c : Cluster} {st st' : ClusterStatus} {up : UpgradeStatus}
    (hs : Stored env c st st') (hu : st'.upgrade = some up) : up.toVersion = c.spec.version := by
  cases hs with
  | steady due upgrade version =>
    rw [upgrade] at hu
    cases hu
  | moved up' move upgrade version =>
    obtain rfl := Option.some.inj (upgrade.symm.trans hu)
    exact move.toVersion
  | completed due phase upgrade version =>
    rw [upgrade] at hu
    cases hu

/-! ## Versions along a run -/

/-- The versions of a reachable object. -/
structure Coherent (c : Cluster) : Prop where
  spec : c.spec.version ∈ patches supportedVersions
  running : c.status.version = "" ∨
    c.status.version ∈ patches supportedVersions ∧ versionLE c.status.version c.spec.version
  record : ∀ up, c.status.upgrade = some up →
    c.status.version ≠ "" ∧ up.fromVersion = c.status.version ∧
      up.toVersion ∈ patches supportedVersions ∧ versionLE up.toVersion c.spec.version

@[simp] theorem submit_version (c : Cluster) (spec : ClusterSpec) (annotations : List (String × String)) :
    (submit c spec annotations).spec.version = spec.version := rfl

@[simp] theorem submit_status (c : Cluster) (spec : ClusterSpec) (annotations : List (String × String)) :
    (submit c spec annotations).status = c.status := rfl

theorem Coherent.admitted {c : Cluster} {spec : ClusterSpec} {annotations : List (String × String)} (hc : Coherent c)
    (hv : ClusterWebhook.validateUpdate c (submit c spec annotations) = []) :
    spec.version ∈ patches supportedVersions ∧ versionLE c.spec.version spec.version := by
  obtain ⟨hsup, hver⟩ := ClusterWebhook.validateUpdate_version hv
  have hmem := isSupported_mem _ hsup
  refine ⟨hmem, ?_⟩
  rcases hver with hver | hver
  · rw [submit_version] at hver
    rw [hver]
    exact parse_patches _ hc.spec
  · exact canUpgrade_patches _ hc.spec _ hmem hver

theorem Coherent.edited {c : Cluster} {spec : ClusterSpec} {annotations : List (String × String)} (hc : Coherent c)
    (hv : ClusterWebhook.validateUpdate c (submit c spec annotations) = []) :
    Coherent (submit c spec annotations) := by
  obtain ⟨hmem, hle⟩ := hc.admitted hv
  refine ⟨hmem, hc.running.imp_right fun h => ⟨h.1, versionLE.trans h.2 hle⟩, fun up hu => ?_⟩
  obtain ⟨hne, hfrom, hto, hup⟩ := hc.record up hu
  exact ⟨hne, hfrom, hto, versionLE.trans hup hle⟩

theorem Coherent.recordFor_fromVersion {c : Cluster} (hc : Coherent c) (env : PassEnv) :
    (recordFor env c.status c.spec.version).fromVersion = c.status.version := by
  by_cases ht : Targets c.status c.spec.version
  · obtain ⟨up, hu, htarget⟩ := ht
    rw [← htarget, recordFor_of_targets env hu]
    exact (hc.record up hu).2.1
  · rw [recordFor_of_not_targets env ht]

theorem Coherent.moved_fromVersion {env : PassEnv} {c : Cluster} {st : ClusterStatus} {up : UpgradeStatus}
    (hc : Coherent c) (h : Moved env c st up) : up.fromVersion = c.status.version :=
  (advanced_eq_some h.step).1.trans (hc.recordFor_fromVersion env)

theorem Coherent.moved_versionAt {env : PassEnv} {c : Cluster} {st : ClusterStatus} {up : UpgradeStatus}
    (hc : Coherent c) (h : Moved env c st up) (s : Service) :
    versionAt up s = if upgradeIndex s + 3 ≤ up.phase.rank then c.spec.version else c.status.version := by
  rw [versionAt_eq, h.toVersion, hc.moved_fromVersion h]

theorem Coherent.rank_of_assigned {env : PassEnv} {c : Cluster} {st : ClusterStatus} {up : UpgradeStatus}
    (hc : Coherent c) (h : Moved env c st up) (hout : (upgradeOutcome env c.spec st).upgrade = some up) {s : Service}
    (hv : serviceVersion c.spec (upgradeOutcome env c.spec st) s = c.spec.version) :
    upgradeIndex s + 3 ≤ up.phase.rank := by
  by_contra hr
  rw [serviceVersion_of_some hout, hc.moved_versionAt h, if_neg hr] at hv
  exact h.due.2 hv

theorem Coherent.stored {env : PassEnv} {c : Cluster} {st st' : ClusterStatus} (hc : Coherent c)
    (hs : Stored env c st st') : Coherent { c with status := st' } := by
  have hrefl := parse_patches _ hc.spec
  cases hs with
  | steady due upgrade version =>
    refine ⟨hc.spec, ?_, fun up hu => ?_⟩
    · rcases version with hver | hver
      · simpa only [hver] using hc.running
      · exact .inr ⟨hver ▸ hc.spec, hver ▸ hrefl⟩
    · rw [upgrade] at hu
      cases hu
  | moved up move upgrade version =>
    refine ⟨hc.spec, by simpa only [version] using hc.running, fun up' hu => ?_⟩
    obtain rfl := Option.some.inj (upgrade.symm.trans hu)
    refine ⟨version ▸ move.due.1, (hc.moved_fromVersion move).trans version.symm, move.toVersion ▸ hc.spec, ?_⟩
    rw [move.toVersion]
    exact hrefl
  | completed due phase upgrade version =>
    refine ⟨hc.spec, .inr ⟨version ▸ hc.spec, version ▸ hrefl⟩, fun up hu => ?_⟩
    rw [upgrade] at hu
    cases hu

theorem Created.coherent {c : Cluster} (hc : Created c) : Coherent c := by
  refine ⟨isSupported_mem _ (ClusterWebhook.validateCreate_version hc.valid), ?_, fun up hu => ?_⟩
  · rw [hc.status]
    exact .inl rfl
  · rw [hc.status] at hu
    cases hu

theorem ClusterRun.coherent {ok : Cluster → List Entry → Input → Prop} {c₀ c : Cluster} {h : List Entry}
    (hc : Coherent c₀) (run : ClusterRun ok c₀ c h) : Coherent c := by
  refine ClusterRun.invariant (I := fun c _ => Coherent c) ?_ ?_ ?_ ?_ ?_ run
  · exact hc
  · exact fun c h spec annotations _ ih _ hv => ih.edited hv
  · exact fun c h _ ih => ih
  · exact fun c h env _ ih _ _ => ih
  · intro c h env st _ ih _ hw
    obtain ⟨_, _, _, hs⟩ := stored_of_wrote hw
    exact ih.stored hs

/-- An admitted update that changes the version leaves no stored record with the new target. -/
theorem Coherent.not_targets_of_edited {c : Cluster} {spec : ClusterSpec} {annotations : List (String × String)}
    (hc : Coherent c) (hv : ClusterWebhook.validateUpdate c (submit c spec annotations) = [])
    (hne : spec.version ≠ c.spec.version) : ¬ Targets c.status spec.version := by
  rintro ⟨up, hu, ht⟩
  obtain ⟨hmem, hle⟩ := hc.admitted hv
  obtain ⟨-, -, -, hup⟩ := hc.record up hu
  rw [ht] at hup
  exact hne (versionLE_antisymm_patches _ hmem _ hc.spec hup hle)

/-! ## Invariants of an upgrade record -/

theorem not_targets_of_none {st : ClusterStatus} (h : st.upgrade = none) (target : String) : ¬ Targets st target := by
  rintro ⟨up, hu, -⟩
  rw [h] at hu
  cases hu

theorem Moved.phaseFor_stored {env : PassEnv} {c : Cluster} {st st' : ClusterStatus} {up : UpgradeStatus}
    (move : Moved env c st up) (upgrade : st'.upgrade = some up) : phaseFor st' c.spec.version = up.phase := by
  rw [← move.toVersion]
  exact phaseFor_of_targets upgrade

theorem not_opened_of_rank (env : PassEnv) {c : Cluster} (hr : 1 ≤ (phaseFor c.status c.spec.version).rank) :
    opened (.passed ⟨env, c⟩) = false := by
  rw [Bool.eq_false_iff]
  intro ho
  rw [phaseFor_of_not_targets (not_targets_of_opened ho)] at hr
  exact absurd hr (by decide)

/-- A property of the record for the spec's version and of its entries: it holds while there is no such record, more
entries of the record do not hurt it, and a completed pass that moves the record keeps it. -/
structure RecordInvariant (I : Cluster → List Entry → Prop) : Prop where
  of_not_targets : ∀ {c h}, ¬ Targets c.status c.spec.version → I c h
  cons : ∀ {c h e}, I c h → opened e = false → I c (e :: h)
  congr : ∀ {c c' h}, I c h → c'.status = c.status → c'.spec.version = c.spec.version → I c' h
  moved : ∀ {env c h st st' up}, I c h → Coherent c → AtUpgrade env c st → Moved env c st up →
    PassEnd c (reconcile env c).log (upgradeOutcome env c.spec st) st' → (⟨env, c⟩ : PassReport).wrote = some st' →
    st'.upgrade = some up → I { c with status := st' } (.passed ⟨env, c⟩ :: h)

namespace RecordInvariant

variable {I : Cluster → List Entry → Prop}

theorem lost (hI : RecordInvariant I) {c : Cluster} {h : List Entry} (ih : I c h) (env : PassEnv) :
    I c (.passed ⟨env, c⟩ :: h) := by
  cases ho : opened (.passed ⟨env, c⟩) with
  | false => exact hI.cons ih ho
  | true => exact hI.of_not_targets (not_targets_of_opened ho)

theorem edited (hI : RecordInvariant I) {c : Cluster} {h : List Entry} {spec : ClusterSpec}
    {annotations : List (String × String)} (ih : I c h) (hc : Coherent c)
    (hv : ClusterWebhook.validateUpdate c (submit c spec annotations) = []) :
    I (submit c spec annotations) (.edited c (submit c spec annotations) :: h) := by
  by_cases hne : spec.version = c.spec.version
  · exact hI.congr (hI.cons ih rfl) rfl hne
  · have hnot := hc.not_targets_of_edited hv hne
    exact hI.of_not_targets hnot

theorem stored (hI : RecordInvariant I) {c : Cluster} {h : List Entry} {env : PassEnv} {st' : ClusterStatus}
    (ih : I c h) (hc : Coherent c) (hw : (⟨env, c⟩ : PassReport).wrote = some st') :
    I { c with status := st' } (.passed ⟨env, c⟩ :: h) := by
  obtain ⟨st, hat, hend, hs⟩ := stored_of_wrote hw
  cases hs with
  | steady due upgrade version => exact hI.of_not_targets (not_targets_of_none upgrade _)
  | moved up move upgrade version => exact hI.moved ih hc hat move hend hw upgrade
  | completed due phase upgrade version => exact hI.of_not_targets (not_targets_of_none upgrade _)

theorem of_run (hI : RecordInvariant I) {ok : Cluster → List Entry → Input → Prop} {c₀ c : Cluster} {h : List Entry}
    (hc : Created c₀) (run : ClusterRun ok c₀ c h) : I c h := by
  refine ClusterRun.invariant (I := I) ?_ ?_ ?_ ?_ ?_ run
  · refine hI.of_not_targets (not_targets_of_none ?_ _)
    rw [hc.status]
  · exact fun c h spec annotations run ih _ hv => hI.edited ih (run.coherent hc.coherent) hv
  · exact fun c h _ ih => hI.cons ih rfl
  · exact fun c h env _ ih _ _ => hI.lost ih env
  · exact fun c h env st run ih _ hw => hI.stored ih (run.coherent hc.coherent) hw

end RecordInvariant

/-! ## A cluster to try runs on -/

def sampleSpec (version : String) : ClusterSpec :=
  { version := version
    persistence := { defaultStore := { sql := some {} }, visibilityStore := { sql := some {} } } }

def sampleCluster (version : String) : Cluster :=
  ClusterWebhook.default { name := "temporal", spec := sampleSpec version }

def moveTo (version : String) : Input :=
  .update (sampleCluster version).spec (sampleCluster version).annotations

/-- A Deployment that runs `version` with one replica out of one. -/
def deployedAt (version : String) : Deployment :=
  { replicas := some 1
    template :=
      { labels := [(labelVersion, version)]
        spec := { containers := [{ name := serverContainerName, image := serverImageOf version }] } }
    updatedReplicas := 1
    readyReplicas := 1 }

/-- A recorded schema version that is enough for every listed version. -/
def newestSchema : Persistence.RecordedVersion := ⟨"1.19", by decide⟩

/-- Enough for 1.30, not for 1.31. -/
def olderSchema : Persistence.RecordedVersion := ⟨"1.18", by decide⟩

/-- Both stores record the schema version `schema`, and every Deployment runs `version`. -/
def steadyEnv (schema : Persistence.RecordedVersion) (version : String) : PassEnv :=
  { store := fun _ => { sqlQuery := fun _ => { store := .recorded schema } }
    rollout := fun _ => .ok (deployedAt version)
    rollup := fun _ => .ok (deployedAt version) }

/-- The event is the apply of the service's Deployment at this version. -/
def Event.appliesAt (s : Service) (v : String) : Event → Bool
  | .applied (.deployment s' v' _) => s' = s && v' = v
  | _ => false

theorem appliesAt_mem {log : List Event} {s : Service} {v : String} (h : log.any (Event.appliesAt s v) = true) :
    ∃ d, Event.applied (.deployment s v d) ∈ log := by
  obtain ⟨e, he, hat⟩ := List.any_eq_true.mp h
  unfold Event.appliesAt at hat
  split at hat
  · simp only [Bool.and_eq_true, decide_eq_true_eq] at hat
    obtain ⟨rfl, rfl⟩ := hat
    exact ⟨_, he⟩
  · cases hat

end TemporalOperator
