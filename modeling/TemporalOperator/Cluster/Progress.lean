import TemporalOperator.Cluster.Migration
import TemporalOperator.Cluster.Rollout
import TemporalOperator.Cluster.SwitchOff

/-!
# Upgrades make progress

A cluster whose version differs from the one it runs and whose spec stays as it is. Passes may fail at any point; those
that come to their end with the stores in order and every Deployment rolled out as it was last applied move the upgrade.

* `upgradeProgress` : the rank of the stored phase, and 10 once the upgrade is done; no pass lowers it
  (`UpgradeState.progress_le`);
* `lastApplied` : the Deployment a history has left for a service; `GoodPass` : the stores answer, their schemas
  are enough, and the Deployments are rolled out as last applied;
* `GoodProgress` : each good pass after a good pass raises the progress (`GoodProgress.passed`);
* `upgrade_makes_progress` : the phase never goes back, and ten good passes complete the upgrade.
-/

namespace TemporalOperator
open Lib Persistence

/-! ## How far an upgrade is -/

def SpecKept (c : Cluster) (_ : List Entry) : Input → Prop
  | .update spec annotations => (submit c spec annotations).spec = c.spec
  | .pass _ => True

/-- The running version is the spec's, and there is no upgrade record. -/
def Upgraded (c : Cluster) : Prop := c.status.version = c.spec.version ∧ c.status.upgrade = none

/-- An upgrade that was due and had no record is under way in a phase the machine knows, or it is done. -/
inductive UpgradeState (c : Cluster) : Prop
  | underway (due : UpgradeDue c.spec c.status)
      (record : ∀ up, c.status.upgrade = some up → up.toVersion = c.spec.version)
      (known : ∀ text, phaseFor c.status c.spec.version ≠ .other text) (awaited : Awaited c)
  | done (h : Upgraded c)

def upgradeProgress (c : Cluster) : Nat :=
  if UpgradeDue c.spec c.status then (phaseFor c.status c.spec.version).rank else 10

theorem upgradeProgress_of_due {c : Cluster} (h : UpgradeDue c.spec c.status) :
    upgradeProgress c = (phaseFor c.status c.spec.version).rank :=
  if_pos h

theorem UpgradePhase.rank_le_nine (p : UpgradePhase) : p.rank ≤ 9 := by
  cases p <;> simp [UpgradePhase.rank]

theorem upgradeProgress_of_not_due {c : Cluster} (h : ¬ UpgradeDue c.spec c.status) : upgradeProgress c = 10 :=
  if_neg h

theorem upgradeProgress_congr {c c' : Cluster} (hspec : c'.spec = c.spec) (hst : c'.status = c.status) :
    upgradeProgress c' = upgradeProgress c := by
  rw [upgradeProgress, upgradeProgress, hspec, hst]

theorem Upgraded.not_due {c : Cluster} (h : Upgraded c) : ¬ UpgradeDue c.spec c.status :=
  fun due => due.2 h.1

namespace PhaseStep

variable {env : PassEnv} {spec : ClusterSpec} {st : ClusterStatus} {target : String} {p p' : UpgradePhase}

theorem known (h : PhaseStep env spec st target p p') (hp : ∀ text, p ≠ .other text) (text : String) :
    p' ≠ .other text := by
  cases h with
  | rolling hs _ => exact hp text
  | rolled hs _ =>
    -- an unknown phase has rank 0
    intro hnext
    have hlt := rank_lt_nextRollingPhase spec hs
    rw [hnext] at hlt
    exact absurd hlt (Nat.not_lt_zero _)
  | unknown text' => exact absurd rfl (hp text')
  | _ => simp

/-- With the stores in order and the awaited service rolled out, a known phase moves on. -/
theorem rank_lt (h : PhaseStep env spec st target p p') (hp : ∀ text, p ≠ .other text)
    (hreach : st.holds .persistenceReachable = true) (hready : st.holds .schemaReady = true)
    (hrolled : ∀ s, rollingPhaseService p = some s → serviceRolledOut env spec s target = true) :
    p.rank < p'.rank := by
  cases h with
  | unreachable hr =>
    rw [hreach] at hr
    cases hr
  | migrating hr =>
    rw [hready] at hr
    cases hr
  | rolling hs hr =>
    rw [hrolled _ hs] at hr
    cases hr
  | rolled hs _ => exact rank_lt_nextRollingPhase spec hs
  | unknown text => exact absurd rfl (hp text)
  | _ => decide

end PhaseStep

namespace UpgradeState

variable {env : PassEnv} {c c' : Cluster} {st st' : ClusterStatus}

theorem start (due : UpgradeDue c.spec c.status) (hnone : c.status.upgrade = none) : UpgradeState c := by
  have hphase := phaseFor_of_not_targets (not_targets_of_none hnone c.spec.version)
  refine .underway due (fun up hu => ?_) (fun text hp => ?_) fun hp => ?_
  · rw [hnone] at hu
    cases hu
  · rw [hphase] at hp
    cases hp
  · rw [hphase] at hp
    cases hp

theorem upgraded (h : UpgradeState c) (hdue : ¬ UpgradeDue c.spec c.status) : Upgraded c := by
  cases h with
  | underway due => exact absurd due hdue
  | done h => exact h

theorem upgraded_of_progress (h : UpgradeState c) (hp : 10 ≤ upgradeProgress c) : Upgraded c := by
  refine h.upgraded fun due => ?_
  rw [upgradeProgress_of_due due] at hp
  have hle := UpgradePhase.rank_le_nine (phaseFor c.status c.spec.version)
  omega

theorem progress_of_record (h : UpgradeState c) {up : UpgradeStatus} (hu : c.status.upgrade = some up) :
    UpgradeDue c.spec c.status ∧ upgradeProgress c = up.phase.rank := by
  cases h with
  | underway due record _ _ =>
    refine ⟨due, ?_⟩
    rw [upgradeProgress_of_due due, ← record up hu, phaseFor_of_targets hu]
  | done h =>
    rw [h.2] at hu
    cases hu

theorem congr (h : UpgradeState c) (hspec : c'.spec = c.spec) (hst : c'.status = c.status) : UpgradeState c' := by
  cases h with
  | underway due record known awaited =>
    refine .underway ?_ ?_ ?_ ?_
    · rwa [hspec, hst]
    · rwa [hspec, hst]
    · rwa [hspec, hst]
    · rwa [Awaited, hspec, hst]
  | done h =>
    refine .done ?_
    rwa [Upgraded, hspec, hst]

theorem stored (h : UpgradeState c) (hs : Stored env c st st') : UpgradeState { c with status := st' } := by
  cases hs with
  | steady due upgrade version =>
    obtain ⟨hv, -⟩ := h.upgraded due
    exact .done ⟨version.elim (·.trans hv) id, upgrade⟩
  | moved up move upgrade version =>
    cases h with
    | underway due record known awaited =>
      refine .underway ⟨?_, ?_⟩ (fun up' hu => ?_) ?_ (awaited.stored (.moved up move upgrade version))
      · rw [version]
        exact due.1
      · rw [version]
        exact due.2
      · obtain rfl := Option.some.inj (upgrade.symm.trans hu)
        exact move.toVersion
      · rw [move.phaseFor_stored upgrade]
        exact move.phase.known known
    | done h => exact absurd move.due h.not_due
  | completed due phase upgrade version => exact .done ⟨version, upgrade⟩

theorem progress_le (h : UpgradeState c) (hs : Stored env c st st') :
    upgradeProgress c ≤ upgradeProgress { c with status := st' } := by
  have hafter := h.stored hs
  cases hs with
  | steady due upgrade version =>
    obtain ⟨hv, -⟩ := h.upgraded due
    have hver : st'.version = c.spec.version := version.elim (·.trans hv) id
    have hdone : ¬ UpgradeDue c.spec st' := fun due' => due'.2 hver
    rw [upgradeProgress_of_not_due due, upgradeProgress_of_not_due hdone]
  | moved up move upgrade version =>
    rw [upgradeProgress_of_due move.due, (hafter.progress_of_record upgrade).2]
    exact move.phase.rank_le
  | completed due phase upgrade version =>
    have hdone : ¬ UpgradeDue c.spec st' := fun due' => due'.2 version
    rw [upgradeProgress_of_due due, upgradeProgress_of_not_due hdone]
    exact (UpgradePhase.rank_le_nine _).trans (by decide)

theorem progress_lt (h : UpgradeState c) (hs : Stored env c st st') (due : UpgradeDue c.spec c.status)
    (hreach : st.holds .persistenceReachable = true) (hready : st.holds .schemaReady = true)
    (hrolled : ∀ s, rollingPhaseService (phaseFor c.status c.spec.version) = some s →
      serviceRolledOut env c.spec s c.spec.version = true) :
    upgradeProgress c < upgradeProgress { c with status := st' } := by
  have hafter := h.stored hs
  cases h with
  | done h => exact absurd due h.not_due
  | underway _ _ known _ =>
    cases hs with
    | steady hnot => exact absurd due hnot
    | moved up move upgrade version =>
      rw [upgradeProgress_of_due due, (hafter.progress_of_record upgrade).2]
      exact move.phase.rank_lt known hreach hready hrolled
    | completed _ phase upgrade version =>
      have hdone : ¬ UpgradeDue c.spec st' := fun due' => due'.2 version
      rw [upgradeProgress_of_due due, upgradeProgress_of_not_due hdone]
      exact Nat.lt_succ_of_le (UpgradePhase.rank_le_nine _)

end UpgradeState

/-- Along a run that keeps the spec the state of the upgrade is kept and its progress never falls. -/
theorem ClusterRun.upgradeState {c₀ c : Cluster} {h : List Entry} (hstate : UpgradeState c₀)
    (run : ClusterRun SpecKept c₀ c h) :
    UpgradeState c ∧ upgradeProgress c₀ ≤ upgradeProgress c ∧ c.spec = c₀.spec := by
  refine ClusterRun.invariant
    (I := fun c _ => UpgradeState c ∧ upgradeProgress c₀ ≤ upgradeProgress c ∧ c.spec = c₀.spec) ?_ ?_ ?_ ?_ ?_ run
  · exact ⟨hstate, Nat.le_refl _, rfl⟩
  · intro c h spec annotations _ ih hok _
    have hspec : (submit c spec annotations).spec = c.spec := hok
    refine ⟨ih.1.congr hspec (submit_status ..), ?_, hspec.trans ih.2.2⟩
    rw [upgradeProgress_congr hspec (submit_status ..)]
    exact ih.2.1
  · exact fun c h _ ih => ih
  · exact fun c h env _ ih _ _ => ih
  · intro c h env st' _ ih _ hw
    obtain ⟨st, -, -, hs⟩ := stored_of_wrote hw
    exact ⟨ih.1.stored hs, ih.2.1.trans (ih.1.progress_le hs), ih.2.2⟩

/-! ## Stores in order -/

/-- Both stores can be built, and the versions read from them are enough for the spec's version. -/
def schemasSatisfied (env : PassEnv) (c : Cluster) : Bool :=
  match buildSchemaTargets env c, lookupVersion supportedVersions c.spec.version with
  | .ok ts, .ok info => ts.all fun t =>
    match (t.backend.schemaVersion 0).res with
    | .ok current => schemaSatisfies current (minSchemaFor info t.backend.kind t.store)
    | .error _ => false
  | _, _ => false

theorem schemasSatisfied_iff {env : PassEnv} {c : Cluster} :
    schemasSatisfied env c = true ↔
      ∃ ts info, buildSchemaTargets env c = .ok ts ∧ lookupVersion supportedVersions c.spec.version = .ok info ∧
        ∀ t ∈ ts, ∃ current, (t.backend.schemaVersion 0).res = .ok current ∧
          schemaSatisfies current (minSchemaFor info t.backend.kind t.store) = true := by
  unfold schemasSatisfied
  cases buildSchemaTargets env c with
  | error e => simp
  | ok ts =>
    cases lookupVersion supportedVersions c.spec.version with
    | error e => simp
    | ok info =>
      simp only [List.all_eq_true, Except.ok.injEq, exists_and_left, exists_eq_left']
      refine forall₂_congr fun t _ => ?_
      cases (t.backend.schemaVersion 0).res <;> simp

theorem reconcileStores_ready {env : PassEnv} {c : Cluster} {info : VersionInfo} {st st' : ClusterStatus}
    {ts : List SchemaTarget}
    (hsat : ∀ t ∈ ts, ∃ current, (t.backend.schemaVersion 0).res = .ok current ∧
      schemaSatisfies current (minSchemaFor info t.backend.kind t.store) = true)
    (h : (reconcileStores env c info st false ts).res = .ok st') : st'.holds .schemaReady = true := by
  induction ts generalizing st with
  | nil =>
    obtain rfl := Except.ok.inj h
    simp
  | cons t ts ih =>
    obtain ⟨current, hcurrent, hs⟩ := hsat t List.mem_cons_self
    rw [reconcileStores_cons, Act.res_bind_eq_ok] at h
    obtain ⟨⟨st₁, res⟩, hstep, h⟩ := h
    rw [reconcileStoreSchema, Act.bind_of_ok (Act.res_attempt _), hcurrent] at hstep
    simp only [Act.res_bind_eq_ok, hs, if_true, Act.res_pure, Except.ok.injEq, Prod.mk.injEq] at hstep
    obtain ⟨_, -, -, rfl⟩ := hstep
    exact ih (fun t' ht' => hsat t' (List.mem_cons_of_mem _ ht')) h

/-- A pass that finds both stores reachable and their schemas satisfied reaches the upgrade with both conditions. -/
theorem AtUpgrade.ready {env : PassEnv} {c : Cluster} {st : ClusterStatus} (hat : AtUpgrade env c st)
    (hanswers : datastoreAnswers env c = true) (hsat : schemasSatisfied env c = true) :
    st.holds .persistenceReachable = true ∧ st.holds .schemaReady = true := by
  obtain ⟨st₁, hp, hm⟩ := hat.reached
  have hkeep := (reconcileMTLS_res hm).2
  have hreach := reconcilePersistence_reachable hp
  rw [hkeep _ (by decide), hkeep _ (by decide), hreach, hanswers]
  refine ⟨rfl, ?_⟩
  obtain ⟨ts, info, hts, hinfo, hall⟩ := schemasSatisfied_iff.mp hsat
  rw [reconcilePersistence_eq, Act.res_bind_eq_ok] at hp
  obtain ⟨_, -, hp⟩ := hp
  simp only [hts, Act.res_bind_eq_ok] at hp
  obtain ⟨probed, hprobe, hp⟩ := hp
  cases probed with
  | some st₂ =>
    obtain rfl := Except.ok.inj hp
    rw [(probeTargets_some hprobe).2.1, hanswers] at hreach
    cases hreach
  | none =>
    simp only [hinfo] at hp
    exact reconcileStores_ready hall hp

theorem version_ne_empty_of_schemasSatisfied {env : PassEnv} {c : Cluster} (h : schemasSatisfied env c = true) :
    c.spec.version ≠ "" := by
  intro he
  obtain ⟨_, info, -, hinfo, -⟩ := schemasSatisfied_iff.mp h
  rw [he] at hinfo
  cases hinfo

/-! ## Deployments as they were last applied -/

/-- The Deployments of `s` a pass applies, with their versions, oldest first. -/
def PassReport.deploymentsOf (s : Service) (r : PassReport) : List (String × Deployment) :=
  r.log.filterMap fun
    | .applied (.deployment s' v d) => if s' = s then some (v, d) else none
    | _ => none

theorem PassReport.mem_deploymentsOf {s : Service} {r : PassReport} {v : String} {d : Deployment} :
    (v, d) ∈ r.deploymentsOf s ↔ Event.applied (.deployment s v d) ∈ r.log := by
  unfold PassReport.deploymentsOf
  rw [List.mem_filterMap]
  constructor
  · rintro ⟨e, he, hd⟩
    split at hd
    · split at hd
      · rename_i hs
        obtain ⟨rfl, rfl⟩ := Prod.mk.inj (Option.some.inj hd)
        exact hs ▸ he
      · cases hd
    · cases hd
  · exact fun he => ⟨_, he, by simp⟩

/-- The Deployment of `s` as it was last applied along a history; `none` when it never was, or when the answer to the
last call was an error. -/
def lastApplied (s : Service) : List Entry → Option Deployment
  | [] => none
  | .passed r :: h =>
    match (r.deploymentsOf s).getLast? with
    | some (v, d) => if (r.env.applyErr (.deployment s v d)).isNone then some d else none
    | none => lastApplied s h
  | _ :: h => lastApplied s h

/-- The Deployment read for `s` has the template last applied to it, and its rollout is over. -/
def rolledOutAsApplied (h : List Entry) (env : PassEnv) (s : Service) : Bool :=
  match lastApplied s h with
  | none => true
  | some d =>
    match env.rollout s with
    | .error _ => false
    | .ok dep =>
      dep.template = d.template && dep.generation = dep.observedGeneration &&
        dep.updatedReplicas = dep.replicas.getD 1 && dep.readyReplicas = dep.replicas.getD 1

structure RunsVersion (spec : ClusterSpec) (tmpl : PodTemplate) (version : String) : Prop where
  label : tmpl.labels.lookup labelVersion = some version
  image : containerImage tmpl.spec.containers serverContainerName = some (serverImage spec version)

theorem RunsVersion.rolledOut {spec : ClusterSpec} {h : List Entry} {env : PassEnv} {s : Service} {d : Deployment}
    {version : String} (hruns : RunsVersion spec d.template version) (hd : lastApplied s h = some d)
    (hout : rolledOutAsApplied h env s = true) : serviceRolledOut env spec s version = true := by
  unfold rolledOutAsApplied at hout
  unfold serviceRolledOut
  rw [hd] at hout
  cases hr : env.rollout s with
  | error e =>
    rw [hr] at hout
    cases hout
  | ok dep =>
    simp only [hr, Bool.and_eq_true, decide_eq_true_eq] at hout ⊢
    obtain ⟨⟨⟨htemplate, hobserved⟩, hupdated⟩, hready⟩ := hout
    rw [rolledOutAt_iff, deploymentRunsImage_iff, htemplate, hruns.label]
    exact ⟨rfl, hruns.image, hobserved, hupdated, hready⟩

/-- No override of a pod template, neither the shared one nor one of an enabled service. -/
def NoOverrides (spec : ClusterSpec) : Prop :=
  sharedOverride spec = none ∧ ∀ svc ∈ enabledServices spec, svc.spec.bind ServiceSpec.podTemplate = none

instance (spec : ClusterSpec) : Decidable (NoOverrides spec) := inferInstanceAs (Decidable (_ ∧ _))

theorem NoOverrides.runsVersion {env : PassEnv} {c : Cluster} {s : Service} {v : String} {d : Deployment}
    (hplain : NoOverrides c.spec) (h : Event.applied (.deployment s v d) ∈ (⟨env, c⟩ : PassReport).log) (hv : v ≠ "") :
    RunsVersion c.spec d.template v := by
  obtain ⟨st, -, hlog⟩ := deployment_source h
  obtain ⟨svc, hsvc, -, d₀, hbuilt, rfl⟩ := deployment_built_reconcileServices hlog
  obtain ⟨shared, hshared, hown, -⟩ := buildDeployment_eq_ok hbuilt
  rw [hplain.1] at hshared
  rw [hplain.2 svc hsvc] at hown
  obtain rfl := Except.ok.inj hshared
  have htemplate : generatedTemplate c svc _ v = d₀.template := Except.ok.inj hown
  obtain ⟨hlabel, himage⟩ := wiredTemplate_keeps c d₀.template
  constructor
  · rw [hlabel, ← htemplate]
    exact generatedTemplate_label c svc _ hv
  · rw [himage, ← htemplate]
    exact generatedTemplate_image c svc _ v

/-- Every enabled service was last applied at the version the status assigns to it. -/
def AppliedAsAssigned (c : Cluster) (h : List Entry) : Prop :=
  ∀ s, Enabled c.spec s → ∃ d, lastApplied s h = some d ∧
    (serviceVersion c.spec c.status s ≠ "" → RunsVersion c.spec d.template (serviceVersion c.spec c.status s))

theorem AppliedAsAssigned.congr {c c' : Cluster} {h : List Entry} (ha : AppliedAsAssigned c h)
    (hspec : c'.spec = c.spec) (hst : c'.status = c.status) : AppliedAsAssigned c' h := by
  rwa [AppliedAsAssigned, hspec, hst]

/-- A completed pass with the schema ready applies every enabled service at the version it assigns. -/
theorem appliedAsAssigned_of_wrote {env : PassEnv} {c : Cluster} {st' : ClusterStatus} (hplain : NoOverrides c.spec)
    (hw : (⟨env, c⟩ : PassReport).wrote = some st') (hready : st'.holds .schemaReady = true) (h : List Entry) :
    AppliedAsAssigned { c with status := st' } (.passed ⟨env, c⟩ :: h) := by
  intro s hs
  obtain ⟨st, hat, hend, -⟩ := stored_of_wrote hw
  obtain ⟨obj, hlog, hobj, -⟩ := ((components_of_wrote hw hready).deploys (.service s)).mpr hs
  -- the pass applies the service, so the newest of its Deployments is one of this pass
  have hne : (⟨env, c⟩ : PassReport).deploymentsOf s ≠ [] := by
    cases obj with
    | deployment s' v d =>
      obtain rfl := Component.service.inj (Option.some.inj hobj)
      exact List.ne_nil_of_mem (PassReport.mem_deploymentsOf.mpr hlog)
    | _ => cases hobj
  obtain ⟨⟨v, d⟩, hlast⟩ := Option.ne_none_iff_exists'.mp (mt List.getLast?_eq_none_iff.mp hne)
  have hmem := PassReport.mem_deploymentsOf.mp (List.mem_of_getLast? hlast)
  obtain ⟨st₂, hat₂, -, -, hv⟩ := deployment_event hmem
  obtain rfl := hat.unique hat₂
  have hassigned : v = serviceVersion c.spec st' s := by
    rw [hv, serviceVersion, serviceVersion, hend.upgrade]
  refine ⟨d, ?_, fun hv' => ?_⟩
  · rw [lastApplied, hlast]
    simp [applyErr_of_wrote hw hmem]
  · change serviceVersion c.spec st' s ≠ "" at hv'
    change RunsVersion c.spec d.template (serviceVersion c.spec st' s)
    rw [← hassigned] at hv' ⊢
    exact hplain.runsVersion hmem hv'

/-! ## Good passes -/

/-- The pass comes to its end, both stores answer with schemas that are enough, and at its start every Deployment is
rolled out with the template last applied to it. -/
structure GoodPass (c : Cluster) (h : List Entry) (env : PassEnv) : Prop where
  completes : (⟨env, c⟩ : PassReport).wrote.isSome = true
  reachable : datastoreAnswers env c = true
  satisfied : schemasSatisfied env c = true
  rolledOut : ∀ s, rolledOutAsApplied h env s = true

instance (c : Cluster) (h : List Entry) (env : PassEnv) : Decidable (GoodPass c h env) :=
  decidable_of_iff
    ((⟨env, c⟩ : PassReport).wrote.isSome = true ∧ datastoreAnswers env c = true ∧ schemasSatisfied env c = true ∧
      ∀ s ∈ serviceUpgradeOrder, rolledOutAsApplied h env s = true)
    ⟨fun ⟨h₁, h₂, h₃, h₄⟩ => ⟨h₁, h₂, h₃, fun s => h₄ s (by cases s <;> decide)⟩,
      fun hg => ⟨hg.completes, hg.reachable, hg.satisfied, fun s _ => hg.rolledOut s⟩⟩

/-- The service a rolling phase waits for has rolled out, if it was applied as the status assigns. -/
theorem GoodPass.serviceRolledOut {c : Cluster} {h : List Entry} {env : PassEnv} (hgood : GoodPass c h env)
    (hstate : UpgradeState c) (happlied : AppliedAsAssigned c h) (due : UpgradeDue c.spec c.status) {s : Service}
    (hs : rollingPhaseService (phaseFor c.status c.spec.version) = some s) :
    serviceRolledOut env c.spec s c.spec.version = true := by
  cases hstate with
  | done hdone => exact absurd due hdone.not_due
  | underway _ record _ awaited =>
    have hen := awaited.enabled hs
    have hversion : serviceVersion c.spec c.status s = c.spec.version := by
      cases hu : c.status.upgrade with
      | none => exact serviceVersion_of_none hu c.spec s
      | some up =>
        rw [← record up hu, phaseFor_of_targets hu] at hs
        rw [serviceVersion_of_some hu, versionAt_eq, if_pos, record up hu]
        cases hp : up.phase <;> rw [hp] at hs <;> cases hs <;> decide
    obtain ⟨d, hd, hruns⟩ := happlied s hen
    rw [hversion] at hruns
    exact (hruns (version_ne_empty_of_schemasSatisfied hgood.satisfied)).rolledOut hd (hgood.rolledOut s)

/-- The spec is left as it is and every pass is good, after the entries of `before`. -/
def GoodAfter (before : List Entry) (c : Cluster) (h : List Entry) : Input → Prop
  | .update spec annotations => (submit c spec annotations).spec = c.spec
  | .pass env => GoodPass c (h ++ before) env

instance (before : List Entry) (c : Cluster) (h : List Entry) : (e : Input) → Decidable (GoodAfter before c h e)
  | .update _ _ => inferInstanceAs (Decidable (_ = _))
  | .pass env => inferInstanceAs (Decidable (GoodPass c (h ++ before) env))

def passes (h : List Entry) : Nat :=
  h.countP fun
    | .passed _ => true
    | _ => false

@[simp] theorem passes_passed (r : PassReport) (h : List Entry) : passes (.passed r :: h) = passes h + 1 := by
  simp [passes]

/-- What good passes build up: each of them has raised the progress, and left the services as it assigns them. -/
structure GoodProgress (before : List Entry) (c : Cluster) (h : List Entry) : Prop where
  state : UpgradeState c
  plain : NoOverrides c.spec
  applied : 0 < passes h → AppliedAsAssigned c (h ++ before)
  progress : min (passes h) 10 ≤ upgradeProgress c

theorem GoodProgress.passed {before : List Entry} {c : Cluster} {h : List Entry} {env : PassEnv} {st' : ClusterStatus}
    (hp : GoodProgress before c h) (hgood : GoodPass c (h ++ before) env)
    (hw : (⟨env, c⟩ : PassReport).wrote = some st') :
    GoodProgress before { c with status := st' } (.passed ⟨env, c⟩ :: h) := by
  obtain ⟨st, hat, hend, hs⟩ := stored_of_wrote hw
  obtain ⟨hreach, hready⟩ := hat.ready hgood.reachable hgood.satisfied
  have hready' : st'.holds .schemaReady = true := by
    rw [hend.schemaReady, holds_upgradeOutcome]
    exact hready
  have hle := hp.state.progress_le hs
  have hbefore := hp.progress
  refine ⟨hp.state.stored hs, hp.plain, fun _ => appliedAsAssigned_of_wrote hp.plain hw hready' _, ?_⟩
  rw [passes_passed]
  by_cases due : UpgradeDue c.spec c.status
  · cases hroll : rollingPhaseService (phaseFor c.status c.spec.version) with
    | none =>
      have hlt := hp.state.progress_lt hs due hreach hready fun s hr => by rw [hroll] at hr; cases hr
      omega
    | some s =>
      -- a first good pass may find the service of its phase not yet applied, but the phase is well past the start
      by_cases hfirst : passes h = 0
      · have hrank : 1 ≤ upgradeProgress c := by
          rw [upgradeProgress_of_due due]
          cases hphase : phaseFor c.status c.spec.version <;> rw [hphase] at hroll <;> cases hroll <;> decide
        omega
      · have happlied := hp.applied (Nat.pos_of_ne_zero hfirst)
        have hlt := hp.state.progress_lt hs due hreach hready fun s hr =>
          hgood.serviceRolledOut hp.state happlied due hr
        omega
  · rw [upgradeProgress_of_not_due due] at hle
    omega

theorem ClusterRun.goodProgress {before : List Entry} {c₀ c : Cluster} {h : List Entry} (hstate : UpgradeState c₀)
    (hplain : NoOverrides c₀.spec) (run : ClusterRun (GoodAfter before) c₀ c h) : GoodProgress before c h := by
  refine ClusterRun.invariant (I := GoodProgress before) ?_ ?_ ?_ ?_ ?_ run
  · exact ⟨hstate, hplain, fun hpos => absurd hpos (by decide), Nat.zero_le _⟩
  · intro c h spec annotations _ ih hok _
    have hspec : (submit c spec annotations).spec = c.spec := hok
    refine ⟨ih.state.congr hspec (submit_status ..), ?_, fun hpos => ?_, ?_⟩
    · rw [hspec]
      exact ih.plain
    · exact (ih.applied hpos).congr hspec (submit_status ..)
    · rw [upgradeProgress_congr hspec (submit_status ..)]
      exact ih.progress
  · exact fun c h _ ih => ⟨ih.state, ih.plain, ih.applied, ih.progress⟩
  · intro c h env _ _ hok hw
    have hcompletes := hok.completes
    rw [hw] at hcompletes
    cases hcompletes
  · exact fun c h env st' _ ih hok hw => ih.passed hok hw

/-! ## Progress -/

/-- **Upgrades make progress**: take a cluster without overrides whose upgrade is due and has no record, and any run
that keeps its spec. From there on the stored phase never goes back, and the upgrade is not opened again once it is
done. If all passes from there on are good, ten of them complete the upgrade, and no later pass undoes that. -/
theorem upgrade_makes_progress {c₀ c : Cluster} {h : List Entry} (due : UpgradeDue c₀.spec c₀.status)
    (hnone : c₀.status.upgrade = none) (hplain : NoOverrides c₀.spec) (run : ClusterRun SpecKept c₀ c h) :
    (∀ c₁ h₁, ClusterRun SpecKept c c₁ h₁ → ∀ up₁, c₁.status.upgrade = some up₁ →
      UpgradeDue c.spec c.status ∧ ∀ up, c.status.upgrade = some up → up.phase.rank ≤ up₁.phase.rank) ∧
    ∀ c₁ h₁, ClusterRun (GoodAfter h) c c₁ h₁ → 10 ≤ passes h₁ →
      ∀ c₂ h₂, ClusterRun SpecKept c₁ c₂ h₂ → Upgraded c₂ := by
  obtain ⟨hstate, -, hspec⟩ := run.upgradeState (.start due hnone)
  constructor
  · intro c₁ h₁ run₁ up₁ hup₁
    obtain ⟨hstate₁, hle, -⟩ := run₁.upgradeState hstate
    have hrank := (hstate₁.progress_of_record hup₁).2
    refine ⟨?_, fun up hup => ?_⟩
    · by_contra hnot
      rw [upgradeProgress_of_not_due hnot, hrank] at hle
      have hnine := up₁.phase.rank_le_nine
      omega
    · rwa [(hstate.progress_of_record hup).2, hrank] at hle
  · intro c₁ h₁ run₁ hten c₂ h₂ run₂
    have hgood := run₁.goodProgress hstate (hspec ▸ hplain)
    have hfull : 10 ≤ upgradeProgress c₁ := by
      have hprogress := hgood.progress
      omega
    obtain ⟨hstate₂, hle, -⟩ := run₂.upgradeState hgood.state
    exact hstate₂.upgraded_of_progress (hfull.trans hle)

/-- A cluster with the internal frontend that runs 1.30.4 and is to run 1.31.0. -/
def upgrading : Cluster := { withInternalFrontend "1.31.0" true with status := { version := "1.30.4" } }

/-- A pass that does everything and loses its status write. -/
def unwritten : Input :=
  .pass { steadyEnv newestSchema "1.30.4" with statusErr := some ⟨.conflict, "the object has been modified"⟩ }

/-- The Deployment of `s` as it is built for `version`, rolled out. -/
def rolledOutFor (s : Service) (version : String) : Except GoErr Deployment :=
  match (enabledServices upgrading.spec).find? fun svc => svc.name = s with
  | some svc => (buildDeployment {} upgrading svc version).map fun d => settled upgrading d 1
  | none => .error ⟨.notFound, "not found"⟩

/-- What the pass after `n` good ones finds. -/
def rolledOutEnv (n : Nat) : PassEnv :=
  { steadyEnv newestSchema "1.30.4" with
    rollout := fun s => rolledOutFor s (if upgradeIndex s + 3 ≤ n then "1.31.0" else "1.30.4") }

/-- After a lost write, ten good passes bring the cluster from 1.30.4 to 1.31.0. -/
theorem upgrade_makes_progress_sample :
    let start := clusterSystem.exec upgrading [] [unwritten]
    let final := clusterSystem.exec start.1 [] ((List.range 10).map fun n => .pass (rolledOutEnv n))
    UpgradeDue upgrading.spec upgrading.status ∧ start.1 = upgrading ∧ passes final.2 = 10 ∧ Upgraded final.1 := by
  intro start final
  have due : UpgradeDue upgrading.spec upgrading.status := by decide +kernel
  have hlost : clusterSystem.Fits SpecKept upgrading [] [unwritten] := ⟨trivial, trivial⟩
  -- one evaluation: the kernel goes through the ten passes once
  obtain ⟨hgood, hten⟩ : clusterSystem.Fits (GoodAfter start.2) start.1 []
      ((List.range 10).map fun n => .pass (rolledOutEnv n)) ∧ passes final.2 = 10 := by
    decide +kernel
  have hprogress := upgrade_makes_progress due rfl (by decide +kernel) (.exec .start hlost)
  exact ⟨due, by decide +kernel, hten, hprogress.2 _ _ (.exec .start hgood) hten.ge _ _ .start⟩

end TemporalOperator
