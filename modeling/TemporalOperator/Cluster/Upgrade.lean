import TemporalOperator.Cluster.Resources

/-!
# The upgrade phase machine

`internal/controller/temporalcluster_upgrade.go`. A pass opens an upgrade record when `status.version` is set and
differs from `spec.version`, advances its phase by at most one step, and returns the version each enabled service
should run.

* `reconcileUpgrade` and its parts, as logged computations;
* `recordFor`, `advanced`, `upgradeOutcome`, `serviceVersion` : their results as plain functions
  (`reconcileUpgrade_res`, `lookup_serviceVersions`);
* `PhaseStep` : every move the phase machine can make, and `PhaseStep.rank_le`, `PhaseStep.seen`, ... what follows
  from a move, in terms of `UpgradePhase.rank`.
-/

namespace TemporalOperator
open Lib

def rollingPhaseService : UpgradePhase → Option Service
  | .rollingFrontend => some .frontend
  | .rollingHistory => some .history
  | .rollingMatching => some .matching
  | .rollingInternalFrontend => some .internalFrontend
  | .rollingWorker => some .worker
  | _ => none

def UpgradePhase.text : UpgradePhase → String
  | .pending => "Pending"
  | .preflight => "PreflightChecks"
  | .schemaMigrating => "SchemaMigrating"
  | .rollingFrontend => "RollingFrontend"
  | .rollingHistory => "RollingHistory"
  | .rollingMatching => "RollingMatching"
  | .rollingInternalFrontend => "RollingInternalFrontend"
  | .rollingWorker => "RollingWorker"
  | .postUpgrade => "PostUpgrade"
  | .complete => "Complete"
  | .other text => text

def serviceUpgradeOrder : List Service := [.frontend, .history, .matching, .internalFrontend, .worker]

def upgradeIndex (s : Service) : Nat := serviceUpgradeOrder.idxOf s

theorem upgradeIndex_le (s : Service) : upgradeIndex s ≤ 4 := by
  cases s <;> decide

/-! ## Rollouts -/

/-- The checks `serviceRolledOut` makes on the Deployment it has read. -/
def rolledOutAt (spec : ClusterSpec) (dep : Deployment) (version : String) : Bool :=
  (dep.template.labels.lookup labelVersion).getD "" = version &&
  deploymentRunsImage dep (serverImage spec version) &&
  dep.generation = dep.observedGeneration &&
  dep.updatedReplicas = dep.replicas.getD 1 && dep.readyReplicas = dep.replicas.getD 1

def serviceRolledOut (env : PassEnv) (spec : ClusterSpec) (s : Service) (version : String) : Bool :=
  match env.rollout s with
  | .error _ => false
  | .ok dep => rolledOutAt spec dep version

/-! ## Versions per service -/

def uniformVersions (spec : ClusterSpec) (version : String) : List (Service × String) :=
  (enabledServices spec).map fun svc => (svc.name, version)

/-- The last position of `serviceUpgradeOrder` that runs the new version in a phase. -/
def upgradedThrough (phase : UpgradePhase) : Int :=
  match phase with
  | .postUpgrade | .complete => serviceUpgradeOrder.length - 1
  | p =>
    match rollingPhaseService p with
    | some s => upgradeIndex s
    | none => -1

def versionAt (up : UpgradeStatus) (s : Service) : String :=
  if upgradeIndex s ≤ upgradedThrough up.phase then up.toVersion else up.fromVersion

def upgradeServiceVersions (spec : ClusterSpec) (up : UpgradeStatus) : List (Service × String) :=
  (enabledServices spec).map fun svc => (svc.name, versionAt up svc.name)

/-! ## Phases -/

def afterMatchingPhase (spec : ClusterSpec) : UpgradePhase :=
  if internalFrontendEnabled spec then .rollingInternalFrontend else .rollingWorker

def nextRollingPhase (spec : ClusterSpec) : UpgradePhase → UpgradePhase
  | .rollingFrontend => .rollingHistory
  | .rollingHistory => .rollingMatching
  | .rollingMatching => afterMatchingPhase spec
  | .rollingInternalFrontend => .rollingWorker
  | .rollingWorker => .postUpgrade
  | p => p

/-- The `advance` closure: enter a phase and record a Kubernetes event. -/
def enterPhase (up : UpgradeStatus) (next : UpgradePhase) : Pass UpgradeStatus := do
  Act.emit (.recorded "UpgradePhase" ("upgrade entered phase " ++ next.text))
  return { up with phase := next }

def advanceRollingPhase (env : PassEnv) (spec : ClusterSpec) (up : UpgradeStatus) : Pass UpgradeStatus :=
  match rollingPhaseService up.phase with
  | none => pure up
  | some s => do
    Act.emit (.rolloutSeen s up.toVersion (serviceRolledOut env spec s up.toVersion))
    if serviceRolledOut env spec s up.toVersion then enterPhase up (nextRollingPhase spec up.phase) else pure up

/-- `advanceUpgrade`: the status with the advanced record, or with the upgrade completed. -/
def advanceUpgrade (env : PassEnv) (spec : ClusterSpec) (st : ClusterStatus) (up : UpgradeStatus) :
    Pass ClusterStatus :=
  let record (m : Pass UpgradeStatus) : Pass ClusterStatus := do
    let up ← m
    return { st with upgrade := some up }
  match up.phase with
  | .pending => record (enterPhase up .preflight)
  | .preflight =>
    if st.holds .persistenceReachable then record (enterPhase { up with rollbackable := false } .schemaMigrating)
    else record (pure up)
  | .schemaMigrating =>
    if st.holds .schemaReady then record (enterPhase { up with rollbackable := false } .rollingFrontend)
    else record (pure { up with rollbackable := false })
  | .postUpgrade => record (enterPhase up .complete)
  | .complete => do
    Act.emit (.recorded "UpgradeComplete" ("upgrade to " ++ up.toVersion ++ " complete"))
    return { st with version := up.toVersion, upgrade := none }
  | _ => record (advanceRollingPhase env spec up)

/-- The upgrade record for the target, opened anew when there is none. -/
def openUpgrade (env : PassEnv) (st : ClusterStatus) (target : String) : Pass UpgradeStatus :=
  let fresh : Pass UpgradeStatus := do
    Act.emit (.upgradeStarted st.version target)
    Act.emit (.recorded "UpgradeStarted" ("upgrade from " ++ st.version ++ " to " ++ target ++ " started"))
    return { fromVersion := st.version, toVersion := target, phase := .pending, rollbackable := true,
             startedAt := env.now }
  match st.upgrade with
  | some up => if up.toVersion ≠ target then fresh else pure up
  | none => fresh

/-- The version map `reconcileUpgrade` returns for a status it has just advanced. -/
def serviceVersions (spec : ClusterSpec) (st : ClusterStatus) : List (Service × String) :=
  match st.upgrade with
  | none => uniformVersions spec spec.version
  | some up => upgradeServiceVersions spec up

def assignVersions (spec : ClusterSpec) (st : ClusterStatus) : Pass (ClusterStatus × List (Service × String)) := do
  Act.emit (.versionsAssigned (serviceVersions spec st))
  return (st, serviceVersions spec st)

def reconcileUpgrade (env : PassEnv) (spec : ClusterSpec) (st : ClusterStatus) :
    Pass (ClusterStatus × List (Service × String)) :=
  if st.version = "" ∨ st.version = spec.version then assignVersions spec { st with upgrade := none }
  else do
    let up ← openUpgrade env st spec.version
    let st ← advanceUpgrade env spec st up
    assignVersions spec st

/-! ## Results -/

/-- The record a pass works on: the stored one if it has the same target, else a new one. -/
def recordFor (env : PassEnv) (st : ClusterStatus) (target : String) : UpgradeStatus :=
  let fresh : UpgradeStatus :=
    { fromVersion := st.version, toVersion := target, phase := .pending, rollbackable := true, startedAt := env.now }
  match st.upgrade with
  | some up => if up.toVersion ≠ target then fresh else up
  | none => fresh

def Targets (st : ClusterStatus) (target : String) : Prop := ∃ up, st.upgrade = some up ∧ up.toVersion = target

instance (st : ClusterStatus) (target : String) : Decidable (Targets st target) :=
  decidable_of_iff (∃ up ∈ st.upgrade, up.toVersion = target) Iff.rfl

theorem recordFor_of_targets {st : ClusterStatus} {up : UpgradeStatus} (env : PassEnv) (h : st.upgrade = some up) :
    recordFor env st up.toVersion = up := by
  simp [recordFor, h]

theorem recordFor_of_not_targets {st : ClusterStatus} {target : String} (env : PassEnv) (h : ¬ Targets st target) :
    recordFor env st target =
      { fromVersion := st.version, toVersion := target, phase := .pending, rollbackable := true,
        startedAt := env.now } := by
  unfold recordFor
  cases hu : st.upgrade with
  | none => rfl
  | some up =>
    have hne : up.toVersion ≠ target := fun he => h ⟨up, hu, he⟩
    simp only
    rw [if_pos hne]

theorem recordFor_toVersion (env : PassEnv) (st : ClusterStatus) (target : String) :
    (recordFor env st target).toVersion = target := by
  by_cases h : Targets st target
  · obtain ⟨up, hu, rfl⟩ := h
    rw [recordFor_of_targets env hu]
  · rw [recordFor_of_not_targets env h]

/-- The phase a pass starts from, for a target. -/
def phaseFor (st : ClusterStatus) (target : String) : UpgradePhase :=
  match st.upgrade with
  | some up => if up.toVersion = target then up.phase else .pending
  | none => .pending

theorem phaseFor_of_targets {st : ClusterStatus} {up : UpgradeStatus} (h : st.upgrade = some up) :
    phaseFor st up.toVersion = up.phase := by
  simp [phaseFor, h]

theorem phaseFor_of_not_targets {st : ClusterStatus} {target : String} (h : ¬ Targets st target) :
    phaseFor st target = .pending := by
  unfold phaseFor
  cases hu : st.upgrade with
  | none => rfl
  | some up =>
    have hne : up.toVersion ≠ target := fun he => h ⟨up, hu, he⟩
    simp only
    rw [if_neg hne]

theorem recordFor_phase (env : PassEnv) (st : ClusterStatus) (target : String) :
    (recordFor env st target).phase = phaseFor st target := by
  by_cases h : Targets st target
  · obtain ⟨up, hu, rfl⟩ := h
    rw [recordFor_of_targets env hu, phaseFor_of_targets hu]
  · rw [recordFor_of_not_targets env h, phaseFor_of_not_targets h]

theorem openUpgrade_res (env : PassEnv) (st : ClusterStatus) (target : String) :
    (openUpgrade env st target).res = .ok (recordFor env st target) := by
  unfold openUpgrade recordFor
  cases st.upgrade with
  | none => rfl
  | some up =>
    simp only
    split <;> rfl

/-- The record after one step of the phase machine; `none` when the upgrade is complete. -/
def advanced (env : PassEnv) (spec : ClusterSpec) (st : ClusterStatus) (up : UpgradeStatus) : Option UpgradeStatus :=
  match up.phase with
  | .pending => some { up with phase := .preflight }
  | .preflight =>
    if st.holds .persistenceReachable then some { up with rollbackable := false, phase := .schemaMigrating }
    else some up
  | .schemaMigrating =>
    some { up with
      rollbackable := false
      phase := if st.holds .schemaReady then .rollingFrontend else .schemaMigrating }
  | .postUpgrade => some { up with phase := .complete }
  | .complete => none
  | p =>
    match rollingPhaseService p with
    | none => some up
    | some s =>
      if serviceRolledOut env spec s up.toVersion then some { up with phase := nextRollingPhase spec p } else some up

/-- The status with an advanced record, or with the version the upgrade has reached. -/
def withRecord (st : ClusterStatus) (target : String) : Option UpgradeStatus → ClusterStatus
  | some up => { st with upgrade := some up }
  | none => { st with version := target, upgrade := none }

theorem advanceUpgrade_res (env : PassEnv) (spec : ClusterSpec) (st : ClusterStatus) (up : UpgradeStatus) :
    (advanceUpgrade env spec st up).res = .ok (withRecord st up.toVersion (advanced env spec st up)) := by
  unfold advanceUpgrade advanced
  cases hp : up.phase
  case preflight => cases h : st.holds .persistenceReachable <;> simp [withRecord, enterPhase]
  case schemaMigrating =>
    cases h : st.holds .schemaReady <;> simp [withRecord, enterPhase]
  case other text => simp [withRecord, advanceRollingPhase, hp, rollingPhaseService]
  all_goals simp [withRecord, enterPhase, advanceRollingPhase, rollingPhaseService, hp]
  all_goals split <;> simp

/-- The version is set and is not the spec's: an upgrade is due. -/
def UpgradeDue (spec : ClusterSpec) (st : ClusterStatus) : Prop := st.version ≠ "" ∧ st.version ≠ spec.version

instance (spec : ClusterSpec) (st : ClusterStatus) : Decidable (UpgradeDue spec st) :=
  inferInstanceAs (Decidable (_ ∧ _))

theorem not_upgradeDue {spec : ClusterSpec} {st : ClusterStatus} :
    ¬ UpgradeDue spec st ↔ st.version = "" ∨ st.version = spec.version := by
  unfold UpgradeDue
  tauto

def upgradeOutcome (env : PassEnv) (spec : ClusterSpec) (st : ClusterStatus) : ClusterStatus :=
  if UpgradeDue spec st then withRecord st spec.version (advanced env spec st (recordFor env st spec.version))
  else { st with upgrade := none }

theorem upgradeOutcome_of_due {spec : ClusterSpec} {st : ClusterStatus} (env : PassEnv) (h : UpgradeDue spec st) :
    upgradeOutcome env spec st =
      withRecord st spec.version (advanced env spec st (recordFor env st spec.version)) :=
  if_pos h

theorem upgradeOutcome_of_not_due {spec : ClusterSpec} {st : ClusterStatus} (env : PassEnv)
    (h : ¬ UpgradeDue spec st) : upgradeOutcome env spec st = { st with upgrade := none } :=
  if_neg h

theorem reconcileUpgrade_of_not_due {spec : ClusterSpec} {st : ClusterStatus} (env : PassEnv)
    (h : ¬ UpgradeDue spec st) :
    reconcileUpgrade env spec st = assignVersions spec { st with upgrade := none } :=
  if_pos (not_upgradeDue.mp h)

theorem reconcileUpgrade_of_due {spec : ClusterSpec} {st : ClusterStatus} (env : PassEnv) (h : UpgradeDue spec st) :
    reconcileUpgrade env spec st =
      openUpgrade env st spec.version >>= fun up => advanceUpgrade env spec st up >>= assignVersions spec :=
  if_neg fun hn => not_upgradeDue.mpr hn h

theorem reconcileUpgrade_res (env : PassEnv) (spec : ClusterSpec) (st : ClusterStatus) :
    (reconcileUpgrade env spec st).res =
      .ok (upgradeOutcome env spec st, serviceVersions spec (upgradeOutcome env spec st)) := by
  by_cases h : UpgradeDue spec st
  · rw [reconcileUpgrade_of_due env h, upgradeOutcome_of_due env h, Act.bind_of_ok (openUpgrade_res env st _),
      Act.bind_of_ok (advanceUpgrade_res env spec st _), recordFor_toVersion]
    rfl
  · rw [reconcileUpgrade_of_not_due env h, upgradeOutcome_of_not_due env h]
    rfl

theorem holds_upgradeOutcome (env : PassEnv) (spec : ClusterSpec) (st : ClusterStatus) (t : ConditionType) :
    (upgradeOutcome env spec st).holds t = st.holds t := by
  refine holds_of_conditions ?_ t
  unfold upgradeOutcome withRecord
  split
  · split <;> rfl
  · rfl

/-! ## Versions per service, looked up -/

theorem lookup_map_name (f : Service → String) (svcs : List ServiceInfo) (s : Service) :
    (svcs.map fun svc => (svc.name, f svc.name)).lookup s =
      if s ∈ svcs.map ServiceInfo.name then some (f s) else none := by
  induction svcs with
  | nil => rfl
  | cons svc svcs ih =>
    by_cases h : s = svc.name
    · subst h
      simp
    · have hb : (s == svc.name) = false := by simpa using h
      rw [List.map_cons, List.lookup_cons, hb, ih]
      simp [h]

/-- The version `reconcileUpgrade` assigns to a service, for the status it leaves. -/
def serviceVersion (spec : ClusterSpec) (st : ClusterStatus) (s : Service) : String :=
  match st.upgrade with
  | none => spec.version
  | some up => versionAt up s

theorem serviceVersion_of_none {st : ClusterStatus} (h : st.upgrade = none) (spec : ClusterSpec) (s : Service) :
    serviceVersion spec st s = spec.version := by
  rw [serviceVersion, h]

theorem serviceVersion_of_some {st : ClusterStatus} {up : UpgradeStatus} (h : st.upgrade = some up)
    (spec : ClusterSpec) (s : Service) : serviceVersion spec st s = versionAt up s := by
  rw [serviceVersion, h]

theorem lookup_serviceVersions (spec : ClusterSpec) (st : ClusterStatus) (s : Service) :
    (serviceVersions spec st).lookup s = if Enabled spec s then some (serviceVersion spec st s) else none := by
  unfold serviceVersions serviceVersion
  cases st.upgrade with
  | none => exact lookup_map_name (fun _ => spec.version) _ s
  | some up => exact lookup_map_name (versionAt up) _ s

/-! ## Logs -/

theorem log_enterPhase (up : UpgradeStatus) (next : UpgradePhase) :
    (enterPhase up next).log = [.recorded "UpgradePhase" ("upgrade entered phase " ++ next.text)] := rfl

theorem mem_log_openUpgrade {env : PassEnv} {st : ClusterStatus} {target : String} {e : Event}
    (he : e.stage = .upgrade) :
    e ∈ (openUpgrade env st target).log ↔ ¬ Targets st target ∧ e = .upgradeStarted st.version target := by
  have hrec : ∀ r m, e ≠ .recorded r m := by
    rintro r m rfl
    cases he
  unfold openUpgrade Targets
  cases hu : st.upgrade with
  | none => simp [hrec]
  | some up => by_cases ht : up.toVersion = target <;> simp [ht, hrec]

/-- The only observation of the phase machine is the rollout of the service its phase rolls. -/
theorem mem_log_advanceUpgrade {env : PassEnv} {spec : ClusterSpec} {st : ClusterStatus} {up : UpgradeStatus}
    {e : Event} (he : e.stage = .upgrade) :
    e ∈ (advanceUpgrade env spec st up).log ↔ ∃ s, rollingPhaseService up.phase = some s ∧
      e = .rolloutSeen s up.toVersion (serviceRolledOut env spec s up.toVersion) := by
  have hrec : ∀ r m, e ≠ .recorded r m := by
    rintro r m rfl
    cases he
  unfold advanceUpgrade
  cases hp : up.phase <;> simp only [rollingPhaseService]
  case preflight => cases st.holds .persistenceReachable <;> simp [log_enterPhase, hrec]
  case schemaMigrating => cases st.holds .schemaReady <;> simp [log_enterPhase, hrec]
  case other text => simp [advanceRollingPhase, hp, rollingPhaseService]
  case pending | postUpgrade | complete => simp [log_enterPhase, hrec]
  all_goals
    simp only [advanceRollingPhase, hp, rollingPhaseService]
    split <;> simp [log_enterPhase, hrec]

theorem mem_log_assignVersions {spec : ClusterSpec} {st : ClusterStatus} {e : Event} :
    e ∈ (assignVersions spec st).log ↔ e = .versionsAssigned (serviceVersions spec st) := by
  simp [assignVersions]

theorem mem_log_reconcileUpgrade {env : PassEnv} {spec : ClusterSpec} {st : ClusterStatus} {e : Event}
    (he : e.stage = .upgrade) :
    e ∈ (reconcileUpgrade env spec st).log ↔
      e = .versionsAssigned (serviceVersions spec (upgradeOutcome env spec st)) ∨
      UpgradeDue spec st ∧ ¬ Targets st spec.version ∧ e = .upgradeStarted st.version spec.version ∨
      UpgradeDue spec st ∧ ∃ s, rollingPhaseService (recordFor env st spec.version).phase = some s ∧
        e = .rolloutSeen s spec.version (serviceRolledOut env spec s spec.version) := by
  by_cases h : UpgradeDue spec st
  · rw [reconcileUpgrade_of_due env h, upgradeOutcome_of_due env h, Act.bind_of_ok (openUpgrade_res env st _),
      Act.bind_of_ok (advanceUpgrade_res env spec st _), List.mem_append, List.mem_append, mem_log_openUpgrade he,
      mem_log_advanceUpgrade he, mem_log_assignVersions, recordFor_toVersion]
    simp only [h, true_and, or_comm, or_left_comm]
  · rw [reconcileUpgrade_of_not_due env h, upgradeOutcome_of_not_due env h, mem_log_assignVersions]
    tauto

theorem emits_reconcileUpgrade (env : PassEnv) (spec : ClusterSpec) (st : ClusterStatus) :
    (reconcileUpgrade env spec st).Emits fun e => e.stage = .upgrade ∨ e.stage = .note := by
  have hassign : ∀ st, (assignVersions spec st).Emits fun e => e.stage = .upgrade ∨ e.stage = .note :=
    fun st => Act.emits_bind (Act.emits_emit (.inl rfl)) fun _ => Act.emits_pure _
  have henter : ∀ up next, (enterPhase up next).Emits fun e => e.stage = .upgrade ∨ e.stage = .note :=
    fun up next => Act.emits_bind (Act.emits_emit (.inr rfl)) fun _ => Act.emits_pure _
  have hfresh : ∀ f t m (up : UpgradeStatus),
      (do Act.emit (.upgradeStarted f t); Act.emit (.recorded "UpgradeStarted" m); return up : Pass _).Emits
        fun e => e.stage = .upgrade ∨ e.stage = .note :=
    fun f t m up => Act.emits_bind (Act.emits_emit (.inl rfl)) fun _ =>
      Act.emits_bind (Act.emits_emit (.inr rfl)) fun _ => Act.emits_pure _
  unfold reconcileUpgrade
  split
  · exact hassign _
  · refine Act.emits_bind ?_ fun up => Act.emits_bind ?_ fun st => hassign _
    · unfold openUpgrade
      split
      · split
        · exact hfresh _ _ _ _
        · exact Act.emits_pure _
      · exact hfresh _ _ _ _
    · unfold advanceUpgrade
      split
      · exact Act.emits_bind (henter _ _) fun _ => Act.emits_pure _
      · split
        · exact Act.emits_bind (henter _ _) fun _ => Act.emits_pure _
        · exact Act.emits_bind (Act.emits_pure _) fun _ => Act.emits_pure _
      · split
        · exact Act.emits_bind (henter _ _) fun _ => Act.emits_pure _
        · exact Act.emits_bind (Act.emits_pure _) fun _ => Act.emits_pure _
      · exact Act.emits_bind (henter _ _) fun _ => Act.emits_pure _
      · exact Act.emits_bind (Act.emits_emit (.inr rfl)) fun _ => Act.emits_pure _
      · refine Act.emits_bind ?_ fun _ => Act.emits_pure _
        unfold advanceRollingPhase
        split
        · exact Act.emits_pure _
        · refine Act.emits_bind (Act.emits_emit (.inl rfl)) fun _ => ?_
          split
          · exact henter _ _
          · exact Act.emits_pure _

/-! ## The moves of the phase machine -/

def UpgradePhase.rank : UpgradePhase → Nat
  | .pending => 0
  | .preflight => 1
  | .schemaMigrating => 2
  | .rollingFrontend => 3
  | .rollingHistory => 4
  | .rollingMatching => 5
  | .rollingInternalFrontend => 6
  | .rollingWorker => 7
  | .postUpgrade => 8
  | .complete => 9
  | .other _ => 0

/-- A service runs the new version from its rolling phase on. -/
theorem versionAt_eq (up : UpgradeStatus) (s : Service) :
    versionAt up s = if upgradeIndex s + 3 ≤ up.phase.rank then up.toVersion else up.fromVersion := by
  unfold versionAt
  refine if_congr ?_ rfl rfl
  cases up.phase
  case other text =>
    simp only [upgradedThrough, rollingPhaseService, UpgradePhase.rank]
    omega
  all_goals cases s <;> decide

theorem rank_lt_nextRollingPhase {p : UpgradePhase} {s : Service} (spec : ClusterSpec)
    (hs : rollingPhaseService p = some s) : p.rank < (nextRollingPhase spec p).rank := by
  cases p <;> simp only [rollingPhaseService, reduceCtorEq] at hs <;>
    simp only [nextRollingPhase, afterMatchingPhase]
  case rollingMatching => split <;> decide
  all_goals decide

/-- A move of the phase machine, for a status with its conditions and a target version. -/
inductive PhaseStep (env : PassEnv) (spec : ClusterSpec) (st : ClusterStatus) (target : String) :
    UpgradePhase → UpgradePhase → Prop
  | preflight : PhaseStep env spec st target .pending .preflight
  | unreachable (h : st.holds .persistenceReachable = false) : PhaseStep env spec st target .preflight .preflight
  | migrate (h : st.holds .persistenceReachable = true) : PhaseStep env spec st target .preflight .schemaMigrating
  | migrating (h : st.holds .schemaReady = false) : PhaseStep env spec st target .schemaMigrating .schemaMigrating
  | roll (h : st.holds .schemaReady = true) : PhaseStep env spec st target .schemaMigrating .rollingFrontend
  | rolling {p : UpgradePhase} {s : Service} (hs : rollingPhaseService p = some s)
      (h : serviceRolledOut env spec s target = false) : PhaseStep env spec st target p p
  | rolled {p : UpgradePhase} {s : Service} (hs : rollingPhaseService p = some s)
      (h : serviceRolledOut env spec s target = true) : PhaseStep env spec st target p (nextRollingPhase spec p)
  | complete : PhaseStep env spec st target .postUpgrade .complete
  | unknown (text : String) : PhaseStep env spec st target (.other text) (.other text)

theorem advanced_eq_none {env : PassEnv} {spec : ClusterSpec} {st : ClusterStatus} {up : UpgradeStatus} :
    advanced env spec st up = none ↔ up.phase = .complete := by
  unfold advanced
  cases up.phase <;> simp [rollingPhaseService] <;> split <;> simp

theorem advanced_eq_some {env : PassEnv} {spec : ClusterSpec} {st : ClusterStatus} {up up' : UpgradeStatus}
    (h : advanced env spec st up = some up') :
    up'.fromVersion = up.fromVersion ∧ up'.toVersion = up.toVersion ∧
      PhaseStep env spec st up.toVersion up.phase up'.phase := by
  -- the rolling phases share one body
  have hroll : ∀ {s}, rollingPhaseService up.phase = some s →
      (if serviceRolledOut env spec s up.toVersion then some { up with phase := nextRollingPhase spec up.phase }
        else some up) = some up' →
      up'.fromVersion = up.fromVersion ∧ up'.toVersion = up.toVersion ∧
        PhaseStep env spec st up.toVersion up.phase up'.phase := by
    intro s hs h
    cases hr : serviceRolledOut env spec s up.toVersion with
    | true =>
      rw [hr, if_pos rfl] at h
      obtain rfl := Option.some.inj h
      exact ⟨rfl, rfl, .rolled hs hr⟩
    | false =>
      rw [hr, if_neg Bool.false_ne_true] at h
      obtain rfl := Option.some.inj h
      exact ⟨rfl, rfl, .rolling hs hr⟩
  unfold advanced at h
  cases hp : up.phase <;> simp only [hp, rollingPhaseService] at h hroll
  case pending =>
    obtain rfl := Option.some.inj h
    exact ⟨rfl, rfl, .preflight⟩
  case preflight =>
    cases hr : st.holds .persistenceReachable with
    | true =>
      rw [hr, if_pos rfl] at h
      obtain rfl := Option.some.inj h
      exact ⟨rfl, rfl, .migrate hr⟩
    | false =>
      rw [hr, if_neg Bool.false_ne_true] at h
      obtain rfl := Option.some.inj h
      rw [hp]
      exact ⟨rfl, rfl, .unreachable hr⟩
  case schemaMigrating =>
    obtain rfl := Option.some.inj h
    cases hr : st.holds .schemaReady with
    | true => exact ⟨rfl, rfl, .roll hr⟩
    | false => exact ⟨rfl, rfl, .migrating hr⟩
  case postUpgrade =>
    obtain rfl := Option.some.inj h
    exact ⟨rfl, rfl, .complete⟩
  case complete => cases h
  case other text =>
    obtain rfl := Option.some.inj h
    rw [hp]
    exact ⟨rfl, rfl, .unknown text⟩
  all_goals exact hroll rfl h

/-- A record stays rollbackable only on its way into `PreflightChecks` or while it waits there. -/
theorem advanced_rollbackable {env : PassEnv} {spec : ClusterSpec} {st : ClusterStatus} {up up' : UpgradeStatus}
    (h : advanced env spec st up = some up') (hr : up'.rollbackable = true) :
    up.rollbackable = true ∧ up.phase ≠ .schemaMigrating ∧
      (up.phase = .preflight → st.holds .persistenceReachable = false) := by
  unfold advanced at h
  cases hp : up.phase <;> simp only [hp, rollingPhaseService] at h
  case preflight =>
    split at h
    · obtain rfl := Option.some.inj h
      cases hr
    · rename_i hreach
      obtain rfl := Option.some.inj h
      exact ⟨hr, by simp, fun _ => by simpa using hreach⟩
  case schemaMigrating =>
    obtain rfl := Option.some.inj h
    cases hr
  case complete => cases h
  case pending | postUpgrade | other =>
    obtain rfl := Option.some.inj h
    exact ⟨hr, by simp, by simp⟩
  all_goals
    split at h <;> obtain rfl := Option.some.inj h <;> exact ⟨hr, by simp, by simp⟩

namespace PhaseStep

variable {env : PassEnv} {spec : ClusterSpec} {st : ClusterStatus} {target : String} {p p' : UpgradePhase}

theorem of_pending (h : PhaseStep env spec st target .pending p') : p' = .preflight := by
  cases h with
  | preflight => rfl
  | rolling hs => cases hs
  | rolled hs => cases hs

theorem of_preflight (h : PhaseStep env spec st target .preflight p')
    (hr : st.holds .persistenceReachable = false) : p' = .preflight := by
  cases h with
  | unreachable => rfl
  | migrate h =>
    rw [hr] at h
    cases h
  | rolling hs => cases hs
  | rolled hs => cases hs

theorem rank_le (h : PhaseStep env spec st target p p') : p.rank ≤ p'.rank := by
  cases h with
  | rolled hs _ => exact (rank_lt_nextRollingPhase spec hs).le
  | _ => first | exact Nat.le_refl _ | decide

theorem schemaReady (h : PhaseStep env spec st target p p') (hr : 3 ≤ p'.rank) :
    3 ≤ p.rank ∨ p = .schemaMigrating ∧ st.holds .schemaReady = true := by
  cases h with
  | roll h => exact .inr ⟨rfl, h⟩
  | rolling hs _ => exact .inl hr
  | rolled hs _ => cases p <;> simp_all [rollingPhaseService, UpgradePhase.rank]
  | complete => exact .inl (by decide)
  | _ => simp [UpgradePhase.rank] at hr

theorem reachable (h : PhaseStep env spec st target p p') (hr : 2 ≤ p'.rank) :
    2 ≤ p.rank ∨ st.holds .persistenceReachable = true := by
  cases h with
  | migrate h => exact .inr h
  | migrating | roll | complete => exact .inl (by decide)
  | rolling hs _ => exact .inl hr
  | rolled hs _ => cases p <;> simp_all [rollingPhaseService, UpgradePhase.rank]
  | _ => simp [UpgradePhase.rank] at hr

theorem seen (h : PhaseStep env spec st target p p') {s : Service} (hs : s ≠ .internalFrontend)
    (hr : upgradeIndex s + 4 ≤ p'.rank) :
    upgradeIndex s + 4 ≤ p.rank ∨
      rollingPhaseService p = some s ∧ serviceRolledOut env spec s target = true := by
  cases h with
  | rolling => exact .inl hr
  | complete => exact .inl (by cases s <;> decide)
  | @rolled p s' hs' h =>
    by_cases he : s = s'
    · exact .inr ⟨he ▸ hs', he ▸ h⟩
    · left
      cases p <;> simp only [rollingPhaseService, reduceCtorEq, Option.some.injEq] at hs' <;> subst hs' <;>
        simp only [nextRollingPhase, afterMatchingPhase] at hr ⊢
      case rollingMatching => split at hr <;> revert hr hs he <;> cases s <;> decide
      all_goals revert hr hs he; cases s <;> decide
  | _ => revert hr; cases s <;> simp [UpgradePhase.rank, upgradeIndex, serviceUpgradeOrder]

/-- The worker's phase is reached when the internal frontend has rolled out, or when it is skipped. -/
theorem internalFrontend (h : PhaseStep env spec st target p p') (hr : 7 ≤ p'.rank) :
    7 ≤ p.rank ∨ p = .rollingInternalFrontend ∧ serviceRolledOut env spec .internalFrontend target = true ∨
      p = .rollingMatching ∧ p' = .rollingWorker ∧ internalFrontendEnabled spec = false := by
  cases h with
  | rolling => exact .inl hr
  | complete => exact .inl (by decide)
  | @rolled p s' hs' h =>
    cases p <;> simp only [rollingPhaseService, reduceCtorEq, Option.some.injEq] at hs' <;> subst hs' <;>
      simp only [nextRollingPhase, afterMatchingPhase] at hr ⊢
    case rollingMatching =>
      cases he : internalFrontendEnabled spec
      · simp
      · simp [he, UpgradePhase.rank] at hr
    case rollingInternalFrontend => exact .inr (.inl ⟨trivial, h⟩)
    all_goals simp [UpgradePhase.rank] at hr ⊢
  | _ => simp [UpgradePhase.rank] at hr

theorem gained (h : PhaseStep env spec st target p p') {s : Service} (hr : upgradeIndex s + 3 ≤ p'.rank) :
    upgradeIndex s + 3 ≤ p.rank ∨ p = .schemaMigrating ∧ s = .frontend ∨
      ∃ s', rollingPhaseService p = some s' ∧ serviceRolledOut env spec s' target = true ∧
        upgradeIndex s + 3 ≤ (nextRollingPhase spec p).rank := by
  cases h with
  | roll h => exact .inr (.inl ⟨rfl, by revert hr; cases s <;> decide⟩)
  | rolling => exact .inl hr
  | @rolled p s' hs' h => exact .inr (.inr ⟨s', hs', h, hr⟩)
  | complete => exact .inl (by cases s <;> decide)
  | _ => revert hr; cases s <;> simp [UpgradePhase.rank, upgradeIndex, serviceUpgradeOrder]

end PhaseStep

end TemporalOperator
