import TemporalOperator.DynamicConfig

/-!
# The TemporalCluster validating webhook

`internal/webhook/v1alpha1/temporalcluster_webhook.go`: `ValidateCreate` and `ValidateUpdate` as the list of
field errors they aggregate; an object is admitted when the list is empty.

* `default_default` : defaulting again changes nothing;
* `validateSpec` : the checks of a single object;
* `validateUpdate` : these and the four checks of old against new;
* `SpecPasses`, `UpdatePasses` : the checks one by one, of an object that is admitted;
* `validateUpdate_version`, `validateCreate_version` : what admission says about `spec.version`.
-/

namespace TemporalOperator
open Lib

inductive FieldErrorType
  | required
  | invalid
  | duplicate
  deriving DecidableEq, Repr

/-- One entry of a `field.ErrorList`: kind, field path, bad value as text, detail. -/
structure FieldError where
  type : FieldErrorType
  path : String
  badValue : String := ""
  detail : String := ""
  deriving DecidableEq, Repr

namespace ClusterWebhook

def required (path detail : String) : FieldError := ⟨.required, path, "", detail⟩

def invalid (path badValue detail : String) : FieldError := ⟨.invalid, path, badValue, detail⟩

def check (ok : Bool) (e : FieldError) : List FieldError := if ok then [] else [e]

def initialShardsAnnotation : String := "temporal.bmor10.com/initial-shards"

/-! ## Defaulting -/

def defaultReplicas (svc : Option ServiceSpec) (replicas : Int) : Option ServiceSpec :=
  let svc := svc.getD {}
  some { svc with replicas := some (svc.replicas.getD replicas) }

def defaultServices (svcs : ServicesSpec) : ServicesSpec :=
  { svcs with
    frontend := defaultReplicas svcs.frontend 2
    history := defaultReplicas svcs.history 3
    matching := defaultReplicas svcs.matching 2
    worker := defaultReplicas svcs.worker 1 }

def defaultMetrics : Option MetricsSpec → MetricsSpec
  | none => { enabled := true, port := 9090 }
  | some m => if m.port = 0 then { m with port := 9090 } else m

def defaultUI (version : String) (ui : UISpec) : UISpec :=
  if ui.version = "" then { ui with version := defaultUIVersion supportedVersions version } else ui

def hours (n : Int) : Int := n * 3600000000000

def defaultMTLS (mtls : MTLSSpec) : MTLSSpec :=
  { mtls with
    refreshInterval := some (mtls.refreshInterval.getD (hours 720))
    renewBefore := some (mtls.renewBefore.getD (hours 240)) }

def stampShards (c : Cluster) : List (String × String) :=
  if (c.annotations.lookup initialShardsAnnotation).isSome then c.annotations
  else
    ( initialShardsAnnotation, toString (if c.spec.numHistoryShards = 0 then 512 else c.spec.numHistoryShards)) ::
      c.annotations

def default (c : Cluster) : Cluster :=
  { c with
    annotations := stampShards c
    spec := { c.spec with
      image := if isDefaultServerImage c.spec.image then "" else c.spec.image
      services := defaultServices c.spec.services
      metrics := some (defaultMetrics c.spec.metrics)
      ui := c.spec.ui.map (defaultUI c.spec.version)
      mtls := c.spec.mtls.map defaultMTLS } }

@[simp] theorem default_version (c : Cluster) : (default c).spec.version = c.spec.version := rfl

@[simp] theorem default_status (c : Cluster) : (default c).status = c.status := rfl

/-! ## Defaulting twice -/

theorem defaultReplicas_defaultReplicas (svc : Option ServiceSpec) (n : Int) :
    defaultReplicas (defaultReplicas svc n) n = defaultReplicas svc n := by
  simp [defaultReplicas]

theorem defaultServices_defaultServices (svcs : ServicesSpec) :
    defaultServices (defaultServices svcs) = defaultServices svcs := by
  simp only [defaultServices, defaultReplicas_defaultReplicas]

theorem defaultMetrics_defaultMetrics (m : Option MetricsSpec) :
    defaultMetrics (some (defaultMetrics m)) = defaultMetrics m := by
  cases m with
  | none => rfl
  | some m =>
    by_cases hp : m.port = 0
    · simp [defaultMetrics, hp]
    · simp [defaultMetrics, hp]

/-- The second time the matrix is asked again, and has the same answer. -/
theorem defaultUI_defaultUI (version : String) (ui : UISpec) :
    defaultUI version (defaultUI version ui) = defaultUI version ui := by
  unfold defaultUI
  by_cases hv : ui.version = ""
  · simp [hv]
  · simp [hv]

theorem defaultMTLS_defaultMTLS (mtls : MTLSSpec) : defaultMTLS (defaultMTLS mtls) = defaultMTLS mtls := by
  simp [defaultMTLS]

theorem stampShards_isSome (c : Cluster) : ((stampShards c).lookup initialShardsAnnotation).isSome := by
  unfold stampShards
  split
  · assumption
  · simp

theorem default_default (c : Cluster) : default (default c) = default c := by
  have himage (i : String) : (if isDefaultServerImage (if isDefaultServerImage i then "" else i) then ""
      else if isDefaultServerImage i then "" else i) = if isDefaultServerImage i then "" else i := by
    by_cases hi : isDefaultServerImage i
    · rw [if_pos hi]
      exact ite_self ""
    · rw [if_neg hi, if_neg hi]
  have hstamp : stampShards (default c) = stampShards c := if_pos (stampShards_isSome c)
  have hui : ((c.spec.ui.map (defaultUI c.spec.version)).map (defaultUI c.spec.version)) =
      c.spec.ui.map (defaultUI c.spec.version) := by
    rw [Option.map_map]
    exact congrArg (fun f => c.spec.ui.map f) (funext (defaultUI_defaultUI c.spec.version))
  have hmtls : (c.spec.mtls.map defaultMTLS).map defaultMTLS = c.spec.mtls.map defaultMTLS := by
    rw [Option.map_map]
    exact congrArg (fun f => c.spec.mtls.map f) (funext defaultMTLS_defaultMTLS)
  have hspec : (default (default c)).spec = (default c).spec := by
    simp only [default, defaultServices_defaultServices, defaultMetrics_defaultMetrics, hui, hmtls]
    congr 1
    exact himage c.spec.image
  show { default c with annotations := stampShards (default c), spec := (default (default c)).spec } = default c
  rw [hstamp, hspec]
  rfl

/-! ## One object -/

def validateUIAuthProvider (a : UIAuthSpec) : List FieldError :=
  let entraSet : Bool := match a.entra with
    | some tenantID => tenantID ≠ ""
    | none => false
  if !entraSet && a.providerURL = "" then
    [required "spec.ui.auth.providerURL" "set exactly one of ui.auth.entra.tenantID or ui.auth.providerURL"]
  else if entraSet && a.providerURL ≠ "" then
    [invalid "spec.ui.auth.providerURL" a.providerURL
      "set exactly one of ui.auth.entra.tenantID or ui.auth.providerURL, not both"]
  else []

def validateUIAuth (spec : ClusterSpec) : List FieldError :=
  match spec.ui.bind UISpec.auth with
  | none => []
  | some a =>
    if !a.enabled then []
    else
      check (a.clientID ≠ "")
        (required "spec.ui.auth.clientID" "clientID is required when ui.auth.enabled") ++
      check (a.clientSecretRef.getD "" ≠ "")
        (required "spec.ui.auth.clientSecretRef" "clientSecretRef is required when ui.auth.enabled") ++
      check (a.callbackURL ≠ "")
        (required "spec.ui.auth.callbackURL" "callbackURL is required when ui.auth.enabled") ++
      validateUIAuthProvider a ++
      check (a.extraEnv ≠ some .invalid)
        (invalid "spec.ui.auth.extraEnv" "" "extraEnv must be a map of string to string")

def validateVersion (spec : ClusterSpec) : List FieldError :=
  check (isSupported supportedVersions spec.version)
    (invalid "spec.version" spec.version
      ("VersionUnsupported: version is not in the supported matrix [" ++
        " ".intercalate (listSupportedVersions supportedVersions) ++ "]"))

def validatePersistence (spec : ClusterSpec) : List FieldError :=
  let store := spec.persistence.defaultStore
  let vis := spec.persistence.visibilityStore
  let visBackends := vis.sql.isSome.toNat + vis.cassandra.isSome.toNat + vis.elasticsearch.isSome.toNat
  let cassandraOk : Bool :=
    !(vis.cassandra.isSome && isSupported supportedVersions spec.version &&
      match lookupVersion supportedVersions spec.version with
      | .ok info => !info.cassandraVisibilitySupported
      | .error _ => false)
  check (store.sql.isSome ≠ store.cassandra.isSome)
    (invalid "spec.persistence.defaultStore" "" "exactly one of sql or cassandra must be set") ++
  check (visBackends = 1)
    (invalid "spec.persistence.visibilityStore" "" "exactly one of sql, cassandra, or elasticsearch must be set") ++
  check cassandraOk
    (invalid "spec.persistence.visibilityStore.cassandra" ""
      ("Cassandra visibility is not supported on Temporal " ++ spec.version))

def validateMTLS (spec : ClusterSpec) : List FieldError :=
  match spec.mtls with
  | none => []
  | some mtls =>
    check (mtls.provider ≠ "cert-manager" || mtls.issuerRef.isSome)
      (required "spec.mtls.issuerRef" "issuerRef is required when mtls.provider is cert-manager")

def validateDynamicConfig (spec : ClusterSpec) : List FieldError :=
  match spec.dynamicConfig with
  | none => []
  | some dc =>
    match renderDynamicConfig supportedVersions dc spec.version with
    | .ok _ => []
    | .error e => [invalid "spec.dynamicConfig" "" e]

def validateClusterMetadata (spec : ClusterSpec) : List FieldError :=
  match spec.clusterMetadata with
  | none => []
  | some cm =>
    if !cm.enableGlobalNamespace then []
    else
      check (cm.currentClusterName ≠ "")
        (required "spec.clusterMetadata.currentClusterName"
          "currentClusterName is required when enableGlobalNamespace is true") ++
      check (1 ≤ cm.failoverVersionIncrement.getD 0)
        (required "spec.clusterMetadata.failoverVersionIncrement"
          "failoverVersionIncrement is required and must be >= 1 when enableGlobalNamespace is true") ++
      check (1 ≤ cm.initialFailoverVersion.getD 0)
        (required "spec.clusterMetadata.initialFailoverVersion"
          "initialFailoverVersion is required and must be >= 1 when enableGlobalNamespace is true")

def validateSpec (spec : ClusterSpec) : List FieldError :=
  validateVersion spec ++ validatePersistence spec ++ validateMTLS spec ++ validateDynamicConfig spec ++
    validateClusterMetadata spec ++ validateUIAuth spec

/-! ## Old against new -/

/-- The shard count chosen at creation: the annotation if it parses (cut to 32 bits), else the spec's. -/
def initialShards (c : Cluster) : Int :=
  match (c.annotations.lookup initialShardsAnnotation).map GoText.atoi with
  | some (.ok n) => n.bmod (2 ^ 32)
  | _ => c.spec.numHistoryShards

def validateShardCountImmutable (old new : Cluster) : List FieldError :=
  check (new.spec.numHistoryShards = initialShards old)
    (invalid "spec.numHistoryShards" (toString new.spec.numHistoryShards)
      ("ShardCountImmutable: numHistoryShards is immutable (was " ++ toString (initialShards old) ++ ")"))

def validateUpgradePath (old new : Cluster) : List FieldError :=
  if new.spec.version ≠ old.spec.version then
    check (canUpgrade supportedVersions old.spec.version new.spec.version = .ok true)
      (invalid "spec.version" new.spec.version
        ("UpgradePathInvalid: cannot upgrade from " ++ old.spec.version ++ " to " ++ new.spec.version))
  else []

def validateStoreDriverImmutable (old new : Cluster) : List FieldError :=
  check (old.spec.persistence.defaultStore.sql.isSome = new.spec.persistence.defaultStore.sql.isSome)
    (invalid "spec.persistence.defaultStore" "" "the default store driver cannot be changed")

/-- A number of `clusterMetadata` that is set keeps its value. -/
def keepsNumber (old new : Option Int) (field : String) : List FieldError :=
  check (old.isNone || new = old)
    (invalid ("spec.clusterMetadata." ++ field) ((new.map toString).getD "")
      ("ClusterMetadataImmutable: " ++ field ++ " is immutable"))

def validateClusterMetadataImmutable (old new : Cluster) : List FieldError :=
  match old.spec.clusterMetadata, new.spec.clusterMetadata with
  | none, _ => []
  | some _, none =>
    [invalid "spec.clusterMetadata" "" "ClusterMetadataImmutable: clusterMetadata cannot be removed once set"]
  | some o, some n =>
    keepsNumber o.failoverVersionIncrement n.failoverVersionIncrement "failoverVersionIncrement" ++
    keepsNumber o.initialFailoverVersion n.initialFailoverVersion "initialFailoverVersion" ++
    check (o.currentClusterName = "" || n.currentClusterName = o.currentClusterName)
      (invalid "spec.clusterMetadata.currentClusterName" n.currentClusterName
        "ClusterMetadataImmutable: currentClusterName is immutable")

def validateCreate (c : Cluster) : List FieldError := validateSpec c.spec

def validateUpdate (old new : Cluster) : List FieldError :=
  validateSpec new.spec ++ validateShardCountImmutable old new ++ validateUpgradePath old new ++
    validateStoreDriverImmutable old new ++ validateClusterMetadataImmutable old new

/-! ## What is admitted -/

theorem check_eq_nil {ok : Bool} {e : FieldError} : check ok e = [] ↔ ok = true := by
  cases ok <;> simp [check]

/-- Every check of a single object passes. -/
structure SpecPasses (spec : ClusterSpec) : Prop where
  version : validateVersion spec = []
  persistence : validatePersistence spec = []
  mtls : validateMTLS spec = []
  dynamicConfig : validateDynamicConfig spec = []
  clusterMetadata : validateClusterMetadata spec = []
  uiAuth : validateUIAuth spec = []

theorem SpecPasses.of_valid {spec : ClusterSpec} (h : validateSpec spec = []) : SpecPasses spec := by
  simp only [validateSpec, List.append_eq_nil_iff] at h
  obtain ⟨⟨⟨⟨⟨version, persistence⟩, mtls⟩, dynamicConfig⟩, clusterMetadata⟩, uiAuth⟩ := h
  exact ⟨version, persistence, mtls, dynamicConfig, clusterMetadata, uiAuth⟩

/-- The default store has one of two backends, the visibility store one of three. -/
theorem SpecPasses.stores {spec : ClusterSpec} (h : SpecPasses spec) :
    spec.persistence.defaultStore.sql.isSome ≠ spec.persistence.defaultStore.cassandra.isSome ∧
      spec.persistence.visibilityStore.sql.isSome.toNat + spec.persistence.visibilityStore.cassandra.isSome.toNat +
        spec.persistence.visibilityStore.elasticsearch.isSome.toNat = 1 := by
  have hstores := h.persistence
  simp only [validatePersistence, List.append_eq_nil_iff, check_eq_nil, decide_eq_true_eq] at hstores
  exact hstores.1

structure UpdatePasses (old new : Cluster) : Prop where
  spec : validateSpec new.spec = []
  shardCount : validateShardCountImmutable old new = []
  upgradePath : validateUpgradePath old new = []
  storeDriver : validateStoreDriverImmutable old new = []
  clusterMetadata : validateClusterMetadataImmutable old new = []

theorem UpdatePasses.of_valid {old new : Cluster} (h : validateUpdate old new = []) : UpdatePasses old new := by
  simp only [validateUpdate, List.append_eq_nil_iff] at h
  obtain ⟨⟨⟨⟨spec, shardCount⟩, upgradePath⟩, storeDriver⟩, clusterMetadata⟩ := h
  exact ⟨spec, shardCount, upgradePath, storeDriver, clusterMetadata⟩

theorem validateSpec_version {spec : ClusterSpec} (h : validateSpec spec = []) :
    isSupported supportedVersions spec.version = true :=
  check_eq_nil.mp (SpecPasses.of_valid h).version

theorem validateCreate_version {c : Cluster} (h : validateCreate c = []) :
    isSupported supportedVersions c.spec.version = true :=
  validateSpec_version h

/-- An admitted update keeps `spec.version` or moves it along an edge of the matrix. -/
theorem validateUpdate_version {old new : Cluster} (h : validateUpdate old new = []) :
    isSupported supportedVersions new.spec.version = true ∧
      (new.spec.version = old.spec.version ∨
        canUpgrade supportedVersions old.spec.version new.spec.version = .ok true) := by
  have hpasses := UpdatePasses.of_valid h
  refine ⟨validateSpec_version hpasses.spec, ?_⟩
  have hp := hpasses.upgradePath
  unfold validateUpgradePath at hp
  by_cases hv : new.spec.version = old.spec.version
  · exact .inl hv
  · rw [if_pos hv, check_eq_nil, decide_eq_true_eq] at hp
    exact .inr hp

end ClusterWebhook

end TemporalOperator
