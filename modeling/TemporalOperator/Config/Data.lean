import TemporalOperator.Api.Cluster
import TemporalOperator.Lib.GoDuration
import TemporalOperator.Lib.GoQuote
import TemporalOperator.Lib.Yaml.Block

/-!
# The data of the server config

`internal/temporal/configtemplate.go`: what `BuildConfigData` resolves a cluster and the runtime options into. The
options hold secret values, which are bytes; what comes from the object is UTF-8.

* `buildDatastore`, `buildMetrics`, `buildMTLS`, `buildAuth`, `applyClusterMetadata` : the parts;
* `buildConfigData` : the whole, or the error of a store without a backend or of a passthrough that does not decode;
* `YamlLib` : `sigs.k8s.io/yaml`, which decodes and encodes the passthrough.
-/

namespace TemporalOperator.Config
open Lib Lib.Yaml

/-! ## The data -/

structure ServicePort where
  grpcPort : Int
  membershipPort : Int
  httpPort : Int := 0
  deriving DecidableEq, Repr

structure ServicePorts where
  frontend : ServicePort
  internalFrontend : ServicePort
  matching : ServicePort
  history : ServicePort
  worker : ServicePort
  deriving DecidableEq, Repr

structure DatastoreTLS where
  enabled : Bool
  caFile : String
  certFile : String
  keyFile : String
  enableHostVerification : Bool
  serverName : String
  deriving DecidableEq, Repr

inductive DatastoreKind
  | sql
  | cassandra
  | elasticsearch
  deriving DecidableEq, Repr

structure DatastoreConfig where
  kind : DatastoreKind
  pluginName : String := ""
  databaseName : String := ""
  connectAddr : String := ""
  user : String := ""
  password : GoString := []
  passwordCommand : GoString := []
  maxConns : Int := 0
  maxIdleConns : Int := 0
  maxConnLifetime : String := ""
  hosts : String := ""
  keyspace : String := ""
  port : Int := 0
  datacenter : String := ""
  esVersion : String := ""
  urlScheme : String := ""
  urlHost : String := ""
  visibilityIndex : String := ""
  tls : Option DatastoreTLS := none
  deriving DecidableEq, Repr

structure MTLSConfig where
  enabled : Bool := false
  refreshInterval : String := ""
  requireClientAuth : Bool := false
  internodeServerCert : String := ""
  internodeServerKey : String := ""
  internodeClientCA : String := ""
  internodeServerName : String := ""
  frontendServerCert : String := ""
  frontendServerKey : String := ""
  frontendServerName : String := ""
  systemWorkerCert : String := ""
  systemWorkerKey : String := ""
  systemWorkerCA : String := ""
  systemWorkerName : String := ""
  deriving DecidableEq, Repr

structure MetricsConfig where
  enabled : Bool := false
  listenAddress : String := ""
  deriving DecidableEq, Repr

structure AuthConfig where
  authorizer : String := ""
  emitAuthorizer : Bool := false
  claimMapper : String := ""
  permissionsClaimName : String := ""
  keySourceURIs : List String := []
  refreshInterval : String := ""
  /-- The decoded passthrough; `none` is a nil map. -/
  extraConfig : Option (List (String × Node)) := none

structure ArchivalConfig where
  historyState : String
  visibilityState : String
  deriving DecidableEq, Repr

structure ConfigData where
  logLevel : String
  numHistoryShards : Int
  defaultStoreName : String
  visibilityStoreName : String
  defaultStore : DatastoreConfig
  visibilityStore : DatastoreConfig
  bindOnIP : GoString
  broadcastAddress : GoString
  mtls : MTLSConfig
  metrics : MetricsConfig
  authorization : Option AuthConfig
  services : ServicePorts
  useInternalFrontend : Bool
  enableGlobalNamespace : Bool := false
  currentClusterName : String
  masterClusterName : String
  failoverVersionIncrement : Int
  initialFailoverVersion : Int
  dynamicConfigPath : GoString
  archival : Option ArchivalConfig
  publicClient : GoString := []

/-- Values that are not in the object: secrets and pod-network details. -/
structure BuildOptions where
  bindOnIP : GoString := []
  broadcastAddress : GoString := []
  dynamicConfigPath : GoString := []
  defaultStorePassword : GoString := []
  visibilityStorePassword : GoString := []
  defaultStorePasswordCommand : GoString := []
  visibilityStorePasswordCommand : GoString := []
  publicClientHostPort : GoString := []
  deriving DecidableEq, Repr

/-- `sigs.k8s.io/yaml` on maps: decoding, where null gives a nil map, and encoding of what was decoded. -/
structure YamlLib where
  unmarshal : String → Except String (Option (List (String × Node)))
  marshal : List (String × Node) → String

/-! ## Constants -/

def defaultServices : ServicePorts where
  frontend := { grpcPort := 7233, membershipPort := 6933, httpPort := 7243 }
  internalFrontend := { grpcPort := 7236, membershipPort := 6936, httpPort := 7246 }
  matching := { grpcPort := 7235, membershipPort := 6935 }
  history := { grpcPort := 7234, membershipPort := 6934 }
  worker := { grpcPort := 7239, membershipPort := 6939 }

def defaultDynamicConfigPath : String := "/etc/temporal/dynamicconfig/dynamic_config.yaml"

def internodeCertDir : String := "/etc/temporal/certs/internode"

def frontendCertDir : String := "/etc/temporal/certs/frontend"

def persistenceTLSdir : String := "/etc/temporal/certs/persistence"

/-! ## Datastores -/

/-- The value, or the default when the string is empty. -/
def orString (s : GoString) (d : String) : GoString := if s = [] then GoString.ofString d else s

def broadcastAddressOrDefault (addr : GoString) : GoString := orString addr "$\x7bPOD_IP\x7d"

def sqlConnLifetime (spec : SQLDatastoreSpec) : String :=
  match spec.maxConnLifetime with
  | some d => GoDuration.string d
  | none => "1h"

def orDefault (v d : Int) : Int := if v = 0 then d else v

def datastoreTLS (spec : Option DatastoreTLSSpec) (dir : String) : Option DatastoreTLS :=
  match spec with
  | none => none
  | some tls =>
    if !tls.enabled then none
    else some
      { enabled := true
        caFile := dir ++ "/ca.crt"
        certFile := dir ++ "/tls.crt"
        keyFile := dir ++ "/tls.key"
        enableHostVerification := tls.enableHostVerification
        serverName := tls.serverName }

def buildDatastore (store : DatastoreSpec) (storeName : String) (password passwordCommand : GoString) :
    Except String DatastoreConfig :=
  match store.sql, store.cassandra, store.elasticsearch with
  | some s, _, _ => .ok
    { kind := .sql
      pluginName := s.pluginName
      databaseName := s.database
      connectAddr := s.host ++ ":" ++ toString s.port
      user := s.user
      password := password
      passwordCommand := passwordCommand
      maxConns := orDefault s.maxConns 20
      maxIdleConns := orDefault s.maxIdleConns 20
      maxConnLifetime := sqlConnLifetime s
      tls := datastoreTLS s.tls (persistenceTLSdir ++ "/" ++ storeName) }
  | none, some c, _ => .ok
    { kind := .cassandra
      hosts := ",".intercalate c.hosts
      keyspace := c.keyspace
      user := c.user
      password := password
      port := c.port
      datacenter := c.datacenter
      maxConns := 20
      tls := datastoreTLS c.tls (persistenceTLSdir ++ "/" ++ storeName) }
  | none, none, some e => .ok
    { kind := .elasticsearch
      esVersion := e.version
      urlScheme := if e.tls.any (·.enabled) then "https" else "http"
      urlHost := e.url
      user := e.username
      password := password
      visibilityIndex := (e.indices.lookup "visibility").getD "temporal_visibility_v1" }
  | none, none, none => .error ("datastore " ++ GoText.quote storeName ++ " has no backend configured")

/-! ## Metrics and mTLS -/

def buildMetrics (c : Cluster) : MetricsConfig :=
  match c.spec.metrics with
  | none => { enabled := true, listenAddress := "0.0.0.0:9090" }
  | some m =>
    if !m.enabled then {}
    else { enabled := true, listenAddress := "0.0.0.0:" ++ toString (orDefault m.port 9090) }

def buildMTLS (c : Cluster) : MTLSConfig :=
  match c.spec.mtls with
  | none => {}
  | some mtls =>
    let frontendServerName := c.name ++ "-frontend." ++ c.namespace_ ++ ".svc.cluster.local"
    { enabled := true
      refreshInterval := match mtls.refreshInterval with
        | some d => GoDuration.string d
        | none => "720h"
      requireClientAuth := true
      internodeServerCert := internodeCertDir ++ "/tls.crt"
      internodeServerKey := internodeCertDir ++ "/tls.key"
      internodeClientCA := internodeCertDir ++ "/ca.crt"
      internodeServerName := c.name ++ "-internode"
      frontendServerCert := frontendCertDir ++ "/tls.crt"
      frontendServerKey := frontendCertDir ++ "/tls.key"
      frontendServerName := frontendServerName
      systemWorkerCert := internodeCertDir ++ "/tls.crt"
      systemWorkerKey := internodeCertDir ++ "/tls.key"
      systemWorkerCA := internodeCertDir ++ "/ca.crt"
      systemWorkerName := frontendServerName }

/-! ## Authorization -/

/-- The key set of an Entra tenant. -/
def entraKeySourceURI (tenantID : String) : String :=
  "https://login.microsoftonline.com/" ++ tenantID ++ "/discovery/v2.0/keys"

def buildAuthKeySourceURIs (auth : AuthorizationSpec) (cfg : AuthConfig) : AuthConfig :=
  let cfg := match auth.jwtKeyProvider with
    | none => cfg
    | some p =>
      { cfg with
        keySourceURIs := cfg.keySourceURIs ++ p.keySourceURIs
        refreshInterval := match p.refreshInterval with
          | some d => GoDuration.string d
          | none => cfg.refreshInterval }
  match auth.entra with
  | none => cfg
  | some tenantID =>
    { cfg with
      keySourceURIs := cfg.keySourceURIs ++ [entraKeySourceURI tenantID]
      permissionsClaimName := if cfg.permissionsClaimName = "" then "roles" else cfg.permissionsClaimName }

def applyJWTDefaults (auth : AuthorizationSpec) (cfg : AuthConfig) : AuthConfig :=
  { cfg with
    authorizer := if auth.authorizer.isNone then "default" else cfg.authorizer
    emitAuthorizer := auth.authorizer.isNone || cfg.emitAuthorizer
    claimMapper := if cfg.claimMapper = "" then "default" else cfg.claimMapper
    permissionsClaimName := if cfg.permissionsClaimName = "" then "permissions" else cfg.permissionsClaimName }

/-- Take over what was decoded. A field that it defines too is suppressed. -/
def AuthConfig.passThrough (cfg : AuthConfig) (extra : Option (List (String × Node))) : AuthConfig :=
  let defined (key : String) : Bool := ((extra.getD []).lookup key).isSome
  { authorizer := if defined "authorizer" then "" else cfg.authorizer
    emitAuthorizer := !defined "authorizer" && cfg.emitAuthorizer
    claimMapper := if defined "claimMapper" then "" else cfg.claimMapper
    permissionsClaimName := if defined "permissionsClaimName" then "" else cfg.permissionsClaimName
    keySourceURIs := if defined "jwtKeyProvider" then [] else cfg.keySourceURIs
    refreshInterval := if defined "jwtKeyProvider" then "" else cfg.refreshInterval
    extraConfig := extra }

def applyAuthConfigPassthrough (lib : YamlLib) (auth : AuthorizationSpec) (cfg : AuthConfig) : Except String AuthConfig :=
  let raw := auth.config.getD ""
  if raw = "" then .ok cfg
  else
    match lib.unmarshal raw with
    | .error err => .error ("authorization.config: " ++ err)
    | .ok extra => .ok (cfg.passThrough extra)

/-- What the object sets itself. An authorizer that is set is honored, also when it is empty. -/
def explicitAuth (auth : AuthorizationSpec) : AuthConfig where
  claimMapper := auth.claimMapper
  permissionsClaimName := auth.permissionsClaimName
  authorizer := auth.authorizer.getD ""
  emitAuthorizer := auth.authorizer.isSome

def buildAuth (lib : YamlLib) (c : Cluster) : Except String (Option AuthConfig) :=
  match c.spec.authorization with
  | none => .ok none
  | some auth =>
    let cfg := buildAuthKeySourceURIs auth (explicitAuth auth)
    let jwtConfigured : Bool := cfg.keySourceURIs ≠ []
    let cfg := if jwtConfigured then applyJWTDefaults auth cfg else cfg
    match applyAuthConfigPassthrough lib auth cfg with
    | .error err => .error err
    | .ok cfg =>
      if !cfg.emitAuthorizer && cfg.claimMapper = "" && !jwtConfigured && cfg.extraConfig.isNone then .ok none
      else .ok (some cfg)

/-! ## The whole -/

def applyClusterMetadata (data : ConfigData) (cm : Option ClusterMetadataSpec) : ConfigData :=
  match cm with
  | none => data
  | some cm =>
    { data with
      enableGlobalNamespace := cm.enableGlobalNamespace
      failoverVersionIncrement := cm.failoverVersionIncrement.getD data.failoverVersionIncrement
      currentClusterName := if cm.currentClusterName ≠ "" then cm.currentClusterName else data.currentClusterName
      masterClusterName := if cm.masterClusterName ≠ "" then cm.masterClusterName else data.masterClusterName
      initialFailoverVersion := cm.initialFailoverVersion.getD data.initialFailoverVersion }

def useInternalFrontend (c : Cluster) : Bool := c.spec.services.internalFrontend.any (·.enabled)

def buildConfigData (lib : YamlLib) (c : Cluster) (opts : BuildOptions) : Except String ConfigData := do
  let defaultStore ← (buildDatastore c.spec.persistence.defaultStore "default" opts.defaultStorePassword
    opts.defaultStorePasswordCommand).mapError ("default store: " ++ ·)
  let visStore ← (buildDatastore c.spec.persistence.visibilityStore "visibility" opts.visibilityStorePassword
    opts.visibilityStorePasswordCommand).mapError ("visibility store: " ++ ·)
  let auth ← (buildAuth lib c).mapError ("authorization: " ++ ·)
  let data : ConfigData :=
    { logLevel := "info"
      numHistoryShards := c.spec.numHistoryShards
      defaultStoreName := "default"
      visibilityStoreName := if visStore.kind = .elasticsearch then "es-visibility" else "visibility"
      defaultStore := defaultStore
      visibilityStore := visStore
      bindOnIP := orString opts.bindOnIP "0.0.0.0"
      broadcastAddress := broadcastAddressOrDefault opts.broadcastAddress
      services := defaultServices
      currentClusterName := "active"
      masterClusterName := "active"
      failoverVersionIncrement := 10
      initialFailoverVersion := 1
      dynamicConfigPath := orString opts.dynamicConfigPath defaultDynamicConfigPath
      useInternalFrontend := useInternalFrontend c
      metrics := buildMetrics c
      mtls := buildMTLS c
      authorization := auth
      archival := if c.spec.archival then some { historyState := "enabled", visibilityState := "enabled" } else none }
  let data := applyClusterMetadata data c.spec.clusterMetadata
  -- without an internal frontend the server needs a public client
  .ok { data with
    publicClient := if useInternalFrontend c then [] else orString opts.publicClientHostPort "127.0.0.1:7233" }

/-- The name of the cluster in its own metadata. -/
def clusterName (c : Cluster) : String :=
  match c.spec.clusterMetadata with
  | none => "active"
  | some cm => if cm.currentClusterName ≠ "" then cm.currentClusterName else "active"

/-- The name of the master cluster in it. -/
def masterName (c : Cluster) : String :=
  match c.spec.clusterMetadata with
  | none => "active"
  | some cm => if cm.masterClusterName ≠ "" then cm.masterClusterName else "active"

/-- The parts of built data, field by field of the spec. -/
structure Resolved (lib : YamlLib) (c : Cluster) (opts : BuildOptions) (d : ConfigData) : Prop where
  defaultStoreName : d.defaultStoreName = "default"
  defaultStore : buildDatastore c.spec.persistence.defaultStore "default" opts.defaultStorePassword
    opts.defaultStorePasswordCommand = .ok d.defaultStore
  visibilityStoreName : d.visibilityStoreName =
    if d.visibilityStore.kind = .elasticsearch then "es-visibility" else "visibility"
  visibilityStore : buildDatastore c.spec.persistence.visibilityStore "visibility" opts.visibilityStorePassword
    opts.visibilityStorePasswordCommand = .ok d.visibilityStore
  services : d.services = defaultServices
  useInternalFrontend : d.useInternalFrontend = Config.useInternalFrontend c
  metrics : d.metrics = buildMetrics c
  mtls : d.mtls = buildMTLS c
  authorization : buildAuth lib c = .ok d.authorization
  currentClusterName : d.currentClusterName = clusterName c
  masterClusterName : d.masterClusterName = masterName c

theorem buildConfigData_eq_ok {lib : YamlLib} {c : Cluster} {opts : BuildOptions} {d : ConfigData}
    (h : buildConfigData lib c opts = .ok d) : Resolved lib c opts d := by
  unfold buildConfigData at h
  cases hds : buildDatastore c.spec.persistence.defaultStore "default" opts.defaultStorePassword
      opts.defaultStorePasswordCommand with
  | error e =>
    rw [hds] at h
    cases h
  | ok ds =>
    cases hvs : buildDatastore c.spec.persistence.visibilityStore "visibility" opts.visibilityStorePassword
        opts.visibilityStorePasswordCommand with
    | error e =>
      rw [hds, hvs] at h
      cases h
    | ok vs =>
      cases hauth : buildAuth lib c with
      | error e =>
        rw [hds, hvs, hauth] at h
        cases h
      | ok auth =>
        rw [hds, hvs, hauth] at h
        obtain rfl := Except.ok.inj h
        cases hcm : c.spec.clusterMetadata with
        | none =>
          exact ⟨rfl, hds, rfl, hvs, rfl, rfl, rfl, rfl, hauth, by rw [clusterName, hcm]; rfl,
            by rw [masterName, hcm]; rfl⟩
        | some cm =>
          exact ⟨rfl, hds, rfl, hvs, rfl, rfl, rfl, rfl, hauth, by rw [clusterName, hcm]; rfl,
            by rw [masterName, hcm]; rfl⟩

end TemporalOperator.Config
