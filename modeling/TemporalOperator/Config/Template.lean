import TemporalOperator.Config.Data
import TemporalOperator.Lib.Yaml.Include

/-!
# The config template

`internal/temporal/templates/config_template.yaml`, row by row, and `RenderConfig`. A row is what one line of the
template writes; a trimming `if` leaves no row when it does not hold. Two places are not rows: the datastores, which
are included as text, and the passthrough of `authorization.config`, whose action trims the line break before it, so
that its first line runs on from the row before.

* `renderLines` : the lines of the config, of which an included datastore is one with line breaks in it;
* `renderConfig`, `renderClusterConfig` : the text.
-/

namespace TemporalOperator.Config
open Lib Lib.Yaml

/-- `quote` of a string of the object, and a literal between quotes. -/
def str (s : String) : Value := .quoted (GoString.ofString s)

def num (n : Int) : Value := .plain (toString n)

def bool (b : Bool) : Value := .plain (toString b)

/-! ## Datastores -/

def datastoreTLSRows : Option DatastoreTLS → List Row
  | none => []
  | some tls =>
    [.block 4 "tls",
      .entry 8 "enabled" (bool tls.enabled),
      .entry 8 "caFile" (str tls.caFile),
      .entry 8 "certFile" (str tls.certFile),
      .entry 8 "keyFile" (str tls.keyFile),
      .entry 8 "enableHostVerification" (bool tls.enableHostVerification),
      .entry 8 "serverName" (str tls.serverName)]

def sqlPasswordRows (ds : DatastoreConfig) : List Row :=
  if ds.passwordCommand ≠ [] then
    [.block 4 "passwordCommand",
      .entry 8 "command" (str "sh"),
      .block 8 "args",
      .item 12 (str "-c"),
      .item 12 (.quoted ds.passwordCommand)]
  else [.entry 4 "password" (.quoted ds.password)]

def sqlRows (ds : DatastoreConfig) : List Row :=
  [.block 0 "sql",
    .entry 4 "pluginName" (str ds.pluginName),
    .entry 4 "databaseName" (str ds.databaseName),
    .entry 4 "connectAddr" (str ds.connectAddr),
    .entry 4 "connectProtocol" (str "tcp"),
    .entry 4 "user" (str ds.user)] ++
  sqlPasswordRows ds ++
  [.entry 4 "maxConns" (num ds.maxConns),
    .entry 4 "maxIdleConns" (num ds.maxIdleConns),
    .entry 4 "maxConnLifetime" (str ds.maxConnLifetime)] ++
  datastoreTLSRows ds.tls

def cassandraRows (ds : DatastoreConfig) : List Row :=
  [.block 0 "cassandra",
    .entry 4 "hosts" (str ds.hosts),
    .entry 4 "keyspace" (str ds.keyspace),
    .entry 4 "user" (str ds.user),
    .entry 4 "password" (.quoted ds.password),
    .entry 4 "port" (num ds.port)] ++
  (if ds.datacenter ≠ "" then [.entry 4 "datacenter" (str ds.datacenter)] else []) ++
  [.entry 4 "maxConns" (num ds.maxConns)] ++
  datastoreTLSRows ds.tls

def elasticsearchRows (ds : DatastoreConfig) : List Row :=
  [.block 0 "elasticsearch",
    .entry 4 "version" (str ds.esVersion),
    .block 4 "url",
    .entry 8 "scheme" (str ds.urlScheme),
    .entry 8 "host" (str ds.urlHost),
    .entry 4 "username" (str ds.user),
    .entry 4 "password" (.quoted ds.password),
    .block 4 "indices",
    .entry 8 "visibility" (str ds.visibilityIndex)]

/-- The template `datastore`. -/
def datastoreRows (ds : DatastoreConfig) : List Row :=
  match ds.kind with
  | .sql => sqlRows ds
  | .cassandra => cassandraRows ds
  | .elasticsearch => elasticsearchRows ds

/-- `include "datastore" ds | trim | indent 12`. -/
def includeDatastore (t : PrintTable) (ds : DatastoreConfig) : String :=
  indent 12 (GoText.trimSpace (included t (datastoreRows ds)))

/-! ## Log, persistence and global -/

def logRows (d : ConfigData) : List Row :=
  [.block 0 "log",
    .entry 4 "stdout" (bool true),
    .entry 4 "level" (.plain d.logLevel),
    .blank]

def persistenceRows (d : ConfigData) : List Row :=
  [.block 0 "persistence",
    .entry 4 "numHistoryShards" (num d.numHistoryShards),
    .entry 4 "defaultStore" (.plain d.defaultStoreName),
    .entry 4 "visibilityStore" (.plain d.visibilityStoreName),
    .block 4 "datastores",
    .block 8 d.defaultStoreName]

def membershipRows (d : ConfigData) : List Row :=
  [.blank,
    .block 0 "global",
    .block 4 "membership",
    .entry 8 "maxJoinDuration" (.plain "30s"),
    .entry 8 "broadcastAddress" (.quoted d.broadcastAddress),
    .block 4 "pprof",
    .entry 8 "port" (num 0)]

/-- The server and the client side of one mTLS endpoint. -/
def endpointRows (name : String) (m : MTLSConfig) (cert key serverName : String) : List Row :=
  [.block 8 name,
    .block 12 "server",
    .entry 16 "requireClientAuth" (bool m.requireClientAuth),
    .entry 16 "certFile" (.plain cert),
    .entry 16 "keyFile" (.plain key),
    .block 16 "clientCaFiles",
    .item 20 (.plain m.internodeClientCA),
    .block 12 "client",
    .entry 16 "serverName" (str serverName),
    .block 16 "rootCaFiles",
    .item 20 (.plain m.internodeClientCA)]

def mtlsRows (m : MTLSConfig) : List Row :=
  if m.enabled then
    [.block 4 "tls", .entry 8 "refreshInterval" (.plain m.refreshInterval)] ++
    endpointRows "internode" m m.internodeServerCert m.internodeServerKey m.internodeServerName ++
    endpointRows "frontend" m m.frontendServerCert m.frontendServerKey m.frontendServerName ++
    [.block 8 "systemWorker",
      .entry 12 "certFile" (.plain m.systemWorkerCert),
      .entry 12 "keyFile" (.plain m.systemWorkerKey),
      .block 12 "client",
      .entry 16 "serverName" (str m.systemWorkerName),
      .block 16 "rootCaFiles",
      .item 20 (.plain m.systemWorkerCA)]
  else []

def metricsRows (m : MetricsConfig) : List Row :=
  if m.enabled then
    [.block 4 "metrics",
      .block 8 "prometheus",
      .entry 12 "timerType" (.plain "histogram"),
      .entry 12 "listenAddress" (str m.listenAddress)]
  else []

/-! ## Authorization -/

def optionalRow (n : Nat) (key text : String) : List Row := if text ≠ "" then [.entry n key (str text)] else []

def jwtRows (a : AuthConfig) : List Row :=
  if a.keySourceURIs ≠ [] then
    [.block 8 "jwtKeyProvider", .block 12 "keySourceURIs"] ++
    a.keySourceURIs.map (fun u => .item 16 (.plain u)) ++
    optionalRow 12 "refreshInterval" a.refreshInterval
  else []

def authorizationRows (a : AuthConfig) : List Row :=
  .block 4 "authorization" ::
    ((if a.emitAuthorizer then [.entry 8 "authorizer" (str a.authorizer)] else []) ++
      optionalRow 8 "claimMapper" a.claimMapper ++
      optionalRow 8 "permissionsClaimName" a.permissionsClaimName ++
      jwtRows a)

/-- A text on the end of the last line. -/
def runOn (ls : List String) (text : String) : List String := ls.dropLast ++ (ls.getLast?.map (· ++ text)).toList

def toYaml (lib : YamlLib) (extra : List (String × Node)) : String := GoText.trimSuffix (lib.marshal extra) "\n"

def authorizationLines (t : PrintTable) (lib : YamlLib) : Option AuthConfig → List String
  | none => []
  | some a =>
    let lines := (authorizationRows a).map (Row.text t)
    match a.extraConfig.getD [] with
    | [] => lines
    | extra => runOn lines (indent 8 (toYaml lib extra))

/-! ## Services and the rest -/

def serviceRows (name : String) (port : ServicePort) (bindOnIP : GoString) : List Row :=
  [.block 4 name,
    .block 8 "rpc",
    .entry 12 "grpcPort" (num port.grpcPort),
    .entry 12 "membershipPort" (num port.membershipPort),
    .entry 12 "bindOnIP" (.quoted bindOnIP)]

def httpServiceRows (name : String) (port : ServicePort) (bindOnIP : GoString) : List Row :=
  serviceRows name port bindOnIP ++ [.entry 12 "httpPort" (num port.httpPort)]

def servicesRows (d : ConfigData) : List Row :=
  [.blank, .block 0 "services"] ++
  httpServiceRows "frontend" d.services.frontend d.bindOnIP ++
  (if d.useInternalFrontend then httpServiceRows "internal-frontend" d.services.internalFrontend d.bindOnIP else []) ++
  serviceRows "matching" d.services.matching d.bindOnIP ++
  serviceRows "history" d.services.history d.bindOnIP ++
  serviceRows "worker" d.services.worker d.bindOnIP

def localAddress (port : Int) : String := "127.0.0.1:" ++ toString port

def clusterMetadataRows (d : ConfigData) : List Row :=
  [.blank,
    .block 0 "clusterMetadata",
    .entry 4 "enableGlobalNamespace" (bool d.enableGlobalNamespace),
    .entry 4 "failoverVersionIncrement" (num d.failoverVersionIncrement),
    .entry 4 "masterClusterName" (str d.masterClusterName),
    .entry 4 "currentClusterName" (str d.currentClusterName),
    .block 4 "clusterInformation",
    .block 8 d.currentClusterName,
    .entry 12 "enabled" (bool true),
    .entry 12 "initialFailoverVersion" (num d.initialFailoverVersion),
    .entry 12 "rpcName" (str "frontend"),
    .entry 12 "rpcAddress" (str (localAddress d.services.frontend.grpcPort)),
    .entry 12 "httpAddress" (str (localAddress d.services.frontend.httpPort)),
    .blank,
    .block 0 "dcRedirectionPolicy",
    .entry 4 "policy" (str "noop")]

def archiveRows (name state : String) : List Row :=
  [.block 4 name,
    .entry 8 "state" (str state),
    .entry 8 "enableRead" (bool true),
    .block 8 "provider",
    .block 12 "filestore",
    .entry 16 "fileMode" (str "0666"),
    .entry 16 "dirMode" (str "0766")]

def archivalRows : Option ArchivalConfig → List Row
  | none => []
  | some a =>
    [.blank, .block 0 "archival"] ++ archiveRows "history" a.historyState ++ archiveRows "visibility" a.visibilityState

def clientRows (d : ConfigData) : List Row :=
  (if d.publicClient ≠ [] then [.blank, .block 0 "publicClient", .entry 4 "hostPort" (.quoted d.publicClient)] else []) ++
  [.blank,
    .block 0 "dynamicConfigClient",
    .entry 4 "filepath" (.quoted d.dynamicConfigPath),
    .entry 4 "pollInterval" (str "60s")]

/-! ## The text -/

def renderLines (t : PrintTable) (lib : YamlLib) (d : ConfigData) : List String :=
  (logRows d ++ persistenceRows d).map (Row.text t) ++
  includeDatastore t d.defaultStore ::
  (Row.block 8 d.visibilityStoreName).text t ::
  includeDatastore t d.visibilityStore ::
  ((membershipRows d ++ mtlsRows d.mtls ++ metricsRows d.metrics).map (Row.text t) ++
    (authorizationLines t lib d.authorization ++
      (servicesRows d ++ clusterMetadataRows d ++ archivalRows d.archival ++ clientRows d).map (Row.text t)))

def renderConfig (t : PrintTable) (lib : YamlLib) (d : ConfigData) : String := unlines (renderLines t lib d)

def renderClusterConfig (t : PrintTable) (lib : YamlLib) (c : Cluster) (opts : BuildOptions) : Except String String :=
  (buildConfigData lib c opts).map (renderConfig t lib)

end TemporalOperator.Config
