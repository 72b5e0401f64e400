import TemporalOperator.Config.Template

/-!
# What the config is to say

The document that the config data stand for, in the order of the template, and that the rows of the template are its
lines.

* `configTree` : the document; the authorization mapping has the modeled entries that are set and then those of the
  passthrough; a mapping without entries is null;
* `configTree_lines` : its lines are those that the rows are meant to be, with those of the passthrough in between.
-/

namespace TemporalOperator.Config
open Lib Lib.Yaml

def text (s : String) : Node := .scalar (GoString.ofString s)

def number (n : Int) : Node := text (toString n)

def truth (b : Bool) : Node := text (toString b)

theorem text_inj {s t : String} : text s = text t ↔ s = t := by
  rw [text, text, Node.scalar.injEq, GoString.ofString, GoString.ofString, GoString.ofChars_inj, String.toList_inj]

theorem number_inj {m n : Int} : number m = number n ↔ m = n := by
  rw [number, number, text_inj, GoText.toString_inj]

/-- A mapping, of which the empty one is null. -/
def mapping : List (String × Node) → Node
  | [] => .null
  | es => .map es

def texts (ss : List String) : Node := .seq (ss.map text)

def optionalEntry (key s : String) : List (String × Node) := if s ≠ "" then [(key, text s)] else []

/-! ## The document -/

def datastoreTLSEntries : Option DatastoreTLS → List (String × Node)
  | none => []
  | some tls =>
    [("tls", .map
      [("enabled", truth tls.enabled),
        ("caFile", text tls.caFile),
        ("certFile", text tls.certFile),
        ("keyFile", text tls.keyFile),
        ("enableHostVerification", truth tls.enableHostVerification),
        ("serverName", text tls.serverName)])]

def sqlPasswordEntry (ds : DatastoreConfig) : String × Node :=
  if ds.passwordCommand ≠ [] then
    ("passwordCommand", .map
      [("command", text "sh"), ("args", .seq [text "-c", .scalar ds.passwordCommand])])
  else ("password", .scalar ds.password)

def sqlEntries (ds : DatastoreConfig) : List (String × Node) :=
  [("pluginName", text ds.pluginName),
    ("databaseName", text ds.databaseName),
    ("connectAddr", text ds.connectAddr),
    ("connectProtocol", text "tcp"),
    ("user", text ds.user)] ++
  [sqlPasswordEntry ds] ++
  [("maxConns", number ds.maxConns),
    ("maxIdleConns", number ds.maxIdleConns),
    ("maxConnLifetime", text ds.maxConnLifetime)] ++
  datastoreTLSEntries ds.tls

def cassandraEntries (ds : DatastoreConfig) : List (String × Node) :=
  [("hosts", text ds.hosts),
    ("keyspace", text ds.keyspace),
    ("user", text ds.user),
    ("password", .scalar ds.password),
    ("port", number ds.port)] ++
  optionalEntry "datacenter" ds.datacenter ++
  [("maxConns", number ds.maxConns)] ++
  datastoreTLSEntries ds.tls

def elasticsearchEntries (ds : DatastoreConfig) : List (String × Node) :=
  [("version", text ds.esVersion),
    ("url", .map [("scheme", text ds.urlScheme), ("host", text ds.urlHost)]),
    ("username", text ds.user),
    ("password", .scalar ds.password),
    ("indices", .map [("visibility", text ds.visibilityIndex)])]

def datastoreTree (ds : DatastoreConfig) : Node :=
  match ds.kind with
  | .sql => .map [("sql", .map (sqlEntries ds))]
  | .cassandra => .map [("cassandra", .map (cassandraEntries ds))]
  | .elasticsearch => .map [("elasticsearch", .map (elasticsearchEntries ds))]

def endpointTree (m : MTLSConfig) (cert key serverName : String) : Node :=
  .map
    [("server", .map
      [("requireClientAuth", truth m.requireClientAuth),
        ("certFile", text cert),
        ("keyFile", text key),
        ("clientCaFiles", texts [m.internodeClientCA])]),
      ("client", .map [("serverName", text serverName), ("rootCaFiles", texts [m.internodeClientCA])])]

def mtlsEntries (m : MTLSConfig) : List (String × Node) :=
  if m.enabled then
    [("tls", .map
      [("refreshInterval", text m.refreshInterval),
        ("internode", endpointTree m m.internodeServerCert m.internodeServerKey m.internodeServerName),
        ("frontend", endpointTree m m.frontendServerCert m.frontendServerKey m.frontendServerName),
        ("systemWorker", .map
          [("certFile", text m.systemWorkerCert),
            ("keyFile", text m.systemWorkerKey),
            ("client", .map [("serverName", text m.systemWorkerName), ("rootCaFiles", texts [m.systemWorkerCA])])])])]
  else []

def metricsEntries (m : MetricsConfig) : List (String × Node) :=
  if m.enabled then
    [("metrics", .map
      [("prometheus", .map [("timerType", text "histogram"), ("listenAddress", text m.listenAddress)])])]
  else []

def jwtEntries (a : AuthConfig) : List (String × Node) :=
  if a.keySourceURIs ≠ [] then
    [("jwtKeyProvider", .map
      (("keySourceURIs", texts a.keySourceURIs) :: optionalEntry "refreshInterval" a.refreshInterval))]
  else []

def modeledEntries (a : AuthConfig) : List (String × Node) :=
  (if a.emitAuthorizer then [("authorizer", text a.authorizer)] else []) ++
  optionalEntry "claimMapper" a.claimMapper ++
  optionalEntry "permissionsClaimName" a.permissionsClaimName ++
  jwtEntries a

def authorizationTree (a : AuthConfig) : Node := mapping (modeledEntries a ++ a.extraConfig.getD [])

def authorizationEntries : Option AuthConfig → List (String × Node)
  | none => []
  | some a => [("authorization", authorizationTree a)]

def serviceEntries (port : ServicePort) (bindOnIP : GoString) : List (String × Node) :=
  [("grpcPort", number port.grpcPort),
    ("membershipPort", number port.membershipPort),
    ("bindOnIP", .scalar bindOnIP)]

def serviceTree (port : ServicePort) (bindOnIP : GoString) : Node :=
  .map [("rpc", .map (serviceEntries port bindOnIP))]

def httpServiceTree (port : ServicePort) (bindOnIP : GoString) : Node :=
  .map [("rpc", .map (serviceEntries port bindOnIP ++ [("httpPort", number port.httpPort)]))]

def servicesEntries (d : ConfigData) : List (String × Node) :=
  [("frontend", httpServiceTree d.services.frontend d.bindOnIP)] ++
  (if d.useInternalFrontend then
    [("internal-frontend", httpServiceTree d.services.internalFrontend d.bindOnIP)] else []) ++
  [("matching", serviceTree d.services.matching d.bindOnIP),
    ("history", serviceTree d.services.history d.bindOnIP),
    ("worker", serviceTree d.services.worker d.bindOnIP)]

def servicesTree (d : ConfigData) : Node := .map (servicesEntries d)

/-- One key, the name of the cluster. -/
def clusterInformation (d : ConfigData) : Node :=
  .map
    [(d.currentClusterName, .map
      [("enabled", truth true),
        ("initialFailoverVersion", number d.initialFailoverVersion),
        ("rpcName", text "frontend"),
        ("rpcAddress", text (localAddress d.services.frontend.grpcPort)),
        ("httpAddress", text (localAddress d.services.frontend.httpPort))])]

def archiveTree (state : String) : Node :=
  .map
    [("state", text state),
      ("enableRead", truth true),
      ("provider", .map [("filestore", .map [("fileMode", text "0666"), ("dirMode", text "0766")])])]

def archivalEntries : Option ArchivalConfig → List (String × Node)
  | none => []
  | some a =>
    [("archival", .map [("history", archiveTree a.historyState), ("visibility", archiveTree a.visibilityState)])]

def clientEntries (d : ConfigData) : List (String × Node) :=
  (if d.publicClient ≠ [] then [("publicClient", .map [("hostPort", .scalar d.publicClient)])] else []) ++
  [("dynamicConfigClient", .map [("filepath", .scalar d.dynamicConfigPath), ("pollInterval", text "60s")])]

/-- The entries of `global` before the authorization. -/
def globalEntries (d : ConfigData) : List (String × Node) :=
  [("membership", .map [("maxJoinDuration", text "30s"), ("broadcastAddress", .scalar d.broadcastAddress)]),
    ("pprof", .map [("port", number 0)])] ++
  mtlsEntries d.mtls ++ metricsEntries d.metrics

def globalTree (d : ConfigData) : Node := .map (globalEntries d ++ authorizationEntries d.authorization)

def persistenceTree (d : ConfigData) : Node :=
  .map
    [("numHistoryShards", number d.numHistoryShards),
      ("defaultStore", text d.defaultStoreName),
      ("visibilityStore", text d.visibilityStoreName),
      ("datastores", .map
        [(d.defaultStoreName, datastoreTree d.defaultStore), (d.visibilityStoreName, datastoreTree d.visibilityStore)])]

def clusterMetadataTree (d : ConfigData) : Node :=
  .map
    [("enableGlobalNamespace", truth d.enableGlobalNamespace),
      ("failoverVersionIncrement", number d.failoverVersionIncrement),
      ("masterClusterName", text d.masterClusterName),
      ("currentClusterName", text d.currentClusterName),
      ("clusterInformation", clusterInformation d)]

def configEntries (d : ConfigData) : List (String × Node) :=
  [("log", .map [("stdout", truth true), ("level", text d.logLevel)]),
    ("persistence", persistenceTree d),
    ("global", globalTree d),
    ("services", servicesTree d),
    ("clusterMetadata", clusterMetadataTree d),
    ("dcRedirectionPolicy", .map [("policy", text "noop")])] ++
  archivalEntries d.archival ++ clientEntries d

/-- **The document that the data stand for.** -/
def configTree (d : ConfigData) : Node := .map (configEntries d)

/-! ## It can be written in block style -/

@[simp] theorem block_scalar (s : GoString) : (Node.scalar s).Block := .scalar s

@[simp] theorem block_text (s : String) : (text s).Block := .scalar _

@[simp] theorem block_number (n : Int) : (number n).Block := .scalar _

@[simp] theorem block_truth (b : Bool) : (truth b).Block := .scalar _

theorem block_texts {ss : List String} (h : ss ≠ []) : (texts ss).Block := by
  have hss : ss.map text = (ss.map GoString.ofString).map .scalar := by
    simp [text, Function.comp_def]
  rw [texts, hss]
  exact .seq (by simpa using h)

theorem fits_optional (key s : String) : Fits (optionalEntry key s) [key] :=
  .ite _ fun _ => .of_block (by simp)

theorem fits_datastoreTLS (tls : Option DatastoreTLS) : Fits (datastoreTLSEntries tls) ["tls"] := by
  cases tls with
  | none => exact ⟨List.nil_sublist _, by simp [datastoreTLSEntries]⟩
  | some tls => exact .of_block (by simp [datastoreTLSEntries, Node.block_map])

theorem fits_sqlPassword (ds : DatastoreConfig) : Fits [sqlPasswordEntry ds] ["passwordCommand", "password"] := by
  have hargs : (Node.seq [text "-c", .scalar ds.passwordCommand]).Block :=
    .seq (List.cons_ne_nil (GoString.ofString "-c") [ds.passwordCommand])
  unfold sqlPasswordEntry
  split
  · exact ⟨by simp, by simp [Node.block_map, hargs]⟩
  · exact ⟨by simp, by simp⟩

theorem block_sql (ds : DatastoreConfig) : (Node.map (sqlEntries ds)).Block := by
  have hfits : Fits (sqlEntries ds) _ :=
    (((Fits.of_block (by simp)).append (fits_sqlPassword ds)).append (.of_block (by simp))).append
      (fits_datastoreTLS ds.tls)
  exact hfits.block (by simp [sqlEntries]) (by simp)

theorem block_cassandra (ds : DatastoreConfig) : (Node.map (cassandraEntries ds)).Block := by
  have hfits : Fits (cassandraEntries ds) _ :=
    (((Fits.of_block (by simp)).append (fits_optional _ _)).append (.of_block (by simp))).append
      (fits_datastoreTLS ds.tls)
  exact hfits.block (by simp [cassandraEntries]) (by simp)

theorem block_datastore (ds : DatastoreConfig) : (datastoreTree ds).Block := by
  unfold datastoreTree
  cases ds.kind with
  | sql => simp [Node.block_map, block_sql ds]
  | cassandra => simp [Node.block_map, block_cassandra ds]
  | elasticsearch => simp [Node.block_map, elasticsearchEntries]

theorem fits_mtls (m : MTLSConfig) : Fits (mtlsEntries m) ["tls"] := by
  have hca (ca : String) : (texts [ca]).Block := block_texts (by simp)
  have hendpoint (cert key serverName : String) : (endpointTree m cert key serverName).Block := by
    simp [endpointTree, Node.block_map, hca]
  exact .ite _ fun _ => .of_block (by simp [Node.block_map, hendpoint, hca])

theorem fits_metrics (m : MetricsConfig) : Fits (metricsEntries m) ["metrics"] :=
  .ite _ fun _ => .of_block (by simp [Node.block_map])

theorem fits_jwt (a : AuthConfig) : Fits (jwtEntries a) ["jwtKeyProvider"] := by
  refine .ite _ fun huris => .of_block ?_
  have hprovider :=
    (Fits.cons "keySourceURIs" (block_texts huris) (fits_optional "refreshInterval" a.refreshInterval)).block
    (by simp) (by simp)
  simpa using hprovider

theorem fits_authorization {auth : Option AuthConfig} (hextra : ∀ a ∈ auth, a.extraConfig.getD [] = []) :
    Fits (authorizationEntries auth) ["authorization"] := by
  cases auth with
  | none => exact ⟨List.nil_sublist _, by simp [authorizationEntries]⟩
  | some a =>
    have hmodeled : Fits (modeledEntries a) _ :=
      (((Fits.ite _ fun _ => .of_block (by simp)).append (fits_optional _ _)).append (fits_optional _ _)).append
        (fits_jwt a)
    have htree : (authorizationTree a).Block := by
      rw [authorizationTree, hextra a rfl, List.append_nil]
      cases hes : modeledEntries a with
      | nil => exact .null
      | cons e es =>
        rw [hes] at hmodeled
        exact hmodeled.block (by simp) (by simp)
    exact .of_block (by simpa [authorizationEntries] using htree)

theorem block_services (d : ConfigData) : (servicesTree d).Block := by
  have hservice (port : ServicePort) : (serviceTree port d.bindOnIP).Block := by
    simp [serviceTree, serviceEntries, Node.block_map]
  have hhttp (port : ServicePort) : (httpServiceTree port d.bindOnIP).Block := by
    simp [httpServiceTree, serviceEntries, Node.block_map]
  have hfits : Fits (servicesEntries d) _ :=
    ((Fits.of_block (by simp [hhttp])).append (.ite _ fun _ => .of_block (by simp [hhttp]))).append
      (.of_block (by simp [hservice]))
  exact hfits.block (by simp [servicesEntries]) (by simp)

theorem fits_archival (a : Option ArchivalConfig) : Fits (archivalEntries a) ["archival"] := by
  have harchive (state : String) : (archiveTree state).Block := by simp [archiveTree, Node.block_map]
  cases a with
  | none => exact ⟨List.nil_sublist _, by simp [archivalEntries]⟩
  | some a => exact .of_block (by simp [archivalEntries, Node.block_map, harchive])

theorem block_persistence {d : ConfigData} (hnames : d.defaultStoreName ≠ d.visibilityStoreName) :
    (persistenceTree d).Block := by
  simp [persistenceTree, Node.block_map, hnames, block_datastore]

theorem block_global {d : ConfigData} (hextra : ∀ a ∈ d.authorization, a.extraConfig.getD [] = []) :
    (globalTree d).Block := by
  have hfits : Fits (globalEntries d ++ authorizationEntries d.authorization) _ :=
    (((Fits.of_block (by simp [Node.block_map])).append (fits_mtls d.mtls)).append (fits_metrics d.metrics)).append
      (fits_authorization hextra)
  exact hfits.block (by simp [globalEntries]) (by simp)

/-- **Without a passthrough the document can be written in block style.** -/
theorem configTree_block {d : ConfigData} (hnames : d.defaultStoreName ≠ d.visibilityStoreName)
    (hextra : ∀ a ∈ d.authorization, a.extraConfig.getD [] = []) : (configTree d).Block := by
  have hmetadata : (clusterMetadataTree d).Block := by
    simp [clusterMetadataTree, clusterInformation, Node.block_map]
  have hclients : Fits (clientEntries d) _ :=
    (Fits.ite _ fun _ => .of_block (by simp [Node.block_map])).append (.of_block (by simp [Node.block_map]))
  have hfits : Fits (configEntries d) _ :=
    ((Fits.of_block
      (by simp [Node.block_map, block_persistence hnames, block_global hextra, block_services, hmetadata])).append
      (fits_archival d.archival)).append hclients
  exact hfits.block (by simp [configEntries]) (by simp)

/-! ## Its lines -/

/-- The lines that rows are meant to be. -/
def meant (rows : List Row) : List Line := rows.filterMap Row.line

theorem meant_append (rows rows' : List Row) : meant (rows ++ rows') = meant rows ++ meant rows' :=
  List.filterMap_append

/-- The rows before the authorization, with the datastores in their places. -/
def headRows (d : ConfigData) : List Row :=
  logRows d ++ persistenceRows d ++ (datastoreRows d.defaultStore).map (Row.shift 12) ++
  [.block 8 d.visibilityStoreName] ++ (datastoreRows d.visibilityStore).map (Row.shift 12) ++
  membershipRows d ++ mtlsRows d.mtls ++ metricsRows d.metrics

def tailRows (d : ConfigData) : List Row :=
  servicesRows d ++ clusterMetadataRows d ++ archivalRows d.archival ++ clientRows d

def authorizationMeant : Option AuthConfig → List Line
  | none => []
  | some a => meant (authorizationRows a) ++ entryLines 8 (a.extraConfig.getD [])

theorem entryLines_append (n : Nat) (es fs : List (String × Node)) :
    entryLines n (es ++ fs) = entryLines n es ++ entryLines n fs := by
  induction es with
  | nil => rfl
  | cons e es ih =>
    obtain ⟨k, v⟩ := e
    rw [List.cons_append, entryLines, ih, entryLines, List.cons_append, List.append_assoc]

theorem optional_lines (n : Nat) (key s : String) : meant (optionalRow n key s) = entryLines n (optionalEntry key s) := by
  unfold optionalRow optionalEntry
  split <;> rfl

theorem datastoreTLS_lines (tls : Option DatastoreTLS) :
    meant ((datastoreTLSRows tls).map (Row.shift 12)) = entryLines 16 (datastoreTLSEntries tls) := by
  cases tls <;> rfl

theorem sqlPassword_lines (ds : DatastoreConfig) :
    meant ((sqlPasswordRows ds).map (Row.shift 12)) = entryLines 16 [sqlPasswordEntry ds] := by
  unfold sqlPasswordRows sqlPasswordEntry
  split <;> rfl

theorem datacenter_lines (ds : DatastoreConfig) :
    meant ((if ds.datacenter ≠ "" then [Row.entry 4 "datacenter" (str ds.datacenter)] else []).map (Row.shift 12)) =
      entryLines 16 (optionalEntry "datacenter" ds.datacenter) := by
  unfold optionalEntry
  split <;> rfl

theorem datastore_lines (ds : DatastoreConfig) :
    meant ((datastoreRows ds).map (Row.shift 12)) = (datastoreTree ds).lines 12 := by
  unfold datastoreRows datastoreTree
  cases ds.kind with
  | sql =>
    show _ = ⟨12, .entry "sql" none⟩ :: (entryLines 16 (sqlEntries ds) ++ [])
    simp only [sqlRows, sqlEntries, entryLines_append, ← sqlPassword_lines, ← datastoreTLS_lines, List.map_append,
      meant_append, List.append_nil]
    rfl
  | cassandra =>
    show _ = ⟨12, .entry "cassandra" none⟩ :: (entryLines 16 (cassandraEntries ds) ++ [])
    simp only [cassandraRows, cassandraEntries, entryLines_append, ← datacenter_lines, ← datastoreTLS_lines,
      List.map_append, meant_append, List.append_nil]
    rfl
  | elasticsearch => rfl

theorem mtls_lines (m : MTLSConfig) : meant (mtlsRows m) = entryLines 4 (mtlsEntries m) := by
  unfold mtlsRows mtlsEntries
  split <;> rfl

theorem metrics_lines (m : MetricsConfig) : meant (metricsRows m) = entryLines 4 (metricsEntries m) := by
  unfold metricsRows metricsEntries
  split <;> rfl

theorem jwt_lines (a : AuthConfig) : meant (jwtRows a) = entryLines 8 (jwtEntries a) := by
  have huris : meant (a.keySourceURIs.map fun u => .item 16 (.plain u)) = (texts a.keySourceURIs).lines 16 := by
    simp [texts, Node.lines, meant, Function.comp_def, Row.line, Value.means, text, Node.scalar?]
  unfold jwtRows jwtEntries
  split
  · rw [meant_append, meant_append, huris, optional_lines]
    simp [entryLines, Node.lines, texts, Node.scalar?, Row.line, meant]
  · rfl

theorem authorization_lines (auth : Option AuthConfig) :
    authorizationMeant auth = entryLines 4 (authorizationEntries auth) := by
  cases auth with
  | none => rfl
  | some a =>
    have hmodeled :
        meant (authorizationRows a) = ⟨4, .entry "authorization" none⟩ :: entryLines 8 (modeledEntries a) := by
      have hauthorizer : meant (if a.emitAuthorizer then [Row.entry 8 "authorizer" (str a.authorizer)] else []) =
          entryLines 8 (if a.emitAuthorizer then [("authorizer", text a.authorizer)] else []) := by
        split <;> rfl
      show ⟨4, .entry "authorization" none⟩ :: meant _ = _
      simp only [modeledEntries, entryLines_append, ← hauthorizer, ← optional_lines, ← jwt_lines, meant_append]
    have hmapping (es : List (String × Node)) :
        entryLines 4 [("authorization", mapping es)] = ⟨4, .entry "authorization" none⟩ :: entryLines 8 es := by
      cases es with
      | nil => rfl
      | cons e es => exact congrArg _ (List.append_nil _)
    rw [authorizationMeant, hmodeled, authorizationEntries, authorizationTree, hmapping, entryLines_append,
      List.cons_append]

theorem services_lines (d : ConfigData) : meant (servicesRows d) = entryLines 0 [("services", servicesTree d)] := by
  unfold servicesRows servicesTree servicesEntries
  split <;> rfl

theorem archival_lines (a : Option ArchivalConfig) : meant (archivalRows a) = entryLines 0 (archivalEntries a) := by
  cases a <;> rfl

theorem client_lines (d : ConfigData) : meant (clientRows d) = entryLines 0 (clientEntries d) := by
  unfold clientRows clientEntries
  split <;> rfl

theorem datastoreTree_scalar? (ds : DatastoreConfig) : (datastoreTree ds).scalar? = none := by
  unfold datastoreTree
  split <;> rfl

theorem persistence_lines (d : ConfigData) (es : List (String × Node)) :
    entryLines 0 (("persistence", persistenceTree d) :: es) =
      meant (persistenceRows d ++ (datastoreRows d.defaultStore).map (Row.shift 12) ++
        [.block 8 d.visibilityStoreName] ++ (datastoreRows d.visibilityStore).map (Row.shift 12)) ++ entryLines 0 es := by
  simp only [meant_append, datastore_lines, List.append_assoc]
  simp [persistenceTree, entryLines, Node.lines, datastoreTree_scalar?]
  rfl

theorem global_lines (d : ConfigData) (es : List (String × Node)) :
    entryLines 0 (("global", globalTree d) :: es) =
      meant (membershipRows d ++ mtlsRows d.mtls ++ metricsRows d.metrics) ++
        (authorizationMeant d.authorization ++ entryLines 0 es) := by
  have hlines : (globalTree d).lines 4 = entryLines 4 (globalEntries d ++ authorizationEntries d.authorization) := rfl
  rw [entryLines, hlines, entryLines_append, authorization_lines, globalEntries, entryLines_append, entryLines_append,
    meant_append, meant_append, mtls_lines, metrics_lines]
  simp only [List.append_assoc]
  rfl

/-- **The lines of the document.** -/
theorem configTree_lines (d : ConfigData) :
    (configTree d).lines 0 = meant (headRows d) ++ (authorizationMeant d.authorization ++ meant (tailRows d)) := by
  have hhead : meant (headRows d) = meant (logRows d) ++
      (meant (persistenceRows d ++ (datastoreRows d.defaultStore).map (Row.shift 12) ++
        [.block 8 d.visibilityStoreName] ++ (datastoreRows d.visibilityStore).map (Row.shift 12)) ++
        meant (membershipRows d ++ mtlsRows d.mtls ++ metricsRows d.metrics)) := by
    rw [← meant_append, ← meant_append]
    simp only [headRows, List.append_assoc]
  have htail : meant (tailRows d) = entryLines 0 (("services", servicesTree d) ::
      ("clusterMetadata", clusterMetadataTree d) :: ("dcRedirectionPolicy", .map [("policy", text "noop")]) ::
      (archivalEntries d.archival ++ clientEntries d)) := by
    have hmetadata : meant (clusterMetadataRows d) = entryLines 0 [("clusterMetadata", clusterMetadataTree d),
      ("dcRedirectionPolicy", .map [("policy", text "noop")])] := rfl
    rw [tailRows, meant_append, meant_append, meant_append, services_lines, hmetadata, archival_lines, client_lines]
    simp only [List.append_assoc, ← entryLines_append]
    rfl
  rw [hhead, htail, List.append_assoc, List.append_assoc, ← global_lines, ← persistence_lines]
  rfl

end TemporalOperator.Config
