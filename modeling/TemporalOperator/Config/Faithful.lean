import TemporalOperator.Config.Consistency
import TemporalOperator.Config.ReadBack

/-!
# When the rendered config says what was asked

The safety of the template's rows in terms of the object and the options that the config is built from.

* `Built` : what the data of an admitted cluster are; `Built.safe_iff` : when their rows are safe;
* `Faithful` : the inputs that the template can write down;
* `rendered_config_reads_back_iff` : the rendered config of an admitted cluster reads back as `configTree` exactly for
  these.
-/

namespace TemporalOperator.Config
open Lib Lib.Yaml

/-! ## Values and rows -/

@[simp] theorem safe_quoted (s : GoString) : (Value.quoted s).Safe ↔ s.Valid := Iff.rfl

@[simp] theorem safe_plain (s : String) : (Value.plain s).Safe ↔ plainValue s.toList = true := Iff.rfl

@[simp] theorem safe_str (s : String) : (str s).Safe := GoString.valid_ofString s

@[simp] theorem safe_num (n : Int) : (num n).Safe := plainValue_number n

@[simp] theorem safe_bool (b : Bool) : (bool b).Safe := by
  cases b
  · exact (by decide : plainValue "false".toList = true)
  · exact (by decide : plainValue "true".toList = true)

@[simp] theorem safe_shift (n : Nat) (r : Row) : (r.shift n).Safe ↔ r.Safe := by
  cases r <;> rfl

theorem safe_optionalRow (n : Nat) {key : String} (hkey : plainKey key.toList = true) (s : String) :
    ∀ r ∈ optionalRow n key s, r.Safe := by
  unfold optionalRow
  split <;> simp [Row.Safe, hkey]

/-! ## Datastores -/

theorem datastoreTLS_safe (tls : Option DatastoreTLS) : ∀ r ∈ datastoreTLSRows tls, r.Safe := by
  cases tls with
  | none => simp [datastoreTLSRows]
  | some tls => simp +decide [datastoreTLSRows, Row.Safe]

def DatastoreConfig.secret (ds : DatastoreConfig) : GoString :=
  if ds.kind = .sql ∧ ds.passwordCommand ≠ [] then ds.passwordCommand else ds.password

theorem sqlPassword_safe {ds : DatastoreConfig} (hsql : ds.kind = .sql) :
    (∀ r ∈ sqlPasswordRows ds, r.Safe) ↔ ds.secret.Valid := by
  unfold sqlPasswordRows DatastoreConfig.secret
  by_cases hcommand : ds.passwordCommand = []
  · simp +decide [Row.Safe, hcommand]
  · simp +decide [Row.Safe, hsql, hcommand]

theorem datastore_safe (ds : DatastoreConfig) : (∀ r ∈ datastoreRows ds, r.Safe) ↔ ds.secret.Valid := by
  have htls := datastoreTLS_safe ds.tls
  unfold datastoreRows
  cases hkind : ds.kind with
  | sql =>
    simp only [sqlRows, List.forall_mem_append, sqlPassword_safe hkind]
    constructor
    · exact fun h => h.1.1.2
    · exact fun h => ⟨⟨⟨by simp +decide [Row.Safe], h⟩, by simp +decide [Row.Safe]⟩, htls⟩
  | cassandra =>
    have hsecret : ds.secret = ds.password := by simp [DatastoreConfig.secret, hkind]
    have hdatacenter : ∀ r ∈ (if ds.datacenter ≠ "" then [Row.entry 4 "datacenter" (str ds.datacenter)] else []),
        r.Safe := by
      split <;> simp +decide [Row.Safe]
    simp only [cassandraRows, List.forall_mem_append, hsecret]
    constructor
    · intro h
      have hrow := h.1.1.1 (.entry 4 "password" (.quoted ds.password)) (by simp)
      exact hrow.2
    · exact fun h => ⟨⟨⟨by simp +decide [Row.Safe, h], hdatacenter⟩, by simp +decide [Row.Safe]⟩, htls⟩
  | elasticsearch =>
    have hsecret : ds.secret = ds.password := by simp [DatastoreConfig.secret, hkind]
    simp +decide [elasticsearchRows, Row.Safe, hsecret]

/-! ## mTLS and the authorization -/

/-- The texts that the mTLS rows write as they are. -/
def MTLSConfig.plainTexts (m : MTLSConfig) : List String :=
  [m.refreshInterval, m.internodeServerCert, m.internodeServerKey, m.internodeClientCA, m.frontendServerCert,
    m.frontendServerKey, m.systemWorkerCert, m.systemWorkerKey, m.systemWorkerCA]

theorem mtls_safe {m : MTLSConfig} (h : m.enabled = true → ∀ s ∈ m.plainTexts, plainValue s.toList = true) :
    ∀ r ∈ mtlsRows m, r.Safe := by
  unfold mtlsRows
  split
  · rename_i henabled
    have htexts := h henabled
    simp only [MTLSConfig.plainTexts, List.forall_mem_cons] at htexts
    obtain ⟨hrefresh, hicert, hikey, hica, hfcert, hfkey, hscert, hskey, hsca, -⟩ := htexts
    have hendpoint {name cert key : String} (serverName : String) (hname : plainKey name.toList = true)
        (hcert : plainValue cert.toList = true) (hkey : plainValue key.toList = true) :
        ∀ r ∈ endpointRows name m cert key serverName, r.Safe := by
      simp +decide [endpointRows, Row.Safe, hname, hcert, hkey, hica]
    simp only [List.forall_mem_append]
    refine ⟨⟨⟨?_, hendpoint _ (by decide) hicert hikey⟩, hendpoint _ (by decide) hfcert hfkey⟩, ?_⟩
    · simp +decide [Row.Safe, hrefresh]
    · simp +decide [Row.Safe, hscert, hskey, hsca]
  · simp

theorem buildMTLS_plain (c : Cluster) : (buildMTLS c).enabled = true →
    ∀ s ∈ (buildMTLS c).plainTexts, plainValue s.toList = true := by
  unfold buildMTLS
  cases c.spec.mtls with
  | none => intro h; cases h
  | some mtls =>
    intro _
    have hpaths : ∀ s ∈ [internodeCertDir ++ "/tls.crt", internodeCertDir ++ "/tls.key", internodeCertDir ++ "/ca.crt",
        frontendCertDir ++ "/tls.crt", frontendCertDir ++ "/tls.key", internodeCertDir ++ "/tls.crt",
        internodeCertDir ++ "/tls.key", internodeCertDir ++ "/ca.crt"], plainValue s.toList = true := by
      decide +kernel
    refine List.forall_mem_cons.mpr ⟨?_, hpaths⟩
    dsimp only
    cases mtls.refreshInterval with
    | none => exact (by decide : plainValue "720h".toList = true)
    | some d => exact plainValue_duration d

theorem authorization_safe (a : AuthConfig) :
    (∀ r ∈ authorizationRows a, r.Safe) ↔ ∀ u ∈ a.keySourceURIs, plainValue u.toList = true := by
  have hjwt : (∀ r ∈ jwtRows a, r.Safe) ↔ ∀ u ∈ a.keySourceURIs, plainValue u.toList = true := by
    unfold jwtRows
    split
    · have huris : (∀ r ∈ a.keySourceURIs.map (fun u => Row.item 16 (.plain u)), r.Safe) ↔
          ∀ u ∈ a.keySourceURIs, plainValue u.toList = true := by
        simp [Row.Safe]
      simp only [List.forall_mem_append, huris]
      constructor
      · exact fun h => h.1.2
      · exact fun h => ⟨⟨by simp +decide [Row.Safe], h⟩, safe_optionalRow 12 (by decide) _⟩
    · rename_i hnone
      simp [not_not.mp hnone]
  have hauthorizer : ∀ r ∈ (if a.emitAuthorizer then [Row.entry 8 "authorizer" (str a.authorizer)] else []), r.Safe := by
    split <;> simp +decide [Row.Safe]
  simp only [authorizationRows, List.forall_mem_cons, List.forall_mem_append, hjwt]
  constructor
  · exact fun h => h.2.2
  · exact fun h => ⟨(by decide : plainKey "authorization".toList = true),
      ⟨⟨hauthorizer, safe_optionalRow 8 (by decide) _⟩, safe_optionalRow 8 (by decide) _⟩, h⟩

/-! ## The rest -/

theorem metrics_safe (m : MetricsConfig) : ∀ r ∈ metricsRows m, r.Safe := by
  unfold metricsRows
  split <;> simp +decide [Row.Safe]

theorem services_safe (d : ConfigData) : (∀ r ∈ servicesRows d, r.Safe) ↔ d.bindOnIP.Valid := by
  have hservice {name : String} (port : ServicePort) (hname : plainKey name.toList = true) :
      (∀ r ∈ serviceRows name port d.bindOnIP, r.Safe) ↔ d.bindOnIP.Valid := by
    simp +decide [serviceRows, Row.Safe, hname]
  have hhttp {name : String} (port : ServicePort) (hname : plainKey name.toList = true) :
      (∀ r ∈ httpServiceRows name port d.bindOnIP, r.Safe) ↔ d.bindOnIP.Valid := by
    rw [httpServiceRows, List.forall_mem_append, hservice port hname]
    simp +decide [Row.Safe]
  have hinternal (h : d.bindOnIP.Valid) : ∀ r ∈ (if d.useInternalFrontend then
      httpServiceRows "internal-frontend" d.services.internalFrontend d.bindOnIP else []), r.Safe := by
    split
    · exact (hhttp _ (by decide)).mpr h
    · simp
  simp only [servicesRows, List.forall_mem_append]
  constructor
  · exact fun h => (hservice _ (by decide)).mp h.2
  · exact fun h => ⟨⟨⟨⟨⟨by simp +decide [Row.Safe], (hhttp _ (by decide)).mpr h⟩, hinternal h⟩,
      (hservice _ (by decide)).mpr h⟩, (hservice _ (by decide)).mpr h⟩, (hservice _ (by decide)).mpr h⟩

theorem clusterMetadata_safe (d : ConfigData) :
    (∀ r ∈ clusterMetadataRows d, r.Safe) ↔ plainKey d.currentClusterName.toList = true := by
  simp +decide [clusterMetadataRows, Row.Safe]

theorem archival_safe (a : Option ArchivalConfig) : ∀ r ∈ archivalRows a, r.Safe := by
  cases a <;> simp +decide [archivalRows, archiveRows, Row.Safe]

theorem client_safe (d : ConfigData) :
    (∀ r ∈ clientRows d, r.Safe) ↔ d.publicClient.Valid ∧ d.dynamicConfigPath.Valid := by
  have hpublic : (∀ r ∈ (if d.publicClient ≠ [] then
      [Row.blank, .block 0 "publicClient", .entry 4 "hostPort" (.quoted d.publicClient)] else []), r.Safe) ↔
      d.publicClient.Valid := by
    by_cases h : d.publicClient = []
    · simp [h, GoString.Valid, GoString.ofChars]
    · simp +decide [h, Row.Safe]
  rw [clientRows, List.forall_mem_append, hpublic]
  simp +decide [Row.Safe]

/-! ## What was built -/

/-- The secret of a store that is rendered: the command, for SQL, when there is one. -/
def storeSecret (store : DatastoreSpec) (password passwordCommand : GoString) : GoString :=
  if store.sql.isSome ∧ passwordCommand ≠ [] then passwordCommand else password

theorem buildDatastore_secret {store : DatastoreSpec} {name : String} {password command : GoString} {ds : DatastoreConfig}
    (h : buildDatastore store name password command = .ok ds) : ds.secret = storeSecret store password command := by
  unfold buildDatastore at h
  split at h
  · rename_i s hsql
    obtain rfl := Except.ok.inj h
    simp [DatastoreConfig.secret, storeSecret, hsql]
  · rename_i hsql _
    obtain rfl := Except.ok.inj h
    simp [DatastoreConfig.secret, storeSecret, hsql]
  · rename_i hsql _ _
    obtain rfl := Except.ok.inj h
    simp [DatastoreConfig.secret, storeSecret, hsql]
  · cases h

theorem buildDatastore_ok {store : DatastoreSpec}
    (h : store.sql.isSome = true ∨ store.cassandra.isSome = true ∨ store.elasticsearch.isSome = true)
    (name : String) (password command : GoString) : ∃ ds, buildDatastore store name password command = .ok ds := by
  unfold buildDatastore
  split
  · exact ⟨_, rfl⟩
  · exact ⟨_, rfl⟩
  · exact ⟨_, rfl⟩
  · rename_i hsql hcassandra hes
    simp [hsql, hcassandra, hes] at h

theorem validateCreate_backends {c : Cluster} (h : ClusterWebhook.validateCreate c = []) :
    (c.spec.persistence.defaultStore.sql.isSome = true ∨ c.spec.persistence.defaultStore.cassandra.isSome = true ∨
      c.spec.persistence.defaultStore.elasticsearch.isSome = true) ∧
    (c.spec.persistence.visibilityStore.sql.isSome = true ∨ c.spec.persistence.visibilityStore.cassandra.isSome = true ∨
      c.spec.persistence.visibilityStore.elasticsearch.isSome = true) := by
  obtain ⟨hdefault, hvis⟩ := (ClusterWebhook.SpecPasses.of_valid h).stores
  constructor
  · cases hsql : c.spec.persistence.defaultStore.sql.isSome with
    | true => exact .inl rfl
    | false =>
      rw [hsql] at hdefault
      exact .inr (.inl (Bool.eq_true_of_not_eq_false fun hc => hdefault hc.symm))
  · cases hsql : c.spec.persistence.visibilityStore.sql.isSome with
    | true => exact .inl rfl
    | false =>
      cases hcassandra : c.spec.persistence.visibilityStore.cassandra.isSome with
      | true => exact .inr (.inl rfl)
      | false =>
        rw [hsql, hcassandra] at hvis
        exact .inr (.inr (by simpa using hvis))

structure Built (c : Cluster) (opts : BuildOptions) (auth : Option AuthConfig) (d : ConfigData) : Prop where
  logLevel : d.logLevel = "info"
  defaultStoreName : d.defaultStoreName = "default"
  visibilityStoreName : d.visibilityStoreName = "visibility" ∨ d.visibilityStoreName = "es-visibility"
  defaultSecret : d.defaultStore.secret =
    storeSecret c.spec.persistence.defaultStore opts.defaultStorePassword opts.defaultStorePasswordCommand
  visibilitySecret : d.visibilityStore.secret =
    storeSecret c.spec.persistence.visibilityStore opts.visibilityStorePassword opts.visibilityStorePasswordCommand
  bindOnIP : d.bindOnIP = orString opts.bindOnIP "0.0.0.0"
  broadcastAddress : d.broadcastAddress = broadcastAddressOrDefault opts.broadcastAddress
  dynamicConfigPath : d.dynamicConfigPath = orString opts.dynamicConfigPath defaultDynamicConfigPath
  publicClient : d.publicClient =
    if useInternalFrontend c then [] else orString opts.publicClientHostPort "127.0.0.1:7233"
  currentClusterName : d.currentClusterName = clusterName c
  mtls : d.mtls = buildMTLS c
  authorization : d.authorization = auth

theorem Built.storeNames_ne {c : Cluster} {opts : BuildOptions} {auth : Option AuthConfig} {d : ConfigData}
    (h : Built c opts auth d) : d.defaultStoreName ≠ d.visibilityStoreName := by
  rw [h.defaultStoreName]
  rcases h.visibilityStoreName with hname | hname <;> rw [hname] <;> decide

/-- For an admitted cluster there are data, unless the authorization cannot be built. -/
theorem buildConfigData_cases (lib : YamlLib) {c : Cluster} (hadmitted : ClusterWebhook.validateCreate c = [])
    (opts : BuildOptions) :
    (∃ err, buildAuth lib c = .error err ∧ buildConfigData lib c opts = .error ("authorization: " ++ err)) ∨
      ∃ auth d, buildAuth lib c = .ok auth ∧ buildConfigData lib c opts = .ok d ∧ Built c opts auth d := by
  obtain ⟨hdefault, hvis⟩ := validateCreate_backends hadmitted
  obtain ⟨ds, hds⟩ := buildDatastore_ok hdefault "default" opts.defaultStorePassword opts.defaultStorePasswordCommand
  obtain ⟨vs, hvs⟩ := buildDatastore_ok hvis "visibility" opts.visibilityStorePassword opts.visibilityStorePasswordCommand
  have hdsecret := buildDatastore_secret hds
  have hvsecret := buildDatastore_secret hvs
  unfold buildConfigData
  rw [hds, hvs]
  cases hauth : buildAuth lib c with
  | error err => exact .inl ⟨err, rfl, rfl⟩
  | ok auth =>
    refine .inr ⟨auth, _, rfl, rfl, ?_⟩
    have hname : (if vs.kind = .elasticsearch then "es-visibility" else "visibility") = "visibility" ∨
        (if vs.kind = .elasticsearch then "es-visibility" else "visibility") = "es-visibility" := by
      split
      · exact .inr rfl
      · exact .inl rfl
    cases hcm : c.spec.clusterMetadata with
    | none => exact ⟨rfl, rfl, hname, hdsecret, hvsecret, rfl, rfl, rfl, rfl, by rw [clusterName, hcm]; rfl, rfl, rfl⟩
    | some cm => exact ⟨rfl, rfl, hname, hdsecret, hvsecret, rfl, rfl, rfl, rfl, by rw [clusterName, hcm]; rfl, rfl, rfl⟩

theorem orString_valid (s : GoString) (d : String) : (orString s d).Valid ↔ s.Valid := by
  unfold orString
  split
  · rename_i hs
    subst hs
    exact ⟨fun _ => GoString.valid_ofChars [], fun _ => GoString.valid_ofString d⟩
  · rfl

/-- The rows of built data are safe when the strings of the options that are rendered are UTF-8 and the two texts of the
object that are written as they are can be. -/
theorem Built.safe_iff {c : Cluster} {opts : BuildOptions} {auth : Option AuthConfig} {d : ConfigData}
    (h : Built c opts auth d) :
    (∀ r ∈ headRows d ++ (authRows d.authorization ++ tailRows d), r.Safe) ↔
      d.defaultStore.secret.Valid ∧ d.visibilityStore.secret.Valid ∧ d.broadcastAddress.Valid ∧
      (∀ a ∈ auth, ∀ u ∈ a.keySourceURIs, plainValue u.toList = true) ∧
      d.bindOnIP.Valid ∧ plainKey d.currentClusterName.toList = true ∧ d.publicClient.Valid ∧
      d.dynamicConfigPath.Valid := by
  have hlog : ∀ r ∈ logRows d, r.Safe := by
    simp +decide [logRows, Row.Safe, h.logLevel]
  have hvis : plainKey d.visibilityStoreName.toList = true ∧ plainValue d.visibilityStoreName.toList = true := by
    rcases h.visibilityStoreName with hname | hname <;> rw [hname] <;> decide
  have hpersistence : ∀ r ∈ persistenceRows d, r.Safe := by
    simp +decide [persistenceRows, Row.Safe, h.defaultStoreName, hvis]
  have hmembership : (∀ r ∈ membershipRows d, r.Safe) ↔ d.broadcastAddress.Valid := by
    simp +decide [membershipRows, Row.Safe]
  have hdatastore (ds : DatastoreConfig) : (∀ r ∈ (datastoreRows ds).map (Row.shift 12), r.Safe) ↔ ds.secret.Valid := by
    simp [datastore_safe]
  have hmtls : ∀ r ∈ mtlsRows d.mtls, r.Safe := by
    rw [h.mtls]
    exact mtls_safe (buildMTLS_plain c)
  have hauth : (∀ r ∈ authRows d.authorization, r.Safe) ↔
      ∀ a ∈ auth, ∀ u ∈ a.keySourceURIs, plainValue u.toList = true := by
    rw [h.authorization]
    cases auth with
    | none => simp [authRows]
    | some a => simpa [authRows] using authorization_safe a
  have hmetrics := metrics_safe d.metrics
  have harchival := archival_safe d.archival
  simp only [headRows, tailRows, List.forall_mem_append, List.forall_mem_singleton, hdatastore, hmembership, hauth,
    services_safe, clusterMetadata_safe, client_safe]
  constructor
  · rintro ⟨⟨⟨⟨⟨⟨⟨⟨-, -⟩, hds⟩, -⟩, hvs⟩, hbroadcast⟩, -⟩, -⟩, huris, ⟨⟨hbind, hname⟩, -⟩, hpublic, hdynamic⟩
    exact ⟨hds, hvs, hbroadcast, huris, hbind, hname, hpublic, hdynamic⟩
  · rintro ⟨hds, hvs, hbroadcast, huris, hbind, hname, hpublic, hdynamic⟩
    exact ⟨⟨⟨⟨⟨⟨⟨⟨hlog, hpersistence⟩, hds⟩, hvis.1⟩, hvs⟩, hbroadcast⟩, hmtls⟩, hmetrics⟩, huris,
      ⟨⟨hbind, hname⟩, harchival⟩, hpublic, hdynamic⟩

/-! ## The authorization that was built -/

/-- The entries of `authorization.config`, when it decodes. -/
def passthrough (lib : YamlLib) (auth : AuthorizationSpec) : List (String × Node) :=
  match decodedConfig lib auth with
  | .ok extra => extra.getD []
  | .error _ => []

/-- Nothing is passed through and the key sources that are written are plain: in terms of the object. -/
theorem buildAuth_plain {lib : YamlLib} {c : Cluster} {auth : Option AuthConfig} (h : buildAuth lib c = .ok auth) :
    (extraEntries auth = [] ∧ ∀ a ∈ auth, ∀ u ∈ a.keySourceURIs, plainValue u.toList = true) ↔
      ∀ spec ∈ c.spec.authorization,
        passthrough lib spec = [] ∧ ∀ u ∈ wantedKeySourceURIs spec, plainValue u.toList = true := by
  cases hspec : c.spec.authorization with
  | none =>
    rw [buildAuth, hspec] at h
    obtain rfl := Except.ok.inj h
    simp [extraEntries]
  | some spec =>
    cases hdecoded : decodedConfig lib spec with
    | error err =>
      rw [buildAuth_of_undecoded lib hspec hdecoded] at h
      cases h
    | ok extra =>
      have hpassed : passthrough lib spec = extra.getD [] := by rw [passthrough, hdecoded]
      rw [buildAuth_of_decoded lib hspec hdecoded] at h
      obtain rfl := Except.ok.inj h
      simp only [Option.mem_some_iff, forall_eq', hpassed]
      by_cases hnothing : NothingSet spec extra
      · rw [if_pos hnothing]
        obtain ⟨-, -, huris, rfl⟩ := hnothing
        simp [extraEntries, huris]
      · rw [if_neg hnothing]
        simp only [Option.mem_some_iff, forall_eq']
        refine and_congr_right fun hnone => ?_
        have hextra : extra.getD [] = [] := hnone
        simp only [AuthConfig.passThrough, hextra, modeledAuth_keySourceURIs, List.lookup_nil, Option.isSome_none,
          Bool.false_eq_true, if_false]

/-! ## The theorem -/

/-- **The inputs that the template can write down.** What is passed through under `authorization.config` runs on from
the line before it, so nothing may be; a key source and the name of the cluster are written as they are; a byte that is
not UTF-8 comes back as another character. -/
structure Faithful (lib : YamlLib) (c : Cluster) (opts : BuildOptions) : Prop where
  passthrough : ∀ spec ∈ c.spec.authorization, passthrough lib spec = []
  keySources : ∀ spec ∈ c.spec.authorization, ∀ u ∈ wantedKeySourceURIs spec, plainValue u.toList = true
  clusterName : plainKey (clusterName c).toList = true
  defaultSecret : (storeSecret c.spec.persistence.defaultStore opts.defaultStorePassword
    opts.defaultStorePasswordCommand).Valid
  visibilitySecret : (storeSecret c.spec.persistence.visibilityStore opts.visibilityStorePassword
    opts.visibilityStorePasswordCommand).Valid
  bindOnIP : opts.bindOnIP.Valid
  broadcastAddress : opts.broadcastAddress.Valid
  dynamicConfigPath : opts.dynamicConfigPath.Valid
  publicClient : useInternalFrontend c = false → opts.publicClientHostPort.Valid

/-- **The rendered config of an admitted cluster says what was asked exactly for these inputs.** There is no text only
when `authorization.config` does not decode. -/
theorem rendered_config_reads_back_iff (t : PrintTable) (lib : YamlLib) (c : Cluster)
    (hadmitted : ClusterWebhook.validateCreate c = []) (opts : BuildOptions) :
    (∃ err, buildAuth lib c = .error err ∧ renderClusterConfig t lib c opts = .error ("authorization: " ++ err)) ∨
      ∃ data text, buildConfigData lib c opts = .ok data ∧ renderClusterConfig t lib c opts = .ok text ∧
        (read text = some (configTree data) ↔ Faithful lib c opts) := by
  rcases buildConfigData_cases lib hadmitted opts with ⟨err, hauth, hdata⟩ | ⟨auth, d, hauth, hdata, hbuilt⟩
  · exact .inl ⟨err, hauth, by rw [renderClusterConfig, hdata]; rfl⟩
  · refine .inr ⟨d, renderConfig t lib d, hdata, by rw [renderClusterConfig, hdata]; rfl, ?_⟩
    have hnames := hbuilt.storeNames_ne
    have hplain := buildAuth_plain hauth
    have hpublic : d.publicClient.Valid ↔ (useInternalFrontend c = false → opts.publicClientHostPort.Valid) := by
      rw [hbuilt.publicClient]
      cases useInternalFrontend c with
      | true => simp [GoString.Valid, GoString.ofChars]
      | false => simp [orString_valid]
    rw [read_renderConfig t lib hnames, hbuilt.safe_iff, hbuilt.authorization, hpublic, hbuilt.defaultSecret,
      hbuilt.visibilitySecret, hbuilt.bindOnIP, hbuilt.broadcastAddress, hbuilt.dynamicConfigPath,
      hbuilt.currentClusterName, broadcastAddressOrDefault, orString_valid, orString_valid, orString_valid]
    constructor
    · rintro ⟨hextra, hds, hvs, hbroadcast, huris, hbind, hname, hpub, hdynamic⟩
      have hspec := hplain.mp ⟨hextra, huris⟩
      exact ⟨fun spec hs => (hspec spec hs).1, fun spec hs => (hspec spec hs).2, hname, hds, hvs, hbind, hbroadcast,
        hdynamic, hpub⟩
    · intro h
      obtain ⟨hextra, huris⟩ := hplain.mpr fun spec hs => ⟨h.passthrough spec hs, h.keySources spec hs⟩
      exact ⟨hextra, h.defaultSecret, h.visibilitySecret, h.broadcastAddress, huris, h.bindOnIP, h.clusterName,
        h.publicClient, h.dynamicConfigPath⟩

/-- A cluster with a key source, a refresh interval and the given passthrough. -/
def authorizedCluster (config : Option String) : Cluster where
  name := "demo"
  spec :=
    { version := "1.31.1"
      persistence := { defaultStore := { sql := some {} }, visibilityStore := { sql := some {} } }
      authorization := some
        { jwtKeyProvider := some { keySourceURIs := ["https://example.test/jwks"], refreshInterval := some 120000000000 }
          config := config } }

def permsConfig : String := "\x7b\"permissionsClaimName\":\"perms\"\x7d"

def permsLib : YamlLib where
  unmarshal _ := .ok (some [("permissionsClaimName", text "perms")])
  marshal _ := "permissionsClaimName: perms\n"

theorem rendered_config_reads_back_sample :
    ClusterWebhook.validateCreate (authorizedCluster none) = [] ∧
      ∃ data text, buildConfigData permsLib (authorizedCluster none) {} = .ok data ∧
        renderClusterConfig .asciiOnly permsLib (authorizedCluster none) {} = .ok text ∧
        read text = some (configTree data) := by
  have hadmitted : ClusterWebhook.validateCreate (authorizedCluster none) = [] := by decide +kernel
  have hempty : GoString.Valid [] := GoString.valid_ofChars []
  have hfaithful : Faithful permsLib (authorizedCluster none) {} := by
    refine ⟨?_, ?_, by decide +kernel, hempty, hempty, hempty, hempty, hempty, fun _ => hempty⟩
    · rintro spec ⟨⟩
      rfl
    · rintro spec ⟨⟩ u hu
      obtain rfl := List.mem_singleton.mp hu
      decide
  refine ⟨hadmitted, ?_⟩
  rcases rendered_config_reads_back_iff .asciiOnly permsLib (authorizedCluster none) hadmitted {} with
    ⟨err, hauth, -⟩ | ⟨data, text, hdata, htext, hread⟩
  · cases hauth
  · exact ⟨data, text, hdata, htext, hread.mpr hfaithful⟩

/-- The entry that is passed through runs on from the refresh interval. -/
theorem passthrough_runs_on :
    ClusterWebhook.validateCreate (authorizedCluster (some permsConfig)) = [] ∧
      ∃ data text, buildConfigData permsLib (authorizedCluster (some permsConfig)) {} = .ok data ∧
        renderClusterConfig .asciiOnly permsLib (authorizedCluster (some permsConfig)) {} = .ok text ∧
        read text ≠ some (configTree data) := by
  have hadmitted : ClusterWebhook.validateCreate (authorizedCluster (some permsConfig)) = [] := by decide +kernel
  refine ⟨hadmitted, ?_⟩
  rcases buildConfigData_cases permsLib hadmitted {} with ⟨err, hauth, -⟩ | ⟨auth, d, hauth, hdata, hbuilt⟩
  · cases hauth
  · refine ⟨d, renderConfig .asciiOnly permsLib d, hdata, by rw [renderClusterConfig, hdata]; rfl, fun hread => ?_⟩
    obtain ⟨hextra, hsafe⟩ := (read_renderConfig .asciiOnly permsLib hbuilt.storeNames_ne).mp hread
    rw [hbuilt.authorization] at hextra
    have huris := (hbuilt.safe_iff.mp hsafe).2.2.2.1
    have hnone := ((buildAuth_plain hauth).mp ⟨hextra, huris⟩ _ rfl).1
    cases hnone

example : readLine "            refreshInterval: \"2m0s\"        permissionsClaimName: perms".toList = none := by decide

end TemporalOperator.Config
