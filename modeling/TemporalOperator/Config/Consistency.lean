import TemporalOperator.Config.Tree
import TemporalOperator.Persistence.Backend
import TemporalOperator.Webhook.Cluster

/-!
# The config and what stands beside it

Three places where the rendered config has to agree with something else: with the operator's own client of
Elasticsearch, with itself on the names of clusters, and with the passthrough of the authorization.

* `SameElasticsearch` : the server and the operator address one Elasticsearch (`same_elasticsearch_iff`);
* `MasterKnown` : the master cluster has an entry (`master_known_iff`);
* `PassthroughWins` : what the passthrough defines is taken from it, the rest from the object (`passthrough_wins`).
-/

namespace TemporalOperator.Config
open Lib Lib.Yaml

/-! ## Elasticsearch -/

/-- The part of the document on the Elasticsearch of the visibility store. -/
def esURLPath (key : String) : List String :=
  ["persistence", "datastores", "es-visibility", "elasticsearch", "url", key]

/-- The requests of the operator go to the URL that the document gives the server. -/
def SameElasticsearch (e : ElasticsearchDatastoreSpec) (doc : Node) : Prop :=
  ∃ scheme host, doc.at? (esURLPath "scheme") = some (text scheme) ∧ doc.at? (esURLPath "host") = some (text host) ∧
    Persistence.esBackend.baseURL e = scheme ++ "://" ++ host

/-- A host, perhaps with a port, and nothing else. -/
def BareURL (url : String) : Prop :=
  GoText.hasPrefix url "http://" = false ∧ GoText.hasPrefix url "https://" = false ∧ url.toList.getLast? ≠ some '/'

instance (url : String) : Decidable (BareURL url) := inferInstanceAs (Decidable (_ ∧ _ ∧ _))

def esScheme (e : ElasticsearchDatastoreSpec) : String := if e.tls.any (·.enabled) then "https" else "http"

theorem baseURL_eq_iff (e : ElasticsearchDatastoreSpec) :
    Persistence.esBackend.baseURL e = esScheme e ++ "://" ++ e.url ↔ BareURL e.url := by
  unfold Persistence.esBackend.baseURL BareURL
  change (if _ then _ else esScheme e ++ "://" ++ _) = _ ↔ _
  cases hprefix : GoText.hasPrefix e.url "http://" || GoText.hasPrefix e.url "https://" with
  | true =>
    -- a scheme in front makes the server's URL longer than any part of the text
    have hlong : GoText.trimRight e.url '/' ≠ esScheme e ++ "://" ++ e.url := by
      intro h
      have hle := GoText.length_trimRight_le e.url '/'
      rw [h] at hle
      simp only [String.length_append, show "://".length = 3 from rfl] at hle
      omega
    rw [if_pos rfl]
    refine ⟨fun h => absurd h hlong, fun ⟨hhttp, hhttps, _⟩ => ?_⟩
    rw [hhttp, hhttps] at hprefix
    cases hprefix
  | false =>
    obtain ⟨hhttp, hhttps⟩ := Bool.or_eq_false_iff.mp hprefix
    rw [if_neg (by decide), String.append_right_inj, GoText.trimRight_eq_self]
    exact ⟨fun h => ⟨hhttp, hhttps, h⟩, fun h => h.2.2⟩

theorem at?_esURL {d : ConfigData} (hdefault : d.defaultStoreName = "default")
    (hname : d.visibilityStoreName = "es-visibility") (hkind : d.visibilityStore.kind = .elasticsearch) (key : String) :
    (configTree d).at? (esURLPath key) =
      Node.at? [key] (.map
        [("scheme", text d.visibilityStore.urlScheme), ("host", text d.visibilityStore.urlHost)]) := by
  have hpath : esURLPath key = ["persistence"] ++ (["datastores", "es-visibility", "elasticsearch", "url"] ++ [key]) := rfl
  have hpersistence : (configTree d).at? ["persistence"] = some (persistenceTree d) := rfl
  have hurl : (persistenceTree d).at? ["datastores", "es-visibility", "elasticsearch", "url"] = some (.map
      [("scheme", text d.visibilityStore.urlScheme), ("host", text d.visibilityStore.urlHost)]) := by
    rw [persistenceTree, hdefault, hname, datastoreTree, datastoreTree, hkind]
    rfl
  rw [hpath, Node.at?_append, hpersistence, Option.bind_some, Node.at?_append, hurl, Option.bind_some]

section
variable {lib : YamlLib} {c : Cluster} {opts : BuildOptions} {d : ConfigData}

/-- **One Elasticsearch.** The operator's base URL is the URL of the rendered config exactly when the URL of the spec is
a host without a scheme in front and without a slash at the end. -/
theorem same_elasticsearch_iff (hd : buildConfigData lib c opts = .ok d)
    (hsql : c.spec.persistence.visibilityStore.sql = none)
    (hcassandra : c.spec.persistence.visibilityStore.cassandra = none) {e : ElasticsearchDatastoreSpec}
    (he : c.spec.persistence.visibilityStore.elasticsearch = some e) :
    SameElasticsearch e (configTree d) ↔ BareURL e.url := by
  have hdata := buildConfigData_eq_ok hd
  have hstore := hdata.visibilityStore
  rw [buildDatastore, hsql, hcassandra, he] at hstore
  have hkind : d.visibilityStore.kind = .elasticsearch := by rw [← Except.ok.inj hstore]
  have hscheme : d.visibilityStore.urlScheme = esScheme e := by rw [← Except.ok.inj hstore]; rfl
  have hhost : d.visibilityStore.urlHost = e.url := by rw [← Except.ok.inj hstore]
  have hname : d.visibilityStoreName = "es-visibility" := by rw [hdata.visibilityStoreName, if_pos hkind]
  have hat := at?_esURL hdata.defaultStoreName hname hkind
  rw [hscheme, hhost] at hat
  rw [← baseURL_eq_iff]
  constructor
  · rintro ⟨scheme, host, hat₁, hat₂, hbase⟩
    rw [hat] at hat₁ hat₂
    obtain rfl := text_inj.mp (Option.some.inj hat₁)
    obtain rfl := text_inj.mp (Option.some.inj hat₂)
    exact hbase
  · intro hbase
    exact ⟨esScheme e, e.url, hat _, hat _, hbase⟩

end

/-- A cluster with its visibility in the Elasticsearch at this URL. -/
def searchAt (url : String) (tls : Option DatastoreTLSSpec) : Cluster :=
  ClusterWebhook.default
    { name := "temporal"
      spec :=
        { version := "1.31.0"
          persistence :=
            { defaultStore := { sql := some {} }, visibilityStore := { elasticsearch := some { url, tls } } } } }

def noYaml : YamlLib where
  unmarshal _ := .error "unused"
  marshal _ := ""

theorem same_elasticsearch_host :
    ∃ d, buildConfigData noYaml (searchAt "es:9200" (some { enabled := true })) {} = .ok d ∧
      SameElasticsearch { url := "es:9200", tls := some { enabled := true } } (configTree d) := by
  let e : ElasticsearchDatastoreSpec := { url := "es:9200", tls := some { enabled := true } }
  let c := searchAt e.url e.tls
  obtain ⟨d, hd⟩ : ∃ d, buildConfigData noYaml c {} = .ok d := ⟨_, rfl⟩
  have hsql : c.spec.persistence.visibilityStore.sql = none := rfl
  have hcassandra : c.spec.persistence.visibilityStore.cassandra = none := rfl
  have he : c.spec.persistence.visibilityStore.elasticsearch = some e := rfl
  have hbare : BareURL e.url := by decide +kernel
  exact ⟨d, hd, (same_elasticsearch_iff hd hsql hcassandra he).mpr hbare⟩

/-- The operator goes to `http://es:9200`, the server to `http://http://es:9200/`. -/
theorem other_elasticsearch :
    let e : ElasticsearchDatastoreSpec := { url := "http://es:9200/" }
    let c := searchAt e.url e.tls
    ClusterWebhook.validateCreate c = [] ∧ Persistence.esBackend.baseURL e = "http://es:9200" ∧
      ∃ d, buildConfigData noYaml c {} = .ok d ∧ (configTree d).at? (esURLPath "scheme") = some (text "http") ∧
        (configTree d).at? (esURLPath "host") = some (text "http://es:9200/") ∧ ¬ SameElasticsearch e (configTree d) := by
  intro e c
  have hbase : Persistence.esBackend.baseURL e = "http://es:9200" := by decide +kernel
  refine ⟨by decide +kernel, hbase, _, rfl, rfl, rfl, ?_⟩
  rintro ⟨scheme, host, hscheme, hhost, h⟩
  obtain rfl := text_inj.mp (Option.some.inj hscheme)
  obtain rfl := text_inj.mp (Option.some.inj hhost)
  rw [hbase] at h
  revert h
  decide

/-! ## The master cluster -/

/-- The document has an entry for the cluster that it names as the master. -/
def MasterKnown (doc : Node) : Prop :=
  ∃ master entries, doc.at? ["clusterMetadata", "masterClusterName"] = some (text master) ∧
    doc.at? ["clusterMetadata", "clusterInformation"] = some (.map entries) ∧ master ∈ entries.map Prod.fst

/-- The metadata name the cluster itself as the master. A name that is not set is `active`. -/
def MasterIsSelf (cm : ClusterMetadataSpec) : Prop :=
  cm.masterClusterName = cm.currentClusterName ∨
    (cm.masterClusterName = "" ∨ cm.masterClusterName = "active") ∧
      (cm.currentClusterName = "" ∨ cm.currentClusterName = "active")

instance (cm : ClusterMetadataSpec) : Decidable (MasterIsSelf cm) := inferInstanceAs (Decidable (_ ∨ _))

theorem masterKnown_configTree (d : ConfigData) :
    MasterKnown (configTree d) ↔ d.masterClusterName = d.currentClusterName := by
  constructor
  · rintro ⟨master, entries, hmaster, hentries, hmem⟩
    obtain rfl := text_inj.mp (Option.some.inj hmaster)
    obtain rfl := Node.map.inj (Option.some.inj hentries)
    simpa using hmem
  · intro h
    exact ⟨d.masterClusterName, _, rfl, rfl, by simp [h]⟩

theorem masterName_eq_iff (c : Cluster) :
    masterName c = clusterName c ↔ ∀ cm ∈ c.spec.clusterMetadata, MasterIsSelf cm := by
  unfold masterName clusterName MasterIsSelf
  cases c.spec.clusterMetadata with
  | none => simp
  | some cm =>
    by_cases hmaster : cm.masterClusterName = "" <;> by_cases hcurrent : cm.currentClusterName = ""
    · simp [hmaster, hcurrent]
    · simp only [hmaster, hcurrent, Ne.symm hcurrent, Option.mem_some_iff, forall_eq', false_or, true_or, true_and,
        ne_eq, not_true_eq_false, not_false_eq_true, if_true, if_false]
      exact eq_comm
    · simp [hmaster, hcurrent]
    · simp only [hmaster, hcurrent, Option.mem_some_iff, forall_eq', false_or, ne_eq, not_false_eq_true, if_true]
      exact ⟨Or.inl, fun h => h.elim id fun ⟨h₁, h₂⟩ => h₁.trans h₂.symm⟩

section
variable {lib : YamlLib} {c : Cluster} {opts : BuildOptions} {d : ConfigData}

/-- **The master cluster is known** exactly when the metadata name the cluster itself as the master. -/
theorem master_known_iff (hd : buildConfigData lib c opts = .ok d) :
    MasterKnown (configTree d) ↔ ∀ cm ∈ c.spec.clusterMetadata, MasterIsSelf cm := by
  have hdata := buildConfigData_eq_ok hd
  rw [masterKnown_configTree, hdata.masterClusterName, hdata.currentClusterName, masterName_eq_iff]

end

def globalCluster (currentClusterName masterClusterName : String) : Cluster :=
  ClusterWebhook.default
    { name := "temporal"
      spec :=
        { version := "1.31.0"
          persistence := { defaultStore := { sql := some {} }, visibilityStore := { sql := some {} } }
          clusterMetadata := some
            { enableGlobalNamespace := true, failoverVersionIncrement := some 10, initialFailoverVersion := some 1
              currentClusterName, masterClusterName } } }

theorem master_known_self :
    ∃ d, buildConfigData noYaml (globalCluster "clusterA" "clusterA") {} = .ok d ∧ MasterKnown (configTree d) := by
  let c := globalCluster "clusterA" "clusterA"
  obtain ⟨d, hd⟩ : ∃ d, buildConfigData noYaml c {} = .ok d := ⟨_, rfl⟩
  have hself : ∀ cm ∈ c.spec.clusterMetadata, MasterIsSelf cm := by decide
  exact ⟨d, hd, (master_known_iff hd).mpr hself⟩

/-- The master is `active`, and the one entry is that of `clusterA`. -/
theorem master_unknown :
    let c := globalCluster "clusterA" ""
    ClusterWebhook.validateCreate c = [] ∧ ∃ d, buildConfigData noYaml c {} = .ok d ∧
      d.masterClusterName = "active" ∧ d.currentClusterName = "clusterA" ∧ ¬ MasterKnown (configTree d) := by
  intro c
  refine ⟨by decide +kernel, _, rfl, rfl, rfl, ?_⟩
  rw [masterKnown_configTree]
  decide

/-! ## The passthrough of the authorization -/

/-- What `authorization.config` decodes to; without a text there is no map. -/
def decodedConfig (lib : YamlLib) (auth : AuthorizationSpec) : Except String (Option (List (String × Node))) :=
  if auth.config.getD "" = "" then .ok none else lib.unmarshal (auth.config.getD "")

/-- The key sets that the object asks for. -/
def wantedKeySourceURIs (auth : AuthorizationSpec) : List String :=
  (auth.jwtKeyProvider.map (·.keySourceURIs)).getD [] ++ (auth.entra.map entraKeySourceURI).toList

/-- No key is written twice, the passthrough is kept, and what the object sets beside it is written as it was set. -/
structure PassthroughWins (auth : AuthorizationSpec) (extra : Option (List (String × Node))) (cfg : AuthConfig) : Prop where
  kept : cfg.extraConfig = extra
  disjoint : ∀ key ∈ (modeledEntries cfg).map Prod.fst, key ∉ (extra.getD []).map Prod.fst
  authorizer : ∀ a ∈ auth.authorizer, "authorizer" ∉ (extra.getD []).map Prod.fst →
    (modeledEntries cfg).lookup "authorizer" = some (text a)
  claimMapper : auth.claimMapper ≠ "" → "claimMapper" ∉ (extra.getD []).map Prod.fst →
    (modeledEntries cfg).lookup "claimMapper" = some (text auth.claimMapper)
  permissionsClaimName : auth.permissionsClaimName ≠ "" → "permissionsClaimName" ∉ (extra.getD []).map Prod.fst →
    (modeledEntries cfg).lookup "permissionsClaimName" = some (text auth.permissionsClaimName)
  keySourceURIs : wantedKeySourceURIs auth ≠ [] → "jwtKeyProvider" ∉ (extra.getD []).map Prod.fst →
    Node.at? ["jwtKeyProvider", "keySourceURIs"] (.map (modeledEntries cfg)) = some (texts (wantedKeySourceURIs auth))

theorem lookup_entryIf (p : Prop) [Decidable p] (key : String) (n : Node) (k : String) :
    (if p then [(key, n)] else []).lookup k = if p ∧ k = key then some n else none := by
  by_cases hp : p
  · by_cases hk : k = key
    · simp [hp, hk]
    · have hkey : (k == key) = false := beq_false_of_ne hk
      simp [hp, hk, List.lookup_cons, hkey]
  · simp [hp]

theorem lookup_modeledEntries (cfg : AuthConfig) :
    ((modeledEntries cfg).lookup "authorizer" = if cfg.emitAuthorizer then some (text cfg.authorizer) else none) ∧
    ((modeledEntries cfg).lookup "claimMapper" = if cfg.claimMapper ≠ "" then some (text cfg.claimMapper) else none) ∧
    ((modeledEntries cfg).lookup "permissionsClaimName" =
      if cfg.permissionsClaimName ≠ "" then some (text cfg.permissionsClaimName) else none) ∧
    ((modeledEntries cfg).lookup "jwtKeyProvider" =
      if cfg.keySourceURIs ≠ [] then
        some (.map (("keySourceURIs", texts cfg.keySourceURIs) :: optionalEntry "refreshInterval" cfg.refreshInterval))
      else none) := by
  unfold modeledEntries jwtEntries
  rw [optionalEntry, optionalEntry]
  simp only [List.lookup_append, lookup_entryIf]
  simp

theorem mem_keys_entryIf (p : Prop) [Decidable p] (key : String) (n : Node) (k : String) :
    k ∈ (if p then [(key, n)] else []).map Prod.fst ↔ p ∧ k = key := by
  by_cases hp : p <;> simp [hp]

theorem mem_keys_iff (es : List (String × Node)) (key : String) :
    key ∈ es.map Prod.fst ↔ (es.lookup key).isSome = true := by
  simp [List.lookup_isSome_iff]

/-- The object's own settings and the defaults, before the passthrough. -/
def modeledAuth (auth : AuthorizationSpec) : AuthConfig :=
  let cfg := buildAuthKeySourceURIs auth (explicitAuth auth)
  if cfg.keySourceURIs ≠ [] then applyJWTDefaults auth cfg else cfg

section
variable (auth : AuthorizationSpec)

def keyedAuth : AuthConfig :=
  { explicitAuth auth with
    keySourceURIs := wantedKeySourceURIs auth
    refreshInterval := ((auth.jwtKeyProvider.bind (·.refreshInterval)).map GoDuration.string).getD ""
    permissionsClaimName :=
      if auth.entra.isSome ∧ auth.permissionsClaimName = "" then "roles" else auth.permissionsClaimName }

theorem buildAuthKeySourceURIs_explicit : buildAuthKeySourceURIs auth (explicitAuth auth) = keyedAuth auth := by
  unfold buildAuthKeySourceURIs keyedAuth wantedKeySourceURIs explicitAuth
  cases auth.entra with
  | none =>
    cases auth.jwtKeyProvider with
    | none => simp
    | some p => cases hp : p.refreshInterval <;> simp [hp]
  | some tenantID =>
    cases auth.jwtKeyProvider with
    | none => simp
    | some p => cases hp : p.refreshInterval <;> simp [hp]

theorem modeledAuth_cases :
    modeledAuth auth = keyedAuth auth ∨ modeledAuth auth = applyJWTDefaults auth (keyedAuth auth) := by
  unfold modeledAuth
  rw [buildAuthKeySourceURIs_explicit]
  by_cases hkeys : (keyedAuth auth).keySourceURIs ≠ []
  · exact .inr (if_pos hkeys)
  · exact .inl (if_neg hkeys)

theorem modeledAuth_extraConfig : (modeledAuth auth).extraConfig = none := by
  rcases modeledAuth_cases auth with h | h <;> rw [h] <;> rfl

theorem modeledAuth_keySourceURIs : (modeledAuth auth).keySourceURIs = wantedKeySourceURIs auth := by
  rcases modeledAuth_cases auth with h | h <;> rw [h] <;> rfl

theorem modeledAuth_authorizer {a : String} (ha : auth.authorizer = some a) :
    (modeledAuth auth).emitAuthorizer = true ∧ (modeledAuth auth).authorizer = a := by
  rcases modeledAuth_cases auth with h | h <;> simp [h, applyJWTDefaults, keyedAuth, explicitAuth, ha]

theorem modeledAuth_claimMapper (hset : auth.claimMapper ≠ "") : (modeledAuth auth).claimMapper = auth.claimMapper := by
  rcases modeledAuth_cases auth with h | h <;> simp [h, applyJWTDefaults, keyedAuth, explicitAuth, hset]

theorem modeledAuth_permissionsClaimName (hset : auth.permissionsClaimName ≠ "") :
    (modeledAuth auth).permissionsClaimName = auth.permissionsClaimName := by
  rcases modeledAuth_cases auth with h | h <;> simp [h, applyJWTDefaults, keyedAuth, hset]

end

theorem disjoint_passThrough (cfg : AuthConfig) (extra : Option (List (String × Node))) :
    ∀ key ∈ (modeledEntries (cfg.passThrough extra)).map Prod.fst, key ∉ (extra.getD []).map Prod.fst := by
  intro key hkey hdefined
  rw [mem_keys_iff] at hdefined
  simp only [modeledEntries, optionalEntry, jwtEntries, List.map_append, List.mem_append, mem_keys_entryIf] at hkey
  rcases hkey with ((⟨hset, rfl⟩ | ⟨hset, rfl⟩) | ⟨hset, rfl⟩) | ⟨hset, rfl⟩ <;>
    simp [AuthConfig.passThrough, hdefined] at hset

theorem passthroughWins_modeledAuth (auth : AuthorizationSpec) (extra : Option (List (String × Node))) :
    PassthroughWins auth extra ((modeledAuth auth).passThrough extra) := by
  obtain ⟨hauthorizer, hclaimMapper, hpermissions, hjwt⟩ := lookup_modeledEntries ((modeledAuth auth).passThrough extra)
  refine ⟨rfl, disjoint_passThrough _ _, ?_, ?_, ?_, ?_⟩
  · intro a ha hfree
    rw [mem_keys_iff] at hfree
    rw [hauthorizer]
    simp [AuthConfig.passThrough, hfree, modeledAuth_authorizer auth ha]
  · intro hset hfree
    rw [mem_keys_iff] at hfree
    rw [hclaimMapper]
    simp [AuthConfig.passThrough, hfree, modeledAuth_claimMapper auth hset, hset]
  · intro hset hfree
    rw [mem_keys_iff] at hfree
    rw [hpermissions]
    simp [AuthConfig.passThrough, hfree, modeledAuth_permissionsClaimName auth hset, hset]
  · intro hset hfree
    rw [mem_keys_iff] at hfree
    rw [Node.at?, hjwt]
    simp [AuthConfig.passThrough, hfree, modeledAuth_keySourceURIs, hset, Node.at?]

theorem AuthConfig.passThrough_none {cfg : AuthConfig} (h : cfg.extraConfig = none) : cfg.passThrough none = cfg := by
  cases cfg
  cases h
  rfl

def NothingSet (auth : AuthorizationSpec) (extra : Option (List (String × Node))) : Prop :=
  let cfg := (modeledAuth auth).passThrough extra
  cfg.emitAuthorizer = false ∧ cfg.claimMapper = "" ∧ wantedKeySourceURIs auth = [] ∧ extra = none

instance (auth : AuthorizationSpec) (extra : Option (List (String × Node))) : Decidable (NothingSet auth extra) :=
  decidable_of_iff
    (((modeledAuth auth).passThrough extra).emitAuthorizer = false ∧
      ((modeledAuth auth).passThrough extra).claimMapper = "" ∧ wantedKeySourceURIs auth = [] ∧ extra.isNone = true)
    (by rw [Option.isNone_iff_eq_none]; rfl)

section
variable (lib : YamlLib) {c : Cluster} {auth : AuthorizationSpec} (hauth : c.spec.authorization = some auth)
include hauth

theorem buildAuth_of_decoded {extra : Option (List (String × Node))} (hextra : decodedConfig lib auth = .ok extra) :
    buildAuth lib c = .ok (if NothingSet auth extra then none else some ((modeledAuth auth).passThrough extra)) := by
  have hpass : applyAuthConfigPassthrough lib auth (modeledAuth auth) = .ok ((modeledAuth auth).passThrough extra) := by
    unfold decodedConfig at hextra
    unfold applyAuthConfigPassthrough
    split at hextra
    case isTrue hraw =>
      obtain rfl := Except.ok.inj hextra
      rw [AuthConfig.passThrough_none (modeledAuth_extraConfig auth)]
      exact if_pos hraw
    case isFalse hraw =>
      simp only [hraw, if_false, hextra]
  have hkeys : (buildAuthKeySourceURIs auth (explicitAuth auth)).keySourceURIs = wantedKeySourceURIs auth := by
    rw [buildAuthKeySourceURIs_explicit]
    rfl
  unfold modeledAuth at hpass
  unfold buildAuth
  rw [hauth]
  simp only [decide_eq_true_eq, hpass]
  rw [apply_ite Except.ok]
  refine if_congr ?_ rfl rfl
  simp only [Bool.and_eq_true, Bool.not_eq_true', decide_eq_false_iff_not, decide_eq_true_eq, ne_eq, not_not,
    Option.isNone_iff_eq_none, and_assoc, NothingSet, ← hkeys]
  exact Iff.rfl

theorem buildAuth_of_undecoded {err : String} (herr : decodedConfig lib auth = .error err) :
    buildAuth lib c = .error ("authorization.config: " ++ err) := by
  unfold decodedConfig at herr
  split at herr
  case isTrue => cases herr
  case isFalse hraw =>
    unfold buildAuth applyAuthConfigPassthrough
    rw [hauth]
    simp only [hraw, if_false, herr]

end

/-- **The passthrough wins without duplicates.** With a passthrough that can be decoded there is an answer, a config
whenever the passthrough is a mapping, and in every config that is returned the passthrough wins. -/
theorem passthrough_wins (lib : YamlLib) {c : Cluster} {auth : AuthorizationSpec}
    (hauth : c.spec.authorization = some auth) {extra : Option (List (String × Node))}
    (hextra : decodedConfig lib auth = .ok extra) :
    ∃ r, buildAuth lib c = .ok r ∧ (extra.isSome → r.isSome) ∧ ∀ cfg ∈ r, PassthroughWins auth extra cfg := by
  refine ⟨_, buildAuth_of_decoded lib hauth hextra, ?_⟩
  split
  case isTrue hnone =>
    refine ⟨fun hsome => ?_, nofun⟩
    rw [hnone.2.2.2] at hsome
    cases hsome
  case isFalse =>
    refine ⟨fun _ => rfl, ?_⟩
    rintro cfg ⟨⟩
    exact passthroughWins_modeledAuth auth extra

/-- Everything is set, with Entra, and the passthrough takes over the claim mapper. -/
def mappedAuth : AuthorizationSpec where
  authorizer := some ""
  claimMapper := "default"
  permissionsClaimName := "groups"
  jwtKeyProvider := some { keySourceURIs := ["https://example.test/jwks"] }
  entra := some "tenant"
  config := some "claimMapper: custom"

/-- A YAML library that knows the text of `mappedAuth`. -/
def mapperLib : YamlLib where
  unmarshal _ := .ok (some [("claimMapper", text "custom")])
  marshal _ := "claimMapper: custom\n"

theorem passthrough_wins_mapper :
    let c : Cluster := { name := "temporal", spec := { (searchAt "es" none).spec with authorization := some mappedAuth } }
    ∃ cfg, buildAuth mapperLib c = .ok (some cfg) ∧
      PassthroughWins mappedAuth (some [("claimMapper", text "custom")]) cfg := by
  intro c
  have hauth : c.spec.authorization = some mappedAuth := rfl
  have hextra : decodedConfig mapperLib mappedAuth = .ok (some [("claimMapper", text "custom")]) := rfl
  obtain ⟨r, hr, hsome, hwins⟩ := passthrough_wins mapperLib hauth hextra
  obtain ⟨cfg, rfl⟩ := Option.isSome_iff_exists.mp (hsome rfl)
  exact ⟨cfg, hr, hwins cfg rfl⟩

end TemporalOperator.Config
