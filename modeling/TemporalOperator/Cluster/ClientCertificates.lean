import TemporalOperator.Cluster.TLSFiles
import TemporalOperator.Target

/-!
# Client certificates

`internal/resources/clientcert.go`: the certificates of cluster clients, which applications use. Such a certificate is
signed by the issuer of the cluster's mTLS.

* `buildClientCertificate` : the Certificate;
* `FrontendTrusts` : a frontend accepts its bearer and is accepted by it; `client_trusted`.
-/

namespace TemporalOperator
open Lib

/-- What the builder reads of a cluster client; `secretName` is the one of its spec. -/
structure TemporalClusterClient where
  name : String
  namespace_ : String := "default"
  secretName : String := ""

def clientSecretName (cc : TemporalClusterClient) : String :=
  if cc.secretName ≠ "" then cc.secretName else cc.name

/-- The client Certificate; the controller asks for one only when the cluster has an issuer. -/
def buildClientCertificate (cc : TemporalClusterClient) (cluster : Cluster) : Option Certificate := do
  let mtls ← cluster.spec.mtls
  let issuer ← mtls.issuerRef
  return {
    name := cc.name
    namespace_ := cc.namespace_
    labels :=
      [("app.kubernetes.io/name", "temporal"), ("app.kubernetes.io/instance", cluster.name),
        ("app.kubernetes.io/component", "client"), ("app.kubernetes.io/managed-by", "temporal-operator"),
        ("temporal.bmor10.com/cluster", cluster.name)]
    secretName := clientSecretName cc
    commonName := cc.name
    dnsNames := []
    duration := none
    renewBefore := none
    issuerRef := issuerRef mtls issuer
    usages := [.clientAuth] }

theorem buildClientCertificate_eq_some {cc : TemporalClusterClient} {cluster : Cluster} {cert : Certificate}
    (h : buildClientCertificate cc cluster = some cert) :
    cert.namespace_ = cc.namespace_ ∧ cert.usages = [.clientAuth] ∧
      ∃ mtls issuer, cluster.spec.mtls = some mtls ∧ mtls.issuerRef = some issuer ∧
        cert.issuerRef = issuerRef mtls issuer := by
  unfold buildClientCertificate at h
  obtain ⟨mtls, hmtls, h⟩ := Option.bind_eq_some_iff.mp h
  obtain ⟨issuer, hissuer, h⟩ := Option.bind_eq_some_iff.mp h
  obtain rfl := Option.some.inj h
  exact ⟨rfl, rfl, mtls, issuer, hmtls, hissuer, rfl⟩

/-! ## The frontend and its clients -/

/-- Two Certificates are signed by one issuer, which is looked up in the namespace of the Certificate. -/
def SameIssuer (cert cert' : Certificate) : Prop :=
  cert.issuerRef = cert'.issuerRef ∧ cert.namespace_ = cert'.namespace_

/-- A client that bears `cert` and the frontend in a pod accept each other: the pod takes the CA for its clients from the
Secret of a Certificate of the same issuer, and the one it presents is of the same issuer, for servers, and for the host
that clients connect to. -/
structure FrontendTrusts (cluster : Cluster) (pod : PodSpec) (mtls : Config.MTLSConfig) (cert : Certificate) : Prop where
  required : mtls.requireClientAuth = true
  clientAuth : .clientAuth ∈ cert.usages
  clientCA : ∃ internode, buildInternodeCertificate cluster = some internode ∧
    FileFrom pod mtls.internodeClientCA internode.secretName ∧ SameIssuer internode cert
  server : ∃ frontend, buildFrontendCertificate cluster = some frontend ∧
    FileFrom pod mtls.frontendServerCert frontend.secretName ∧ SameIssuer frontend cert ∧
    .serverAuth ∈ frontend.usages ∧ ∃ host ∈ frontend.dnsNames, frontendAddress cluster = host ++ ":7233"

theorem frontendAddress_eq (cluster : Cluster) : frontendAddress cluster = frontendHost cluster ++ ":7233" := by
  have hname : "-frontend." = "-frontend" ++ "." := by decide
  have hport : ".svc:7233" = ".svc" ++ ":7233" := by decide
  unfold frontendAddress frontendHost frontendServiceName
  rw [hname, hport]
  simp only [String.append_assoc]

theorem buildServerCertificate_issuer {c : Cluster} {name component commonName : String}
    {dnsNames : MTLSSpec → List String} {cert : Certificate}
    (h : buildServerCertificate c name component commonName dnsNames = some cert) {mtls : MTLSSpec} {issuer : String}
    (hmtls : c.spec.mtls = some mtls) (hissuer : mtls.issuerRef = some issuer) :
    cert.issuerRef = issuerRef mtls issuer ∧ cert.namespace_ = c.namespace_ ∧
      cert.usages = [.serverAuth, .clientAuth] := by
  rw [buildServerCertificate, hmtls, Option.bind_eq_bind, Option.bind_some, hissuer] at h
  obtain rfl := Option.some.inj h
  exact ⟨rfl, rfl, rfl⟩

/-- **The frontend accepts its clients and they accept it.** For an admitted cluster with cert-manager, and overrides that
keep the mounts of the certificates, every frontend pod that any pass applies, with any rendered config, trusts the
bearer of the Certificate of a client in the cluster's namespace and is trusted by it under the address that the operator
publishes. -/
theorem client_trusted {env : PassEnv} {patchOf : String → ServerPatch} {cluster : Cluster}
    (hmerges : MergesServer env.merge patchOf) (hadmitted : ClusterWebhook.validateSpec cluster.spec = [])
    (hmtls : mTLSEnabled cluster.spec = true) (hkeeps : OverridesKeepCertificates patchOf cluster)
    {cc : TemporalClusterClient} (hns : cc.namespace_ = cluster.namespace_) {cert : Certificate}
    (hcert : buildClientCertificate cc cluster = some cert) {lib : Config.YamlLib} {opts : Config.BuildOptions}
    {d : Config.ConfigData} (hd : Config.buildConfigData lib cluster opts = .ok d) {s : Service} {v : String}
    {dep : Deployment} (happlied : Event.applied (.deployment s v dep) ∈ (reconcile env cluster).log)
    (hs : servesFrontend s = true) : FrontendTrusts cluster dep.template.spec d.mtls cert := by
  obtain ⟨hclientNs, husages, mtls, issuer, hspec, hissuer, hclient⟩ := buildClientCertificate_eq_some hcert
  obtain ⟨internode, hinternode, hinternodeSecret, -⟩ := buildCertificate_ok hadmitted hmtls .internode
  obtain ⟨frontend, hfrontend, hfrontendSecret, -, hhost⟩ := buildCertificate_ok hadmitted hmtls .frontend
  obtain ⟨hiIssuer, hiNs, -⟩ := buildServerCertificate_issuer hinternode hspec hissuer
  obtain ⟨hfIssuer, hfNs, hfUsages⟩ := buildServerCertificate_issuer hfrontend hspec hissuer
  have hclientNs' : cert.namespace_ = cluster.namespace_ := hclientNs.trans hns
  rw [(Config.buildConfigData_eq_ok hd).mtls]
  refine ⟨?_, ?_, ⟨internode, hinternode, ?_, hiIssuer.trans hclient.symm, hiNs.trans hclientNs'.symm⟩,
    ⟨frontend, hfrontend, ?_, ⟨hfIssuer.trans hclient.symm, hfNs.trans hclientNs'.symm⟩, ?_, frontendHost cluster,
      (hhost rfl).1, frontendAddress_eq cluster⟩⟩
  · rw [Config.buildMTLS, hspec]
  · rw [husages]
    exact List.mem_singleton_self _
  · rw [hinternodeSecret]
    exact applied_certificateFiles hmerges hkeeps hmtls .internode happlied rfl _ (by simp [certificateFiles])
  · rw [hfrontendSecret]
    exact applied_certificateFiles hmerges hkeeps hmtls .frontend happlied hs _ (by simp [certificateFiles])
  · rw [hfUsages]
    exact List.mem_cons_self

/-- A client of a cluster whose servers all have plugins mounted by a patch. -/
theorem client_trusted_plugins :
    let c := withPluginsPatch (issuedCluster "1.31.0")
    let env : PassEnv := { certifiedReads with merge := addPlugins }
    ∃ cert dep, buildClientCertificate { name := "worker" } c = some cert ∧
      Event.applied (.deployment .frontend "1.31.0" dep) ∈ (reconcile env c).log ∧
      FrontendTrusts c dep.template.spec (Config.buildMTLS c) cert := by
  intro c env
  have hadmitted : ClusterWebhook.validateSpec c.spec = [] := by decide +kernel
  obtain ⟨d, hd⟩ : ∃ d, Config.buildConfigData env.yaml c {} = .ok d := ⟨_, rfl⟩
  obtain ⟨dep, hdep⟩ : ∃ dep, Event.applied (.deployment .frontend "1.31.0" dep) ∈ (reconcile env c).log :=
    appliesAt_mem (by decide +kernel)
  obtain ⟨cert, hcert⟩ : ∃ cert, buildClientCertificate { name := "worker" } c = some cert :=
    ⟨_, rfl⟩
  refine ⟨cert, dep, hcert, hdep, ?_⟩
  rw [← (Config.buildConfigData_eq_ok hd).mtls]
  exact client_trusted addPlugins_mergesServer hadmitted (by decide) (addPlugins_keepsCertificates _) rfl hcert hd hdep
    rfl

end TemporalOperator
