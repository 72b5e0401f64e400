import TemporalOperator.Cluster.Reconcile
import TemporalOperator.Cluster.UI
import TemporalOperator.Target

/-!
# Certificates and their Secrets

`internal/resources/certificates.go`: the Certificates of a cluster with mTLS.

* `buildCertificate` : the internode and the frontend Certificate;
* `clusterTLSConfig_serverName` : the name under which the operator's client verifies the frontend.
-/

namespace TemporalOperator
open Lib Persistence

/-! ## Builders -/

structure IssuerReference where
  name : String
  kind : String
  group : String
  deriving DecidableEq, Repr

inductive KeyUsage
  | serverAuth
  | clientAuth
  deriving DecidableEq, Repr

structure Certificate where
  name : String
  namespace_ : String
  labels : List (String × String)
  secretName : String
  commonName : String
  dnsNames : List String
  duration : Option Int
  renewBefore : Option Int
  issuerRef : IssuerReference
  usages : List KeyUsage
  deriving DecidableEq, Repr

def issuerRef (mtls : MTLSSpec) (name : String) : IssuerReference :=
  { name := name
    kind := if mtls.issuerKind = "" then "Issuer" else mtls.issuerKind
    group := if mtls.issuerGroup = "" then "cert-manager.io" else mtls.issuerGroup }

def serviceDNSNames (c : Cluster) (component : String) : List String :=
  let headless := headlessServiceName c.name component
  [headless ++ "." ++ c.namespace_ ++ ".svc.cluster.local",
    headless ++ "." ++ c.namespace_ ++ ".svc",
    "*." ++ headless ++ "." ++ c.namespace_ ++ ".svc.cluster.local"]

/-- What the builders of the two server Certificates share. There is none without an issuer, where they dereference a
nil pointer. -/
def buildServerCertificate (c : Cluster) (name component commonName : String) (dnsNames : MTLSSpec → List String) :
    Option Certificate := do
  let mtls ← c.spec.mtls
  let issuer ← mtls.issuerRef
  return {
    name := name
    namespace_ := c.namespace_
    labels := standardLabels c component
    secretName := name
    commonName := commonName
    dnsNames := dnsNames mtls
    duration := mtls.refreshInterval
    renewBefore := mtls.renewBefore
    issuerRef := issuerRef mtls issuer
    usages := [.serverAuth, .clientAuth] }

theorem buildServerCertificate_of_issuer {c : Cluster} {mtls : MTLSSpec} {issuer : String}
    (hmtls : c.spec.mtls = some mtls) (hissuer : mtls.issuerRef = some issuer) (name component commonName : String)
    (dnsNames : MTLSSpec → List String) :
    ∃ cert, buildServerCertificate c name component commonName dnsNames = some cert ∧ cert.secretName = name ∧
      cert.dnsNames = dnsNames mtls := by
  unfold buildServerCertificate
  rw [hmtls, Option.bind_eq_bind, Option.bind_some, hissuer]
  exact ⟨_, rfl, rfl, rfl⟩

def buildInternodeCertificate (c : Cluster) : Option Certificate :=
  buildServerCertificate c (internodeCertName c.name) "internode" (c.name ++ "-internode") fun _ =>
    internodeCertName c.name :: (enabledServices c.spec).flatMap fun svc => serviceDNSNames c svc.name.name

def buildFrontendCertificate (c : Cluster) : Option Certificate :=
  buildServerCertificate c (frontendCertName c.name) "frontend" (c.name ++ "-frontend") fun mtls =>
    [frontendHost c ++ ".cluster.local", frontendHost c] ++ mtls.frontend.getD []

def buildCertificate (c : Cluster) : CertificateName → Option Certificate
  | .internode => buildInternodeCertificate c
  | .frontend => buildFrontendCertificate c

/-! ## The operator's client -/

theorem clusterTLSConfig_serverName {lib : CertLib} {read : Except GoErr Secret} {c : Cluster} {cfg : TLSClientConfig}
    (h : clusterTLSConfig lib read c = .ok (some cfg)) : cfg.serverName = frontendHost c ++ ".cluster.local" := by
  unfold clusterTLSConfig at h
  split at h
  · cases h
  · dsimp only at h
    split at h
    · cases h
    · split at h
      · cases h
      · split at h
        · cases h
        · obtain rfl := Option.some.inj (Except.ok.inj h)
          simp [frontendHost, String.append_assoc]

end TemporalOperator
