import TemporalOperator.Cluster.Effects
import TemporalOperator.Config.Template
import TemporalOperator.DynamicConfig
import TemporalOperator.Persistence.Backend

/-!
# The environment of a pass

What the API server, the datastores and cert-manager answer in one pass, and what the service stage of the controller
reads from it before it builds anything: `renderConfig` of `temporalcluster_services.go`, `mtlsMounts` and `certHash` of
`temporalcluster_mtls.go`.

* `PassEnv` : the answers of one pass;
* `renderConfig` : the server config and the dynamic config;
* `certHash` : the hash over the certificate Secrets; `mtlsMounts` : the Secrets a pod mounts.
-/

namespace TemporalOperator
open Lib Persistence

/-! ## Answers -/

/-- The answers to the calls about one schema Job. -/
structure JobIO where
  get : Except GoErr Job := .error ⟨.notFound, "not found"⟩
  createErr : Option GoErr := none
  deleteErr : Option GoErr := none

/-- The answers to the calls that remove a stale inspector Job. -/
structure DeleteIO where
  getErr : Option GoErr := none
  deleteErr : Option GoErr := none

inductive CertificateName
  | internode
  | frontend
  deriving DecidableEq, Repr

/-- What a Secret is read for. -/
inductive SecretRead
  | credential (store : SchemaStore)
  | certificate (name : CertificateName)
  deriving DecidableEq, Repr

/-- A patch is not merged into a pod spec, or the outcome is not one. -/
inductive MergeErr
  | patch (e : GoErr)
  | unmarshal (e : GoErr)
  deriving DecidableEq, Repr

def MergeErr.wrapped : MergeErr → GoErr
  | .patch e => e.wrap "applying podTemplate spec patch"
  | .unmarshal e => e.wrap "unmarshaling patched pod spec"

structure PassEnv where
  now : Int := 0
  /-- Reading the cluster object. -/
  getErr : Option GoErr := none
  /-- Creating the Azure ServiceAccount. -/
  azureErr : Option GoErr := none
  store : SchemaStore → StoreIO := fun _ => {}
  schemaJob : SchemaStore → SchemaAction → JobIO := fun _ _ => {}
  staleInspector : SchemaStore → DeleteIO := fun _ => {}
  /-- `strategicpatch.StrategicMergePatch` on a pod spec. -/
  merge : PodSpec → String → Except MergeErr PodSpec := fun spec _ => .ok spec
  /-- The `Ready` conditions of a Certificate, with their reasons. -/
  certificate : CertificateName → Except GoErr (List (ConditionStatus × String)) := fun _ => .ok []
  /-- The Deployment of a service when `serviceRolledOut` reads it. -/
  rollout : Service → Except GoErr Deployment := fun _ => .error ⟨.notFound, "not found"⟩
  /-- A Secret that a pass reads while it deploys the services. -/
  secret : SecretRead → Except GoErr Secret := fun _ => .error ⟨.notFound, "not found"⟩
  printTable : PrintTable := .asciiOnly
  yaml : Config.YamlLib := { unmarshal := fun _ => .ok none, marshal := fun _ => "" }
  /-- The first 16 hexadecimal digits of the SHA-256 sum of a text. -/
  hash : String → String := fun _ => "0000000000000000"
  applyErr : Planned → Option GoErr := fun _ => none
  /-- The Deployment of a service when `rollupServiceStatus` reads it. -/
  rollup : Service → Except GoErr Deployment := fun _ => .error ⟨.notFound, "not found"⟩
  serviceMonitorCRDInstalled : Bool := false
  /-- `Status().Update`. -/
  statusErr : Option GoErr := none

/-! ## Name builders -/

def deploymentName (clusterName component : String) : String := clusterName ++ "-" ++ component

def headlessServiceName (clusterName component : String) : String := clusterName ++ "-" ++ component ++ "-headless"

def frontendServiceName (clusterName : String) : String := clusterName ++ "-frontend"

def pdbName (clusterName component : String) : String := clusterName ++ "-" ++ component

def configSecretName (clusterName : String) : String := clusterName ++ "-config"

def dynamicConfigMapName (clusterName : String) : String := clusterName ++ "-dynamicconfig"

def internodeCertName (clusterName : String) : String := clusterName ++ "-internode"

def frontendCertName (clusterName : String) : String := clusterName ++ "-frontend-tls"

def uiName (clusterName : String) : String := clusterName ++ "-ui"

def uiClientCertName (clusterName : String) : String := clusterName ++ "-ui-client"

def schemaJobName (clusterName : String) (store : SchemaStore) (action : SchemaAction) : String :=
  clusterName ++ "-schema-" ++ store.text ++ "-" ++ action.text

def inspectorJobName (clusterName : String) (store : SchemaStore) : String :=
  clusterName ++ "-inspect-" ++ store.text

/-! ## Rendering -/

def azureWorkloadIdentityEnabled (spec : ClusterSpec) : Bool := spec.persistence.azureWorkloadIdentity.isSome

def azurePasswordCommand : String := "until [ -s /azure/pgpass ]; do sleep 1; done; cat /azure/pgpass"

structure RenderedConfig where
  config : String
  dynamicConfig : List (String × List DynamicConfigEntry)

/-- The options `renderConfig` passes to `RenderClusterConfig`. -/
def buildOptions (c : Cluster) (defCred visCred : ResolvedCredential) : Config.BuildOptions where
  defaultStorePassword := defCred.password
  visibilityStorePassword := visCred.password
  defaultStorePasswordCommand :=
    if azureWorkloadIdentityEnabled c.spec then .ofString azurePasswordCommand else defCred.passwordCommand
  visibilityStorePasswordCommand :=
    if azureWorkloadIdentityEnabled c.spec then .ofString azurePasswordCommand else visCred.passwordCommand
  publicClientHostPort := .ofString (frontendServiceName c.name ++ "." ++ c.namespace_ ++ ".svc:" ++
    toString Config.defaultServices.frontend.grpcPort)

/-- `RenderDynamicConfig` on the spec; a nil spec renders an empty document. -/
def dynamicConfigDocument (spec : ClusterSpec) : Except String (List (String × List DynamicConfigEntry)) :=
  match spec.dynamicConfig with
  | none => .ok []
  | some dc => renderDynamicConfig supportedVersions dc spec.version

def renderConfig (env : PassEnv) (c : Cluster) : Except GoErr RenderedConfig := do
  let defCred ← (resolveStore c.namespace_ (env.secret (.credential .default)) c.spec.persistence.defaultStore).mapError
    fun e => e.wrap "resolving default store credential"
  let visCred ← (resolveStore c.namespace_ (env.secret (.credential .visibility))
    c.spec.persistence.visibilityStore).mapError fun e => e.wrap "resolving visibility store credential"
  let config ← (Config.renderClusterConfig env.printTable env.yaml c (buildOptions c defCred visCred)).mapError
    fun e => goErr ("rendering config: " ++ e)
  let dynamicConfig ← (dynamicConfigDocument c.spec).mapError fun e => goErr ("rendering dynamic config: " ++ e)
  return { config := config, dynamicConfig := dynamicConfig }

/-! ## Certificate Secrets -/

def mTLSEnabled (spec : ClusterSpec) : Bool :=
  match spec.mtls with
  | some mtls => mtls.provider = "cert-manager"
  | none => false

def CertificateName.secretName (clusterName : String) : CertificateName → String
  | .internode => internodeCertName clusterName
  | .frontend => frontendCertName clusterName

/-- What `certHash` writes for one Secret: nothing when it is not there; any other failed read gives up. -/
def certHashPart (env : PassEnv) (clusterName : String) (name : CertificateName) : Option String :=
  match env.secret (.certificate name) with
  | .ok secret => some (name.secretName clusterName ++ secret.resourceVersion)
  | .error e => if e.cause = .notFound then some "" else none

def certHashInput (env : PassEnv) (clusterName : String) : List CertificateName → Option String
  | [] => some ""
  | name :: names => do
    let part ← certHashPart env clusterName name
    let rest ← certHashInput env clusterName names
    return part ++ rest

def certHash (env : PassEnv) (clusterName : String) : String :=
  match certHashInput env clusterName [.internode, .frontend] with
  | some input => env.hash input
  | none => ""

structure MTLSMounts where
  enabled : Bool
  internodeSecret : String
  frontendSecret : String
  certHash : String
  deriving DecidableEq, Repr

def mtlsMounts (env : PassEnv) (c : Cluster) : Option MTLSMounts :=
  if mTLSEnabled c.spec then
    some
      { enabled := true
        internodeSecret := internodeCertName c.name
        frontendSecret := frontendCertName c.name
        certHash := certHash env c.name }
  else none

end TemporalOperator
