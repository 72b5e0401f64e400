import TemporalOperator.Cluster.Resources

/-!
# The UI

`internal/resources/ui.go`: the environment of the UI's container and the Deployment. The entries of `ui.auth.extraEnv`
come from a Go map, so that they are appended in any order.

* `uiEnv` : the environment, for one order of the extra entries;
* `envValue` : the value a container sees for a variable, the last one that is listed;
* `envValue_uiEnv_serverName` : the name under which the UI verifies the frontend.
-/

namespace TemporalOperator
open Lib Persistence

def uiPort : Int := 8080

def uiClientCertDir : String := "/etc/temporal/certs/ui-client"

def uiImage (c : Cluster) : String :=
  let version := (c.spec.ui.map UISpec.version).getD ""
  "temporalio/ui:" ++ if version = "" then defaultUIVersion supportedVersions c.spec.version else version

/-- The entries of `ui.auth.extraEnv`; one that does not decode is ignored. -/
def UIAuthSpec.extraEntries (a : UIAuthSpec) : List (String × String) :=
  match a.extraEnv with
  | some (.entries env) => env
  | _ => []

/-! ## The environment -/

/-- The name the frontend's Service has in the cluster's namespace. -/
def frontendHost (c : Cluster) : String := frontendServiceName c.name ++ "." ++ c.namespace_ ++ ".svc"

def uiTLSEnv (c : Cluster) : List (String × EnvValue) :=
  if mTLSEnabled c.spec then
    [("TEMPORAL_TLS_CA", .text (uiClientCertDir ++ "/ca.crt")),
      ("TEMPORAL_TLS_CERT", .text (uiClientCertDir ++ "/tls.crt")),
      ("TEMPORAL_TLS_KEY", .text (uiClientCertDir ++ "/tls.key")),
      ("TEMPORAL_TLS_ENABLE_HOST_VERIFICATION", .text "true"),
      ("TEMPORAL_TLS_SERVER_NAME", .text (frontendHost c))]
  else []

def uiProviderURL (a : UIAuthSpec) : String :=
  match a.entra with
  | some tenantID => "https://login.microsoftonline.com/" ++ tenantID ++ "/v2.0"
  | none => a.providerURL

def uiAuthEnv (a : UIAuthSpec) (extra : List (String × String)) : List (String × EnvValue) :=
  let scopes := if a.scopes = [] then ["openid", "profile", "email"] else a.scopes
  [("TEMPORAL_AUTH_ENABLED", .text "true"),
    ("TEMPORAL_AUTH_TYPE", .text "oidc"),
    ("TEMPORAL_AUTH_PROVIDER_URL", .text (uiProviderURL a)),
    ("TEMPORAL_AUTH_CLIENT_ID", .text a.clientID),
    ("TEMPORAL_AUTH_SCOPES", .text (",".intercalate scopes)),
    ("TEMPORAL_AUTH_CALLBACK_URL", .text a.callbackURL)] ++
  (a.clientSecretRef.map fun name =>
    ("TEMPORAL_AUTH_CLIENT_SECRET", .secretKeyRef name (defaultKey a.clientSecretKey))).toList ++
  extra.map fun (name, value) => (name, .text value)

/-- `ui.auth`, when it is enabled. -/
def uiAuth (spec : ClusterSpec) : Option UIAuthSpec := (spec.ui.bind UISpec.auth).filter (·.enabled)

/-- `extra` has the entries of `ui.auth.extraEnv` in the order they come in. -/
def uiEnv (c : Cluster) (extra : List (String × String)) : List (String × EnvValue) :=
  [("TEMPORAL_ADDRESS", .text (frontendHost c ++ ":" ++ toString (servicePort .frontend).grpcPort)),
    ("TEMPORAL_UI_PORT", .text (toString uiPort))] ++
  uiTLSEnv c ++
  ((c.spec.ui.bind UISpec.codecServer).map fun endpoint => ("TEMPORAL_CODEC_ENDPOINT", .text endpoint)).toList ++
  match uiAuth c.spec with
  | some a => uiAuthEnv a extra
  | none => []

/-- The extra entries of the spec. -/
def uiExtraEnv (spec : ClusterSpec) : List (String × String) := (uiAuth spec).elim [] UIAuthSpec.extraEntries

/-! ## The Deployment -/

/-- `BuildUIDeployment`, for one order of the extra entries. -/
def buildUIDeploymentIn (c : Cluster) (extra : List (String × String)) : Deployment :=
  let probe : Probe := { handler := .httpGet "/" uiPort }
  let certs := mTLSEnabled c.spec
  let container : Container :=
    { name := "ui"
      image := uiImage c
      env := uiEnv c extra
      ports := [("http", uiPort)]
      livenessProbe := some probe
      readinessProbe := some probe
      volumeMounts :=
        if certs then [{ name := "ui-client-certs", mountPath := uiClientCertDir, readOnly := true }] else [] }
  { replicas := some ((c.spec.ui.bind UISpec.replicas).getD 1)
    selector := selectorLabels c "ui"
    template :=
      { labels := standardLabels c "ui"
        spec :=
          { imagePullSecrets := c.spec.imagePullSecrets
            containers := [container]
            volumes :=
              if certs then [{ name := "ui-client-certs", source := .secret (uiClientCertName c.name) }] else [] } } }

/-- The UI's Deployment, with the extra entries in the order in which they are written. -/
def buildUIDeployment (c : Cluster) : Deployment := buildUIDeploymentIn c (uiExtraEnv c.spec)

/-! ## Variables -/

/-- The value of a variable in a container: the last entry for it wins. -/
def envValue (env : List (String × EnvValue)) (name : String) : Option EnvValue := env.reverse.lookup name

/-- With mTLS the UI verifies the frontend under its name in the namespace, when no variable is listed twice. -/
theorem envValue_uiEnv_serverName {c : Cluster} (hmtls : mTLSEnabled c.spec = true) {extra : List (String × String)}
    (hnodup : ((uiEnv c extra).map Prod.fst).Nodup) :
    envValue (uiEnv c extra) "TEMPORAL_TLS_SERVER_NAME" = some (.text (frontendHost c)) := by
  have hmem : ("TEMPORAL_TLS_SERVER_NAME", EnvValue.text (frontendHost c)) ∈ uiEnv c extra := by
    simp [uiEnv, uiTLSEnv, hmtls]
  exact lookup_reverse_of_mem hnodup hmem

end TemporalOperator
