import TemporalOperator.Cluster.Resources
import TemporalOperator.Lib.GoFlag
import TemporalOperator.Lib.GoUrl

/-!
# The arguments of the inspector Job

`internal/resources/inspectorjob.go`, `cmd/inspect.go` and `BuildPostgresDSN` of `internal/persistence/sql.go`: the
operator hands the spec of a SQL store to the inspector Job as arguments, the command `inspect` reads them back into a
spec, and connects with the string built from it.

* `inspectorArgs`, `runInspect` : the arguments and how they are read; `buildPostgresDSN` : the connection string;
* `runInspect_inspectorArgs` : every spec is read back, except for the details of its TLS;
* `inspector_connects_iff` : the Job connects as the operator would unless the spec asks to verify the host.
-/

namespace TemporalOperator
open Lib Persistence

/-! ## The connection string -/

def sslmode (spec : SQLDatastoreSpec) : String :=
  match spec.tls with
  | some tls => if tls.enabled then if tls.enableHostVerification then "verify-full" else "require" else "disable"
  | none => "disable"

def buildPostgresDSN (spec : SQLDatastoreSpec) (password : GoString) (dbName : String) : String :=
  GoUrl.urlString "postgres" (.ofString spec.user) password (.ofString (spec.host ++ ":" ++ toString spec.port))
    (.ofString ("/" ++ if dbName = "" then spec.database else dbName)) (GoUrl.encodeQuery "sslmode" (sslmode spec))

/-! ## The Job -/

def azureTokenFile : String := "/azure/pgpass"

def inspectorArgs (spec : SQLDatastoreSpec) : List String :=
  ["inspect",
    "--host", spec.host,
    "--port", toString spec.port,
    "--db", spec.database,
    "--user", spec.user,
    "--plugin", spec.pluginName,
    "--password-file", azureTokenFile] ++
  if spec.tls.any (·.enabled) then ["--tls"] else []

/-- `BuildInspectorJob`; the controller asks for this Job only with Azure Workload Identity. -/
def buildInspectorJob (c : Cluster) (store : SchemaStore) (spec : SQLDatastoreSpec) (operatorImage : String) : Job :=
  let labels :=
    [("app.kubernetes.io/name", "temporal"), ("app.kubernetes.io/instance", c.name),
      ("app.kubernetes.io/component", "inspector"), ("app.kubernetes.io/managed-by", "temporal-operator"),
      ("temporal.bmor10.com/store", store.text)]
  let tmpl : PodTemplate :=
    { labels := labels
      spec :=
        { imagePullSecrets := c.spec.imagePullSecrets
          containers := [{ name := "inspect", image := operatorImage, args := inspectorArgs spec }] } }
  { name := inspectorJobName c.name store
    namespace_ := c.namespace_
    labels := labels
    backoffLimit := 0
    ttlSecondsAfterFinished := 300
    template :=
      match c.spec.persistence.azureWorkloadIdentity with
      | some wi => applyAzureSchemaWorkloadIdentity c wi tmpl "inspect"
      | none => tmpl }

theorem buildInspectorJob_args {c : Cluster} {store : SchemaStore} {spec : SQLDatastoreSpec} {operatorImage : String} :
    ∀ container ∈ (buildInspectorJob c store spec operatorImage).containers, container.args = inspectorArgs spec := by
  intro container h
  unfold buildInspectorJob Job.containers at h
  cases hwi : c.spec.persistence.azureWorkloadIdentity with
  | none =>
    simp only [hwi] at h
    obtain rfl := List.mem_singleton.mp h
    rfl
  | some wi =>
    simp only [hwi] at h
    obtain rfl := List.mem_singleton.mp h
    rfl

/-! ## The command -/

/-- `strings.TrimSpace`; a byte that is part of no rune is not a space. -/
def trimSpace (s : GoString) : GoString :=
  let isSpace : GoChar → Bool
    | .rune c => GoText.isSpace c
    | .byte _ => false
  ((s.dropWhile isSpace).reverse.dropWhile isSpace).reverse

def inspectFlags : GoFlag.FlagSet :=
  [("host", .string ""), ("port", .int 5432), ("db", .string ""), ("user", .string ""),
    ("plugin", .string "postgres12"), ("tls", .bool false), ("password-file", .string ""),
    ("termination-path", .string "/dev/termination-log")]

structure InspectFlags where
  host : String
  port : Int
  db : String
  user : String
  plugin : String
  tls : Bool
  passwordFile : String
  terminationPath : String
  deriving DecidableEq, Repr

def stringFlag (fs : GoFlag.FlagSet) (name : String) : String :=
  match fs.lookup name with
  | some (.string s) => s
  | _ => ""

def intFlag (fs : GoFlag.FlagSet) (name : String) : Int :=
  match fs.lookup name with
  | some (.int n) => n
  | _ => 0

def boolFlag (fs : GoFlag.FlagSet) (name : String) : Bool :=
  match fs.lookup name with
  | some (.bool b) => b
  | _ => false

def InspectFlags.read (fs : GoFlag.FlagSet) : InspectFlags where
  host := stringFlag fs "host"
  port := intFlag fs "port"
  db := stringFlag fs "db"
  user := stringFlag fs "user"
  plugin := stringFlag fs "plugin"
  tls := boolFlag fs "tls"
  passwordFile := stringFlag fs "password-file"
  terminationPath := stringFlag fs "termination-path"

/-- The spec `InspectSQL` is called with; the port is cut to 32 bits. -/
def InspectFlags.spec (f : InspectFlags) : SQLDatastoreSpec :=
  { pluginName := f.plugin
    host := f.host
    port := f.port.bmod (2 ^ 32)
    user := f.user
    database := f.db
    tls := if f.tls then some { enabled := true } else none }

inductive InspectExit
  /-- Exit code 2: the arguments were not understood. -/
  | usage
  /-- Exit code 1, with this result written. -/
  | unreadable (terminationPath : String) (result : InspectResult)
  /-- Exit code 0, with the result of `InspectSQL(spec, password, dbName)` written. -/
  | inspected (terminationPath : String) (spec : SQLDatastoreSpec) (password : GoString) (dbName : String)
  deriving DecidableEq, Repr

def runInspect (readFile : String → Except String GoString) (args : List String) : InspectExit :=
  match GoFlag.parse inspectFlags args with
  | .error _ => .usage
  | .ok (fs, _) =>
    let f := InspectFlags.read fs
    match readFile f.passwordFile with
    | .error e => .unreadable f.terminationPath { reachable := false, error := "reading password file: " ++ e }
    | .ok pw => .inspected f.terminationPath f.spec (trimSpace pw) f.db

/-- `main`, as far as the command `inspect`. -/
def runManager (readFile : String → Except String GoString) (args : List String) : Option InspectExit :=
  match args with
  | "inspect" :: rest => some (runInspect readFile rest)
  | _ => none

/-! ## Read back -/

def PortInRange (spec : SQLDatastoreSpec) : Prop := -2 ^ 31 ≤ spec.port ∧ spec.port < 2 ^ 31

def inspectSettings (spec : SQLDatastoreSpec) : List GoFlag.Setting :=
  [⟨"--host", "host", spec.host, .string spec.host⟩,
    ⟨"--port", "port", toString spec.port, .int spec.port⟩,
    ⟨"--db", "db", spec.database, .string spec.database⟩,
    ⟨"--user", "user", spec.user, .string spec.user⟩,
    ⟨"--plugin", "plugin", spec.pluginName, .string spec.pluginName⟩,
    ⟨"--password-file", "password-file", azureTokenFile, .string azureTokenFile⟩]

theorem inspectSettings_fit {spec : SQLDatastoreSpec} (hport : PortInRange spec) :
    ∀ s ∈ inspectSettings spec, s.Fits inspectFlags := by
  have hnumber : (GoFlag.Value.int 5432).set (toString spec.port) = some (.int spec.port) := by
    obtain ⟨lo, hi⟩ := hport
    rw [GoFlag.Value.set, GoFlag.parseInt_toString (by omega) (by omega)]
    rfl
  have hclassify : ∀ name ∈ ["host", "port", "db", "user", "plugin", "password-file"],
      GoFlag.classify ("--" ++ name) = .flag name none := by
    decide
  simp only [List.forall_mem_cons] at hclassify
  obtain ⟨hhost, hportFlag, hdb, huser, hplugin, hfile, -⟩ := hclassify
  simp only [inspectSettings, List.forall_mem_cons]
  exact ⟨⟨hhost, _, rfl, rfl, rfl⟩, ⟨hportFlag, _, rfl, rfl, hnumber⟩, ⟨hdb, _, rfl, rfl, rfl⟩,
    ⟨huser, _, rfl, rfl, rfl⟩, ⟨hplugin, _, rfl, rfl, rfl⟩, ⟨hfile, _, rfl, rfl, rfl⟩, by simp⟩

def parsedFlags (spec : SQLDatastoreSpec) : GoFlag.FlagSet :=
  [("host", .string spec.host), ("port", .int spec.port), ("db", .string spec.database), ("user", .string spec.user),
    ("plugin", .string spec.pluginName), ("tls", .bool (spec.tls.any (·.enabled))),
    ("password-file", .string azureTokenFile), ("termination-path", .string "/dev/termination-log")]

theorem parse_inspectorArgs {spec : SQLDatastoreSpec} (hport : PortInRange spec) :
    GoFlag.parse inspectFlags (inspectorArgs spec).tail = .ok (parsedFlags spec, []) := by
  have hargs : (inspectorArgs spec).tail = (inspectSettings spec).flatMap GoFlag.Setting.args ++
      if spec.tls.any (·.enabled) then ["--tls"] else [] := rfl
  rw [hargs, GoFlag.parse_settings (inspectSettings_fit hport)]
  unfold parsedFlags
  cases spec.tls.any (·.enabled) with
  | false => rfl
  | true =>
    have htls : GoFlag.classify "--tls" = .flag "tls" none := by decide
    rw [if_pos rfl, GoFlag.parse_switch htls rfl]
    rfl

/-- The spec that comes out of the arguments. -/
def carriedSpec (spec : SQLDatastoreSpec) : SQLDatastoreSpec :=
  { pluginName := spec.pluginName
    host := spec.host
    port := spec.port
    user := spec.user
    database := spec.database
    tls := if spec.tls.any (·.enabled) then some { enabled := true } else none }

theorem runInspect_of_parse {readFile : String → Except String GoString} {args rest : List String} {fs : GoFlag.FlagSet}
    (h : GoFlag.parse inspectFlags args = .ok (fs, rest)) {pw : GoString}
    (hread : readFile (InspectFlags.read fs).passwordFile = .ok pw) :
    runInspect readFile args = .inspected (InspectFlags.read fs).terminationPath (InspectFlags.read fs).spec
      (trimSpace pw) (InspectFlags.read fs).db := by
  unfold runInspect
  rw [h]
  dsimp only
  rw [hread]

/-- The command reads the arguments of the Job back, whatever the texts in the spec are. -/
theorem runInspect_inspectorArgs {spec : SQLDatastoreSpec} (hport : PortInRange spec)
    {readFile : String → Except String GoString} {pw : GoString} (hread : readFile azureTokenFile = .ok pw) :
    runManager readFile (inspectorArgs spec) =
      some (.inspected "/dev/termination-log" (carriedSpec spec) (trimSpace pw) spec.database) := by
  have hrun : runManager readFile (inspectorArgs spec) = some (runInspect readFile (inspectorArgs spec).tail) := rfl
  have hspec : (InspectFlags.read (parsedFlags spec)).spec = carriedSpec spec := by
    have hcut : spec.port.bmod (2 ^ 32) = spec.port := by
      obtain ⟨lo, hi⟩ := hport
      exact Int.bmod_eq_of_le (by omega) (by omega)
    change { carriedSpec spec with port := spec.port.bmod (2 ^ 32) } = carriedSpec spec
    rw [hcut]
    rfl
  rw [hrun, runInspect_of_parse (parse_inspectorArgs hport) hread, hspec]
  rfl

/-! ## The same connection -/

def VerifiesHost (spec : SQLDatastoreSpec) : Prop :=
  ∃ tls, spec.tls = some tls ∧ tls.enabled = true ∧ tls.enableHostVerification = true

theorem sslmode_carriedSpec (spec : SQLDatastoreSpec) :
    sslmode (carriedSpec spec) = sslmode spec ↔ ¬ VerifiesHost spec := by
  unfold VerifiesHost sslmode carriedSpec
  cases spec.tls with
  | none => simp
  | some tls => cases henabled : tls.enabled <;> cases hverify : tls.enableHostVerification <;> simp [henabled, hverify]

/-- The connection strings agree on everything but the verification of the host. -/
theorem buildPostgresDSN_carriedSpec (spec : SQLDatastoreSpec) (token : GoString) (dbName : String) :
    buildPostgresDSN (carriedSpec spec) token dbName = buildPostgresDSN spec token dbName ↔ ¬ VerifiesHost spec := by
  have hmodes : ∀ m ∈ ["disable", "require", "verify-full"], ∀ m' ∈ ["disable", "require", "verify-full"],
      GoUrl.encodeQuery "sslmode" m = GoUrl.encodeQuery "sslmode" m' → m = m' := by
    decide
  have hmode (spec : SQLDatastoreSpec) : sslmode spec ∈ ["disable", "require", "verify-full"] := by
    unfold sslmode
    split
    · split
      · split <;> simp
      · simp
    · simp
  rw [← sslmode_carriedSpec]
  constructor
  · intro h
    exact hmodes _ (hmode _) _ (hmode _) (GoUrl.urlString_inj_query.mp h)
  · intro h
    rw [buildPostgresDSN, buildPostgresDSN, h]
    rfl

/-- **The inspector Job connects as the operator would**, for every token and database, exactly when the spec does not
ask to verify the host: the arguments of its container are read without an error, and the spec they are read as gives
the connection string of the original. -/
theorem inspector_connects_iff {c : Cluster} {store : SchemaStore} {spec : SQLDatastoreSpec} (hport : PortInRange spec)
    {operatorImage : String} {container : Container}
    (hcontainer : container ∈ (buildInspectorJob c store spec operatorImage).containers)
    {readFile : String → Except String GoString} {pw : GoString} (hread : readFile azureTokenFile = .ok pw) :
    (∃ spec', runManager readFile container.args =
        some (.inspected "/dev/termination-log" spec' (trimSpace pw) spec.database) ∧
      ∀ token dbName, buildPostgresDSN spec' token dbName = buildPostgresDSN spec token dbName) ↔
    ¬ VerifiesHost spec := by
  rw [buildInspectorJob_args container hcontainer, runInspect_inspectorArgs hport hread]
  constructor
  · rintro ⟨spec', hspec', hsame⟩
    obtain ⟨-, rfl, -, -⟩ := InspectExit.inspected.inj (Option.some.inj hspec')
    exact (buildPostgresDSN_carriedSpec spec [] "").mp (hsame [] "")
  · intro hno
    exact ⟨carriedSpec spec, rfl, fun token dbName => (buildPostgresDSN_carriedSpec spec token dbName).mpr hno⟩

def tokenFile (_ : String) : Except String GoString := .ok (.ofString "token")

def azureCluster (spec : SQLDatastoreSpec) : Cluster :=
  let store : DatastoreSpec := { sql := some spec }
  { name := "temporal"
    spec :=
      { version := "1.31.0"
        persistence :=
          { defaultStore := store, visibilityStore := store, azureWorkloadIdentity := some { clientID := "id" } } } }

/-- A user whose name begins with a dash, and no host. -/
theorem inspector_connects_dashed :
    let spec : SQLDatastoreSpec := { user := "--tls", database := "temporal", tls := some {} }
    ∃ container ∈ (buildInspectorJob (azureCluster spec) .default spec "operator").containers,
      ∃ spec', runManager tokenFile container.args =
          some (.inspected "/dev/termination-log" spec' (trimSpace (.ofString "token")) "temporal") ∧
        ∀ token dbName, buildPostgresDSN spec' token dbName = buildPostgresDSN spec token dbName := by
  intro spec
  have hport : PortInRange spec := ⟨by decide, by decide⟩
  have hcontainer : _ ∈ (buildInspectorJob (azureCluster spec) .default spec "operator").containers :=
    List.mem_singleton.mpr rfl
  have hread : tokenFile azureTokenFile = .ok (.ofString "token") := rfl
  have hno : ¬ VerifiesHost spec := by
    rintro ⟨tls, htls, -, hverify⟩
    obtain rfl := Option.some.inj htls
    cases hverify
  exact ⟨_, hcontainer, (inspector_connects_iff hport hcontainer hread).mpr hno⟩

/-- With `enableHostVerification` the operator would verify the server, and the Job does not. -/
theorem inspector_skips_verification :
    let spec : SQLDatastoreSpec :=
      { host := "db", user := "temporal", database := "temporal", tls := some { enableHostVerification := true } }
    ∃ spec', runManager tokenFile (inspectorArgs spec) =
        some (.inspected "/dev/termination-log" spec' (trimSpace (.ofString "token")) "temporal") ∧
      buildPostgresDSN spec (.ofString "token") "" = "postgres://temporal:token@db:5432/temporal?sslmode=verify-full" ∧
      buildPostgresDSN spec' (.ofString "token") "" = "postgres://temporal:token@db:5432/temporal?sslmode=require" := by
  intro spec
  have hport : PortInRange spec := ⟨by decide, by decide⟩
  have hread : tokenFile azureTokenFile = .ok (.ofString "token") := rfl
  exact ⟨carriedSpec spec, runInspect_inspectorArgs hport hread, by decide, by decide⟩

end TemporalOperator
