import TemporalOperator.Cluster.Effects
import TemporalOperator.Lib.GoQuote
import TemporalOperator.Persistence.Schema

/-!
# Datastore backends

`internal/persistence/{backend,sql,cassandra,elasticsearch,inspect,jobinspector,secrets}.go` and the inspector Job part
of `temporalcluster_persistence.go`. A `Backend` is the record of the interface's methods; what the outside
answers in one pass is a `StoreIO`.

* `StoreState` : what a store records, if anything; `SqlQuery`, `CassandraQuery` : one version query against it,
  with an arbitrary fault;
* `currentSchemaVersion`, `cassandraSchemaVersion`, `inspectSQL`, `inspectOnce` : how each backend reads it;
* `resolveStore` : the credential of a store; `newBackend` : the backend the controller builds for a store.
-/

namespace TemporalOperator.Persistence
open Lib

/-! ## Stores and queries -/

abbrev RecordedVersion := { v : String // v ≠ "" }

/-- The `schema_version` table of a store. -/
inductive StoreState
  | noTable
  | emptyTable
  | recorded (version : RecordedVersion)
  deriving DecidableEq, Repr

/-- The recorded version, if there is one. -/
def StoreState.version? : StoreState → Option String
  | .recorded v => some v.1
  | _ => none

/-- One liveness probe of a SQL store: the step that fails, if one does. -/
structure SqlProbe where
  openErr : Option String := none
  pingErr : Option String := none
  livenessErr : Option String := none
  deriving DecidableEq, Repr

/-- One schema version query against a SQL store in state `store`. -/
structure SqlQuery where
  openErr : Option String := none
  store : StoreState
  fault : Option String := none
  deriving DecidableEq, Repr

inductive ScanResult
  | row (version : String)
  | noRows
  | err (text : String)
  deriving DecidableEq, Repr

def undefinedTableText : String := "ERROR: relation \"schema_version\" does not exist (SQLSTATE 42P01)"

/-- What scanning the row gives. -/
def SqlQuery.scan (q : SqlQuery) : ScanResult :=
  match q.fault, q.store with
  | some e, _ => .err e
  | none, .recorded v => .row v.1
  | none, .emptyTable => .noRows
  | none, .noTable => .err undefinedTableText

def goErr (text : String) : GoErr := ⟨.other, text⟩

/-! ## Direct SQL -/

/-- `SQLProber.Probe`. -/
def SqlProbe.run (p : SqlProbe) : Except GoErr Unit :=
  match p.openErr, p.pingErr, p.livenessErr with
  | some e, _, _ => .error (goErr ("opening database: " ++ e))
  | none, some e, _ => .error (goErr ("pinging database: " ++ e))
  | none, none, some e => .error (goErr ("running liveness query: " ++ e))
  | none, none, none => .ok ()

def isUndefinedTable (text : String) : Bool :=
  GoText.contains text "42P01" || GoText.contains (GoText.toLower text) "does not exist"

def currentSchemaVersion (q : SqlQuery) : Except GoErr String :=
  match q.openErr with
  | some e => .error (goErr ("opening database: " ++ e))
  | none =>
    match q.scan with
    | .noRows => .ok ""
    | .err e => if isUndefinedTable e then .ok "" else .error (goErr ("querying schema version: " ++ e))
    | .row v => .ok v

/-! ## Cassandra -/

structure CassandraProbe where
  sessionErr : Option String := none
  livenessErr : Option String := none
  deriving DecidableEq, Repr

structure CassandraQuery where
  sessionErr : Option String := none
  store : StoreState
  fault : Option String := none
  deriving DecidableEq, Repr

def CassandraProbe.run (p : CassandraProbe) : Except GoErr Unit :=
  match p.sessionErr, p.livenessErr with
  | some e, _ => .error (goErr ("connecting to cassandra: " ++ e))
  | none, some e => .error (goErr ("cassandra liveness query: " ++ e))
  | none, none => .ok ()

/-- The query itself, as for SQL (`gocql.ErrNotFound` is `noRows`). -/
def CassandraQuery.scan (q : CassandraQuery) : ScanResult :=
  match q.fault, q.store with
  | some e, _ => .err e
  | none, .recorded v => .row v.1
  | none, .emptyTable => .noRows
  | none, .noTable => .err "unconfigured table schema_version"

/-- `cassandraBackend.SchemaVersion`. -/
def cassandraSchemaVersion (q : CassandraQuery) : Except GoErr String :=
  match q.sessionErr with
  | some _ => .ok ""
  | none =>
    match q.scan with
    | .noRows => .ok ""
    | .err _ => .ok ""
    | .row v => .ok v

/-! ## Elasticsearch -/

/-- An HTTP exchange: the request cannot be built, fails, or is answered with a status code. -/
inductive HttpResult
  | badRequest (text : String)
  | failed (text : String)
  | status (code : Nat)
  deriving DecidableEq, Repr

def esProbe : HttpResult → Except GoErr Unit
  | .badRequest e => .error (goErr e)
  | .failed e => .error (goErr ("connecting to elasticsearch: " ++ e))
  | .status code =>
    if code ≥ 300 then .error (goErr ("elasticsearch health returned " ++ toString code)) else .ok ()

def esSchemaVersion (version : String) : HttpResult → Except GoErr String
  | .badRequest e => .error (goErr e)
  | .failed e => .error (goErr ("checking elasticsearch index template: " ++ e))
  | .status code =>
    if code = 404 then .ok ""
    else if code ≥ 300 then .error (goErr ("elasticsearch template check returned " ++ toString code))
    else .ok version

def esEnsureSchema : HttpResult → Except GoErr Bool
  | .badRequest e => .error (goErr e)
  | .failed e => .error (goErr ("applying elasticsearch index template: " ++ e))
  | .status code =>
    if code ≥ 300 then .error (goErr ("elasticsearch template apply returned " ++ toString code)) else .ok true

/-! ## The inspector Job -/

structure InspectResult where
  reachable : Bool
  version : String := ""
  error : String := ""
  deriving DecidableEq, Repr

/-- One run of `InspectSQL`: the probe, then the version query. -/
structure InspectRun where
  probe : SqlProbe := {}
  query : SqlQuery
  deriving DecidableEq, Repr

def inspectSQL (r : InspectRun) : InspectResult :=
  match r.probe.run with
  | .error e => { reachable := false, error := e.text }
  | .ok () =>
    match currentSchemaVersion r.query with
    | .error e => { reachable := true, error := e.text }
    | .ok v => { reachable := true, version := v }

/-- What the `inspect` container has left behind: nothing yet, the result of `InspectSQL`, the result that the
password file could not be read, or a text that is not JSON. -/
inductive PodAnswer
  | none
  | ran (run : InspectRun)
  | passwordFile (err : String)
  | notJSON (err : String)
  deriving DecidableEq, Repr

/-- The termination message as `json.Unmarshal` reads it back; `none` when there is no message. -/
def PodAnswer.message : PodAnswer → Option (Except String InspectResult)
  | .none => Option.none
  | .ran r => some (.ok (inspectSQL r))
  | .passwordFile e => some (.ok { reachable := false, error := "reading password file: " ++ e })
  | .notJSON e => some (.error e)

/-- The answers of the API to the inspector calls of one pass. A pod is its list of container statuses. -/
structure InspectorIO where
  getJob : Except GoErr Job := .error ⟨.notFound, "not found"⟩
  createErr : Option GoErr := none
  /-- The Job as `Create` hands it back. -/
  created : Job := {}
  pods : Except GoErr (List (List (String × PodAnswer))) := .ok []
  deleteErr : Option GoErr := none

def ensureInspectorJob (io : InspectorIO) (store : SchemaStore) : Pass Job :=
  match io.getJob with
  | .ok job => if job.deleting then .fail errInspecting else pure job
  | .error e =>
    if e.cause ≠ .notFound then .fail e
    else
      match io.createErr with
      | some e => if e.cause = .alreadyExists then .fail errInspecting else .fail e
      | none => do
        Act.emit (.inspectorCreated store)
        return io.created

def jobIsTerminal (job : Job) : Bool :=
  job.conditions.any fun c => c.2 && (c.1 = .complete || c.1 = .failed)

/-- The first answer of an `inspect` container. -/
def firstAnswer (pods : List (List (String × PodAnswer))) : Option (Except String InspectResult) :=
  pods.flatten.findSome? fun c => if c.1 = "inspect" then c.2.message else none

/-- `inspectOnce` once it has the Job: what its pods say. A Job that will not say any more is deleted. -/
def askPods (io : InspectorIO) (store : SchemaStore) (job : Job) : Pass InspectResult := do
  let pods ← Act.lift io.pods
  match firstAnswer pods with
  | some (.error e) => .fail (goErr ("failed to unmarshal termination message: " ++ e))
  | some (.ok r) => pure r
  | none =>
    if jobIsTerminal job then do
      Act.emit (.inspectorDeleted store)
      match io.deleteErr with
      | some e =>
        if e.cause = .notFound then .fail errInspecting
        else .fail (e.wrap ("deleting spent inspector job " ++ job.name))
      | none => .fail errInspecting
    else .fail errInspecting

/-- `inspectOnce`, given the result cached by an earlier call of the pass. -/
def inspectOnce (io : InspectorIO) (store : SchemaStore) (cached : Option InspectResult) : Pass InspectResult :=
  match cached with
  | some r => pure r
  | none => do
    let job ← ensureInspectorJob io store
    askPods io store job

/-- `JobInspectorBackend.Probe`. -/
def inspectorProbe (io : InspectorIO) (store : SchemaStore) : Pass Unit := do
  let result ← inspectOnce io store none
  if result.reachable then pure () else .fail (goErr ("datastore unreachable: " ++ result.error))

/-- `JobInspectorBackend.SchemaVersion`; the probe of the pass has cached its result. -/
def inspectorSchemaVersion (io : InspectorIO) (store : SchemaStore) : Pass String := do
  let result ← inspectOnce io store (inspectOnce io store none).res.toOption
  return result.version

/-- What `ensureInspectorJob` does: how the Job was read, and what came of it. -/
inductive EnsuresJob (io : InspectorIO) (store : SchemaStore) : Pass Job → Prop
  | unread {e : GoErr} (hget : io.getJob = .error e) (he : e.cause ≠ .notFound) : EnsuresJob io store (.fail e)
  | deleting {job : Job} (hget : io.getJob = .ok job) (hd : job.deleting = true) :
      EnsuresJob io store (.fail errInspecting)
  | present {job : Job} (hget : io.getJob = .ok job) (hd : job.deleting = false) : EnsuresJob io store (pure job)
  | raced {e e' : GoErr} (hget : io.getJob = .error e) (he : e.cause = .notFound) (hcreate : io.createErr = some e')
      (he' : e'.cause = .alreadyExists) : EnsuresJob io store (.fail errInspecting)
  | refused {e e' : GoErr} (hget : io.getJob = .error e) (he : e.cause = .notFound) (hcreate : io.createErr = some e')
      (he' : e'.cause ≠ .alreadyExists) : EnsuresJob io store (.fail e')
  | created {e : GoErr} (hget : io.getJob = .error e) (he : e.cause = .notFound) (hcreate : io.createErr = none) :
      EnsuresJob io store ⟨[.inspectorCreated store], .ok io.created⟩

theorem ensureInspectorJob_spec (io : InspectorIO) (store : SchemaStore) :
    EnsuresJob io store (ensureInspectorJob io store) := by
  unfold ensureInspectorJob
  cases hget : io.getJob with
  | ok job =>
    cases hd : job.deleting with
    | true => simpa [hd] using EnsuresJob.deleting hget hd
    | false => simpa [hd] using EnsuresJob.present hget hd
  | error e =>
    by_cases he : e.cause = .notFound
    · cases hcreate : io.createErr with
      | none =>
        simp only [he, ne_eq, not_true_eq_false, if_false]
        exact .created hget he hcreate
      | some e' =>
        by_cases he' : e'.cause = .alreadyExists
        · simpa [he, hcreate, he'] using EnsuresJob.raced hget he hcreate he'
        · simpa [he, hcreate, he'] using EnsuresJob.refused hget he hcreate he'
    · simpa [he] using EnsuresJob.unread hget he

theorem inspectOnce_none (io : InspectorIO) (store : SchemaStore) :
    inspectOnce io store none = ensureInspectorJob io store >>= askPods io store := rfl

/-- What the rest of `inspectOnce` does: what the pods said, and what came of the Job if they said nothing. -/
inductive AsksPods (io : InspectorIO) (store : SchemaStore) (job : Job) : Pass InspectResult → Prop
  | unlisted {e : GoErr} (hpods : io.pods = .error e) : AsksPods io store job (.fail e)
  | unreadable {pods : List (List (String × PodAnswer))} {text : String} (hpods : io.pods = .ok pods)
      (ha : firstAnswer pods = some (.error text)) :
      AsksPods io store job (.fail (goErr ("failed to unmarshal termination message: " ++ text)))
  | answered {pods : List (List (String × PodAnswer))} {r : InspectResult} (hpods : io.pods = .ok pods)
      (ha : firstAnswer pods = some (.ok r)) : AsksPods io store job (pure r)
  | waiting (ht : jobIsTerminal job = false) : AsksPods io store job (.fail errInspecting)
  | spent (ht : jobIsTerminal job = true) (hdelete : ∀ e, io.deleteErr = some e → e.cause = .notFound) :
      AsksPods io store job ⟨[.inspectorDeleted store], .error errInspecting⟩
  | kept {e : GoErr} (ht : jobIsTerminal job = true) (hdelete : io.deleteErr = some e) (he : e.cause ≠ .notFound) :
      AsksPods io store job ⟨[.inspectorDeleted store], .error (e.wrap ("deleting spent inspector job " ++ job.name))⟩

theorem askPods_spec (io : InspectorIO) (store : SchemaStore) (job : Job) :
    AsksPods io store job (askPods io store job) := by
  unfold askPods
  cases hpods : io.pods with
  | error e =>
    rw [Act.bind_of_error (Act.res_lift _)]
    exact .unlisted hpods
  | ok pods =>
    rw [Act.bind_of_ok (Act.res_lift _), Act.log_lift, List.nil_append]
    cases ha : firstAnswer pods with
    | some answer =>
      cases answer with
      | error text => exact .unreadable hpods ha
      | ok r => exact .answered hpods ha
    | none =>
      cases ht : jobIsTerminal job with
      | false => exact .waiting ht
      | true =>
        simp only [if_true]
        rw [Act.bind_of_ok (Act.res_emit _)]
        cases hdelete : io.deleteErr with
        | none => exact .spent ht fun e he => by cases hdelete.symm.trans he
        | some e =>
          by_cases he : e.cause = .notFound
          · simpa [he] using AsksPods.spent ht fun e' he' => by
              obtain rfl := Option.some.inj (hdelete.symm.trans he')
              exact he
          · simpa [he] using AsksPods.kept ht hdelete he

theorem inspectOnce_none_res {io : InspectorIO} {store : SchemaStore} {result : InspectResult}
    (h : (inspectOnce io store none).res = .ok result) :
    ∃ pods, io.pods = .ok pods ∧ firstAnswer pods = some (.ok result) := by
  rw [inspectOnce_none, Act.res_bind_eq_ok] at h
  obtain ⟨job, -, h⟩ := h
  have hspec := askPods_spec io store job
  generalize askPods io store job = m at hspec h
  cases hspec with
  | answered hpods ha =>
    obtain rfl := Except.ok.inj h
    exact ⟨_, hpods, ha⟩
  | _ => cases h

theorem emits_ensureInspectorJob (io : InspectorIO) (store : SchemaStore) :
    (ensureInspectorJob io store).Emits (·.stage = .inspect) := by
  have hspec := ensureInspectorJob_spec io store
  generalize ensureInspectorJob io store = m at hspec
  cases hspec with
  | present => exact Act.emits_pure _
  | created => exact fun e he => List.mem_singleton.mp he ▸ rfl
  | _ => exact Act.emits_fail _

theorem emits_askPods (io : InspectorIO) (store : SchemaStore) (job : Job) :
    (askPods io store job).Emits (·.stage = .inspect) := by
  have hspec := askPods_spec io store job
  generalize askPods io store job = m at hspec
  cases hspec with
  | answered => exact Act.emits_pure _
  | spent => exact fun e he => List.mem_singleton.mp he ▸ rfl
  | kept => exact fun e he => List.mem_singleton.mp he ▸ rfl
  | _ => exact Act.emits_fail _

theorem emits_inspectOnce (io : InspectorIO) (store : SchemaStore) (cached : Option InspectResult) :
    (inspectOnce io store cached).Emits (·.stage = .inspect) := by
  cases cached with
  | some r => exact Act.emits_pure _
  | none => exact Act.emits_bind (emits_ensureInspectorJob io store) fun job => emits_askPods io store job

theorem emits_inspectorProbe (io : InspectorIO) (store : SchemaStore) :
    (inspectorProbe io store).Emits (·.stage = .inspect) := by
  refine Act.emits_bind (emits_inspectOnce io store none) fun r => ?_
  split
  · exact Act.emits_pure _
  · exact Act.emits_fail _

theorem emits_inspectorSchemaVersion (io : InspectorIO) (store : SchemaStore) :
    (inspectorSchemaVersion io store).Emits (·.stage = .inspect) :=
  Act.emits_bind (emits_inspectOnce io store _) fun _ => Act.emits_pure _

/-! ## Credentials -/

structure Secret where
  resourceVersion : String := ""
  data : List (String × GoString) := []
  deriving DecidableEq, Repr

structure ResolvedCredential where
  password : GoString := []
  passwordCommand : GoString := []
  deriving DecidableEq, Repr

def defaultKey (key : String) : String := if key = "" then "password" else key

def getSecretValue (ns : String) (read : Except GoErr Secret) (ref : SecretKeyReference) : Except GoErr GoString :=
  let nn := ns ++ "/" ++ ref.name
  match read with
  | .error e => .error (e.wrap ("getting secret " ++ nn))
  | .ok secret =>
    match secret.data.lookup (defaultKey ref.key) with
    | some value => .ok value
    | none => .error (goErr ("secret " ++ nn ++ " has no key " ++ GoText.quote (defaultKey ref.key)))

/-- The password command takes precedence. -/
def resolveSQL (ns : String) (read : Except GoErr Secret) (spec : SQLDatastoreSpec) : Except GoErr ResolvedCredential :=
  match spec.passwordCommandSecretRef, spec.passwordSecretRef with
  | some ref, _ => (getSecretValue ns read ref).map fun cmd => { passwordCommand := cmd }
  | none, some ref => (getSecretValue ns read ref).map fun pw => { password := pw }
  | none, none => .ok {}

/-- `ResolveCassandra` and `ResolveElasticsearch`. -/
def resolvePassword (ns : String) (read : Except GoErr Secret) (ref : Option SecretKeyReference) :
    Except GoErr ResolvedCredential :=
  match ref with
  | some ref => (getSecretValue ns read ref).map fun pw => { password := pw }
  | none => .ok {}

/-- `ResolveStore`; `read` answers the one Secret it may read. -/
def resolveStore (ns : String) (read : Except GoErr Secret) (store : DatastoreSpec) : Except GoErr ResolvedCredential :=
  match store.sql, store.cassandra, store.elasticsearch with
  | some spec, _, _ => resolveSQL ns read spec
  | none, some spec, _ => resolvePassword ns read spec.passwordSecretRef
  | none, none, some spec => resolvePassword ns read spec.passwordSecretRef
  | none, none, none => .error (goErr "datastore has no backend configured")

/-! ## Backends -/

/-- The `Backend` interface. `schemaVersion n` is the `n`-th call of the method in a pass. Probing and reading
the version only inspect, and only `ensureSchema` of Elasticsearch changes the schema. -/
structure Backend where
  kind : BackendKind
  probe : Pass Unit
  schemaVersion : Nat → Pass String
  ensureSchema : Pass Bool
  probe_inspects : probe.Emits (·.stage = .inspect)
  schemaVersion_inspects : ∀ n, (schemaVersion n).Emits (·.stage = .inspect)
  ensureSchema_migrates : ensureSchema.Emits (·.stage = .migrate)
  ensureSchema_job : kind ≠ .elasticsearch → ensureSchema = pure false

/-- What the outside answers about one store in one pass. -/
structure StoreIO where
  /-- Reading the Secret of the credential. -/
  secret : Except GoErr Secret := .error ⟨.notFound, "not found"⟩
  sqlProbe : SqlProbe := {}
  sqlQuery : Nat → SqlQuery := fun _ => { store := .noTable }
  cassandraProbe : CassandraProbe := {}
  cassandraQuery : Nat → CassandraQuery := fun _ => { store := .noTable }
  esHealth : HttpResult := .status 200
  esTemplate : Nat → HttpResult := fun _ => .status 404
  esPut : HttpResult := .status 200
  inspector : InspectorIO := {}

def sqlBackend (io : StoreIO) : Backend where
  kind := .sql
  probe := .lift io.sqlProbe.run
  schemaVersion n := .lift (currentSchemaVersion (io.sqlQuery n))
  ensureSchema := pure false
  probe_inspects := Act.emits_lift _
  schemaVersion_inspects _ := Act.emits_lift _
  ensureSchema_migrates := Act.emits_pure _
  ensureSchema_job _ := rfl

def cassandraBackend (io : StoreIO) : Backend where
  kind := .cassandra
  probe := .lift io.cassandraProbe.run
  schemaVersion n := .lift (cassandraSchemaVersion (io.cassandraQuery n))
  ensureSchema := pure false
  probe_inspects := Act.emits_lift _
  schemaVersion_inspects _ := Act.emits_lift _
  ensureSchema_migrates := Act.emits_pure _
  ensureSchema_job _ := rfl

/-- Where the requests of the backend go. -/
def esBackend.baseURL (spec : ElasticsearchDatastoreSpec) : String :=
  let scheme := if spec.tls.any (·.enabled) then "https" else "http"
  if GoText.hasPrefix spec.url "http://" || GoText.hasPrefix spec.url "https://" then GoText.trimRight spec.url '/'
  else scheme ++ "://" ++ GoText.trimRight spec.url '/'

def esBackend (spec : ElasticsearchDatastoreSpec) (io : StoreIO) (store : SchemaStore) : Backend where
  kind := .elasticsearch
  probe := .lift (esProbe io.esHealth)
  schemaVersion n := .lift (esSchemaVersion spec.version (io.esTemplate n))
  ensureSchema := do
    Act.emit (.schemaInline store)
    Act.lift (esEnsureSchema io.esPut)
  probe_inspects := Act.emits_lift _
  schemaVersion_inspects _ := Act.emits_lift _
  ensureSchema_migrates := Act.emits_bind (Act.emits_emit rfl) fun _ => Act.emits_lift _
  ensureSchema_job h := absurd rfl h

def jobInspectorBackend (io : StoreIO) (store : SchemaStore) : Backend where
  kind := .sql
  probe := inspectorProbe io.inspector store
  schemaVersion _ := inspectorSchemaVersion io.inspector store
  ensureSchema := pure false
  probe_inspects := emits_inspectorProbe _ _
  schemaVersion_inspects _ := emits_inspectorSchemaVersion _ _
  ensureSchema_migrates := Act.emits_pure _
  ensureSchema_job _ := rfl

def defaultBackendFactory (spec : DatastoreSpec) (io : StoreIO) (store : SchemaStore) : Except GoErr Backend :=
  match spec.sql, spec.cassandra, spec.elasticsearch with
  | some _, _, _ => .ok (sqlBackend io)
  | none, some _, _ => .ok (cassandraBackend io)
  | none, none, some es => .ok (esBackend es io store)
  | none, none, none => .error (goErr "datastore has no backend configured")

/-- The backend of a store: the credential is resolved first, and with Azure Workload Identity a SQL store is
inspected by a Job. -/
def newBackend (azure : Bool) (ns : String) (store : SchemaStore) (spec : DatastoreSpec) (io : StoreIO) :
    Except GoErr Backend :=
  match resolveStore ns io.secret spec with
  | .error e => .error (e.wrap ("resolving " ++ store.text ++ " store credential"))
  | .ok _ =>
    if azure && spec.sql.isSome then .ok (jobInspectorBackend io store)
    else (defaultBackendFactory spec io store).mapError fun e => e.wrap ("building " ++ store.text ++ " backend")

end TemporalOperator.Persistence
