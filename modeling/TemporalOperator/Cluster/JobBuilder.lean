import TemporalOperator.Cluster.Resources

/-!
# Schema Jobs

`internal/resources/schemajob.go`. The builder dereferences the spec of the store it is given.

* `Builder` : a computation that may fail or dereference nil;
* `schemaContainerExec` : what the container executes, which takes an SQL store for granted when there is no Cassandra;
* `buildSchemaJob` : the Job of the schema tool.
-/

namespace TemporalOperator
open Lib Persistence

/-! ## Pointers -/

inductive Halt
  | nilDereference
  | failed (e : GoErr)
  deriving DecidableEq, Repr

abbrev Builder (α : Type) := Except Halt α

def deref {α : Type} : Option α → Builder α
  | some a => .ok a
  | none => .error .nilDereference

def call {α : Type} (x : Except GoErr α) : Builder α := x.mapError .failed

/-- The error a pass ends with; a panic is recovered. -/
def Halt.goErr : Halt → GoErr
  | .nilDereference =>
    Persistence.goErr "panic: runtime error: invalid memory address or nil pointer dereference [recovered]"
  | .failed e => e

/-! ## The container -/

def postgresSchemaDir : String := "v12"

structure SchemaJobParams where
  cluster : Cluster
  sqlSpec : Option SQLDatastoreSpec
  cassandraSpec : Option CassandraDatastoreSpec
  store : SchemaStore
  action : SchemaAction
  schemaVersionDir : String
  passwordCommand : String := ""
  podTemplate : Option PodTemplateOverride := none

def SchemaJobParams.isCassandra (p : SchemaJobParams) : Bool := p.cassandraSpec.isSome

def schemaSubdir : SchemaStore → String
  | .visibility => "visibility"
  | .default => "temporal"

def sqlSchemaDir (version : String) (store : SchemaStore) : String :=
  "/etc/temporal/schema/postgresql/" ++ version ++ "/" ++ schemaSubdir store ++ "/versioned"

def cassandraSchemaDir (store : SchemaStore) : String :=
  "/etc/temporal/schema/cassandra/" ++ schemaSubdir store ++ "/versioned"

def schemaCommand (p : SchemaJobParams) : String :=
  if p.isCassandra then "temporal-cassandra-tool" else "temporal-sql-tool"

def actionArgs (action : SchemaAction) (dir : String) : List String :=
  match action with
  | .setup => ["setup-schema", "-v", "0.0"]
  | .update => ["update-schema", "-d", dir]

def sqlToolArgs (p : SchemaJobParams) : Builder (List String) := do
  let spec ← deref p.sqlSpec
  let plugin := if spec.pluginName = "" then "postgres12" else spec.pluginName
  return ["--plugin", plugin, "--endpoint", spec.host, "--port", toString spec.port, "--user", spec.user,
      "--database", spec.database] ++
    (match spec.tls.filter (·.enabled) with
      | some tls => "--tls" :: if tls.enableHostVerification then [] else ["--tls-disable-host-verification"]
      | none => []) ++
    actionArgs p.action (sqlSchemaDir p.schemaVersionDir p.store)

def cassandraToolArgs (p : SchemaJobParams) : Builder (List String) := do
  let spec ← deref p.cassandraSpec
  return ["--endpoint", spec.hosts.head?.getD "", "--port", toString spec.port, "--keyspace", spec.keyspace] ++
    (if spec.user ≠ "" then ["--user", spec.user] else []) ++
    (if spec.tls.any (·.enabled) then ["--tls"] else []) ++
    actionArgs p.action (cassandraSchemaDir p.store)

def schemaToolArgs (p : SchemaJobParams) : Builder (List String) :=
  if p.isCassandra then cassandraToolArgs p else sqlToolArgs p

def passwordEnv (p : SchemaJobParams) : Builder (List (String × EnvValue)) := do
  let ref ← if p.isCassandra then (·.passwordSecretRef) <$> deref p.cassandraSpec
    else (·.passwordSecretRef) <$> deref p.sqlSpec
  let envName := if p.isCassandra then "CASSANDRA_PASSWORD" else "SQL_PASSWORD"
  return (ref.map fun ref => (envName, .secretKeyRef ref.name (defaultKey ref.key))).toList

def shellQuote (s : String) : String :=
  "'" ++ String.ofList (s.toList.flatMap fun c => if c = '\'' then "'\\''".toList else [c]) ++ "'"

structure ContainerExec where
  command : List String
  args : List String
  env : List (String × EnvValue)
  deriving DecidableEq, Repr

def schemaContainerExec (p : SchemaJobParams) : Builder ContainerExec := do
  let toolArgs ← schemaToolArgs p
  if p.passwordCommand ≠ "" && !p.isCassandra then
    let script := "export SQL_PASSWORD=\"$(" ++ p.passwordCommand ++ ")\"; exec " ++ schemaCommand p ++ " " ++
      " ".intercalate (toolArgs.map shellQuote)
    return { command := ["sh", "-c"], args := [script], env := [] }
  else
    let env ← passwordEnv p
    return { command := [schemaCommand p], args := toolArgs, env }

/-! ## The Job -/

def schemaJobLabels (p : SchemaJobParams) : List (String × String) :=
  [("app.kubernetes.io/name", "temporal"), ("app.kubernetes.io/instance", p.cluster.name),
    ("app.kubernetes.io/component", "schema"), ("app.kubernetes.io/managed-by", "temporal-operator"),
    ("temporal.bmor10.com/store", p.store.text), ("temporal.bmor10.com/action", p.action.text)]

def schemaJobTemplate (p : SchemaJobParams) (exec : ContainerExec) : PodTemplate :=
  { labels := schemaJobLabels p
    spec :=
      { imagePullSecrets := p.cluster.spec.imagePullSecrets
        containers :=
          [{ name := schemaContainerName
             image := adminToolsImage p.cluster.spec.version
             command := exec.command
             args := exec.args
             env := exec.env }] } }

def buildSchemaJob (env : PassEnv) (p : SchemaJobParams) : Builder Job := do
  let exec ← schemaContainerExec p
  let template ← call ((applyPodTemplate env (schemaJobTemplate p exec) p.podTemplate (schemaJobLabels p)).mapError
    fun e => e.wrap "applying schema job podTemplate")
  return {
    name := schemaJobName p.cluster.name p.store p.action
    namespace_ := p.cluster.namespace_
    labels := schemaJobLabels p
    backoffLimit := 3
    ttlSecondsAfterFinished := 600
    template }

theorem buildSchemaJob_eq_ok {env : PassEnv} {p : SchemaJobParams} {job : Job} (h : buildSchemaJob env p = .ok job) :
    ∃ exec, schemaContainerExec p = .ok exec ∧
      applyPodTemplate env (schemaJobTemplate p exec) p.podTemplate (schemaJobLabels p) = .ok job.template := by
  unfold buildSchemaJob at h
  cases hexec : schemaContainerExec p with
  | error e =>
    rw [hexec] at h
    cases h
  | ok exec =>
    refine ⟨exec, rfl, ?_⟩
    cases ht : applyPodTemplate env (schemaJobTemplate p exec) p.podTemplate (schemaJobLabels p) with
    | error e => simp [hexec, ht, call, bind, Except.bind, Except.mapError] at h
    | ok t =>
      simp only [hexec, ht, call, bind, Except.bind, Except.mapError, pure, Except.pure, Except.ok.injEq] at h
      rw [← h]

def jobRunsImage (job : Job) (image : String) : Bool :=
  containerRunsImage job.containers schemaContainerName image

end TemporalOperator
