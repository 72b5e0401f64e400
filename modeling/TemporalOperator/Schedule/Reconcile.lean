import TemporalOperator.Satellite.Controller
import TemporalOperator.Schedule.Proto

/-!
# Reconciling a schedule

`internal/controller/temporalschedule_controller.go` and the schedule client of `internal/temporal/schedule.go`. The
server keeps one schedule, that of the object's namespace and ID at its target, or none; nobody but the operator changes
it.

* `describe`, `createSchedule`, `updateSchedule`, `pause`, `unpause`, `deleteSchedule` : the client;
* `applySchedule`, `reconcilePause`, `reconcileSchedule`, `controller`, `reconcilePass` : the controller.
-/

namespace TemporalOperator.Satellite.Schedule
open Lib Proc

variable {H : Type}

/-! ## The object -/

def scheduleFinalizer : String := "temporal.bmor10.com/schedule"

/-- The status as it is read back. -/
def persist (st : TemporalScheduleStatus H) : TemporalScheduleStatus H :=
  { st with nextActionTimes := st.nextActionTimes.map metaTime, lastUpdated := st.lastUpdated.map metaTime }

/-- Users write what they like but for the fields that say which Temporal schedule is meant. The webhook refuses another
namespace or ID; a reference that is edited would leave one schedule for another. -/
def admits (old new : TemporalScheduleSpec) : Bool :=
  new.clusterRef = old.clusterRef && new.namespace_ = old.namespace_ && new.scheduleID = old.scheduleID

def kind : Kind TemporalScheduleSpec (TemporalScheduleStatus H) where
  finalizer := scheduleFinalizer
  admits := admits
  persist := persist

/-! ## The client -/

structure ScheduleInfo where
  paused : Bool
  notes : String
  nextActionTimes : List GoTime
  runningWorkflows : Nat
  deriving DecidableEq, Repr

inductive ScheduleCall
  | describe (answer : Except Err ScheduleInfo)
  | create (params : ScheduleParams) (answer : Except Err Unit)
  | update (params : ScheduleParams) (answer : Except Err Unit)
  | patch (paused : Bool) (notes : String) (answer : Except Err Unit)
  | delete (namespace_ scheduleID : String) (answer : Except Err Unit)
  deriving DecidableEq

/-- What the server tells of a schedule beside its state. -/
structure ServerInfo where
  nextActionTimes : List GoTime := []
  runningWorkflows : Nat := 0
  deriving DecidableEq, Repr

/-- How the calls of one pass go; `describe n` answers the `n`-th `Describe`. -/
structure ScheduleEnv extends KubeEnv TemporalScheduleSpec where
  describe : Nat → Except RpcErr ServerInfo := fun _ => .ok {}
  create : Outcome RpcErr := .done
  updateSchedule : Outcome RpcErr := .done
  patch : Outcome RpcErr := .done
  deleteSchedule : Outcome RpcErr := .done
  /-- The texts of `encoding/json`. -/
  marshalText : MarshalErr → String := fun _ => ""

abbrev SchedulePass (H : Type) :=
  Pass TemporalScheduleSpec (TemporalScheduleStatus H) (Option ProtoSchedule) ScheduleCall

def errScheduleNotFound : Err := .notFound "schedule not found"

/-- The client turns the code `NotFound` into `ErrScheduleNotFound`. -/
def clientErr : Err → Err
  | .rpc e => if e.code = .notFound then errScheduleNotFound else .rpc e
  | e => e

def describeAnswer (env : ScheduleEnv) (n : Nat) (remote : Option ProtoSchedule) : Except Err ScheduleInfo :=
  match env.describe n, remote with
  | .error e, _ => .error (clientErr (.rpc e))
  | .ok _, none => .error errScheduleNotFound
  | .ok info, some s =>
    .ok
      { paused := s.state.paused
        notes := s.state.notes
        nextActionTimes := info.nextActionTimes
        runningWorkflows := info.runningWorkflows }

def describe (env : ScheduleEnv) (n : Nat) : Proc (SchedulePass H) Err ScheduleInfo := do
  issue .describe (describeAnswer env n (← get).remote)

def serverCreate (new : ProtoSchedule) : Option ProtoSchedule → Except RpcErr (Option ProtoSchedule)
  | none => .ok (some new)
  | some _ => .error ⟨.alreadyExists, "schedule is already registered"⟩

/-- The server applies a change to a schedule that is there. -/
def serverChange (f : ProtoSchedule → Option ProtoSchedule) : Option ProtoSchedule → Except RpcErr (Option ProtoSchedule)
  | none => .error ⟨.notFound, "schedule not found"⟩
  | some s => .ok (f s)

/-- A request with the schedule of `p`; one that cannot be built is not sent. -/
def sendSchedule (p : ScheduleParams) (send : ProtoSchedule → Proc (SchedulePass H) Err Unit) :
    Proc (SchedulePass H) Err Unit :=
  match toProtoSchedule p with
  | .error e => throw (.other ⟨.other, e⟩)
  | .ok new => send new

def createSchedule (env : ScheduleEnv) (p : ScheduleParams) : Proc (SchedulePass H) Err Unit :=
  sendSchedule p fun new => remoteCall env.create (serverCreate new) (.create p)

def updateSchedule (env : ScheduleEnv) (p : ScheduleParams) : Proc (SchedulePass H) Err Unit :=
  sendSchedule p fun new => remoteCall env.updateSchedule (serverChange fun _ => some new) (.update p)

def pauseNotes (notes fallback : String) : String := if notes ≠ "" then notes else fallback

/-- `PatchSchedule` with a pause or an unpause. -/
def patchPaused (env : ScheduleEnv) (paused : Bool) (notes : String) : Proc (SchedulePass H) Err Unit :=
  remoteCall env.patch (serverChange fun s => some { s with state := { s.state with paused := paused, notes := notes } })
    (.patch paused notes)

def pause (env : ScheduleEnv) (notes : String) : Proc (SchedulePass H) Err Unit :=
  patchPaused env true (pauseNotes notes "paused by temporal-operator")

def unpause (env : ScheduleEnv) (notes : String) : Proc (SchedulePass H) Err Unit :=
  patchPaused env false (pauseNotes notes "unpaused by temporal-operator")

def deleteSchedule (env : ScheduleEnv) (namespace_ scheduleID : String) : Proc (SchedulePass H) Err Unit :=
  mapError clientErr (remoteCall env.deleteSchedule (serverChange fun _ => none) (.delete namespace_ scheduleID))

/-! ## The controller -/

def scheduleDriftRequeue : GoDuration := 300 * second

def readyStatus (sched : TemporalSchedule H) (status : ConditionStatus) (reason message : String) :
    TemporalScheduleStatus H :=
  { sched.status with
    observedGeneration := sched.generation
    conditions := setStatusCondition
      { type := .ready, status, reason, message, observedGeneration := sched.generation } sched.status.conditions }

def reconcilePause (env : ScheduleEnv) (p : ScheduleParams) : Proc (SchedulePass H) Err Unit := do
  let info ← mapError (Err.wrap "describing schedule") (describe env 1)
  if p.state.paused = info.paused then return ()
  else if p.state.paused then pause env p.state.notes
  else unpause env p.state.notes

/-- `sched.Status.LastAppliedSpecHash = specHash`. -/
def recordHash (specHash : H) : Proc (SchedulePass H) Err Unit :=
  modify fun s =>
    { s with obj := { s.obj with status := { s.obj.status with lastAppliedSpecHash := some specHash } } }

def reconciledStatus (p : ScheduleParams) (info : ScheduleInfo) (now : GoTime) (sched : TemporalSchedule H) :
    TemporalScheduleStatus H :=
  let status :=
    { sched.status with
      scheduleID := p.scheduleID
      created := true
      paused := info.paused
      notes := info.notes
      runningWorkflows := (info.runningWorkflows : Int).bmod (2 ^ 32)
      nextActionTimes := info.nextActionTimes
      lastUpdated := some now }
  readyStatus { sched with status := status } .true "Reconciled" "schedule is reconciled"

def remoteDelete (env : ScheduleEnv) (sched : TemporalSchedule H) : Proc (SchedulePass H) Err Unit := do
  match ← attempt (deleteSchedule env sched.spec.namespace_ (resolveScheduleID sched.name sched.spec)) with
  | .ok () => return ()
  | .error (.notFound _) => return ()
  | .error e => throw (e.wrap "deleting schedule")

variable [DecidableEq H] (hash : ScheduleParams → H)

/-- Bring the Temporal schedule to `p`: create it, or update it unless the recorded hash is that of `p`. -/
def applySchedule (env : ScheduleEnv) (p : ScheduleParams) (specHash : H) : Proc (SchedulePass H) Err Unit := do
  match ← attempt (describe env 0) with
  | .error (.notFound _) => do
    mapError (Err.wrap "creating schedule") (createSchedule env p)
    recordHash specHash
  | .error e => throw (e.wrap "describing schedule")
  | .ok _ =>
    if (← get).obj.status.lastAppliedSpecHash ≠ some specHash then do
      mapError (Err.wrap "updating schedule") (updateSchedule env p)
      recordHash specHash
    else reconcilePause env p

/-- The result is what becomes of the status. -/
def reconcileSchedule (env : ScheduleEnv) (sched : TemporalSchedule H) :
    Proc (SchedulePass H) Err (TemporalSchedule H → TemporalScheduleStatus H) := do
  match scheduleParams sched.name sched.spec with
  | .error e => return fun sched => readyStatus sched .false "InvalidSpec" e
  | .ok p =>
    match computeSpecHash hash p with
    | .error e => throw (.other ⟨.other, "hashing schedule spec: " ++ env.marshalText e⟩)
    | .ok specHash => do
      applySchedule env p specHash
      let info ← mapError (Err.wrap "describing schedule") (describe env 2)
      return reconciledStatus p info env.now

def controller (env : ScheduleEnv) :
    Controller TemporalScheduleSpec (TemporalScheduleStatus H) (Option ProtoSchedule) ScheduleCall where
  kind := kind
  clusterRef := TemporalScheduleSpec.clusterRef
  allowDeletion := TemporalScheduleSpec.allowDeletion
  readyStatus := readyStatus
  notFoundRequeue := scheduleDriftRequeue
  ensureRegistered := do
    return (← reconcileSchedule hash env (← get).obj, scheduleDriftRequeue)
  remoteDelete := remoteDelete env

abbrev ScheduleWorld (H : Type) := World TemporalScheduleSpec (TemporalScheduleStatus H) (Option ProtoSchedule)

abbrev ScheduleReport (H : Type) := Report ScheduleEnv TemporalScheduleSpec (TemporalScheduleStatus H) ScheduleCall

/-- `Reconcile`. -/
def reconcilePass (w : ScheduleWorld H) (env : ScheduleEnv) : ScheduleWorld H × ScheduleReport H :=
  pass kind ScheduleEnv.toKubeEnv (fun env => (controller hash env).reconcileObject env.toKubeEnv) w env

end TemporalOperator.Satellite.Schedule
