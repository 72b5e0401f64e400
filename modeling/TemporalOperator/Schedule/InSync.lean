import TemporalOperator.Lib.Runs
import TemporalOperator.Schedule.Reconcile

/-!
# A Ready schedule is the declared one

The controller recognises its own work by the hash it has recorded in the status. The hash is written after the Temporal
schedule, so a pass that changes the schedule and does not get to record it leaves one that the record does not know of.

* `scheduleSystem` : passes in any order, with whatever users do before and during them;
* `Recorded` : a pass that has changed the Temporal schedule has heard so and stored its status;
* `Trusted` : a recorded hash is that of the schedule in Temporal; `trusted_pass`, `trusted_run` : it stays so;
* `ready_schedule_in_sync` : then a pass that stores `Ready` leaves the schedule its spec describes;
  `reverted_edit_diverges` : an edit that is taken back while its status write is lost is never undone in Temporal.
-/

namespace TemporalOperator.Satellite.Schedule
open Lib Proc

variable {H : Type}

/-- The Temporal schedule is the one `p` describes. -/
def Sent (p : ScheduleParams) (remote : Option ProtoSchedule) : Prop := ∃ s, toProtoSchedule p = .ok s ∧ remote = some s

/-- The Temporal schedule is the one the object declares. -/
def Matches (sched : TemporalSchedule H) (remote : Option ProtoSchedule) : Prop :=
  ∃ p, scheduleParams sched.name sched.spec = .ok p ∧ Sent p remote

/-! ## What a pass has done -/

abbrev ScheduleEffect (H : Type) := Effect TemporalScheduleSpec (TemporalScheduleStatus H) ScheduleCall

/-- A `Create` or `Update` that succeeds as far as the operator knows. -/
def heard : ScheduleEffect H → Bool
  | .call (.create _ (.ok _)) => true
  | .call (.update _ (.ok _)) => true
  | _ => false

def storesStatus : ScheduleEffect H → Bool
  | .statusWritten _ => true
  | _ => false

def storesReady : ScheduleEffect H → Bool
  | .statusWritten st => st.ready
  | _ => false

theorem storesStatus_of_storesReady {events : List (ScheduleEffect H)} (h : events.any storesReady = true) :
    events.any storesStatus = true := by
  obtain ⟨e, he, hready⟩ := List.any_eq_true.mp h
  refine List.any_eq_true.mpr ⟨e, he, ?_⟩
  cases e with
  | statusWritten st => rfl
  | objectWritten o => cases hready
  | objectDeleted => cases hready
  | call c => cases hready

/-- How a pass over the live object `sched` ends. -/
inductive PassEnd (hash : ScheduleParams → H) (sched : TemporalSchedule H) (s : SchedulePass H) : Prop
  /-- What was sent is on record. -/
  | recorded (p : ScheduleParams) (hparams : scheduleParams sched.name sched.spec = .ok p) (hsent : Sent p s.remote)
      (hstored : ∀ o ∈ s.stored, o.status.lastAppliedSpecHash = some (hash p))
  /-- Whatever was sent was not heard, or the status was not stored. -/
  | lost (hstored : ∀ o ∈ s.stored, o.status.lastAppliedSpecHash = sched.status.lastAppliedSpecHash)
      (hunrecorded : ¬ (s.events.any heard = true ∧ s.events.any storesStatus = true))
      (hready : s.events.any storesReady = false)

/-! ## Before the status is written -/

variable {hash : ScheduleParams → H} {env : ScheduleEnv} {sched : TemporalSchedule H} {remote : Option ProtoSchedule}
  {p : ScheduleParams}

/-- The object in memory is the one read, and the stored one has the hash that was read. -/
structure Working (sched : TemporalSchedule H) (s : SchedulePass H) : Prop where
  name : s.obj.name = sched.name
  spec : s.obj.spec = sched.spec
  stored : ∀ o ∈ s.stored, o.status.lastAppliedSpecHash = sched.status.lastAppliedSpecHash
  unwritten : s.events.any storesStatus = false

/-- No write is known to have succeeded. -/
structure Pending (sched : TemporalSchedule H) (s : SchedulePass H) : Prop extends Working sched s where
  hash : s.obj.status.lastAppliedSpecHash = sched.status.lastAppliedSpecHash
  unheard : s.events.any heard = false

structure Idle (sched : TemporalSchedule H) (remote : Option ProtoSchedule) (s : SchedulePass H) : Prop
    extends Pending sched s where
  remote : s.remote = remote

/-- The schedule of `p` is in Temporal, and its hash in memory. -/
structure Applied (hash : ScheduleParams → H) (sched : TemporalSchedule H) (p : ScheduleParams) (s : SchedulePass H) : Prop
    extends Working sched s where
  params : scheduleParams sched.name sched.spec = .ok p
  sent : Sent p s.remote
  hash : s.obj.status.lastAppliedSpecHash = some (hash p)

/-- The status may be written if it is not ready. -/
def Unready (hash : ScheduleParams → H) (sched : TemporalSchedule H) (s : SchedulePass H) : Prop :=
  (∃ p, Applied hash sched p s) ∨ Pending sched s

theorem Unready.working {s : SchedulePass H} (h : Unready hash sched s) : Working sched s := by
  obtain ⟨p, h⟩ | h := h
  · exact h.toWorking
  · exact h.toWorking

theorem Working.call {s : SchedulePass H} (h : Working sched s) (c : ScheduleCall) :
    Working sched { s with events := .call c :: s.events } := ⟨h.name, h.spec, h.stored, h.unwritten⟩

/-- As long as no status is written, none with `Ready` is. -/
theorem unready_of_unwritten {events : List (ScheduleEffect H)} (h : events.any storesStatus = false) :
    events.any storesReady = false := by
  by_contra hready
  rw [storesStatus_of_storesReady (Bool.not_eq_false _ ▸ hready)] at h
  cases h

theorem Working.lost {s : SchedulePass H} (h : Working sched s) : PassEnd hash sched s := by
  refine .lost h.stored (fun hrecorded => ?_) (unready_of_unwritten h.unwritten)
  rw [h.unwritten] at hrecorded
  exact Bool.false_ne_true hrecorded.2

/-! ## Calls -/

theorem triple_describe {n : Nat} {P : SchedulePass H → Prop}
    (hP : ∀ s answer, P s → P { s with events := .call (.describe answer) :: s.events }) :
    Triple P (describe env n) (fun info s => P s ∧ ∃ r, s.remote = some r ∧ info.paused = r.state.paused) fun _ => P := by
  refine triple_bind triple_get fun a => ?_
  rintro s ⟨rfl, hs⟩
  unfold describeAnswer
  cases env.describe n with
  | error e => exact hP a _ hs
  | ok info =>
    cases hr : a.remote with
    | none => exact hP a _ hs
    | some r => exact ⟨hP a _ hs, r, hr, rfl⟩

theorem Pending.call {s : SchedulePass H} (h : Pending sched s) {c : ScheduleCall}
    (hc : heard (.call c : ScheduleEffect H) = false) (remote : Option ProtoSchedule) :
    Pending sched { s with remote := remote, events := .call c :: s.events } := by
  refine ⟨⟨h.name, h.spec, h.stored, h.unwritten⟩, h.hash, ?_⟩
  rw [List.any_cons, hc, h.unheard]
  rfl

theorem Idle.described (s : SchedulePass H) (answer : Except Err ScheduleInfo) (h : Idle sched remote s) :
    Idle sched remote { s with events := .call (.describe answer) :: s.events } :=
  ⟨h.toPending.call rfl s.remote, h.remote⟩

theorem Applied.described (s : SchedulePass H) (answer : Except Err ScheduleInfo) (h : Applied hash sched p s) :
    Applied hash sched p { s with events := .call (.describe answer) :: s.events } :=
  ⟨h.toWorking.call _, h.params, h.sent, h.hash⟩

/-- A write of the whole schedule leaves the one it has sent, if it succeeds. -/
theorem triple_sendSchedule {outcome : Outcome RpcErr} {call : Except Err Unit → ScheduleCall}
    {change : ProtoSchedule → Option ProtoSchedule → Except RpcErr (Option ProtoSchedule)}
    (hchange : ∀ new old r, change new old = .ok r → r = some new)
    (hcall : ∀ e, heard (.call (call (.error e)) : ScheduleEffect H) = false) :
    Triple (Pending sched) (sendSchedule p fun new => remoteCall outcome (change new) call)
      (fun _ s => Working sched s ∧ Sent p s.remote) fun _ => Pending sched := by
  unfold sendSchedule
  cases hp : toProtoSchedule p with
  | error e => exact triple_throw fun _ hs => hs
  | ok new =>
    refine triple_remoteCall (fun s r hs hserve => ?_) fun s e r hs _ => hs.call (hcall _) r
    have hnew : r = some new := hchange new _ r (serve_eq_ok hserve)
    exact ⟨⟨hs.name, hs.spec, hs.stored, hs.unwritten⟩, new, hp, hnew⟩

theorem triple_createSchedule : Triple (Pending sched) (createSchedule env p)
    (fun _ s => Working sched s ∧ Sent p s.remote) fun _ => Pending sched := by
  refine triple_sendSchedule (fun new old r h => ?_) fun _ => rfl
  cases old with
  | none => exact (Except.ok.inj h).symm
  | some s => cases h

theorem triple_updateSchedule : Triple (Pending sched) (updateSchedule env p)
    (fun _ s => Working sched s ∧ Sent p s.remote) fun _ => Pending sched := by
  have hchange : ∀ new old r, serverChange (fun _ => some new) old = .ok r → r = some new := by
    intro new old r h
    cases old with
    | none => cases h
    | some s => exact (Except.ok.inj h).symm
  exact triple_sendSchedule hchange fun _ => rfl

theorem triple_recordHash (hparams : scheduleParams sched.name sched.spec = .ok p) :
    Triple (fun s => Working sched s ∧ Sent p s.remote) (recordHash (hash p)) (fun _ => Applied hash sched p)
      fun _ => Unready hash sched :=
  triple_modify fun _ hs => ⟨⟨hs.1.name, hs.1.spec, hs.1.stored, hs.1.unwritten⟩, hparams, hs.2, rfl⟩

/-- On the schedule that `p` describes there is nothing to pause. -/
theorem triple_reconcilePause : Triple (Applied hash sched p) (reconcilePause env p) (fun _ => Applied hash sched p)
    fun _ => Unready hash sched := by
  refine triple_bind ((triple_mapError (triple_describe Applied.described)).errors fun _ _ hs => .inl ⟨p, hs⟩)
    fun info => ?_
  rintro s ⟨hs, r, hr, hpaused⟩
  obtain ⟨new, hnew, hremote⟩ := hs.sent
  obtain rfl := Option.some.inj (hr.symm.trans hremote)
  -- the pause flag is part of what was sent, so it agrees and no patch follows
  have heq : p.state.paused = info.paused := by rw [hpaused, toProtoSchedule_paused hnew]
  rw [if_pos heq]
  exact hs

/-! ## The status -/

/-- The status is written last, and `Ready` only over the declared schedule. -/
theorem triple_statusUpdate :
    Triple (fun s => Unready hash sched s ∧ (s.obj.status.ready = true → ∃ p, Applied hash sched p s))
      (statusUpdate kind env.toKubeEnv) (fun _ => PassEnd hash sched) fun _ => PassEnd hash sched := by
  have hwritten {s : SchedulePass H} {cur : TemporalSchedule H} (obj : TemporalSchedule H) (hs : Unready hash sched s ∧
      (s.obj.status.ready = true → ∃ p, Applied hash sched p s)) :
      PassEnd hash sched
        { s with
          stored := (Object.writtenStatus (persist s.obj.status) cur).orGone
          obj := obj
          events := .statusWritten (persist s.obj.status) :: s.events } := by
    by_cases happlied : ∃ p, Applied hash sched p s
    · obtain ⟨p, happlied⟩ := happlied
      refine .recorded p happlied.params happlied.sent fun o ho => ?_
      rw [Object.orGone_eq_some ho]
      exact happlied.hash
    · have hpending := hs.1.resolve_left happlied
      have hnot : s.obj.status.ready = false := by simpa using fun h => happlied (hs.2 h)
      refine .lost (fun o ho => ?_) (fun hrecorded => ?_) ?_
      · rw [Object.orGone_eq_some ho]
        exact hpending.hash
      · have hheard : s.events.any heard = true := hrecorded.1
        rw [hpending.unheard] at hheard
        cases hheard
      · rw [List.any_cons, unready_of_unwritten hpending.unwritten]
        exact Bool.or_eq_false_iff.mpr ⟨hnot, rfl⟩
  have hwrite : Triple (fun s => Unready hash sched s ∧ (s.obj.status.ready = true → ∃ p, Applied hash sched p s))
      (updateStatusObject kind env.toKubeEnv) (fun _ => PassEnd hash sched) fun _ => PassEnd hash sched := by
    refine triple_write (fun s e hs => ?_) (fun s cur e hs _ _ => hwritten s.obj hs) fun s cur hs _ _ => hwritten _ hs
    have hstored : ∀ o ∈ edits admits env.beforeStatus s.stored,
        o.status.lastAppliedSpecHash = sched.status.lastAppliedSpecHash :=
      edits_status _ (P := fun st : TemporalScheduleStatus H => st.lastAppliedSpecHash = sched.status.lastAppliedSpecHash) _ hs.1.working.stored
    exact Working.lost ⟨hs.1.working.name, hs.1.working.spec, hstored, hs.1.working.unwritten⟩
  refine (triple_ignoreNotFound hwrite).conseq (fun _ hs => hs) ?_ fun _ _ hs => hs
  rintro _ s (hs | ⟨-, -, hs⟩) <;> exact hs

theorem ready_readyStatus (sched : TemporalSchedule H) (status : ConditionStatus) (reason message : String) :
    (readyStatus sched status reason message).ready = decide (status = .true) :=
  isTrue_set_self (⟨.ready, status, reason, message, sched.generation⟩ : Condition ScheduleConditionType)
    sched.status.conditions

/-! ## The record -/

/-- The recorded hash of a live object is that of the schedule in Temporal. -/
def Trusted (hash : ScheduleParams → H) (w : ScheduleWorld H) : Prop :=
  ∀ sched ∈ w.stored, sched.deleting = false → ∀ p, sched.status.lastAppliedSpecHash = some (hash p) → Sent p w.remote

theorem Trusted.edited {w : ScheduleWorld H} (h : Trusted hash w) (es : List (Edit TemporalScheduleSpec)) :
    Trusted hash ⟨edits admits es w.stored, w.remote⟩ := by
  refine edits_induction (fun o e o' ho happ hlive => ?_) es h
  have hstatus := Edit.apply_status happ
  rw [hstatus]
  refine ho ?_
  obtain rfl | ⟨spec, finalizers, generation, -, rfl⟩ | rfl := Edit.apply_cases happ
  · exact hlive
  · exact hlive
  · cases hlive

/-- How a pass over a live object whose record can be trusted leaves the record. -/
theorem PassEnd.trusted (hhash : Function.Injective hash) {s : SchedulePass H} (h : PassEnd hash sched s)
    (htrust : ∀ p, sched.status.lastAppliedSpecHash = some (hash p) → Sent p remote)
    (hrecorded : sched.status.lastAppliedSpecHash ≠ none → s.remote ≠ remote →
      s.events.any heard = true ∧ s.events.any storesStatus = true) : Trusted hash ⟨s.stored, s.remote⟩ := by
  intro o ho _ q hq
  cases h with
  | recorded p _ hsent hstored =>
    obtain rfl := hhash (Option.some.inj ((hstored o ho).symm.trans hq))
    exact hsent
  | lost hstored hunrecorded _ =>
    have hsched : sched.status.lastAppliedSpecHash = some (hash q) := (hstored o ho).symm.trans hq
    by_cases hremote : s.remote = remote
    · exact hremote ▸ htrust q hsched
    · refine absurd (hrecorded ?_ hremote) hunrecorded
      rw [hsched]
      exact Option.some_ne_none _

/-! ## Deletion -/

structure Deleting (s : SchedulePass H) : Prop where
  obj : s.obj.deleting = true
  stored : ∀ o ∈ s.stored, o.deleting = true
  unwritten : s.events.any storesStatus = false

theorem keeps_dropFinalizer_deleting :
    Keeps Deleting (dropFinalizer kind env.toKubeEnv : Proc (SchedulePass H) Err Unit) := by
  refine keeps_dropFinalizer (fun s fs hs => ⟨hs.obj, hs.stored, hs.unwritten⟩) ?_
  have hwritten {s : SchedulePass H} (cur : TemporalSchedule H) (hs : Deleting s) :
      ∀ o ∈ (s.obj.written cur).orGone, o.deleting = true := by
    intro o ho
    rw [Object.orGone_eq_some ho]
    exact hs.obj
  refine triple_write (fun s e hs => ?_) (fun s cur e hs _ _ => ?_) fun s cur hs _ _ => ?_
  · exact ⟨hs.obj, edits_deleting _ _ hs.stored, hs.unwritten⟩
  · exact ⟨hs.obj, hwritten cur hs, hs.unwritten⟩
  · exact ⟨hs.obj, hwritten cur hs, hs.unwritten⟩

theorem keeps_remoteDelete_deleting (o : TemporalSchedule H) : Keeps Deleting (remoteDelete env o) := by
  have hcall : Keeps (Deleting (H := H)) (deleteSchedule env o.spec.namespace_ (resolveScheduleID o.name o.spec)) :=
    triple_mapError (triple_remoteCall (fun s r hs _ => ⟨hs.obj, hs.stored, hs.unwritten⟩)
      fun s e r hs _ => ⟨hs.obj, hs.stored, hs.unwritten⟩)
  refine triple_attempt_bind hcall (fun _ => triple_pure fun _ hs => hs) fun e => ?_
  cases e with
  | notFound text => exact triple_pure fun _ hs => hs
  | rpc e => exact triple_throw fun _ hs => hs
  | other e => exact triple_throw fun _ hs => hs

/-! ## The whole pass -/

theorem Unready.withStatus {s : SchedulePass H} (h : Unready hash sched s) {st : TemporalScheduleStatus H}
    (hst : st.lastAppliedSpecHash = s.obj.status.lastAppliedSpecHash) :
    Unready hash sched { s with obj := { s.obj with status := st } } := by
  obtain ⟨p, h⟩ | h := h
  · exact .inl ⟨p, ⟨h.name, h.spec, h.stored, h.unwritten⟩, h.params, h.sent, hst.trans h.hash⟩
  · exact .inr ⟨⟨h.name, h.spec, h.stored, h.unwritten⟩, hst.trans h.hash, h.unheard⟩

theorem keeps_ensureFinalizer_idle :
    Keeps (Idle sched remote) (ensureFinalizer kind env.toKubeEnv : Proc (SchedulePass H) Err Unit) := by
  refine keeps_ensureFinalizer (fun s fs hs => ⟨⟨⟨hs.name, hs.spec, hs.stored, hs.unwritten⟩, hs.hash, hs.unheard⟩,
    hs.remote⟩) ?_
  have hedits {s : SchedulePass H} (hs : Idle sched remote s) : ∀ o ∈ edits admits env.beforeUpdate s.stored,
      o.status.lastAppliedSpecHash = sched.status.lastAppliedSpecHash :=
    edits_status _ (P := fun st : TemporalScheduleStatus H => st.lastAppliedSpecHash = sched.status.lastAppliedSpecHash) _ hs.stored
  -- the update answers with the stored status
  have hwritten {s : SchedulePass H} {cur : TemporalSchedule H} (hs : Idle sched remote s)
      (hcur : cur ∈ edits admits env.beforeUpdate s.stored) : ∀ o ∈ (s.obj.written cur).orGone,
      o.status.lastAppliedSpecHash = sched.status.lastAppliedSpecHash := by
    intro o ho
    rw [Object.orGone_eq_some ho]
    exact hedits hs cur hcur
  refine triple_write (fun s e hs => ?_) (fun s cur e hs hcur _ => ?_) fun s cur hs hcur _ => ?_
  · exact ⟨⟨⟨hs.name, hs.spec, hedits hs, hs.unwritten⟩, hs.hash, hs.unheard⟩, hs.remote⟩
  · exact ⟨⟨⟨hs.name, hs.spec, hwritten hs hcur, hs.unwritten⟩, hs.hash, hs.unheard⟩, hs.remote⟩
  · exact ⟨⟨⟨hs.name, hs.spec, hwritten hs hcur, hs.unwritten⟩, hedits hs cur hcur, hs.unheard⟩, hs.remote⟩

variable [DecidableEq H]

/-- `p` is applied, if a recorded hash of `p` is that of the schedule in Temporal. -/
theorem triple_applySchedule (hparams : scheduleParams sched.name sched.spec = .ok p)
    (htrust : sched.status.lastAppliedSpecHash = some (hash p) → Sent p remote) :
    Triple (Idle sched remote) (applySchedule env p (hash p)) (fun _ => Applied hash sched p)
      fun _ => Unready hash sched := by
  have hpending : ∀ (_ : Err) (s : SchedulePass H), Pending sched s → Unready hash sched s := fun _ _ hs => .inr hs
  refine triple_attempt_bind (triple_describe Idle.described) (fun info => ?_) fun e => ?_
  · refine triple_bind triple_get fun a => ?_
    by_cases hhash : a.obj.status.lastAppliedSpecHash = some (hash p)
    · -- nothing is sent: here the pass relies on its record
      rw [if_neg (not_not.mpr hhash)]
      refine triple_reconcilePause.pre ?_
      rintro s ⟨rfl, hs, -⟩
      refine ⟨hs.toWorking, hparams, ?_, hhash⟩
      rw [hs.remote]
      exact htrust (hs.hash.symm.trans hhash)
    · rw [if_pos hhash]
      refine triple_bind ?_ fun _ => triple_recordHash hparams
      exact ((triple_mapError triple_updateSchedule).errors hpending).pre fun _ hs => hs.2.1.toPending
  · cases e with
    | notFound text =>
      refine triple_bind ?_ fun _ => triple_recordHash hparams
      exact ((triple_mapError triple_createSchedule).errors hpending).pre fun _ hs => hs.toPending
    | rpc e => exact triple_throw fun _ hs => .inr hs.toPending
    | other e => exact triple_throw fun _ hs => .inr hs.toPending

/-- The status that is to be written keeps the hash, and is `Ready` only over the declared schedule. -/
theorem triple_reconcileSchedule (htrust : ∀ p, sched.status.lastAppliedSpecHash = some (hash p) → Sent p remote)
    {o : TemporalSchedule H} (hname : o.name = sched.name) (hspec : o.spec = sched.spec) :
    Triple (Idle sched remote) (reconcileSchedule hash env o)
      (fun record s => Unready hash sched s ∧
        (record s.obj).lastAppliedSpecHash = s.obj.status.lastAppliedSpecHash ∧
        ((record s.obj).ready = true → ∃ p, Applied hash sched p s)) fun _ => Unready hash sched := by
  unfold reconcileSchedule
  rw [hname, hspec]
  cases hparams : scheduleParams sched.name sched.spec with
  | error e =>
    refine triple_pure fun s hs => ⟨.inr hs.toPending, rfl, fun hready => ?_⟩
    rw [ready_readyStatus] at hready
    cases hready
  | ok p =>
    dsimp only
    cases hhash : computeSpecHash hash p with
    | error e => exact triple_throw fun _ hs => .inr hs.toPending
    | ok specHash =>
      obtain rfl := computeSpecHash_eq_ok hhash
      refine triple_bind (triple_applySchedule hparams (htrust p)) fun _ => ?_
      refine triple_bind ((triple_mapError (triple_describe Applied.described)).errors fun _ _ hs => .inl ⟨p, hs⟩)
        fun info => ?_
      exact triple_pure fun s hs => ⟨.inl ⟨p, hs.1⟩, rfl, fun _ => ⟨p, hs.1⟩⟩

theorem triple_reconcileObject (hlive : sched.deleting = false)
    (htrust : ∀ p, sched.status.lastAppliedSpecHash = some (hash p) → Sent p remote) :
    Triple (fun s => s.obj = sched ∧ Idle sched remote s) ((controller hash env).reconcileObject env.toKubeEnv)
      (fun _ => PassEnd hash sched) fun _ => PassEnd hash sched := by
  refine Controller.triple_reconcileObject_live hlive (B := Unready hash sched) (fun s hs => .inr hs.toPending)
    (fun s hs => hs.working.lost) keeps_ensureFinalizer_idle
    (A := fun r s => Unready hash sched s ∧ (r.1 s.obj).lastAppliedSpecHash = s.obj.status.lastAppliedSpecHash ∧
        ((r.1 s.obj).ready = true → ∃ p, Applied hash sched p s)) ?_ (fun reason message requeue => ?_) fun r => ?_
  · refine triple_bind triple_get fun a => ?_
    rintro s ⟨rfl, hs⟩
    exact triple_bind (triple_reconcileSchedule htrust hs.name hs.spec) (fun _ => triple_pure fun _ hs => hs) a hs
  · refine triple_bind (triple_modify fun s hs => ?_) fun _ => triple_bind triple_statusUpdate fun _ =>
      triple_pure fun _ hs => hs
    refine ⟨Unready.withStatus hs rfl, fun hready => ?_⟩
    change (readyStatus s.obj .false reason message).ready = true at hready
    rw [ready_readyStatus] at hready
    cases hready
  · refine triple_statusUpdate.pre ?_
    rintro s ⟨s₀, ⟨hs, hhash, hready⟩, rfl⟩
    refine ⟨hs.withStatus hhash, fun h => ?_⟩
    obtain ⟨p, hp⟩ := hready h
    exact ⟨p, ⟨hp.name, hp.spec, hp.stored, hp.unwritten⟩, hp.params, hp.sent, hhash.trans hp.hash⟩

/-! ## Runs -/

def scheduleSystem (hash : ScheduleParams → H) : System (ScheduleWorld H) ScheduleEnv (ScheduleReport H) where
  step := reconcilePass hash

/-- A pass over a live object with a recorded hash that has changed the Temporal schedule has heard so, and has stored
its status. -/
def Recorded (hash : ScheduleParams → H) (w : ScheduleWorld H) (env : ScheduleEnv) : Prop :=
  let out := reconcilePass hash w env
  ∀ sched ∈ out.2.read, sched.deleting = false → sched.status.lastAppliedSpecHash ≠ none → out.1.remote ≠ w.remote →
    out.2.events.any heard = true ∧ out.2.events.any storesStatus = true

instance (hash : ScheduleParams → H) (w : ScheduleWorld H) (env : ScheduleEnv) : Decidable (Recorded hash w env) :=
  inferInstanceAs (Decidable (∀ sched ∈ (reconcilePass hash w env).2.read, _ → _ → _ → _))

/-- One pass keeps the record, and `Ready` is stored over the declared schedule. -/
theorem trusted_pass (hhash : Function.Injective hash) {w : ScheduleWorld H} (h : Trusted hash w)
    (hrecorded : Recorded hash w env) :
    Trusted hash (reconcilePass hash w env).1 ∧
      ((reconcilePass hash w env).2.events.any storesReady = true →
        ∃ sched ∈ (reconcilePass hash w env).2.read, Matches sched (reconcilePass hash w env).1.remote) := by
  have hedited := h.edited env.beforeGet
  unfold Recorded at hrecorded
  rcases pass_cases kind ScheduleEnv.toKubeEnv (fun env => (controller hash env).reconcileObject env.toKubeEnv) w env with
    heq | ⟨o, s, -, ho, hs, heq⟩
  · have hpass : reconcilePass hash w env = _ := heq
    rw [hpass]
    exact ⟨hedited, fun hready => absurd hready Bool.false_ne_true⟩
  · have hpass : reconcilePass hash w env = _ := heq
    rw [hpass] at hrecorded ⊢
    cases hdeleting : o.deleting with
    | true =>
      have hend : Deleting s := by
        rw [hs]
        refine (Controller.triple_reconcileObject_deleting (c := controller hash env) hdeleting
          keeps_dropFinalizer_deleting (keeps_remoteDelete_deleting o)).exec ⟨rfl, hdeleting, fun o' ho' => ?_, rfl⟩
        exact Option.some.inj ho' ▸ hdeleting
      refine ⟨fun o' ho' hlive => ?_, fun hready => ?_⟩
      · exact absurd (hlive.symm.trans (hend.stored o' ho')) Bool.false_ne_true
      · exact absurd ((unready_of_unwritten hend.unwritten).symm.trans hready) Bool.false_ne_true
    | false =>
      have htrust := hedited o ho hdeleting
      have hend : PassEnd hash o s := by
        rw [hs]
        refine (triple_reconcileObject hdeleting htrust).exec ⟨rfl, ⟨⟨rfl, rfl, fun o' ho' => ?_, rfl⟩, rfl, rfl⟩, rfl⟩
        exact Option.some.inj ho' ▸ rfl
      refine ⟨hend.trusted hhash htrust (hrecorded o rfl hdeleting), fun hready => ⟨o, rfl, ?_⟩⟩
      cases hend with
      | recorded p hparams hsent _ => exact ⟨p, hparams, hsent⟩
      | lost _ _ hnot => exact absurd (hnot.symm.trans hready) Bool.false_ne_true

theorem trusted_run (hhash : Function.Injective hash) {w₀ w : ScheduleWorld H} {h : List (ScheduleReport H)}
    (hnew : ∀ sched ∈ w₀.stored, sched.status.lastAppliedSpecHash = none)
    (run : (scheduleSystem hash).Run (fun w _ env => Recorded hash w env) w₀ w h) : Trusted hash w := by
  refine run.invariant (I := fun w _ => Trusted hash w) (fun sched hsched _ p hp => ?_) fun w h env _ ih hrecorded => ?_
  · rw [hnew sched hsched] at hp
    cases hp
  · exact (trusted_pass hhash ih hrecorded).1

/-- **A Ready schedule is the declared one.** Whatever users do and whichever calls fail, a pass that stores `Ready`
leaves in Temporal the schedule of the spec it has read, as long as no record is lost: with a hash on record, a pass
that has changed the Temporal schedule has heard so and stored its status. -/
theorem ready_schedule_in_sync (hhash : Function.Injective hash) {w₀ w : ScheduleWorld H} {h : List (ScheduleReport H)}
    {r : ScheduleReport H} (hnew : ∀ sched ∈ w₀.stored, sched.status.lastAppliedSpecHash = none)
    (run : (scheduleSystem hash).Run (fun w _ env => Recorded hash w env) w₀ w (r :: h))
    (hready : r.events.any storesReady = true) : ∃ sched ∈ r.read, Matches sched w.remote := by
  obtain ⟨w', env, hrun, hrecorded, rfl, rfl⟩ := run.last
  exact (trusted_pass hhash (trusted_run hhash hnew hrun) hrecorded).2 hready

def everyHours (hours : Int) : TemporalScheduleSpec where
  clusterRef := { name := "dev", kind := "TemporalDevServer" }
  namespace_ := "default"
  schedule := { intervals := [{ every := hours * 3600 * second }] }
  action := { startWorkflow := { workflowType := "Report", taskQueue := "reports" } }

/-- A new object, and no schedule in Temporal. Specs are hashed to themselves. -/
def newSchedule : ScheduleWorld ScheduleParams where
  stored := some { name := "report", spec := everyHours 1, status := {} }
  remote := none

def smoothPass (edits : List (Edit TemporalScheduleSpec)) : ScheduleEnv where
  beforeGet := edits
  target := { getDevServer := .ok { conditions := [⟨.ready, .true, "Ready", "", 1⟩] } }

def changeTo (hours : Int) : Edit TemporalScheduleSpec := .edit (everyHours hours) [scheduleFinalizer]

/-- The status of the first pass is lost, with no hash on record; the second updates and records, and so does the third,
after an edit. -/
def recordedRun := (scheduleSystem (id : ScheduleParams → ScheduleParams)).exec newSchedule []
  [{ smoothPass [] with status := .failed ⟨.other, "timeout"⟩ }, smoothPass [], smoothPass [changeTo 2]]

/-- The fourth pass relies on the record: it sends nothing. -/
theorem ready_schedule_in_sync_edited :
    let out := reconcilePass (id : ScheduleParams → ScheduleParams) recordedRun.1 (smoothPass [])
    out.2.events.any heard = false ∧ ∃ sched ∈ out.2.read, sched.spec = everyHours 2 ∧ Matches sched out.1.remote := by
  intro out
  have hfits : (scheduleSystem id).Fits (fun w _ env => Recorded id w env) newSchedule []
      [{ smoothPass [] with status := .failed ⟨.other, "timeout"⟩ }, smoothPass [], smoothPass [changeTo 2],
        smoothPass []] := by
    decide +kernel
  have hout : out.2.events.any storesReady = true ∧ out.2.events.any heard = false ∧
      ∀ sched ∈ out.2.read, sched.spec = everyHours 2 := by
    decide +kernel
  obtain ⟨hready, hheard, hspec⟩ := hout
  have hrun := System.Run.exec System.Run.start hfits
  obtain ⟨sched, hread, hmatches⟩ := ready_schedule_in_sync Function.injective_id (by decide) hrun hready
  exact ⟨hheard, sched, hread, hspec sched hread, hmatches⟩

instance (p : ScheduleParams) (remote : Option ProtoSchedule) : Decidable (Sent p remote) :=
  match h : toProtoSchedule p with
  | .ok s => decidable_of_iff (remote = some s) ⟨fun hr => ⟨s, h, hr⟩, fun ⟨s', h', hr⟩ => by
      obtain rfl := Except.ok.inj (h.symm.trans h')
      exact hr⟩
  | .error e => .isFalse fun ⟨s, h', _⟩ => by cases h.symm.trans h'

instance (sched : TemporalSchedule H) (remote : Option ProtoSchedule) : Decidable (Matches sched remote) :=
  match h : scheduleParams sched.name sched.spec with
  | .ok p => decidable_of_iff (Sent p remote) ⟨fun hr => ⟨p, h, hr⟩, fun ⟨p', h', hr⟩ => by
      obtain rfl := Except.ok.inj (h.symm.trans h')
      exact hr⟩
  | .error e => .isFalse fun ⟨p, h', _⟩ => by cases h.symm.trans h'

/-- The schedule is edited, and the edit is taken back while a pass applies it. It stays in Temporal under a `Ready`
object. -/
theorem reverted_edit_diverges :
    ∃ w h r, Function.Injective (id : ScheduleParams → ScheduleParams) ∧
      (∀ sched ∈ newSchedule.stored, sched.status.lastAppliedSpecHash = none) ∧
      (scheduleSystem id).Run (fun _ _ _ => True) newSchedule w (r :: h) ∧
      r.events.any storesReady = true ∧ ¬ ∃ sched ∈ r.read, Matches sched w.remote := by
  have hfits : (scheduleSystem id).Fits (fun _ _ _ => True) newSchedule []
      [smoothPass [], { smoothPass [changeTo 2] with beforeStatus := [changeTo 1] }] := ⟨trivial, trivial, trivial⟩
  have hrun := System.Run.exec System.Run.start hfits
  exact ⟨_, _, _, Function.injective_id, by decide, .step (smoothPass []) hrun trivial, by decide +kernel,
    by decide +kernel⟩

end TemporalOperator.Satellite.Schedule
