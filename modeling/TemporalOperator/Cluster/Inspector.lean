import TemporalOperator.Cluster.Persistence
import TemporalOperator.Lib.Runs

/-!
# The inspector Job across calls

`inspectOnce` with the controller's `ensureInspectorJob`, over the Job of one store and the pods that carry its name.
A deletion is a background one: it takes the Job away and leaves its pods, and the next Job gets the same name and a
new UID.

* `InspectorState` : the Job, the pods labelled with its name, and what the backend of the pass has cached;
  `inspectorSystem` : the controller's calls on it, and what becomes of the Job and its pods in between;
* `InspectorEntry.Fresh` : the result a call returned was written by a pod of the Job the call got
  (`inspection_fresh`, as long as no answered pod is left over from a Job before);
* `errInspecting_job_alive` : a call that says to wait leaves no finished Job behind.
-/

namespace TemporalOperator
open Lib Persistence

/-! ## Pods and their answers -/

/-- A pod with the Job's name as its label: the UID of the Job that owns it, and what its containers have left. -/
structure InspectorPod where
  owner : Nat
  statuses : List (String × PodAnswer)
  deriving DecidableEq, Repr

/-- What the pod's `inspect` container says. -/
def InspectorPod.answer (p : InspectorPod) : Option (Except String InspectResult) := firstAnswer [p.statuses]

/-- The pod whose answer `inspectOnce` takes. -/
def answeringPod (pods : List InspectorPod) : Option InspectorPod := pods.find? fun p => p.answer.isSome

theorem firstAnswer_cons (pod : List (String × PodAnswer)) (pods : List (List (String × PodAnswer))) :
    firstAnswer (pod :: pods) = (firstAnswer [pod]).or (firstAnswer pods) := by
  simp only [firstAnswer, List.flatten_cons, List.flatten_nil, List.append_nil, List.findSome?_append]

theorem answeringPod_cons (p : InspectorPod) (ps : List InspectorPod) :
    answeringPod (p :: ps) = if p.answer.isSome then some p else answeringPod ps := by
  unfold answeringPod
  rw [List.find?_cons]
  cases p.answer <;> rfl

theorem firstAnswer_statuses (pods : List InspectorPod) :
    firstAnswer (pods.map InspectorPod.statuses) = (answeringPod pods).bind InspectorPod.answer := by
  induction pods with
  | nil => rfl
  | cons p ps ih =>
    rw [List.map_cons, firstAnswer_cons, ih, answeringPod_cons, ← InspectorPod.answer]
    cases h : p.answer with
    | none => simp
    | some a => simp [h]

theorem answeringPod_of_answer {pods : List InspectorPod} {a : Except String InspectResult}
    (h : firstAnswer (pods.map InspectorPod.statuses) = some a) :
    ∃ pod, answeringPod pods = some pod ∧ pod.answer = some a ∧ pod ∈ pods := by
  rw [firstAnswer_statuses] at h
  obtain ⟨pod, hpod, ha⟩ := Option.bind_eq_some_iff.mp h
  exact ⟨pod, hpod, ha, List.mem_of_find?_eq_some hpod⟩

/-! ## The system -/

structure InspectorState where
  job : Option Job := none
  pods : List InspectorPod := []
  /-- The UID the next Job gets. -/
  nextUID : Nat := 0
  /-- What the backend of the current pass has cached. -/
  cached : Option InspectResult := none
  deriving DecidableEq, Repr

/-- How the calls to the API fare, beyond what the state decides. -/
structure InspectorCalls where
  getErr : Option GoErr := none
  createErr : Option GoErr := none
  listErr : Option GoErr := none
  deleteErr : Option GoErr := none
  /-- A finalizer keeps a deleted Job, with its deletion timestamp set. -/
  held : Bool := false
  deriving DecidableEq, Repr

def notFoundErr : GoErr := ⟨.notFound, "not found"⟩

namespace InspectorState

/-- What the API answers to an inspection. -/
def io (s : InspectorState) (a : InspectorCalls) : InspectorIO where
  getJob :=
    match a.getErr, s.job with
    | some e, _ => .error e
    | none, some job => .ok job
    | none, none => .error notFoundErr
  createErr := if s.job.isSome then some ⟨.alreadyExists, "already exists"⟩ else a.createErr
  created := { uid := s.nextUID }
  pods :=
    match a.listErr with
    | some e => .error e
    | none => .ok (s.pods.map InspectorPod.statuses)
  deleteErr := if s.job.isNone then some notFoundErr else a.deleteErr

/-- What it answers to the removal of a stale Job. -/
def deleteIO (s : InspectorState) (a : InspectorCalls) : DeleteIO where
  getErr := a.getErr.or (if s.job.isNone then some notFoundErr else none)
  deleteErr := if s.job.isNone then some notFoundErr else a.deleteErr

/-- A deletion with background propagation: the pods stay. -/
def delete (s : InspectorState) (held : Bool) : InspectorState :=
  { s with job := if held then s.job.map fun job => { job with deleting := true } else none }

def call (s : InspectorState) (store : SchemaStore) (a : InspectorCalls) : Pass InspectResult :=
  inspectOnce (s.io a) store s.cached

def inspect (s : InspectorState) (store : SchemaStore) (a : InspectorCalls) : InspectorState :=
  let s' := { s with cached := (s.call store a).res.toOption }
  if .inspectorCreated store ∈ (s.call store a).log then
    { s' with job := some (s.io a).created, nextUID := s.nextUID + 1 }
  else if .inspectorDeleted store ∈ (s.call store a).log ∧ (s.io a).deleteErr = none then s'.delete a.held
  else s'

def cleanUp (s : InspectorState) (store : SchemaStore) (a : InspectorCalls) : InspectorState :=
  if .inspectorDeleted store ∈ (deleteInspectorJob { staleInspector := fun _ => s.deleteIO a } store).log ∧
      (s.deleteIO a).deleteErr = none then s.delete a.held
  else s

/-- The Job `ensureJob` returned in the call; none when it failed or was not called. -/
def ensured (s : InspectorState) (store : SchemaStore) (a : InspectorCalls) : Option Job :=
  if s.cached.isSome then none else (ensureInspectorJob (s.io a) store).res.toOption

end InspectorState

inductive InspectorInput
  /-- A pass builds its backend. -/
  | newBackend
  | inspect (calls : InspectorCalls)
  /-- `deleteInspectorJob`, once an update Job has succeeded. -/
  | cleanUp (calls : InspectorCalls)
  /-- The Job controller starts a pod, which the API lists as the `n`-th. -/
  | podStarted (n : Nat)
  | podAnswered (n : Nat) (answer : PodAnswer)
  | jobFinished (t : JobConditionType)
  /-- The Job is deleted by its TTL or from outside. -/
  | jobDeleted (held : Bool)
  | podCollected (n : Nat)
  deriving DecidableEq, Repr

inductive InspectorEntry
  | newBackend
  /-- A call: the Job it got, the pods it listed, and what it returned. -/
  | inspected (job : Option Job) (listed : List InspectorPod) (result : Except GoErr InspectResult)
  | other

def inspectorStep (store : SchemaStore) (s : InspectorState) : InspectorInput → InspectorState × InspectorEntry
  | .newBackend => ({ s with cached := none }, .newBackend)
  | .inspect a => (s.inspect store a, .inspected (s.ensured store a) s.pods (s.call store a).res)
  | .cleanUp a => (s.cleanUp store a, .other)
  | .podStarted n =>
    match s.job with
    | some job => ({ s with pods := s.pods.insertIdx n ⟨job.uid, [("inspect", .none)]⟩ }, .other)
    | none => (s, .other)
  | .podAnswered n answer =>
    ({ s with pods := s.pods.modify n fun p => { p with statuses := [("inspect", answer)] } }, .other)
  | .jobFinished t => ({ s with job := s.job.map fun job => { job with conditions := [(t, true)] } }, .other)
  | .jobDeleted held => (s.delete held, .other)
  | .podCollected n => ({ s with pods := s.pods.eraseIdx n }, .other)

def inspectorSystem (store : SchemaStore) : System InspectorState InspectorInput InspectorEntry := ⟨inspectorStep store⟩

/-- A history of the Jobs of one name: calls of the controller that meet `ok`, and anything else in between. -/
abbrev InspectorRun (store : SchemaStore) (ok : InspectorState → List InspectorEntry → InspectorInput → Prop) :=
  (inspectorSystem store).Run ok {}

/-! ## Fresh answers -/

def WroteFor (job : Job) (listed : List InspectorPod) (r : InspectResult) : Prop :=
  ∃ pod, answeringPod listed = some pod ∧ pod.answer = some (.ok r) ∧ pod.owner = job.uid

def InspectorEntry.isNewBackend : InspectorEntry → Bool
  | .newBackend => true
  | _ => false

/-- The result was written by a pod of the Job that this call got or, when it comes from the cache, that the call of
the same backend got which filled it. -/
def InspectorEntry.Fresh (h : List InspectorEntry) : InspectorEntry → Prop
  | .inspected (some job) listed (.ok r) => WroteFor job listed r
  | .inspected none _ (.ok r) => ∃ job listed,
    .inspected (some job) listed (.ok r) ∈ since InspectorEntry.isNewBackend h ∧ WroteFor job listed r
  | _ => True

/-- When the controller inspects, no pod with an answer is left over from a Job that is gone. -/
def NoLeftover (s : InspectorState) (_ : List InspectorEntry) : InspectorInput → Prop
  | .inspect _ => ∀ pod ∈ s.pods, pod.answer.isSome = true → pod.owner ∈ s.job.map Job.uid
  | _ => True

namespace InspectorState

variable {s : InspectorState} {store : SchemaStore} {a : InspectorCalls} {r : InspectResult} {job : Job}

theorem call_of_cached (h : s.cached = some r) : s.call store a = pure r := by
  rw [call, h, inspectOnce]

theorem call_of_ok (hcached : s.cached = none) (h : (s.call store a).res = .ok r) :
    ∃ job pod, s.ensured store a = some job ∧ answeringPod s.pods = some pod ∧ pod.answer = some (.ok r) ∧
      pod ∈ s.pods := by
  rw [call, hcached] at h
  obtain ⟨pods, hpods, hanswer⟩ := inspectOnce_none_res h
  rw [inspectOnce, Act.res_bind_eq_ok] at h
  obtain ⟨job, hjob, -⟩ := h
  have hlisted : pods = s.pods.map InspectorPod.statuses := by
    simp only [io] at hpods
    split at hpods
    · cases hpods
    · exact (Except.ok.inj hpods).symm
  subst hlisted
  obtain ⟨pod, hpod, ha, hmem⟩ := answeringPod_of_answer hanswer
  refine ⟨job, pod, ?_, hpod, ha, hmem⟩
  simp [ensured, hcached, hjob, Except.toOption]

theorem ensured_eq (h : s.ensured store a = some job) :
    s.job = some job ∨ s.job = none ∧ job = { uid := s.nextUID } := by
  unfold ensured at h
  split at h
  · cases h
  · have hspec := ensureInspectorJob_spec (s.io a) store
    generalize ensureInspectorJob (s.io a) store = m at hspec h
    cases hspec with
    | present hget hd =>
      obtain rfl := Option.some.inj h
      simp only [io] at hget
      split at hget
      · cases hget
      · rename_i hjob
        exact .inl (hjob.trans (congrArg some (Except.ok.inj hget)))
      · cases hget
    | created hget he hcreate =>
      obtain rfl := Option.some.inj h
      refine .inr ⟨?_, rfl⟩
      by_contra hjob
      simp only [io, if_pos (Option.isSome_iff_ne_none.mpr hjob)] at hcreate
      cases hcreate
    | _ => cases h

theorem wroteFor_of_noLeftover {h : List InspectorEntry} (hok : NoLeftover s h (.inspect a)) (hcached : s.cached = none)
    (hres : (s.call store a).res = .ok r) : ∃ job, s.ensured store a = some job ∧ WroteFor job s.pods r := by
  obtain ⟨job, pod, hjob, hpod, ha, hmem⟩ := call_of_ok hcached hres
  refine ⟨job, hjob, pod, hpod, ha, ?_⟩
  have howner := hok pod hmem (by rw [ha]; rfl)
  rcases ensured_eq hjob with hlive | ⟨hnone, -⟩
  · rw [hlive] at howner
    exact (Option.some.inj howner).symm
  · rw [hnone] at howner
    cases howner

theorem cached_inspect (s : InspectorState) (store : SchemaStore) (a : InspectorCalls) :
    (s.inspect store a).cached = (s.call store a).res.toOption := by
  unfold inspect
  dsimp only
  split
  · rfl
  · split <;> rfl

end InspectorState

/-- What is cached was returned by a call of the same backend, and a pod of that call's Job wrote it. -/
def CachedFresh (s : InspectorState) (h : List InspectorEntry) : Prop :=
  ∀ r, s.cached = some r → ∃ job listed,
    .inspected (some job) listed (.ok r) ∈ since InspectorEntry.isNewBackend h ∧ WroteFor job listed r

theorem CachedFresh.keep {s s' : InspectorState} {h : List InspectorEntry} (hc : CachedFresh s h)
    (he : s'.cached = s.cached) {e : InspectorEntry} (hb : e.isNewBackend = false) : CachedFresh s' (e :: h) := by
  intro r hr
  obtain ⟨job, listed, hmem, hw⟩ := hc r (he ▸ hr)
  exact ⟨job, listed, mem_since_cons hb hmem, hw⟩

theorem inspectorStep_fresh {store : SchemaStore} {s : InspectorState} {h : List InspectorEntry}
    (hc : CachedFresh s h) {i : InspectorInput} (hok : NoLeftover s h i) :
    CachedFresh (inspectorStep store s i).1 ((inspectorStep store s i).2 :: h) ∧
      (inspectorStep store s i).2.Fresh h := by
  cases i with
  | newBackend =>
    refine ⟨fun r hr => ?_, trivial⟩
    cases hr
  | inspect a =>
    cases hcached : s.cached with
    | some r =>
      have hcall : s.call store a = pure r := InspectorState.call_of_cached hcached
      have hnone : s.ensured store a = none := by simp [InspectorState.ensured, hcached]
      refine ⟨hc.keep ?_ rfl, ?_⟩
      · simp [inspectorStep, InspectorState.cached_inspect, hcall, hcached, Except.toOption]
      · simp only [inspectorStep, hcall, hnone, Act.res_pure]
        exact hc r hcached
    | none =>
      cases hres : (s.call store a).res with
      | error e =>
        refine ⟨fun r hr => ?_, ?_⟩
        · rw [inspectorStep, InspectorState.cached_inspect, hres] at hr
          cases hr
        · simp only [inspectorStep, hres]
          cases s.ensured store a <;> trivial
      | ok r =>
        obtain ⟨job, hjob, hw⟩ := InspectorState.wroteFor_of_noLeftover hok hcached hres
        simp only [inspectorStep, hjob, hres]
        refine ⟨fun r' hr' => ?_, hw⟩
        rw [InspectorState.cached_inspect, hres] at hr'
        obtain rfl := Option.some.inj hr'
        exact ⟨job, s.pods, mem_since_cons_self _ _ _, hw⟩
  | cleanUp a =>
    refine ⟨hc.keep ?_ rfl, trivial⟩
    simp only [inspectorStep, InspectorState.cleanUp]
    split <;> rfl
  | podStarted n =>
    simp only [inspectorStep]
    split <;> exact ⟨hc.keep rfl rfl, trivial⟩
  | _ => exact ⟨hc.keep rfl rfl, trivial⟩

theorem InspectorRun.cachedFresh {store : SchemaStore} {s : InspectorState} {h : List InspectorEntry}
    (run : InspectorRun store NoLeftover s h) : CachedFresh s h := by
  refine System.Run.invariant ?_ (fun s h i _ ih hok => (inspectorStep_fresh ih hok).1) run
  intro r hr
  cases hr

/-- **Answers are fresh**: along every history in which the controller inspects only when no answered pod is left over
from a Job that is gone, each result was written by a pod of the Job that the call got. -/
theorem inspection_fresh {store : SchemaStore} {s : InspectorState} {e : InspectorEntry} {h : List InspectorEntry}
    (run : InspectorRun store NoLeftover s (e :: h)) : e.Fresh h := by
  obtain ⟨s', i, run', hok, -, rfl⟩ := run.last
  exact (inspectorStep_fresh (InspectorRun.cachedFresh run') hok).2

def emptyStore : PodAnswer := .ran { query := { store := .noTable } }

/-- A Job is created, its pod answers, and a second pass reads the answer. -/
def firstInspection : List InspectorInput :=
  [.newBackend, .inspect {}, .podStarted 0, .podAnswered 0 emptyStore, .jobFinished .complete, .newBackend, .inspect {}]

instance (s : InspectorState) (h : List InspectorEntry) : (i : InspectorInput) → Decidable (NoLeftover s h i)
  | .inspect _ => inferInstanceAs (Decidable (∀ pod ∈ s.pods, _))
  | .newBackend => .isTrue trivial
  | .cleanUp _ => .isTrue trivial
  | .podStarted _ => .isTrue trivial
  | .podAnswered .. => .isTrue trivial
  | .jobFinished _ => .isTrue trivial
  | .jobDeleted _ => .isTrue trivial
  | .podCollected _ => .isTrue trivial

/-- The second pass gets the Job with UID 0 and the answer of its pod. -/
theorem inspection_fresh_first :
    let run := (inspectorSystem .default).exec {} [] firstInspection
    ∃ e h, run.2 = e :: h ∧ e.Fresh h := by
  intro run
  have hfits : (inspectorSystem .default).Fits NoLeftover {} [] firstInspection := by decide +kernel
  exact ⟨_, _, rfl, inspection_fresh (System.Run.exec .start hfits)⟩

/-- After the migration the controller deletes the Job, whose pod is still there, and creates a new one: the call that
creates it returns what the old pod found before the migration. -/
theorem stale_answer_returned :
    ∃ s h job listed r, InspectorRun .default (fun _ _ _ => True) s (.inspected (some job) listed (.ok r) :: h) ∧
      (∀ pod ∈ listed, pod.owner ≠ job.uid) ∧ r = { reachable := true, version := "" } ∧
      ¬ (InspectorEntry.inspected (some job) listed (.ok r)).Fresh h := by
  have hfits : (inspectorSystem .default).Fits (fun _ _ _ => True) {} []
      (firstInspection ++ [.cleanUp {}, .newBackend, .inspect {}]) := by
    simp [System.Fits, firstInspection]
  refine ⟨_, _, { uid := 1 }, [⟨0, [("inspect", emptyStore)]⟩], { reachable := true, version := "" },
    System.Run.exec .start hfits, by decide, rfl, ?_⟩
  rintro ⟨pod, hpod, -, howner⟩
  obtain rfl := Option.some.inj hpod
  cases howner

/-! ## Waiting -/

/-- Reads answer with what is there, and a call that fails says neither that the Job is missing or in the way nor that
it is being inspected. -/
structure InspectorCalls.Current (a : InspectorCalls) : Prop where
  get : ∀ e, a.getErr = some e → e.cause ≠ .notFound ∧ e.cause ≠ .inspecting
  create : ∀ e, a.createErr = some e → e.cause ≠ .alreadyExists ∧ e.cause ≠ .inspecting
  list : ∀ e, a.listErr = some e → e.cause ≠ .inspecting
  delete : ∀ e, a.deleteErr = some e → e.cause ≠ .notFound ∧ e.cause ≠ .inspecting

inductive WaitsFor : Option Job → Prop
  | running {job : Job} (hd : job.deleting = false) (ht : jobIsTerminal job = false) : WaitsFor (some job)
  | leaving {job : Job} (hd : job.deleting = true) : WaitsFor (some job)
  | absent : WaitsFor none

namespace InspectorState

variable {s : InspectorState} {store : SchemaStore} {a : InspectorCalls} {job : Job} {e : GoErr}

theorem job_of_getJob (h : (s.io a).getJob = .ok job) : s.job = some job := by
  simp only [io] at h
  split at h
  · cases h
  · rename_i hjob
    exact hjob.trans (congrArg some (Except.ok.inj h))
  · cases h

theorem job_of_notFound (hc : a.Current) (h : (s.io a).getJob = .error e) (he : e.cause = .notFound) :
    s.job = none := by
  simp only [io] at h
  split at h
  · rename_i hget
    exact absurd he (Except.error.inj h ▸ (hc.get _ hget).1)
  · cases h
  · assumption

theorem getJob_error (hc : a.Current) (h : (s.io a).getJob = .error e) (he : e.cause ≠ .notFound) :
    e.cause ≠ .inspecting := by
  simp only [io] at h
  split at h
  · rename_i hget
    exact Except.error.inj h ▸ (hc.get _ hget).2
  · cases h
  · exact absurd (Except.error.inj h ▸ rfl) he

theorem inspect_job_of_log (hlog : (s.call store a).log = []) : (s.inspect store a).job = s.job := by
  simp [inspect, hlog]

theorem inspect_job_of_created {log : List Event} (hlog : (s.call store a).log = .inspectorCreated store :: log) :
    (s.inspect store a).job = some { uid := s.nextUID } := by
  simp [inspect, hlog, io]

theorem inspect_job_of_deleted (hlog : (s.call store a).log = [.inspectorDeleted store]) (hjob : s.job = some job)
    (hdelete : a.deleteErr = none) : WaitsFor (s.inspect store a).job := by
  cases hheld : a.held with
  | true =>
    simp only [inspect, hlog, List.mem_singleton, reduceCtorEq, if_false, io, hjob, Option.isNone_some,
      Bool.false_eq_true, hdelete, and_self, if_true, delete, hheld, Option.map_some]
    exact .leaving rfl
  | false =>
    simp only [inspect, hlog, List.mem_singleton, reduceCtorEq, if_false, io, hjob, Option.isNone_some,
      Bool.false_eq_true, hdelete, and_self, if_true, delete, hheld]
    exact .absent

theorem deleteErr_cause (hc : a.Current) (h : (s.io a).deleteErr = some e) (he : e.cause ≠ .notFound) :
    e.cause ≠ .inspecting := by
  simp only [io] at h
  split at h
  · exact absurd (Option.some.inj h ▸ rfl) he
  · exact (hc.delete e h).2

/-- A call that says to wait has found no answer: it left a Job that is not finished alone and deleted a finished
one. -/
theorem askPods_inspecting (hc : a.Current) (h : (askPods (s.io a) store job).res = .error e)
    (he : e.cause = .inspecting) :
    jobIsTerminal job = false ∧ (askPods (s.io a) store job).log = [] ∨
      jobIsTerminal job = true ∧ (askPods (s.io a) store job).log = [.inspectorDeleted store] ∧
        ∀ e', (s.io a).deleteErr = some e' → e'.cause = .notFound := by
  have hspec := askPods_spec (s.io a) store job
  generalize askPods (s.io a) store job = m at hspec h ⊢
  cases hspec with
  | unlisted hpods =>
    obtain rfl := Except.error.inj h
    simp only [io] at hpods
    split at hpods
    · rename_i hlist
      exact absurd he (Except.error.inj hpods ▸ hc.list _ hlist)
    · cases hpods
  | unreadable hpods ha =>
    obtain rfl := Except.error.inj h
    cases he
  | answered hpods ha => cases h
  | waiting ht => exact .inl ⟨ht, rfl⟩
  | spent ht hdelete => exact .inr ⟨ht, rfl, hdelete⟩
  | kept ht hdelete hne =>
    obtain rfl := Except.error.inj h
    exact (deleteErr_cause hc hdelete hne he).elim

theorem cached_of_error (h : (s.call store a).res = .error e) : s.cached = none := by
  cases hcached : s.cached with
  | none => rfl
  | some r =>
    rw [call_of_cached hcached] at h
    cases h

theorem waitsFor_of_inspecting (hc : a.Current) (h : (s.call store a).res = .error e) (he : e.cause = .inspecting) :
    WaitsFor (s.inspect store a).job := by
  have hcall : s.call store a = ensureInspectorJob (s.io a) store >>= askPods (s.io a) store := by
    rw [call, cached_of_error h, inspectOnce_none]
  have hspec := ensureInspectorJob_spec (s.io a) store
  generalize ensureInspectorJob (s.io a) store = m at hspec hcall
  rw [hcall] at h
  cases hspec with
  | unread hget hne =>
    obtain rfl := Except.error.inj h
    exact absurd he (getJob_error hc hget hne)
  | deleting hget hd =>
    rw [inspect_job_of_log (by rw [hcall]; rfl), job_of_getJob hget]
    exact .leaving hd
  | raced hget hnf hcreate hexists =>
    have hjob := job_of_notFound hc hget hnf
    simp only [io, hjob, Option.isSome_none, Bool.false_eq_true, if_false] at hcreate
    exact absurd hexists (hc.create _ hcreate).1
  | refused hget hnf hcreate hexists =>
    obtain rfl := Except.error.inj h
    have hjob := job_of_notFound hc hget hnf
    simp only [io, hjob, Option.isSome_none, Bool.false_eq_true, if_false] at hcreate
    exact absurd he (hc.create _ hcreate).2
  | @present job hget hd =>
    have hjob := job_of_getJob hget
    rcases askPods_inspecting hc h he with ⟨ht, hlog⟩ | ⟨ht, hlog, hdelete⟩
    · rw [inspect_job_of_log (by rw [hcall]; exact hlog), hjob]
      exact .running hd ht
    · refine inspect_job_of_deleted (by rw [hcall]; exact hlog) hjob ?_
      cases hd' : a.deleteErr with
      | none => rfl
      | some e' =>
        exact absurd (hdelete e' (by simp [io, hjob, hd'])) (hc.delete e' hd').1
  | created hget hnf hcreate =>
    rw [inspect_job_of_created (by rw [hcall]; rfl)]
    exact .running rfl rfl

theorem inspect_job_of_absent (hjob : s.job = none) (hcached : s.cached = none) (hget : a.getErr = none)
    (hcreate : a.createErr = none) : (s.inspect store a).job = some { uid := s.nextUID } := by
  have hensure : ensureInspectorJob (s.io a) store = ⟨[.inspectorCreated store], .ok { uid := s.nextUID }⟩ := by
    simp [ensureInspectorJob, io, hjob, hget, hcreate, notFoundErr]
    rfl
  have hlog : (s.call store a).log = .inspectorCreated store :: (askPods (s.io a) store { uid := s.nextUID }).log := by
    rw [call, hcached, inspectOnce_none, hensure]
    rfl
  exact inspect_job_of_created hlog

end InspectorState

/-- **Waiting is never in vain**: a call that returns `ErrInspecting` leaves a Job that is neither finished nor being
deleted, a Job that is being deleted, or no Job, in which case the next call creates one; a finished Job is not left
in place. -/
theorem errInspecting_job_alive {store : SchemaStore} {s : InspectorState} {a : InspectorCalls} {e : GoErr}
    (hc : a.Current) (h : (s.call store a).res = .error e) (he : e.cause = .inspecting) :
    ((∃ job, (s.inspect store a).job = some job ∧ job.deleting = false ∧ jobIsTerminal job = false) ∨
      (∃ job, (s.inspect store a).job = some job ∧ job.deleting = true) ∨
      ((s.inspect store a).job = none ∧ ∀ b : InspectorCalls, b.getErr = none → b.createErr = none →
        ((s.inspect store a).inspect store b).job = some { uid := (s.inspect store a).nextUID })) ∧
    ∀ job, s.job = some job → jobIsTerminal job = true → job.deleting = false → (s.inspect store a).job ≠ some job := by
  have hcached : (s.inspect store a).cached = none := by
    rw [InspectorState.cached_inspect, h]
    rfl
  have hwaits := InspectorState.waitsFor_of_inspecting hc h he
  generalize hs' : s.inspect store a = s' at hcached hwaits ⊢
  constructor
  · generalize hjob : s'.job = j at hwaits ⊢
    cases hwaits with
    | running hd ht => exact .inl ⟨_, rfl, hd, ht⟩
    | leaving hd => exact .inr (.inl ⟨_, rfl, hd⟩)
    | absent => exact .inr (.inr ⟨rfl, fun b hget hcreate =>
        InspectorState.inspect_job_of_absent hjob hcached hget hcreate⟩)
  · intro job _ hterminal hdeleting heq
    rw [heq] at hwaits
    cases hwaits with
    | running hd ht => exact absurd (hterminal.symm.trans ht) (by decide)
    | leaving hd => exact absurd (hdeleting.symm.trans hd) (by decide)

/-- A completed Job whose pod is gone: the call deletes it, and the next one creates a new Job. -/
theorem errInspecting_job_alive_spent :
    let s : InspectorState := { job := some { conditions := [(.complete, true)] }, nextUID := 1 }
    (s.call .default {}).res = .error errInspecting ∧ (s.inspect .default {}).job = none ∧
      ((s.inspect .default {}).inspect .default {}).job = some { uid := 1 } := by
  intro s
  have hc : ({} : InspectorCalls).Current := ⟨by simp, by simp, by simp, by simp⟩
  have h : (s.call .default {}).res = .error errInspecting := rfl
  have hjob : (s.inspect .default {}).job = none := rfl
  rcases (errInspecting_job_alive hc h rfl).1 with ⟨job, hj, -⟩ | ⟨job, hj, -⟩ | ⟨-, hnext⟩
  · cases hjob.symm.trans hj
  · cases hjob.symm.trans hj
  · exact ⟨h, hjob, hnext {} rfl rfl⟩

end TemporalOperator
