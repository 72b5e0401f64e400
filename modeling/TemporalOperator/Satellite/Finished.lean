import TemporalOperator.Satellite.RunSteps

/-!
# A finished workflow run stays finished

Once a pass has stored a status with a completion time, later passes only do the bookkeeping of the TTL, whatever
becomes of the target, the execution and the object's other fields.

* `SameOutcome` : two statuses tell the same end of the run;
* `Harmless` : what may still be done; `Kept` : the invariant of a pass over a finished run;
* `Undecided`, `Settled` : before and after the status is written in the pass that finishes the run;
* `finished_run_stays_finished` : over whole runs.
-/

namespace TemporalOperator.Satellite.WorkflowRun
open Lib Proc

/-- The two statuses tell the same end of the run. -/
structure SameOutcome (st st' : TemporalWorkflowRunStatus) : Prop where
  phase : st'.phase = st.phase
  completionTime : st'.completionTime = st.completionTime
  failure : st'.failure = st.failure
  runID : st'.runID = st.runID
  finished : findStatusCondition .finished st'.conditions = findStatusCondition .finished st.conditions

theorem SameOutcome.refl (st : TemporalWorkflowRunStatus) : SameOutcome st st := ⟨rfl, rfl, rfl, rfl, rfl⟩

theorem SameOutcome.trans {a b c : TemporalWorkflowRunStatus} (h : SameOutcome a b) (h' : SameOutcome b c) :
    SameOutcome a c :=
  ⟨h'.phase.trans h.phase, h'.completionTime.trans h.completionTime, h'.failure.trans h.failure,
    h'.runID.trans h.runID, h'.finished.trans h.finished⟩

theorem SameOutcome.symm {a b : TemporalWorkflowRunStatus} (h : SameOutcome a b) : SameOutcome b a :=
  ⟨h.phase.symm, h.completionTime.symm, h.failure.symm, h.runID.symm, h.finished.symm⟩

/-- The completion time is one the API server has returned. -/
def Whole (st : TemporalWorkflowRunStatus) : Prop := st.completionTime.map metaTime = st.completionTime

theorem metaTime_metaTime (t : GoTime) : metaTime (metaTime t) = metaTime t := by
  unfold metaTime
  rw [Int.mul_ediv_cancel _ (show second ≠ 0 by decide)]

theorem whole_persist (st : TemporalWorkflowRunStatus) : Whole st.persist := by
  unfold Whole TemporalWorkflowRunStatus.persist
  cases st.completionTime with
  | none => rfl
  | some t => exact congrArg some (metaTime_metaTime t)

/-- Storing a status with this outcome does not change the outcome. -/
theorem SameOutcome.persist {st st' : TemporalWorkflowRunStatus} (h : SameOutcome st st') (hst : Whole st) :
    SameOutcome st st'.persist := by
  refine ⟨h.phase, ?_, h.failure, h.runID, h.finished⟩
  show st'.completionTime.map metaTime = st.completionTime
  rw [h.completionTime]
  exact hst

theorem SameOutcome.readyStatus {st : TemporalWorkflowRunStatus} {run : TemporalWorkflowRun}
    (h : SameOutcome st run.status) (status : ConditionStatus) (reason message : String) :
    SameOutcome st (readyStatus run status reason message) := by
  refine ⟨h.phase, h.completionTime, h.failure, h.runID, ?_⟩
  have hready : WorkflowRunConditionType.ready ≠ .finished := by decide
  exact (find_set_of_ne hready run.status.conditions).trans h.finished

/-- What a pass that has read the spec `spec` and the clock `now` may do when the run has ended as `st` tells. -/
def Harmless (st : TemporalWorkflowRunStatus) (spec : TemporalWorkflowRunSpec) (now : GoTime) : RunEffect → Prop
  | .objectWritten _ => True
  | .statusWritten st' => SameOutcome st st'
  | .objectDeleted =>
    ∃ ttl completion, spec.ttlSecondsAfterFinished = some ttl ∧ st.completionTime = some completion ∧
      completion + ttl * second ≤ now
  | .call _ => False

theorem Harmless.congr {st st' : TemporalWorkflowRunStatus} {spec : TemporalWorkflowRunSpec} {now : GoTime}
    {e : RunEffect} (h : Harmless st spec now e) (hsame : SameOutcome st st') : Harmless st' spec now e := by
  cases e with
  | objectWritten o => trivial
  | statusWritten st₁ => exact hsame.symm.trans h
  | objectDeleted =>
    obtain ⟨ttl, completion, httl, hcompletion, hle⟩ := h
    exact ⟨ttl, completion, httl, hsame.completionTime.trans hcompletion, hle⟩
  | call c => exact h

/-! ## After the outcome is stored -/

/-- The run has ended as `st` tells; what has been done beyond `base` is not against it. -/
structure Kept (base : List RunEffect) (st : TemporalWorkflowRunStatus) (spec : TemporalWorkflowRunSpec) (now : GoTime)
    (s : RunPass) : Prop where
  stored : ∀ o ∈ s.stored, SameOutcome st o.status
  readAt : ReadAt s.obj.resourceVersion spec s.stored
  obj : SameOutcome st s.obj.status
  spec_eq : s.obj.spec = spec
  events : ∃ after, s.events = after ++ base ∧ ∀ e ∈ after, Harmless st spec now e

section Kept

variable {base : List RunEffect} {st : TemporalWorkflowRunStatus} {spec : TemporalWorkflowRunSpec} {now : GoTime}
  {env : RunEnv}

theorem Kept.edited {s : RunPass} (h : Kept base st spec now s) (es : List (Edit TemporalWorkflowRunSpec)) :
    Kept base st spec now { s with stored := edits kind.admits es s.stored } :=
  ⟨edits_status _ es h.stored, h.readAt.edited es, h.obj, h.spec_eq, h.events⟩

theorem Kept.event {s : RunPass} (h : Kept base st spec now s) {event : RunEffect} (hevent : Harmless st spec now event) :
    ∃ after, event :: s.events = after ++ base ∧ ∀ e ∈ after, Harmless st spec now e := by
  obtain ⟨after, hsplit, hafter⟩ := h.events
  refine ⟨event :: after, by rw [hsplit, List.cons_append], ?_⟩
  rintro e (_ | ⟨_, he⟩)
  · exact hevent
  · exact hafter e he

theorem Kept.wrote {s : RunPass} (h : Kept base st spec now s) {o : TemporalWorkflowRun} (event : RunEffect)
    (hstatus : SameOutcome st o.status) (hspec : o.spec = spec) (hversion : s.obj.resourceVersion < o.resourceVersion)
    (hevent : Harmless st spec now event) :
    Kept base st spec now { s with stored := o.orGone, events := event :: s.events } ∧
      Kept base st spec now { s with stored := o.orGone, events := event :: s.events, obj := o } := by
  have hstored : ∀ o' ∈ o.orGone, SameOutcome st o'.status := by
    intro o' ho'
    rw [Object.orGone_eq_some ho']
    exact hstatus
  refine ⟨⟨hstored, readAt_orGone_of_lt hversion, h.obj, h.spec_eq, h.event hevent⟩,
    ⟨hstored, ?_, hstatus, hspec, h.event hevent⟩⟩
  rw [← hspec]
  exact readAt_orGone o

theorem Kept.deleted {s : RunPass} (h : Kept base st spec now s) {o : TemporalWorkflowRun} {ttl : Int}
    {completion : GoTime} (ho : s.stored = some o) (httl : spec.ttlSecondsAfterFinished = some ttl)
    (hcompletion : st.completionTime = some completion) (hover : completion + ttl * second ≤ now) :
    Kept base st spec now { s with stored := o.marked, events := .objectDeleted :: s.events } := by
  have hmarked := h.edited [.delete]
  rw [ho, edits_delete] at hmarked
  exact ⟨hmarked.stored, hmarked.readAt, h.obj, h.spec_eq, h.event ⟨ttl, completion, httl, hcompletion, hover⟩⟩

theorem keeps_updateObject : Keeps (Kept base st spec now) (updateObject kind env.toKubeEnv) := by
  -- the status stays the one that is stored, the spec is the one in memory
  have hwrote : ∀ s cur, Kept base st spec now s → cur ∈ edits kind.admits env.beforeUpdate s.stored →
      cur.resourceVersion = s.obj.resourceVersion → _ := fun s cur hs hcur hversion =>
    hs.wrote (o := s.obj.written cur) (.objectWritten (s.obj.written cur))
      (edits_status _ env.beforeUpdate hs.stored cur hcur) hs.spec_eq (hversion ▸ Nat.lt_succ_self _) trivial
  exact triple_write (fun s _ hs => hs.edited _) (fun s cur _ hs hcur hversion => (hwrote s cur hs hcur hversion).1)
    fun s cur hs hcur hversion => (hwrote s cur hs hcur hversion).2

theorem keeps_statusUpdate (hst : Whole st) : Keeps (Kept base st spec now) (statusUpdate kind env.toKubeEnv) := by
  -- the status is the one in memory, the spec stays the one that was read
  have hwrote : ∀ s cur, Kept base st spec now s → cur ∈ edits kind.admits env.beforeStatus s.stored →
      cur.resourceVersion = s.obj.resourceVersion → _ := fun s cur hs hcur hversion =>
    hs.wrote (o := Object.writtenStatus s.obj.status.persist cur) (.statusWritten s.obj.status.persist)
      (hs.obj.persist hst) ((hs.readAt.edited env.beforeStatus cur hcur).2 hversion) (hversion ▸ Nat.lt_succ_self _)
      (hs.obj.persist hst)
  exact keeps_ignoreNotFound <|
    triple_write (fun s _ hs => hs.edited _) (fun s cur _ hs hcur hversion => (hwrote s cur hs hcur hversion).1)
      fun s cur hs hcur hversion => (hwrote s cur hs hcur hversion).2

/-- The object is deleted when its TTL has run out, and not before. -/
theorem triple_ttlCleanup :
    Triple (Kept base st spec env.now) (ttlCleanup env) (fun _ => Kept base st spec env.now)
      fun e s => Kept base st spec env.now s ∧ e.transient = false := by
  refine triple_bind triple_get fun a => ?_
  dsimp only
  split
  · rename_i ttl completion httl hcompletion
    split
    · exact triple_pure fun _ hs => hs.2
    · rename_i hremaining
      have hover : completion + ttl * second ≤ env.now := Int.le_of_sub_nonpos (Int.not_lt.mp hremaining)
      have hdelete : Triple (fun s => a = s ∧ Kept base st spec env.now s) (deleteObject kind env.toKubeEnv)
          (fun _ => Kept base st spec env.now) fun e s => Kept base st spec env.now s ∧ e.transient = false := by
        refine triple_deleteObject (fun _ hs => hs.2.edited _) fun s o hs ho => ?_
        obtain ⟨rfl, hs⟩ := hs
        exact (hs.edited env.beforeDelete).deleted ho (hs.spec_eq ▸ httl) (hs.obj.completionTime ▸ hcompletion) hover
      refine triple_bind ((triple_ignoreNotFound hdelete).conseq (fun _ hs => hs) ?_ fun _ _ hs => hs)
        fun _ => triple_pure fun _ hs => hs
      rintro _ s (hs | ⟨-, -, hs, -⟩) <;> exact hs
  · exact triple_pure fun _ hs => hs.2

theorem Kept.passInvariant (hst : Whole st) {t : GoTime} (ht : st.completionTime = some t) :
    PassInvariant env (Kept base st spec env.now) (Kept base st spec env.now) := by
  have hfinished : ∀ s, Kept base st spec env.now s → ¬ Unfinished s := by
    intro s hs hunfinished
    have hcompletion := hs.obj.completionTime.trans ht
    rw [hunfinished] at hcompletion
    cases hcompletion
  exact
    { weaken := fun _ hs => hs
      ready := fun s status reason message hs =>
        ⟨hs.stored, hs.readAt, hs.obj.readyStatus status reason message, hs.spec_eq, hs.events⟩
      finalizers := fun _ _ hs => ⟨hs.stored, hs.readAt, hs.obj, hs.spec_eq, hs.events⟩
      advance := fun s _ _ hunfinished hs => absurd hunfinished (hfinished s hs)
      call := fun s _ _ hunfinished hs => absurd hunfinished (hfinished s hs)
      update := keeps_updateObject
      statusUpdate := keeps_statusUpdate hst
      cleanup := triple_ttlCleanup.pre fun _ hs => hs.1
      finish := fun _ s hs => absurd hs.2 (hfinished s hs.1) }

end Kept

/-! ## The pass that finishes the run -/

def Quiet (s : RunPass) : Prop := ∀ st, Effect.statusWritten st ∈ s.events → st.completionTime = none

/-- The pass, which has read `spec`, has not written an outcome. -/
structure Unwritten (spec : TemporalWorkflowRunSpec) (s : RunPass) : Prop where
  stored : ∀ o ∈ s.stored, o.status.completionTime = none
  readAt : ReadAt s.obj.resourceVersion spec s.stored
  spec_eq : s.obj.spec = spec
  quiet : Quiet s

/-- The pass has not come to an outcome. -/
structure Undecided (spec : TemporalWorkflowRunSpec) (s : RunPass) : Prop extends Unwritten spec s where
  obj : Unfinished s

/-- Nothing has been done against an outcome that has been written. -/
def Settled (spec : TemporalWorkflowRunSpec) (now : GoTime) (s : RunPass) : Prop :=
  ∀ after st before, s.events = after ++ .statusWritten st :: before → st.completionTime ≠ none →
    Whole st ∧ (∀ o ∈ s.stored, SameOutcome st o.status) ∧ ∀ e ∈ after, Harmless st spec now e

section Finishing

variable {spec : TemporalWorkflowRunSpec} {now : GoTime} {env : RunEnv}

theorem Quiet.settled {s : RunPass} (h : Quiet s) : Settled spec now s := by
  intro after st before hsplit hst
  have hmem : Effect.statusWritten st ∈ s.events := by
    rw [hsplit]
    exact List.mem_append_right _ List.mem_cons_self
  exact absurd (h st hmem) hst

/-- The outcome is written once, and what is written after it tells the same. -/
theorem settled_of_split {st : TemporalWorkflowRunStatus} (after : List RunEffect) {before : List RunEffect} {s : RunPass}
    (hst : Whole st)
    (hstored : ∀ o ∈ s.stored, SameOutcome st o.status) (hevents : s.events = after ++ .statusWritten st :: before)
    (hafter : ∀ e ∈ after, Harmless st spec now e)
    (hquiet : ∀ st', Effect.statusWritten st' ∈ before → st'.completionTime = none) : Settled spec now s := by
  intro after' st' before' hsplit hst'
  have hsame : SameOutcome st st' ∧ ∀ e ∈ after', Harmless st spec now e := by
    rw [hevents] at hsplit
    rcases List.append_eq_append_iff.mp hsplit with ⟨mid, hafter', hmid⟩ | ⟨mid, hafter', hmid⟩
    · cases mid with
      | nil =>
        rw [List.nil_append, List.cons.injEq, Effect.statusWritten.injEq] at hmid
        rw [hafter', List.append_nil]
        exact ⟨hmid.1 ▸ .refl st, hafter⟩
      | cons e mid =>
        -- a status before the outcome
        rw [List.cons_append, List.cons.injEq] at hmid
        have hmem : Effect.statusWritten st' ∈ before := by
          rw [hmid.2]
          exact List.mem_append_right _ List.mem_cons_self
        exact absurd (hquiet st' hmem) hst'
    · cases mid with
      | nil =>
        rw [List.nil_append, List.cons.injEq, Effect.statusWritten.injEq] at hmid
        rw [hafter', List.append_nil] at hafter
        exact ⟨hmid.1 ▸ .refl st, hafter⟩
      | cons e mid =>
        -- a status after it
        rw [List.cons_append, List.cons.injEq] at hmid
        have hmem : Effect.statusWritten st' ∈ after := by
          rw [hafter', ← hmid.1]
          exact List.mem_append_right _ List.mem_cons_self
        refine ⟨hafter _ hmem, fun e he => hafter e ?_⟩
        rw [hafter']
        exact List.mem_append_left _ he
  refine ⟨?_, fun o ho => hsame.1.symm.trans (hstored o ho), fun e he => (hsame.2 e he).congr hsame.1⟩
  rw [Whole, hsame.1.completionTime]
  exact hst

/-- In a pass over a finished run, every status that is written tells the outcome. -/
theorem Kept.settled {st : TemporalWorkflowRunStatus} {s : RunPass} (h : Kept [] st spec now s) (hst : Whole st) :
    Settled spec now s := by
  intro after' st' before' hsplit _
  obtain ⟨after, hevents, hafter⟩ := h.events
  rw [List.append_nil] at hevents
  rw [hevents] at hsplit
  have hsame : SameOutcome st st' := by
    refine hafter (.statusWritten st') ?_
    rw [hsplit]
    exact List.mem_append_right _ List.mem_cons_self
  refine ⟨?_, fun o ho => hsame.symm.trans (h.stored o ho), fun e he => ?_⟩
  · rw [Whole, hsame.completionTime]
    exact hst
  · refine (hafter e ?_).congr hsame
    rw [hsplit]
    exact List.mem_append_left _ he

theorem Unwritten.edited {s : RunPass} (h : Unwritten spec s) (es : List (Edit TemporalWorkflowRunSpec)) :
    Unwritten spec { s with stored := edits kind.admits es s.stored } :=
  ⟨edits_status (P := fun st : TemporalWorkflowRunStatus => st.completionTime = none) _ es h.stored,
    h.readAt.edited es, h.spec_eq, h.quiet⟩

theorem Unwritten.wrote {s : RunPass} (h : Unwritten spec s) {o : TemporalWorkflowRun} (event : RunEffect)
    (hstatus : o.status.completionTime = none) (hspec : o.spec = spec)
    (hversion : s.obj.resourceVersion < o.resourceVersion)
    (hevent : ∀ st, event = .statusWritten st → st.completionTime = none) :
    Unwritten spec { s with stored := o.orGone, events := event :: s.events } ∧
      Unwritten spec { s with stored := o.orGone, events := event :: s.events, obj := o } := by
  have hstored : ∀ o' ∈ o.orGone, o'.status.completionTime = none := by
    intro o' ho'
    rw [Object.orGone_eq_some ho']
    exact hstatus
  have hquiet : ∀ st, Effect.statusWritten st ∈ event :: s.events → st.completionTime = none := by
    intro st hst
    rcases List.mem_cons.mp hst with heq | hmem
    · exact hevent st heq.symm
    · exact h.quiet st hmem
  refine ⟨⟨hstored, readAt_orGone_of_lt hversion, h.spec_eq, hquiet⟩, ⟨hstored, ?_, hspec, hquiet⟩⟩
  rw [← hspec]
  exact readAt_orGone o

theorem Undecided.update : Keeps (Undecided spec) (updateObject kind env.toKubeEnv) := by
  have hwrote : ∀ s cur, Undecided spec s → cur ∈ edits kind.admits env.beforeUpdate s.stored →
      cur.resourceVersion = s.obj.resourceVersion → _ := fun s cur hs hcur hversion =>
    hs.wrote (o := s.obj.written cur) (.objectWritten (s.obj.written cur))
      ((hs.edited env.beforeUpdate).stored cur hcur) hs.spec_eq (hversion ▸ Nat.lt_succ_self _)
      fun _ heq => by cases heq
  refine triple_write (fun s _ hs => ⟨hs.edited _, hs.obj⟩) (fun s cur _ hs hcur hversion => ?_)
    fun s cur hs hcur hversion => ?_
  · exact ⟨(hwrote s cur hs hcur hversion).1, hs.obj⟩
  · exact ⟨(hwrote s cur hs hcur hversion).2, (hs.edited env.beforeUpdate).stored cur hcur⟩

theorem Undecided.statusUpdate : Keeps (Undecided spec) (statusUpdate kind env.toKubeEnv) := by
  have hnone : ∀ {s : RunPass}, Unfinished s → s.obj.status.persist.completionTime = none := by
    intro s hs
    show s.obj.status.completionTime.map metaTime = none
    rw [hs, Option.map_none]
  have hwrote : ∀ s cur, Undecided spec s → cur ∈ edits kind.admits env.beforeStatus s.stored →
      cur.resourceVersion = s.obj.resourceVersion → _ := fun s cur hs hcur hversion =>
    hs.wrote (o := Object.writtenStatus s.obj.status.persist cur) (.statusWritten s.obj.status.persist)
      (hnone hs.obj) (((hs.edited env.beforeStatus).readAt cur hcur).2 hversion) (hversion ▸ Nat.lt_succ_self _)
      fun st heq => by
        cases heq
        exact hnone hs.obj
  refine keeps_ignoreNotFound (triple_write (fun s _ hs => ⟨hs.edited _, hs.obj⟩) (fun s cur _ hs hcur hversion => ?_)
    fun s cur hs hcur hversion => ?_)
  · exact ⟨(hwrote s cur hs hcur hversion).1, hs.obj⟩
  · exact ⟨(hwrote s cur hs hcur hversion).2, hnone hs.obj⟩

def Written (spec : TemporalWorkflowRunSpec) (now : GoTime) (s : RunPass) : Prop :=
  ∃ st before, Whole st ∧ (∀ st', Effect.statusWritten st' ∈ before → st'.completionTime = none) ∧
    Kept (.statusWritten st :: before) st spec now s

theorem Written.settled {s : RunPass} (h : Written spec now s) : Settled spec now s := by
  obtain ⟨st, before, hst, hquiet, hkept⟩ := h
  obtain ⟨after, hevents, hafter⟩ := hkept.events
  exact settled_of_split after hst hkept.stored hevents hafter hquiet

/-- The write of the outcome. When the object is found to be gone, the pass goes on as if it had been written. -/
theorem triple_writeOutcome (now : GoTime) :
    Triple (Unwritten spec) (statusUpdate kind env.toKubeEnv) (fun _ s => Written spec now s ∨ Quiet s)
      fun e s => Settled spec now s ∧ e.transient = false := by
  have hwrite : Triple (Unwritten spec) (updateStatusObject kind env.toKubeEnv) (fun _ s => Written spec now s)
      fun e s => (Settled spec now s ∧ e.transient = false) ∧ ∀ e', e = .other e' → e'.cause = .notFound → Quiet s := by
    have hstored : ∀ (st : TemporalWorkflowRunStatus) (cur : TemporalWorkflowRun),
        ∀ o ∈ (Object.writtenStatus st cur).orGone, SameOutcome st o.status := by
      intro st cur o ho
      rw [Object.orGone_eq_some ho]
      exact .refl st
    refine triple_write (fun s e hs => ?_) (fun s cur e hs hcur hversion => ?_) fun s cur hs hcur hversion => ?_
    · have hquiet : Quiet _ := (hs.edited env.beforeStatus).quiet
      exact ⟨⟨hquiet.settled, rfl⟩, fun _ _ _ => hquiet⟩
    · refine ⟨⟨?_, rfl⟩, fun e' he' hcause => ?_⟩
      · exact settled_of_split [] (whole_persist _) (hstored _ cur) rfl (by simp) hs.quiet
      · cases he'
        cases hcause
    · refine ⟨s.obj.status.persist, s.events, whole_persist _, hs.quiet, hstored _ cur, ?_, .refl _, ?_, [], rfl, by simp⟩
      · rw [← ((hs.edited env.beforeStatus).readAt cur hcur).2 hversion]
        exact readAt_orGone (Object.writtenStatus _ cur)
      · exact ((hs.edited env.beforeStatus).readAt cur hcur).2 hversion
  refine (triple_ignoreNotFound hwrite).conseq (fun _ hs => hs) ?_ fun _ _ hs => hs.1
  rintro _ s (hs | ⟨e, hcause, -, hquiet⟩)
  · exact .inl hs
  · exact .inr (hquiet e rfl hcause)

theorem keeps_ttlCleanup_quiet :
    Triple Quiet (ttlCleanup env) (fun _ => Quiet) fun e s => Quiet s ∧ e.transient = false := by
  have hdelete : Triple Quiet (deleteObject kind env.toKubeEnv) (fun _ => Quiet)
      fun e s => Quiet s ∧ e.transient = false := by
    refine triple_deleteObject (fun s hs => hs) fun s o hs ho st hst => ?_
    rcases List.mem_cons.mp hst with heq | hmem
    · cases heq
    · exact hs st hmem
  refine triple_bind triple_get fun a => Triple.pre ?_ fun _ hs => hs.2
  dsimp only
  split
  · split
    · exact triple_pure fun _ hs => hs
    · refine triple_bind ((triple_ignoreNotFound hdelete).conseq (fun _ hs => hs) ?_ fun _ _ hs => hs)
        fun _ => triple_pure fun _ hs => hs
      rintro _ s (hs | ⟨-, -, hs, -⟩) <;> exact hs
  · exact triple_pure fun _ hs => hs

theorem triple_finishRun (info : WorkflowExecutionInfo) :
    Triple (Undecided spec) (finishRun env info) (fun _ => Settled spec env.now)
      fun e s => Settled spec env.now s ∧ e.transient = false := by
  have hobj : ∀ s st, Unwritten spec s → Unwritten spec { s with obj := { s.obj with status := st } } :=
    fun _ _ hs => ⟨hs.stored, hs.readAt, hs.spec_eq, hs.quiet⟩
  refine triple_bind (triple_modify (Q := fun _ => Unwritten spec) fun s hs => hobj s _ hs.toUnwritten) fun _ => ?_
  refine triple_bind triple_get fun a => ?_
  refine triple_bind (triple_modify (Q := fun _ => Unwritten spec) fun s hs => hobj s _ hs.2) fun _ => ?_
  refine triple_bind (triple_writeOutcome env.now) fun _ => ?_
  rintro s (⟨st, before, hst, hquiet, hkept⟩ | hquiet)
  · refine (triple_ttlCleanup.conseq (fun _ hs => hs) (fun _ s hs => ?_) fun _ s hs => ⟨?_, hs.2⟩) s hkept
    · exact Written.settled ⟨st, before, hst, hquiet, hs⟩
    · exact Written.settled ⟨st, before, hst, hquiet, hs.1⟩
  · exact (keeps_ttlCleanup_quiet.conseq (fun _ hs => hs) (fun _ _ hs => hs.settled)
      fun _ _ hs => ⟨hs.1.settled, hs.2⟩) s hquiet

theorem Undecided.passInvariant : PassInvariant env (Undecided spec) (Settled spec env.now) where
  weaken := fun _ hs => hs.quiet.settled
  ready := fun _ _ _ _ hs => ⟨⟨hs.stored, hs.readAt, hs.spec_eq, hs.quiet⟩, hs.obj⟩
  finalizers := fun _ _ hs => ⟨⟨hs.stored, hs.readAt, hs.spec_eq, hs.quiet⟩, hs.obj⟩
  advance := fun _ _ hadvance hunfinished hs =>
    ⟨⟨hs.stored, hs.readAt, hs.spec_eq, hs.quiet⟩, hadvance.completionTime.trans hunfinished⟩
  call := fun s c _ _ hs => by
    refine ⟨⟨hs.stored, hs.readAt, hs.spec_eq, fun st hst => ?_⟩, hs.obj⟩
    rcases List.mem_cons.mp hst with heq | hmem
    · cases heq
    · exact hs.quiet st hmem
  update := Undecided.update
  statusUpdate := Undecided.statusUpdate
  cleanup := fun _ hs => absurd hs.1.obj hs.2
  finish := fun info => (triple_finishRun info).pre fun _ hs => hs.1

end Finishing

/-! ## Runs -/

/-- The stored completion time is one the API server has returned. -/
def StoredWhole (stored : Option TemporalWorkflowRun) : Prop := ∀ o ∈ stored, Whole o.status

theorem storedWhole_passInvariant (env : RunEnv) :
    PassInvariant env (fun s => StoredWhole s.stored) fun s => StoredWhole s.stored := by
  have hwritten : ∀ {o : TemporalWorkflowRun}, Whole o.status → StoredWhole o.orGone := by
    intro o ho o' ho'
    rw [Object.orGone_eq_some ho']
    exact ho
  refine PassInvariant.of_steps (fun _ _ _ hs => hs) (fun _ _ hs => hs) (fun _ _ _ hs => hs) ?_ ?_ ?_
  · refine triple_write (fun s _ hs => edits_status _ env.beforeUpdate hs) (fun s cur _ hs hcur _ => ?_)
      fun s cur hs hcur _ => ?_
    · exact hwritten (edits_status _ env.beforeUpdate hs cur hcur)
    · exact hwritten (edits_status _ env.beforeUpdate hs cur hcur)
  · refine keeps_ignoreNotFound (triple_write (fun s _ hs => edits_status _ env.beforeStatus hs) (fun s cur _ _ _ _ => ?_)
      fun s cur _ _ _ => ?_)
    · exact hwritten (whole_persist s.obj.status)
    · exact hwritten (whole_persist s.obj.status)
  · refine triple_deleteObject (fun s hs => edits_status _ env.beforeDelete hs) fun s o hs ho => ?_
    have hedited := edits_status kind.admits env.beforeDelete hs
    rw [ho] at hedited
    exact edits_status kind.admits [.delete] hedited

/-- What the pass `r` may do when the run has ended as `st` tells. -/
def Allowed (st : TemporalWorkflowRunStatus) (r : RunReport) (e : RunEffect) : Prop :=
  ∃ o, r.read = some o ∧ Harmless st o.spec r.env.now e

theorem pass_keeps_outcome {w : RunWorld} {st : TemporalWorkflowRunStatus} (env : RunEnv) (hst : Whole st)
    (hfinished : st.completionTime ≠ none) (h : ∀ o ∈ w.stored, SameOutcome st o.status) :
    (∀ o ∈ (reconcilePass w env).1.stored, SameOutcome st o.status) ∧
      ∀ e ∈ (reconcilePass w env).2.events, Allowed st (reconcilePass w env).2 e := by
  obtain ⟨t, ht⟩ := Option.ne_none_iff_exists'.mp hfinished
  have hedited := edits_status kind.admits env.beforeGet h
  rcases PassInvariant.reconcilePass_cases w env with heq | ⟨o, s, ho, hend, heq⟩
  · rw [heq]
    exact ⟨hedited, by simp⟩
  · have hkept : Kept [] st o.spec env.now s := by
      refine hend _ _ (Kept.passInvariant hst ht) ⟨?_, ?_, ?_, rfl, [], rfl, by simp⟩
      · exact fun o' ho' => hedited o' (ho ▸ ho')
      · exact fun o' ho' => Option.mem_some.mp ho' ▸ ⟨Nat.le_refl _, fun _ => rfl⟩
      · exact hedited o ho
    rw [heq]
    refine ⟨hkept.stored, fun e he => ⟨o, rfl, ?_⟩⟩
    obtain ⟨after, hevents, hafter⟩ := hkept.events
    rw [List.append_nil] at hevents
    exact hafter e (hevents ▸ he)

/-- A pass that writes an outcome does nothing against it afterwards. -/
theorem pass_settles {w : RunWorld} (env : RunEnv) (hw : StoredWhole w.stored) {after before : List RunEffect}
    {st : TemporalWorkflowRunStatus} (hsplit : (reconcilePass w env).2.events = after ++ .statusWritten st :: before)
    (hst : st.completionTime ≠ none) :
    Whole st ∧ (∀ o ∈ (reconcilePass w env).1.stored, SameOutcome st o.status) ∧
      ∀ e ∈ after, Allowed st (reconcilePass w env).2 e := by
  rcases PassInvariant.reconcilePass_cases w env with heq | ⟨o, s, ho, hend, heq⟩
  · rw [heq] at hsplit
    cases after <;> cases hsplit
  · rw [heq] at hsplit ⊢
    have hreadAt : ReadAt o.resourceVersion o.spec (some o) :=
      fun o' ho' => Option.mem_some.mp ho' ▸ ⟨Nat.le_refl _, fun _ => rfl⟩
    have hsettled : Settled o.spec env.now s := by
      cases ht : o.status.completionTime with
      | none =>
        refine hend _ _ Undecided.passInvariant ⟨⟨?_, hreadAt, rfl, ?_⟩, ht⟩
        · exact fun o' ho' => Option.mem_some.mp ho' ▸ ht
        · exact fun st hst => absurd hst List.not_mem_nil
      | some t =>
        have hwhole : Whole o.status := edits_status _ env.beforeGet hw o ho
        have hkept : Kept [] o.status o.spec env.now s := by
          refine hend _ _ (Kept.passInvariant hwhole ht) ⟨?_, hreadAt, .refl _, rfl, [], rfl, by simp⟩
          exact fun o' ho' => Option.mem_some.mp ho' ▸ .refl _
        exact hkept.settled hwhole
    obtain ⟨hwhole, hstored, hafter⟩ := hsettled after st before hsplit hst
    exact ⟨hwhole, hstored, fun e he => ⟨o, rfl, hafter e he⟩⟩

theorem run_storedWhole {ok : RunWorld → List RunReport → RunEnv → Prop} {w₀ w : RunWorld} {h : List RunReport}
    (hstart : StoredWhole w₀.stored) (hrun : runSystem.Run ok w₀ w h) : StoredWhole w.stored := by
  refine hrun.invariant (I := fun w _ => StoredWhole w.stored) hstart fun w h env _ hw _ => ?_
  have hedited := edits_status kind.admits env.beforeGet hw
  show StoredWhole (reconcilePass w env).1.stored
  rcases PassInvariant.reconcilePass_cases w env with heq | ⟨o, s, ho, hend, heq⟩
  · rw [heq]
    exact hedited
  · rw [heq]
    exact hend _ _ (storedWhole_passInvariant env) fun o' ho' => hedited o' (ho ▸ ho')

/-- **A finished run stays finished.** Once a pass `r` has stored a status `st` with a completion time, the stored
outcome is that of `st`; no call to Temporal is made any more, in that pass or later; and the operator deletes the
object only in a pass that has read a TTL and a clock past the completion time and the TTL. -/
theorem finished_run_stays_finished {w₀ w : RunWorld} {newer older : List RunReport} {r : RunReport}
    {after before : List RunEffect} {st : TemporalWorkflowRunStatus} (hstart : StoredWhole w₀.stored)
    (hrun : runSystem.Run (fun _ _ _ => True) w₀ w (newer ++ r :: older))
    (hwritten : r.events = after ++ .statusWritten st :: before) (hfinished : st.completionTime ≠ none) :
    (∀ o ∈ w.stored, SameOutcome st o.status) ∧ (∀ e ∈ after, Allowed st r e) ∧
      ∀ r' ∈ newer, ∀ e ∈ r'.events, Allowed st r' e := by
  have hall : Whole st ∧ (∀ o ∈ w.stored, SameOutcome st o.status) ∧ (∀ e ∈ after, Allowed st r e) ∧
      ∀ r' ∈ newer, ∀ e ∈ r'.events, Allowed st r' e := by
    -- along the passes after `r`, newest first
    induction newer generalizing w with
    | nil =>
      obtain ⟨w', env, hrun', -, rfl, rfl⟩ := hrun.last
      obtain ⟨hwhole, hstored, hafter⟩ := pass_settles env (run_storedWhole hstart hrun') hwritten hfinished
      exact ⟨hwhole, hstored, hafter, by simp⟩
    | cons r' newer ih =>
      obtain ⟨w', env, hrun', -, rfl, rfl⟩ := hrun.last
      obtain ⟨hwhole, hstored, hafter, hnewer⟩ := ih hrun'
      obtain ⟨hstored', hevents⟩ := pass_keeps_outcome env hwhole hfinished hstored
      refine ⟨hwhole, hstored', hafter, fun r'' hr'' => ?_⟩
      rcases List.mem_cons.mp hr'' with rfl | hmem
      · exact hevents
      · exact hnewer r'' hmem
  exact hall.2

/-- A run that has completed when it is first looked at, and whose TTL has run out by the second pass. -/
theorem finished_run_stays_finished_sample :
    let w₀ : RunWorld := ⟨some (sampleRun (some 60) .cancel), ()⟩
    let p₁ := reconcilePass w₀ (smoothEnv .completed (5 * second))
    let p₂ := reconcilePass p₁.1 (smoothEnv .running (90 * second))
    ∃ st, Effect.statusWritten st ∈ p₁.2.events ∧ st.completionTime = some (5 * second) ∧
      Effect.objectDeleted ∈ p₂.2.events ∧ (∀ o ∈ p₂.1.stored, SameOutcome st o.status) ∧
      ∀ e ∈ p₂.2.events, Allowed st p₂.2 e := by
  intro w₀ p₁ p₂
  have hrun : runSystem.Run (fun _ _ _ => True) w₀ p₂.1 ([p₂.2] ++ [p₁.2]) :=
    .step (smoothEnv .running (90 * second)) (.step (smoothEnv .completed (5 * second)) .start trivial) trivial
  have hstart : StoredWhole w₀.stored := fun o ho => Option.mem_some.mp ho ▸ rfl
  let st := (p₁.1.stored.map (·.status)).getD {}
  have hwritten : p₁.2.events = [] ++ .statusWritten st :: p₁.2.events.tail := by decide +kernel
  have hst : st.completionTime = some (5 * second) := by decide +kernel
  have hend := finished_run_stays_finished hstart hrun hwritten (by rw [hst]; simp)
  refine ⟨st, ?_, hst, by decide +kernel, hend.1, hend.2.2 p₂.2 List.mem_cons_self⟩
  rw [hwritten]
  exact List.mem_cons_self

end TemporalOperator.Satellite.WorkflowRun
