import TemporalOperator.Persistence.Backend

/-!
# The inspector Job against the direct connection

With Azure Workload Identity a SQL store is inspected by a Job that runs `InspectSQL`; without it the operator connects
itself. Both are backends of one interface, so that the same outcomes of the liveness probe and of the version query
should read the same through either.

* `InspectorIO.Answered` : the Job's pod has answered with the result of a run;
* `InspectRun.Faithful` : the outcomes that the result carries through (`inspector_refines_sql_iff`).
-/

namespace TemporalOperator.Persistence
open Lib

/-- The Job is there, and the first `inspect` container with a termination message has left the result of `run`. -/
structure InspectorIO.Answered (io : InspectorIO) (store : SchemaStore) (run : InspectRun) : Prop where
  job : ∃ job, (ensureInspectorJob io store).res = .ok job
  pods : ∃ pods, io.pods = .ok pods ∧ firstAnswer pods = (PodAnswer.ran run).message

/-! ## Outcomes -/

def SqlProbe.Fails (p : SqlProbe) : Prop := p.openErr ≠ none ∨ p.pingErr ≠ none ∨ p.livenessErr ≠ none

/-- The version query has an answer: a row, no row, or an error that reads as a missing table. -/
structure SqlQuery.Answers (q : SqlQuery) : Prop where
  opens : q.openErr = none
  fault : ∀ e, q.fault = some e → isUndefinedTable e = true

/-- No version comes back: the query fails, or none is recorded. -/
def SqlQuery.Bare (q : SqlQuery) : Prop := q.fault ≠ none ∨ q.store.version? = none

/-- The version query has an answer, and none that a failed probe would hide. -/
structure InspectRun.Faithful (run : InspectRun) : Prop where
  answers : run.query.Answers
  hidden : run.probe.Fails → run.query.Bare

theorem SqlProbe.run_eq_ok_iff (p : SqlProbe) : p.run = .ok () ↔ ¬ p.Fails := by
  unfold SqlProbe.run SqlProbe.Fails
  cases p.openErr with
  | some e => simp
  | none =>
    cases p.pingErr with
    | some e => simp
    | none => cases p.livenessErr <;> simp

/-- The version a query that has an answer gives. -/
def SqlQuery.reading (q : SqlQuery) : String := if q.fault.isSome then "" else q.store.version?.getD ""

theorem SqlQuery.reading_eq_empty_iff (q : SqlQuery) : q.reading = "" ↔ q.Bare := by
  unfold SqlQuery.reading SqlQuery.Bare
  cases q.fault with
  | some e => simp
  | none =>
    cases q.store with
    | recorded v => simpa [StoreState.version?] using v.2
    | _ => simp [StoreState.version?]

theorem currentSchemaVersion_of_answers {q : SqlQuery} (h : q.Answers) : currentSchemaVersion q = .ok q.reading := by
  unfold currentSchemaVersion SqlQuery.scan SqlQuery.reading
  rw [h.opens]
  cases hf : q.fault with
  | some e => simp [h.fault e hf]
  | none =>
    cases q.store with
    | noTable =>
      have htext : isUndefinedTable undefinedTableText = true := by decide +kernel
      simp [htext, StoreState.version?]
    | emptyTable => rfl
    | recorded v => rfl

theorem answers_of_currentSchemaVersion {q : SqlQuery} {v : String} (h : currentSchemaVersion q = .ok v) :
    q.Answers := by
  unfold currentSchemaVersion at h
  cases ho : q.openErr with
  | some e =>
    rw [ho] at h
    cases h
  | none =>
    refine ⟨ho, fun e hf => ?_⟩
    by_contra he
    simp only [ho, SqlQuery.scan, hf, if_neg he] at h
    cases h

/-! ## Through the Job -/

section Answered

variable {io : InspectorIO} {store : SchemaStore} {run : InspectRun}

theorem inspectOnce_of_answered (h : io.Answered store run) :
    (inspectOnce io store none).res = .ok (inspectSQL run) := by
  obtain ⟨job, hjob⟩ := h.job
  obtain ⟨pods, hpods, ha⟩ := h.pods
  rw [inspectOnce_none, Act.res_bind_eq_ok]
  refine ⟨job, hjob, ?_⟩
  rw [askPods, Act.res_bind_eq_ok]
  refine ⟨pods, hpods, ?_⟩
  rw [ha]
  rfl

theorem inspectSQL_reachable (run : InspectRun) : (inspectSQL run).reachable = true ↔ run.probe.run = .ok () := by
  unfold inspectSQL
  cases run.probe.run with
  | error e => simp
  | ok u => cases currentSchemaVersion run.query <;> simp

/-- The version in the result: of a query that has an answer after a probe that did not fail, and none else. -/
theorem inspectSQL_version (run : InspectRun) :
    currentSchemaVersion run.query = .ok (inspectSQL run).version ↔ run.Faithful := by
  constructor
  · intro h
    have ha := answers_of_currentSchemaVersion h
    refine ⟨ha, fun hfails => ?_⟩
    have hprobe : ∃ e, run.probe.run = .error e := by
      cases hr : run.probe.run with
      | error e => exact ⟨e, rfl⟩
      | ok u => exact absurd hfails ((SqlProbe.run_eq_ok_iff _).mp hr)
    obtain ⟨e, he⟩ := hprobe
    rw [currentSchemaVersion_of_answers ha] at h
    rw [← SqlQuery.reading_eq_empty_iff, Except.ok.inj h, inspectSQL, he]
  · rintro ⟨ha, hhidden⟩
    rw [currentSchemaVersion_of_answers ha, inspectSQL, currentSchemaVersion_of_answers ha]
    cases hr : run.probe.run with
    | ok u => rfl
    | error e =>
      have hfails : run.probe.Fails := by
        by_contra hno
        rw [(SqlProbe.run_eq_ok_iff _).mpr hno] at hr
        cases hr
      exact congrArg _ ((SqlQuery.reading_eq_empty_iff _).mpr (hhidden hfails))

theorem inspectorProbe_of_answered (h : io.Answered store run) :
    (inspectorProbe io store).res = .ok () ↔ run.probe.run = .ok () := by
  rw [← inspectSQL_reachable, inspectorProbe, Act.bind_of_ok (inspectOnce_of_answered h)]
  cases (inspectSQL run).reachable <;> simp

theorem inspectorSchemaVersion_of_answered (h : io.Answered store run) :
    (inspectorSchemaVersion io store).res = .ok (inspectSQL run).version := by
  rw [inspectorSchemaVersion, inspectOnce_of_answered h]
  rfl

end Answered

/-- **What the inspector Job carries through**: once a pod has answered, both backends agree on whether the store is
reachable and on its version, or that reading it failed, exactly for the outcomes that are faithful. -/
theorem inspector_refines_sql_iff {io : StoreIO} {store : SchemaStore} {run : InspectRun}
    (h : io.inspector.Answered store run) (hprobe : io.sqlProbe = run.probe) (hquery : io.sqlQuery 0 = run.query) :
    (((jobInspectorBackend io store).probe.res = .ok () ↔ (sqlBackend io).probe.res = .ok ()) ∧
      ∀ v, ((jobInspectorBackend io store).schemaVersion 0).res = .ok v ↔ ((sqlBackend io).schemaVersion 0).res = .ok v) ↔
    run.Faithful := by
  have hp : (jobInspectorBackend io store).probe.res = .ok () ↔ (sqlBackend io).probe.res = .ok () := by
    change (inspectorProbe io.inspector store).res = _ ↔ io.sqlProbe.run = _
    rw [inspectorProbe_of_answered h, hprobe]
  have hv : ((jobInspectorBackend io store).schemaVersion 0).res = .ok (inspectSQL run).version :=
    inspectorSchemaVersion_of_answered h
  have hsql : ((sqlBackend io).schemaVersion 0).res = currentSchemaVersion run.query := by
    rw [← hquery]
    rfl
  rw [and_iff_right hp, ← inspectSQL_version, hv, hsql]
  constructor
  · exact fun hall => (hall _).mp rfl
  · intro hok v
    rw [hok]

def answeredBy (run : InspectRun) : StoreIO where
  sqlProbe := run.probe
  sqlQuery _ := run.query
  inspector := { getJob := .ok {}, pods := .ok [[("inspect", .ran run)]] }

theorem answeredBy_answered (run : InspectRun) (store : SchemaStore) : (answeredBy run).inspector.Answered store run :=
  ⟨⟨{}, rfl⟩, ⟨_, rfl, rfl⟩⟩

/-- A reachable store with a recorded version reads the same through both backends. -/
theorem inspector_refines_sql_recorded :
    let io := answeredBy { query := { store := .recorded ⟨"1.18", by decide⟩ } }
    ∀ v, ((jobInspectorBackend io .default).schemaVersion 0).res = .ok v ↔
      ((sqlBackend io).schemaVersion 0).res = .ok v := by
  intro io
  refine ((inspector_refines_sql_iff (answeredBy_answered _ .default) rfl rfl).mpr ⟨⟨rfl, ?_⟩, ?_⟩).2
  · simp
  · simp [SqlProbe.Fails]

/-- A version query that fails: the direct connection returns the error, the inspector Job the empty version, which
says that there is no schema. -/
theorem failed_query_reads_as_no_schema :
    let run : InspectRun :=
      { query :=
          { store := .recorded ⟨"1.18", by decide⟩
            fault := some "ERROR: permission denied for table schema_version (SQLSTATE 42501)" } }
    let io := answeredBy run
    io.inspector.Answered .default run ∧ (jobInspectorBackend io .default).probe.res = .ok () ∧
      (sqlBackend io).probe.res = .ok () ∧ ((jobInspectorBackend io .default).schemaVersion 0).res = .ok "" ∧
      ∃ e, ((sqlBackend io).schemaVersion 0).res = .error e := by
  intro run io
  refine ⟨answeredBy_answered run .default, rfl, rfl, ?_, _, rfl⟩
  decide +kernel

end TemporalOperator.Persistence
