import TemporalOperator.Cluster.Rollout

/-!
# Schema Jobs across passes

`ensureSchemaJob` replaces a Job whose schema container does not run the admin-tools image of `spec.version`. The Job
was built with that image, and then `schemaJob.podTemplate` was laid over it.

* `buildSchemaJob_image` : the image of the schema container of a Job that was built;
* `schema_job_kept_iff` : a Job is left alone by every later call exactly when the override keeps that image.
-/

namespace TemporalOperator
open Lib

/-- The override leaves the schema container with the image of the version: it does not set an image, or sets this
one, and does not remove the container. -/
def KeepsSchemaImage (patchOf : String → String → EntryPatch String) (spec : ClusterSpec) : Prop :=
  (overridePatch (patchOf · schemaContainerName) (schemaJobOverride spec)).Keeps (adminToolsImage spec.version)

theorem jobRunsImage_iff (job : Job) (image : String) :
    jobRunsImage job image = true ↔ containerImage job.containers schemaContainerName = some image := by
  unfold jobRunsImage containerRunsImage containerImage
  cases job.containers.find? fun c => c.name = schemaContainerName <;> simp

section
variable {env : PassEnv} {patchOf : String → String → EntryPatch String} {c : Cluster} {store : SchemaStore}
  {action : SchemaAction} {job : Job}

theorem buildSchemaJob_image {p : SchemaJobParams} (hm : MergesByName env.merge patchOf)
    (h : buildSchemaJob env p = .ok job) :
    containerImage job.containers schemaContainerName =
      (overridePatch (patchOf · schemaContainerName) p.podTemplate).apply
        (some (adminToolsImage p.cluster.spec.version)) := by
  obtain ⟨exec, -, ht⟩ := buildSchemaJob_eq_ok h
  exact applyPodTemplate_entry (fun spec raw spec' h => hm.image spec raw spec' h schemaContainerName) ht

theorem wiredSchemaJob_image (c : Cluster) (job : Job) :
    containerImage (wiredSchemaJob c job).containers schemaContainerName =
      containerImage job.containers schemaContainerName := by
  unfold wiredSchemaJob
  split
  · change Option.map _ (List.find? _ (ensureAzureTokenMount schemaContainerName job.containers)) = _
    rw [find?_ensureAzureTokenMount, containerImage, Option.map_map]
    congr 1
    funext c
    exact withAzureTokenMount_image c
  · rfl

/-- A created Job runs the image it will be compared with exactly when the override keeps it. -/
theorem createdJob_runsImage_iff (hm : MergesByName env.merge patchOf)
    (hcreated : Event.jobCreated store action job ∈ (ensureSchemaJob env c store action).log) :
    jobRunsImage job (adminToolsImage c.spec.version) = true ↔ KeepsSchemaImage patchOf c.spec := by
  obtain he | ⟨-, built, -, -, hbuilt, he⟩ | he := mem_log_ensureSchemaJob hcreated
  · cases he
  · obtain ⟨-, -, rfl⟩ := Event.jobCreated.inj he
    rw [jobRunsImage_iff, wiredSchemaJob_image, buildSchemaJob_image hm hbuilt]
    exact EntryPatch.apply_eq_iff
  · cases he

end

/-- **A schema Job is not replaced by itself** exactly when the override keeps its image: then no later call at the same
version deletes the Job, whatever its status has become, and each reports its outcome. -/
theorem schema_job_kept_iff {env : PassEnv} {patchOf : String → String → EntryPatch String} {c : Cluster}
    {store : SchemaStore} {action : SchemaAction} {job : Job} (hm : MergesByName env.merge patchOf)
    (hcreated : Event.jobCreated store action job ∈ (ensureSchemaJob env c store action).log) :
    (∀ (env' : PassEnv) (c' : Cluster) (live : Job), c'.spec.version = c.spec.version →
      live.containers = job.containers → (env'.schemaJob store action).get = .ok live →
      Event.jobDeleted store action ∉ (ensureSchemaJob env' c' store action).log ∧
        (live.deleting = false → (ensureSchemaJob env' c' store action).res = .ok (classifyJob live))) ↔
    KeepsSchemaImage patchOf c.spec := by
  rw [← createdJob_runsImage_iff hm hcreated]
  constructor
  · intro hkept
    let live : Job := { template := job.template }
    have hlive := (hkept { schemaJob := fun _ _ => { get := .ok live } } c live rfl rfl rfl).1
    rw [(ensureSchemaJob_of_job rfl).1] at hlive
    simpa [live, jobRunsImage, Job.containers] using hlive
  · intro hruns env' c' live hversion hcontainers hget
    have hlive : jobRunsImage live (adminToolsImage c'.spec.version) = true := by
      rw [jobRunsImage, hcontainers, hversion]
      exact hruns
    obtain ⟨hdeleted, houtcome⟩ := ensureSchemaJob_of_job (c := c') hget
    refine ⟨fun hmem => ?_, fun hd => houtcome hd hlive⟩
    rw [hlive] at hdeleted
    cases (hdeleted.mp hmem).2

/-- A cluster whose override sets the image of the schema container. -/
def withSchemaImage (image : String) : Cluster :=
  let spec := sampleSpec "1.31.0"
  let override : PodTemplateOverride := { spec := some (imagePatch schemaContainerName image) }
  ClusterWebhook.default
    { name := "temporal"
      spec := { spec with persistence := { spec.persistence with schemaJob := some (some override) } } }

def updateJob (env : PassEnv) (c : Cluster) : Job :=
  ((buildSchemaJob env (schemaJobParams env c .default .update)).toOption).getD {}

/-- An override that states the image it would run anyway: the Job runs on. -/
theorem schema_job_kept_stated :
    let env : PassEnv := { merge := setImage schemaContainerName "temporalio/admin-tools:1.31.0" }
    let c := withSchemaImage "temporalio/admin-tools:1.31.0"
    let job := updateJob env c
    let next : PassEnv := { schemaJob := fun _ _ => { get := .ok { job with active := 1 } } }
    Event.jobDeleted .default .update ∉ (ensureSchemaJob next c .default .update).log ∧
      (ensureSchemaJob next c .default .update).res = .ok .running := by
  intro env c job next
  have hcreated : Event.jobCreated .default .update job ∈ (ensureSchemaJob env c .default .update).log := by
    decide +kernel
  have hkept := (schema_job_kept_iff (setImage_mergesByName _ _) hcreated).mpr (.inl rfl) next c
    { job with active := 1 } rfl rfl rfl
  exact ⟨hkept.1, hkept.2 rfl⟩

def mirrorImage : String := "registry.local/admin-tools:1.31.0"

/-- The webhook admits it, the Job is created with the mirror's image, and the next pass deletes it. -/
theorem mirrored_schema_job_deleted :
    let env : PassEnv := { merge := setImage schemaContainerName mirrorImage }
    let mirrored := withSchemaImage mirrorImage
    let job := updateJob env mirrored
    ClusterWebhook.validateCreate mirrored = [] ∧
      MergesByName env.merge (fun _ name => if name = schemaContainerName then .merge (some mirrorImage) else .silent) ∧
      Event.jobCreated .default .update job ∈ (ensureSchemaJob env mirrored .default .update).log ∧
      containerImage job.containers schemaContainerName = some mirrorImage ∧
      Event.jobDeleted .default .update ∈
        (ensureSchemaJob { env with schemaJob := fun _ _ => { get := .ok job } } mirrored .default .update).log := by
  intro env mirrored job
  exact ⟨by decide +kernel, setImage_mergesByName _ _, by decide +kernel, by decide +kernel, by decide +kernel⟩

end TemporalOperator
