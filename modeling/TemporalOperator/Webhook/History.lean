import TemporalOperator.Webhook.Cluster

/-!
# Admission histories

The objects a `TemporalCluster` goes through when every write of its spec passes the validating webhook: an
admitted create and then any number of admitted updates. `ValidateUpdate` compares only two neighbours; what it
keeps from one to the next is a preorder, so it is kept between any two objects of the history.

* `History` : the histories, newest object first;
* `Keeps` : what a later object keeps of an earlier one (`Keeps.of_update`, `Keeps.trans`);
* `admission_history_monotone` : the version, the kind of the default store and the cluster metadata along a
  whole history.
-/

namespace TemporalOperator.ClusterWebhook
open Lib

/-- The objects of an admitted create and the admitted updates after it, newest first. -/
inductive History : List Cluster → Prop
  | create {c : Cluster} (valid : validateCreate c = []) : History [c]
  | update {new old : Cluster} {earlier : List Cluster} (history : History (old :: earlier))
      (valid : validateUpdate old new = []) : History (new :: old :: earlier)

inductive StoreKind
  | sql
  | cassandra
  deriving DecidableEq, Repr

/-- The backend of the default store; none when not exactly one is set. -/
def defaultStoreKind (spec : ClusterSpec) : Option StoreKind :=
  match spec.persistence.defaultStore.sql, spec.persistence.defaultStore.cassandra with
  | some _, none => some .sql
  | none, some _ => some .cassandra
  | _, _ => none

structure Keeps (old new : ClusterSpec) : Prop where
  version : versionLE old.version new.version
  storeKind : defaultStoreKind new = defaultStoreKind old
  metadata : ∀ o, old.clusterMetadata = some o → ∃ n, new.clusterMetadata = some n ∧
    (∀ v, o.failoverVersionIncrement = some v → n.failoverVersionIncrement = some v) ∧
    (∀ v, o.initialFailoverVersion = some v → n.initialFailoverVersion = some v) ∧
    (o.currentClusterName ≠ "" → n.currentClusterName = o.currentClusterName)

theorem Keeps.trans {a b c : ClusterSpec} (h₁ : Keeps a b) (h₂ : Keeps b c) : Keeps a c where
  version := versionLE.trans h₁.version h₂.version
  storeKind := h₂.storeKind.trans h₁.storeKind
  metadata := by
    intro o ho
    obtain ⟨m, hm, increment₁, initial₁, name₁⟩ := h₁.metadata o ho
    obtain ⟨n, hn, increment₂, initial₂, name₂⟩ := h₂.metadata m hm
    refine ⟨n, hn, fun v hv => increment₂ v (increment₁ v hv), fun v hv => initial₂ v (initial₁ v hv), fun hset => ?_⟩
    have hname := name₁ hset
    rw [name₂ (hname ▸ hset), hname]

/-! ## One update -/

theorem keepsNumber_eq_nil {old new : Option Int} {field : String} (h : keepsNumber old new field = []) :
    ∀ v, old = some v → new = some v := by
  rintro v rfl
  simpa [keepsNumber, check_eq_nil] using h

theorem validateClusterMetadataImmutable_eq_nil {old new : Cluster}
    (h : validateClusterMetadataImmutable old new = []) :
    ∀ o, old.spec.clusterMetadata = some o → ∃ n, new.spec.clusterMetadata = some n ∧
      (∀ v, o.failoverVersionIncrement = some v → n.failoverVersionIncrement = some v) ∧
      (∀ v, o.initialFailoverVersion = some v → n.initialFailoverVersion = some v) ∧
      (o.currentClusterName ≠ "" → n.currentClusterName = o.currentClusterName) := by
  intro o ho
  unfold validateClusterMetadataImmutable at h
  rw [ho] at h
  cases hn : new.spec.clusterMetadata with
  | none => simp [hn] at h
  | some n =>
    simp only [hn, List.append_eq_nil_iff, check_eq_nil, Bool.or_eq_true, decide_eq_true_eq] at h
    obtain ⟨⟨increment, initial⟩, name⟩ := h
    exact ⟨n, rfl, keepsNumber_eq_nil increment, keepsNumber_eq_nil initial, fun hset => name.resolve_left hset⟩

theorem validateSpec_store {spec : ClusterSpec} (h : validateSpec spec = []) :
    spec.persistence.defaultStore.sql.isSome ≠ spec.persistence.defaultStore.cassandra.isSome :=
  (SpecPasses.of_valid h).stores.1

/-- With exactly one backend set, the kind is told by whether SQL is set. -/
theorem defaultStoreKind_eq {spec : ClusterSpec}
    (h : spec.persistence.defaultStore.sql.isSome ≠ spec.persistence.defaultStore.cassandra.isSome) :
    defaultStoreKind spec = some (if spec.persistence.defaultStore.sql.isSome then .sql else .cassandra) := by
  unfold defaultStoreKind
  cases hs : spec.persistence.defaultStore.sql <;> cases hc : spec.persistence.defaultStore.cassandra <;>
    simp_all

theorem validateUpdate_storeKind {old new : Cluster} (hold : validateSpec old.spec = [])
    (h : validateUpdate old new = []) : defaultStoreKind new.spec = defaultStoreKind old.spec := by
  obtain ⟨hnew, -, -, hdriver, -⟩ := UpdatePasses.of_valid h
  rw [defaultStoreKind_eq (validateSpec_store hold), defaultStoreKind_eq (validateSpec_store hnew)]
  simp only [validateStoreDriverImmutable, check_eq_nil, decide_eq_true_eq] at hdriver
  rw [hdriver]

theorem validateUpdate_spec {old new : Cluster} (h : validateUpdate old new = []) : validateSpec new.spec = [] :=
  (UpdatePasses.of_valid h).spec

/-- An admitted update of an admitted object does not move its version down. -/
theorem validateUpdate_versionLE {old new : Cluster} (hold : validateSpec old.spec = [])
    (h : validateUpdate old new = []) : versionLE old.spec.version new.spec.version := by
  have hmem := isSupported_mem supportedVersions (validateSpec_version hold)
  obtain ⟨hsup, heq | hup⟩ := validateUpdate_version h
  · rw [heq]
    exact parse_patches _ hmem
  · exact canUpgrade_patches _ hmem _ (isSupported_mem supportedVersions hsup) hup

theorem validateUpdate_minor {old new : Cluster} (hold : validateSpec old.spec = [])
    (h : validateUpdate old new = []) (hminor : minorOf new.spec.version ≠ minorOf old.spec.version) :
    isNextMinor supportedVersions old.spec.version new.spec.version := by
  obtain ⟨hsup, heq | hup⟩ := validateUpdate_version h
  · exact absurd (congrArg minorOf heq) hminor
  · exact canUpgrade_nextMinor _ (isSupported_mem supportedVersions (validateSpec_version hold)) _
      (isSupported_mem supportedVersions hsup) hup hminor

/-- The step: what an admitted update of an admitted object keeps. -/
theorem Keeps.of_update {old new : Cluster} (hold : validateSpec old.spec = [])
    (h : validateUpdate old new = []) : Keeps old.spec new.spec where
  version := validateUpdate_versionLE hold h
  storeKind := validateUpdate_storeKind hold h
  metadata := validateClusterMetadataImmutable_eq_nil (UpdatePasses.of_valid h).clusterMetadata

/-! ## Whole histories -/

namespace History

theorem valid {history : List Cluster} (h : History history) : ∀ c ∈ history, validateSpec c.spec = [] := by
  induction h with
  | create hv => simpa [validateCreate] using hv
  | update _ hv ih =>
    intro c hc
    rcases List.mem_cons.mp hc with rfl | hc
    · exact validateUpdate_spec hv
    · exact ih c hc

/-- The run: a later object keeps what every earlier one has, not only its neighbour. -/
theorem pairwise {history : List Cluster} (h : History history) :
    history.Pairwise fun new old => Keeps old.spec new.spec := by
  induction h with
  | create hv => exact List.pairwise_singleton _ _
  | @update new old earlier hist hv ih =>
    have hstep : Keeps old.spec new.spec := .of_update (hist.valid old List.mem_cons_self) hv
    refine List.pairwise_cons.mpr ⟨fun c hc => ?_, ih⟩
    rcases List.mem_cons.mp hc with rfl | hc
    · exact hstep
    · exact ((List.pairwise_cons.mp ih).1 c hc).trans hstep

theorem minors {history : List Cluster} (h : History history) :
    history.IsChain fun new old => minorOf new.spec.version ≠ minorOf old.spec.version →
      isNextMinor supportedVersions old.spec.version new.spec.version := by
  induction h with
  | create hv => exact .singleton _
  | update hist hv ih => exact .cons_cons (validateUpdate_minor (hist.valid _ List.mem_cons_self) hv) ih

end History

/-- **Admission is monotone over whole histories**: every version of the history is in the matrix, a change of the
minor from one object to the next goes to the next minor that lists it, and a later object keeps of every earlier
one what `Keeps` names. -/
theorem admission_history_monotone {history : List Cluster} (h : History history) :
    (∀ c ∈ history, isSupported supportedVersions c.spec.version ∧ (defaultStoreKind c.spec).isSome) ∧
      (history.IsChain fun new old => minorOf new.spec.version ≠ minorOf old.spec.version →
        isNextMinor supportedVersions old.spec.version new.spec.version) ∧
      history.Pairwise fun new old => Keeps old.spec new.spec := by
  refine ⟨fun c hc => ⟨validateSpec_version (h.valid c hc), ?_⟩, h.minors, h.pairwise⟩
  rw [defaultStoreKind_eq (validateSpec_store (h.valid c hc))]
  rfl

/-- An object on a SQL store with the given version and cluster metadata. -/
def revision (version : String) (metadata : Option ClusterMetadataSpec) : Cluster :=
  { name := "temporal"
    spec :=
      { version := version
        persistence := { defaultStore := { sql := some {} }, visibilityStore := { sql := some {} } }
        clusterMetadata := metadata } }

/-- A create, an update that sets the cluster's name, and a move to the next minor. -/
theorem admission_history_sample :
    let history := [revision "1.31.0" (some { currentClusterName := "east" }),
      revision "1.30.8" (some { currentClusterName := "east" }), revision "1.30.4" none]
    History history ∧ history.Pairwise fun new old => Keeps old.spec new.spec := by
  have h : History [revision "1.31.0" (some { currentClusterName := "east" }),
      revision "1.30.8" (some { currentClusterName := "east" }), revision "1.30.4" none] :=
    .update (.update (.create (by decide +kernel)) (by decide +kernel)) (by decide +kernel)
  exact ⟨h, (admission_history_monotone h).2.2⟩

end TemporalOperator.ClusterWebhook
