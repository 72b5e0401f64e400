import TemporalOperator.Cluster.Runs

/-!
# Resubmitting a cluster unchanged

`ValidateUpdate` judges the shard count of the new object by the annotation of the old one, which `Default` stamps
only when it is absent and which an update may change.

* `ClusterRun.admitted` : along a run the object is the defaulter's and passes the checks of a single object;
* `StampAgrees` : the annotation, if it parses, is the shard count of the spec;
* `noop_update_admitted_iff` : the unchanged object is admitted exactly then;
* `stampAgrees_of_run` : what to submit so that it stays so.
-/

namespace TemporalOperator
open Lib

namespace ClusterWebhook

/-! ## An object against itself -/

/-- The initial-shards annotation, if it is there and parses, is the shard count of the spec, in 32 bits. -/
def StampAgrees (c : Cluster) : Prop :=
  ∀ v, c.annotations.lookup initialShardsAnnotation = some v →
    ∀ n, GoText.atoi v = .ok n → n.bmod (2 ^ 32) = c.spec.numHistoryShards

theorem stampAgrees_iff (c : Cluster) : StampAgrees c ↔ c.spec.numHistoryShards = initialShards c := by
  unfold StampAgrees initialShards
  cases hl : c.annotations.lookup initialShardsAnnotation with
  | none => simp
  | some v =>
    cases ha : GoText.atoi v with
    | error e => simp [ha]
    | ok n => simp [ha, eq_comm]

theorem validateShardCountImmutable_eq_nil {old new : Cluster} :
    validateShardCountImmutable old new = [] ↔ new.spec.numHistoryShards = initialShards old := by
  rw [validateShardCountImmutable, check_eq_nil, decide_eq_true_eq]

theorem validateClusterMetadataImmutable_self (c : Cluster) : validateClusterMetadataImmutable c c = [] := by
  unfold validateClusterMetadataImmutable
  cases c.spec.clusterMetadata with
  | none => rfl
  | some cm => simp [keepsNumber, check]

theorem validateUpdate_self {c : Cluster} (hc : validateSpec c.spec = []) :
    validateUpdate c c = [] ↔ StampAgrees c := by
  have hpath : validateUpgradePath c c = [] := if_neg fun h => h rfl
  have hdriver : validateStoreDriverImmutable c c = [] := check_eq_nil.mpr (decide_eq_true rfl)
  unfold validateUpdate
  rw [hc, hpath, hdriver, validateClusterMetadataImmutable_self, List.append_nil, List.append_nil, List.append_nil,
    List.nil_append, validateShardCountImmutable_eq_nil, stampAgrees_iff]

end ClusterWebhook

/-! ## Along a run -/

open ClusterWebhook

/-- What the webhooks leave behind. -/
structure Admitted (c : Cluster) : Prop where
  defaulted : ClusterWebhook.default c = c
  valid : validateSpec c.spec = []

theorem Created.admitted {d : Cluster} (hc : Created (ClusterWebhook.default d)) :
    Admitted (ClusterWebhook.default d) :=
  ⟨default_default d, hc.valid⟩

theorem submit_defaulted (c : Cluster) (spec : ClusterSpec) (annotations : List (String × String)) :
    ClusterWebhook.default (submit c spec annotations) = submit c spec annotations := by
  have h := default_default { c with spec := spec, annotations := annotations }
  unfold submit
  dsimp only
  generalize ClusterWebhook.default { c with spec := spec, annotations := annotations } = new at h ⊢
  exact congrArg (fun x : Cluster => { x with generation := if new.spec = c.spec then c.generation else
    c.generation + 1 }) h

theorem ClusterRun.admitted {ok : Cluster → List Entry → Input → Prop} {c₀ c : Cluster} {h : List Entry}
    (hc : Admitted c₀) (run : ClusterRun ok c₀ c h) : Admitted c := by
  refine ClusterRun.invariant (I := fun c _ => Admitted c) hc ?_ ?_ ?_ ?_ run
  · intro c h spec annotations _ _ _ hv
    exact ⟨submit_defaulted c spec annotations, (UpdatePasses.of_valid hv).spec⟩
  · exact fun c h _ ih => ih
  · exact fun c h env _ ih _ _ => ih
  · intro c h env st _ ih _ _
    exact ⟨congrArg (fun x : Cluster => { x with status := st }) ih.defaulted, ih.valid⟩

theorem Admitted.submit_self {c : Cluster} (hc : Admitted c) : submit c c.spec c.annotations = c := by
  show { ClusterWebhook.default c with generation := if (ClusterWebhook.default c).spec = c.spec then c.generation
    else c.generation + 1 } = c
  rw [hc.defaulted, if_pos rfl]

/-- **From an admitted create on, the unchanged object passes the webhooks exactly if its annotation agrees with
its shard count; if it does not, no update that keeps the shard count, as the resource definition demands, passes.** -/
theorem noop_update_admitted_iff {d c : Cluster} {h : List Entry} (hc : Created (ClusterWebhook.default d))
    (run : ClusterRun anyInput (ClusterWebhook.default d) c h) :
    submit c c.spec c.annotations = c ∧
      (validateUpdate c (submit c c.spec c.annotations) = [] ↔ StampAgrees c) ∧
      ((∃ spec annotations, spec.numHistoryShards = c.spec.numHistoryShards ∧
        validateUpdate c (submit c spec annotations) = []) ↔ StampAgrees c) := by
  have hadm := run.admitted hc.admitted
  have hsame := hadm.submit_self
  have hself : validateUpdate c (submit c c.spec c.annotations) = [] ↔ StampAgrees c := by
    rw [hsame]
    exact validateUpdate_self hadm.valid
  refine ⟨hsame, hself, ?_, fun hagrees => ⟨c.spec, c.annotations, rfl, hself.mpr hagrees⟩⟩
  rintro ⟨spec, annotations, hshards, hv⟩
  have hcount : spec.numHistoryShards = initialShards c :=
    validateShardCountImmutable_eq_nil.mp (UpdatePasses.of_valid hv).shardCount
  rw [stampAgrees_iff, ← hshards, hcount]

def largeCluster : Cluster :=
  { name := "temporal", spec := { sampleSpec "1.30.4" with numHistoryShards := 4096 } }

/-- It is created and then upgraded, by an update that drops the annotation. -/
def upgradedLarge : Cluster × List Entry :=
  clusterSystem.exec (ClusterWebhook.default largeCluster) []
    [.update { largeCluster.spec with version := "1.31.1" } []]

theorem noop_update_admitted_sample :
    upgradedLarge.1.spec.version = "1.31.1" ∧ StampAgrees upgradedLarge.1 ∧
      validateUpdate upgradedLarge.1 (submit upgradedLarge.1 upgradedLarge.1.spec upgradedLarge.1.annotations) = [] := by
  have hc : Created (ClusterWebhook.default largeCluster) := by decide +kernel
  have run : ClusterRun anyInput (ClusterWebhook.default largeCluster) upgradedLarge.1 upgradedLarge.2 :=
    ClusterRun.ofInputs _ _
  have hagrees : StampAgrees upgradedLarge.1 := by
    rw [stampAgrees_iff]
    decide +kernel
  exact ⟨by decide +kernel, hagrees, (noop_update_admitted_iff hc run).2.1.mpr hagrees⟩

/-- An update that only edits the annotation is admitted, and from then on no update that keeps the shard count. -/
theorem edited_stamp_locks :
    let c₀ := sampleCluster "1.31.1"
    let c := (clusterStep c₀ (.update c₀.spec [( initialShardsAnnotation, "4")])).1
    Created c₀ ∧ validateUpdate c₀ c = [] ∧ c.spec = c₀.spec ∧
      validateUpdate c (submit c c.spec c.annotations) ≠ [] ∧
      ∀ spec annotations, spec.numHistoryShards = c.spec.numHistoryShards →
        validateUpdate c (submit c spec annotations) ≠ [] := by
  intro c₀ c
  have hshards : initialShards c = 4 ∧ c.spec.numHistoryShards = 512 := by decide +kernel
  have hlocked : ∀ spec annotations, spec.numHistoryShards = c.spec.numHistoryShards →
      validateUpdate c (submit c spec annotations) ≠ [] := by
    intro spec annotations hspec hv
    have hcount : spec.numHistoryShards = initialShards c :=
      validateShardCountImmutable_eq_nil.mp (UpdatePasses.of_valid hv).shardCount
    rw [hspec, hshards.1, hshards.2] at hcount
    cases hcount
  exact ⟨by decide +kernel, by decide +kernel, by decide +kernel, hlocked _ _ rfl, hlocked⟩

/-! ## Submissions that keep the stamp -/

/-- The annotation that is submitted agrees with the shard count that is submitted; without one, the defaulter
stamps a count that is not zero. -/
def SubmitsStamp (spec : ClusterSpec) (annotations : List (String × String)) : Prop :=
  match annotations.lookup initialShardsAnnotation with
  | some v => ∀ n, GoText.atoi v = .ok n → n.bmod (2 ^ 32) = spec.numHistoryShards
  | none => spec.numHistoryShards ≠ 0 ∧ -2 ^ 31 ≤ spec.numHistoryShards ∧ spec.numHistoryShards < 2 ^ 31

/-- Every update submits an annotation that agrees with its shard count, or none. -/
def SubmitsStamps (_ : Cluster) (_ : List Entry) : Input → Prop
  | .update spec annotations => SubmitsStamp spec annotations
  | .pass _ => True

theorem SubmitsStamp.default {d : Cluster} (hd : SubmitsStamp d.spec d.annotations) :
    StampAgrees (ClusterWebhook.default d) := by
  intro v hv n hn
  show n.bmod (2 ^ 32) = d.spec.numHistoryShards
  change (stampShards d).lookup initialShardsAnnotation = some v at hv
  unfold SubmitsStamp at hd
  unfold stampShards at hv
  cases hl : d.annotations.lookup initialShardsAnnotation with
  | some w =>
    rw [hl] at hd hv
    simp only [Option.isSome_some, if_true, hl, Option.some.injEq] at hv
    exact hd n (hv ▸ hn)
  | none =>
    rw [hl] at hd hv
    obtain ⟨hne, hlo, hhi⟩ := hd
    simp only [Option.isSome_none, Bool.false_eq_true, if_false, List.lookup_cons_self, Option.some.injEq, if_neg hne]
      at hv
    rw [← hv, GoText.atoi_toString (by omega) (by omega)] at hn
    cases hn
    exact Int.bmod_eq_of_le (by omega) (by omega)

/-- **As long as only such objects are submitted, the annotation agrees with the shard count.** -/
theorem stampAgrees_of_run {d c : Cluster} {h : List Entry} (hd : SubmitsStamp d.spec d.annotations)
    (run : ClusterRun SubmitsStamps (ClusterWebhook.default d) c h) : StampAgrees c := by
  refine ClusterRun.invariant (I := fun c _ => StampAgrees c) hd.default ?_ ?_ ?_ ?_ run
  · intro c h spec annotations _ _ hs _
    exact SubmitsStamp.default (d := { c with spec := spec, annotations := annotations }) hs
  · exact fun c h _ ih => ih
  · exact fun c h env _ ih _ _ => ih
  · exact fun c h env st _ ih _ _ => ih

end TemporalOperator
