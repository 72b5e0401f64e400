import TemporalOperator.Cluster.Migration
import TemporalOperator.Cluster.Runs

/-!
# Schema before servers

`reconcileServices` looks at the condition `SchemaReady` only, which carries no version and keeps its value while the
datastore does not answer.

* `upgrade_waits_for_schema` : during an upgrade that is enough, the phase machine asks for the datastore and the schema
  once more;
* `install_waits_for_schema` : before the first `Ready` it is enough as long as a pass that cannot ask the datastore
  works for the version the schema was last evaluated for (`EvaluatedVersion`); `install_with_old_schema` : otherwise
  servers can come up on a schema nobody has checked.
-/

namespace TemporalOperator
open Lib

/-- A pass of the history found both stores at the schema the version needs. -/
def FoundSchema (v : String) (h : List Entry) : Prop := ∃ e ∈ h, SchemaFound v e.log

instance (v : String) (h : List Entry) : Decidable (FoundSchema v h) := inferInstanceAs (Decidable (∃ e ∈ h, _))

theorem FoundSchema.mono {v : String} {h h' : List Entry} (hf : FoundSchema v h) (hsub : ∀ e ∈ h, e ∈ h') :
    FoundSchema v h' := by
  obtain ⟨e, he, hlog⟩ := hf
  exact ⟨e, hsub e he, hlog⟩

/-! ## Upgrades -/

/-- From `SchemaMigrating` on, a ready schema was found by a pass of the record, and so it was once servers roll. -/
def SchemaGated (p : UpgradePhase) (ready : Bool) (v : String) (h : List Entry) : Prop :=
  2 ≤ p.rank → ready = true ∨ 3 ≤ p.rank → FoundSchema v h

def HasSchema (c : Cluster) (h : List Entry) : Prop :=
  SchemaGated (phaseFor c.status c.spec.version) (c.status.holds .schemaReady) c.spec.version (since opened h)

theorem HasSchema.cons {c : Cluster} {h : List Entry} (hs : HasSchema c h) {e : Entry} (ho : opened e = false) :
    HasSchema c (e :: h) :=
  fun hr hready => (hs hr hready).mono fun _ hmem => mem_since_cons ho hmem

/-- A move keeps the gate: what was stale is only trusted where the old phase already vouched for it. -/
theorem HasSchema.moved {c : Cluster} {h : List Entry} {env : PassEnv} {st : ClusterStatus} {up : UpgradeStatus}
    (hs : HasSchema c h) (hat : AtUpgrade env c st) (move : Moved env c st up) :
    SchemaGated up.phase (st.holds .schemaReady) c.spec.version (since opened (.passed ⟨env, c⟩ :: h)) := by
  have hold : 2 ≤ (phaseFor c.status c.spec.version).rank →
      c.status.holds .schemaReady = true ∨ 3 ≤ (phaseFor c.status c.spec.version).rank →
      FoundSchema c.spec.version (since opened (.passed ⟨env, c⟩ :: h)) :=
    fun hr hready => (hs.cons (not_opened_of_rank env (by omega))) hr hready
  have hfresh : st.holds .persistenceReachable = true → st.holds .schemaReady = true →
      FoundSchema c.spec.version (since opened (.passed ⟨env, c⟩ :: h)) :=
    fun hr hready => ⟨_, mem_since_cons_self opened _ h, hat.fresh hr hready⟩
  -- a ready schema is fresh, or it is the stored one and the old phase was already `SchemaMigrating`
  have hready : 2 ≤ up.phase.rank → st.holds .schemaReady = true →
      FoundSchema c.spec.version (since opened (.passed ⟨env, c⟩ :: h)) := by
    intro hr hready
    cases hreach : st.holds .persistenceReachable with
    | true => exact hfresh hreach hready
    | false =>
      have hr' := (move.phase.reachable hr).resolve_right (by rw [hreach]; decide)
      exact hold hr' (.inl ((hat.stale hreach).1 ▸ hready))
  intro hr hor
  rcases hor with hrd | hroll
  · exact hready hr hrd
  · rcases move.phase.schemaReady hroll with hr' | ⟨-, hrd⟩
    · exact hold (by omega) (.inr hr')
    · exact hready hr hrd

theorem recordInvariant_hasSchema : RecordInvariant HasSchema where
  of_not_targets ht := by
    intro hr
    rw [phaseFor_of_not_targets ht] at hr
    exact absurd hr (by decide)
  cons hs ho := hs.cons ho
  congr hs hstatus hversion := by
    rw [HasSchema, hstatus, hversion]
    exact hs
  moved {env c h st st' up} hs _ hat move hend _ hup := by
    have hready : st'.holds .schemaReady = st.holds .schemaReady :=
      hend.schemaReady.trans (holds_upgradeOutcome env c.spec st _)
    have hgate := hs.moved hat move
    rw [← move.phaseFor_stored hup, ← hready] at hgate
    exact hgate

/-- **Schema before servers, during an upgrade.** When a pass of an upgrade applies a Deployment at the new version, a
pass of the same upgrade record has found both stores at the schema that version needs. -/
theorem upgrade_waits_for_schema {c₀ c : Cluster} {h : List Entry} {r : PassReport} (hc : Created c₀)
    (run : ClusterRun anyInput c₀ c (.passed r :: h)) (due : UpgradeDue r.read.spec r.read.status)
    {s : Service} (happ : r.read.spec.version ∈ r.appliedTo s) :
    FoundSchema r.read.spec.version (since opened (.passed r :: h)) := by
  obtain ⟨env, c'⟩ := r
  have hread : ClusterRun anyInput c₀ c' h := run.last_passed.1
  have hs : HasSchema c' h := recordInvariant_hasSchema.of_run hc hread
  have hcoh : Coherent c' := hread.coherent hc.coherent
  obtain ⟨d, hd⟩ := mem_appliedTo happ
  obtain ⟨st, hat, -, -, hv⟩ := deployment_event hd
  rcases hat.outcome due with ⟨up, move, hout, -⟩ | ⟨hphase, -, -⟩
  · have hr : upgradeIndex s + 3 ≤ up.phase.rank := hcoh.rank_of_assigned move hout hv.symm
    exact hs.moved hat move (by omega) (.inr (by omega))
  · have hrank : (phaseFor c'.status c'.spec.version).rank = 9 := by
      rw [hphase]
      rfl
    exact recordInvariant_hasSchema.lost hs env (by omega) (.inr (by omega))

/-- Install, move on, and four passes: the last one takes the frontend to the new version. -/
def gateOpens : List Input :=
  [.pass (steadyEnv newestSchema "1.30.4"), moveTo "1.31.0", .pass (steadyEnv newestSchema "1.30.4"),
    .pass (steadyEnv newestSchema "1.30.4")]

theorem upgrade_waits_for_schema_gateOpens :
    let before := clusterSystem.exec (sampleCluster "1.30.4") [] gateOpens
    let r : PassReport := ⟨steadyEnv newestSchema "1.30.4", before.1⟩
    r.read.spec.version ∈ r.appliedTo .frontend ∧
      FoundSchema r.read.spec.version (since opened (.passed r :: before.2)) := by
  intro before r
  have hcreated : Created (sampleCluster "1.30.4") := by decide +kernel
  have hrun := (ClusterRun.ofInputs (sampleCluster "1.30.4") gateOpens).pass r.env trivial
  obtain ⟨hdue, happ⟩ : UpgradeDue r.read.spec r.read.status ∧ r.read.spec.version ∈ r.appliedTo .frontend := by
    decide +kernel
  exact ⟨happ, upgrade_waits_for_schema hcreated hrun hdue happ⟩

/-! ## Installs -/

/-- The version for which the schema was last evaluated by a pass that was stored. -/
def lastEvaluated : List Entry → Option String
  | [] => none
  | .passed r :: h =>
    if r.wrote.isSome && datastoreAnswers r.env r.read then some r.read.spec.version else lastEvaluated h
  | _ :: h => lastEvaluated h

/-- Before the first `Ready`, a pass that the datastore does not answer works for the version the schema was last
evaluated for. -/
def EvaluatedVersion (c : Cluster) (h : List Entry) : Input → Prop
  | .update _ _ => True
  | .pass env => c.status.version = "" → datastoreAnswers env c = false →
      ∀ v ∈ lastEvaluated h, v = c.spec.version

instance (c : Cluster) (h : List Entry) : (e : Input) → Decidable (EvaluatedVersion c h e)
  | .update _ _ => inferInstanceAs (Decidable True)
  | .pass env => inferInstanceAs (Decidable (_ → datastoreAnswers env c = false → ∀ v ∈ lastEvaluated h, _))

theorem AtUpgrade.reachable_eq {env : PassEnv} {c : Cluster} {st : ClusterStatus} (hat : AtUpgrade env c st) :
    st.holds .persistenceReachable = datastoreAnswers env c := by
  obtain ⟨st₁, hp, hm⟩ := hat.reached
  rw [(reconcileMTLS_res hm).2 _ (by decide)]
  exact reconcilePersistence_reachable hp

/-- A stored `SchemaReady` stems from the last evaluation. -/
def ReadyEvaluated (c : Cluster) (h : List Entry) : Prop :=
  c.status.holds .schemaReady = true → ∃ v, lastEvaluated h = some v ∧ FoundSchema v h

theorem ReadyEvaluated.cons {c : Cluster} {h : List Entry} (hr : ReadyEvaluated c h) {e : Entry}
    (he : lastEvaluated (e :: h) = lastEvaluated h) : ReadyEvaluated c (e :: h) := by
  intro hready
  obtain ⟨v, hv, hf⟩ := hr hready
  exact ⟨v, he.trans hv, hf.mono fun _ hmem => List.mem_cons_of_mem _ hmem⟩

theorem ReadyEvaluated.stored {c : Cluster} {h : List Entry} {env : PassEnv} {st' : ClusterStatus}
    (hr : ReadyEvaluated c h) (hw : (⟨env, c⟩ : PassReport).wrote = some st') :
    ReadyEvaluated { c with status := st' } (.passed ⟨env, c⟩ :: h) := by
  intro hready
  obtain ⟨st, hat, hend, -⟩ := stored_of_wrote hw
  have hst : st.holds .schemaReady = true := by
    rw [← holds_upgradeOutcome env c.spec, ← hend.schemaReady]
    exact hready
  have hreach := hat.reachable_eq
  cases ha : datastoreAnswers env c with
  | true =>
    rw [ha] at hreach
    refine ⟨c.spec.version, ?_, ⟨_, List.mem_cons_self, hat.fresh hreach hst⟩⟩
    simp [lastEvaluated, hw, ha]
  | false =>
    rw [ha] at hreach
    have hkeep : lastEvaluated (.passed ⟨env, c⟩ :: h) = lastEvaluated h := by
      simp [lastEvaluated, ha]
    exact hr.cons hkeep ((hat.stale hreach).1 ▸ hst)

theorem ClusterRun.readyEvaluated {ok : Cluster → List Entry → Input → Prop} {c₀ c : Cluster} {h : List Entry}
    (hc : Created c₀) (run : ClusterRun ok c₀ c h) : ReadyEvaluated c h := by
  refine ClusterRun.invariant (I := ReadyEvaluated) ?_ ?_ ?_ ?_ ?_ run
  · intro hready
    rw [hc.status] at hready
    cases hready
  · intro c h spec annotations _ ih _ _ hready
    exact ih.cons (e := .edited c (submit c spec annotations)) rfl hready
  · exact fun c h _ ih => ih.cons rfl
  · intro c h env _ ih _ hw
    refine ih.cons ?_
    simp [lastEvaluated, hw]
  · exact fun c h env st _ ih _ hw => ih.stored hw

/-- No replica is up yet. -/
def notUp (schema : Persistence.RecordedVersion) : PassEnv :=
  { steadyEnv schema "1.30.4" with rollup := fun _ => .ok { deployedAt "1.30.4" with readyReplicas := 0 } }

def outage : PassEnv :=
  { notUp olderSchema with store := fun _ => { sqlProbe := { pingErr := some "connection refused" } } }

/-- **Schema before servers, on an install.** When a pass applies a Deployment before the first `Ready`, it or an
earlier pass has found both stores at the schema that version needs, if passes that the datastore did not answer worked
for the version last evaluated. -/
theorem install_waits_for_schema {c₀ c : Cluster} {h : List Entry} {r : PassReport} (hc : Created c₀)
    (run : ClusterRun EvaluatedVersion c₀ c (.passed r :: h)) (hempty : r.read.status.version = "")
    {s : Service} {v : String} (happ : v ∈ r.appliedTo s) :
    v = r.read.spec.version ∧ FoundSchema v (.passed r :: h) := by
  obtain ⟨env, c'⟩ := r
  obtain ⟨hread, hok⟩ := run.last_passed
  have hev : ReadyEvaluated c' h := hread.readyEvaluated hc
  obtain ⟨d, hd⟩ := mem_appliedTo happ
  obtain ⟨st, hat, hready, -, hv⟩ := deployment_event hd
  have hnot : ¬ UpgradeDue c'.spec c'.status := not_upgradeDue.mpr (.inl hempty)
  rw [serviceVersion_of_none (hat.outcome_of_not_due hnot).1] at hv
  subst hv
  refine ⟨rfl, ?_⟩
  have hreach := hat.reachable_eq
  -- a datastore that answers is read in this pass; otherwise `SchemaReady` is what an earlier pass has stored
  cases ha : datastoreAnswers env c' with
  | true =>
    rw [ha] at hreach
    exact ⟨_, List.mem_cons_self, hat.fresh hreach hready⟩
  | false =>
    rw [ha] at hreach
    obtain ⟨w, hw, hf⟩ := hev ((hat.stale hreach).1 ▸ hready)
    rw [← hok hempty ha w hw]
    exact hf.mono fun _ hmem => List.mem_cons_of_mem _ hmem

/-- An outage after the schema was found: the pass relies on what the one before it has stored. -/
theorem install_waits_for_schema_sample :
    let before := clusterSystem.exec (sampleCluster "1.30.4") [] [.pass (notUp olderSchema)]
    let r : PassReport := ⟨outage, before.1⟩
    datastoreAnswers r.env r.read = false ∧ "1.30.4" ∈ r.appliedTo .frontend ∧ "1.30.4" = r.read.spec.version ∧
      FoundSchema "1.30.4" (.passed r :: before.2) := by
  intro before r
  obtain ⟨hcreated, hfits, hok, hdown, hempty, happ⟩ : Created (sampleCluster "1.30.4") ∧
      clusterSystem.Fits EvaluatedVersion (sampleCluster "1.30.4") [] [.pass (notUp olderSchema)] ∧
      EvaluatedVersion before.1 before.2 (.pass outage) ∧ datastoreAnswers r.env r.read = false ∧
      r.read.status.version = "" ∧ "1.30.4" ∈ r.appliedTo .frontend := by
    decide +kernel
  have hrun : ClusterRun EvaluatedVersion (sampleCluster "1.30.4") before.1 before.2 := .exec .start hfits
  exact ⟨hdown, happ, install_waits_for_schema hcreated (hrun.pass outage hok) hempty happ⟩

/-- The install goes as far as `SchemaReady`, then the version is moved. -/
def movedBeforeReady : List Input := [.pass (notUp olderSchema), moveTo "1.31.0"]

/-- With the datastore down, the stale `SchemaReady` lets a pass apply the new version on the old schema. -/
theorem install_with_old_schema :
    ∃ c h r, Created (sampleCluster "1.30.4") ∧ ClusterRun Completes (sampleCluster "1.30.4") c (.passed r :: h) ∧
      r.read.status.version = "" ∧ r.read.spec.version ∈ r.appliedTo .frontend ∧
      ¬ FoundSchema r.read.spec.version (.passed r :: h) := by
  let before := clusterSystem.exec (sampleCluster "1.30.4") [] movedBeforeReady
  let r : PassReport := ⟨outage, before.1⟩
  obtain ⟨hfits, hcompletes, hempty, happ, hnot⟩ :
      clusterSystem.Fits Completes (sampleCluster "1.30.4") [] movedBeforeReady ∧
      Completes before.1 before.2 (.pass outage) ∧ r.read.status.version = "" ∧
      r.read.spec.version ∈ r.appliedTo .frontend ∧ ¬ FoundSchema r.read.spec.version (.passed r :: before.2) := by
    decide +kernel
  have hrun : ClusterRun Completes (sampleCluster "1.30.4") before.1 before.2 := .exec .start hfits
  exact ⟨_, _, r, by decide +kernel, hrun.pass outage hcompletes, hempty, happ, hnot⟩

end TemporalOperator
