import TemporalOperator.Cluster.Migration
import TemporalOperator.Cluster.Runs

/-!
# Ready is never stale

The component conditions are stored, and a pass that finds the datastore unreachable leaves `SchemaReady`, `Available`
and `MTLSReady` as they were. `Ready` needs all of them, and the ones it finds true were written by the same pass.

* `FreshlyReady` : what a pass has seen itself;
* `reconcile_ready` : a pass that stores `Ready` has seen it, whatever the status it started from;
* `ready_never_stale` : so it is along every run.
-/

namespace TemporalOperator
open Lib Persistence

/-- The pass probed both stores successfully, read both at the schema its version needs, read every enabled service
with a ready replica and, with mTLS, both certificates as ready. -/
structure FreshlyReady (r : PassReport) : Prop where
  probed : ∀ store, ∃ backend,
    newBackend (azureWorkloadIdentityEnabled r.read.spec) r.read.namespace_ store (storeSpec r.read.spec store)
      (r.env.store store) = .ok backend ∧ backend.probe.res = .ok ()
  schema : SchemaFound r.read.spec.version r.log
  services : ∀ s, Enabled r.read.spec s → ∃ n : Int, 1 ≤ n ∧ Event.readinessSeen s n ∈ r.log
  certificates : mTLSEnabled r.read.spec = true → ∀ name, ∃ conds, r.env.certificate name = .ok conds ∧
    ∃ cond ∈ conds, cond.1 = .true

/-! ## One pass -/

theorem datastoreAnswers_probed {env : PassEnv} {c : Cluster} (h : datastoreAnswers env c = true)
    (store : SchemaStore) :
    ∃ backend, newBackend (azureWorkloadIdentityEnabled c.spec) c.namespace_ store (storeSpec c.spec store)
      (env.store store) = .ok backend ∧ backend.probe.res = .ok () := by
  unfold datastoreAnswers at h
  cases hts : buildSchemaTargets env c with
  | error e =>
    rw [hts] at h
    cases h
  | ok ts =>
    rw [hts] at h
    obtain ⟨hstores, hbackend⟩ := buildSchemaTargets_eq_ok hts
    have hmem : store ∈ ts.map SchemaTarget.store := by
      rw [hstores]
      cases store <;> simp
    obtain ⟨t, ht, rfl⟩ := List.mem_map.mp hmem
    refine ⟨t.backend, hbackend t ht, ?_⟩
    have hprobe := List.all_eq_true.mp h t ht
    cases hp : t.backend.probe.res with
    | error e =>
      rw [hp] at hprobe
      cases hprobe
    | ok u => rfl

theorem certificateStatus_ready {env : PassEnv} {name : CertificateName} (h : (certificateStatus env name).1 = true) :
    ∃ conds, env.certificate name = .ok conds ∧ ∃ cond ∈ conds, cond.1 = .true := by
  unfold certificateStatus at h
  cases hc : env.certificate name with
  | error e =>
    rw [hc] at h
    cases h
  | ok conds =>
    rw [hc] at h
    obtain ⟨cond, hmem, hcond⟩ := List.any_eq_true.mp h
    exact ⟨conds, rfl, cond, hmem, of_decide_eq_true hcond⟩

theorem reconcileMTLS_ready {env : PassEnv} {c : Cluster} {st st' : ClusterStatus}
    (h : (reconcileMTLS env c st).res = .ok st') (henabled : mTLSEnabled c.spec = true)
    (hready : st'.holds .mtlsReady = true) (name : CertificateName) : (certificateStatus env name).1 = true := by
  have hset (b : Bool) (r m : String) : (setMTLSReady c st b r m).holds .mtlsReady = b := by
    rw [setMTLSReady, holds_setCondition, if_pos rfl]
    cases b <;> rfl
  simp only [reconcileMTLS, henabled, Bool.not_true, Bool.false_eq_true, if_false, Act.res_bind_eq_ok] at h
  obtain ⟨_, -, h⟩ := h
  split at h
  · obtain rfl := Except.ok.inj h
    rw [hset] at hready
    cases hready
  · split at h
    · rename_i hboth
      rw [Bool.and_eq_true] at hboth
      cases name with
      | internode => exact hboth.1
      | frontend => exact hboth.2
    · obtain rfl := Except.ok.inj h
      rw [hset] at hready
      cases hready

theorem computeReadyAndPhase_holds_ready {c : Cluster} {st st' : ClusterStatus}
    (h : (computeReadyAndPhase c st).res = .ok st') : st'.holds .ready = clusterReady c st := by
  rw [computeReadyAndPhase, Act.res_bind_eq_ok] at h
  obtain ⟨_, -, h⟩ := h
  obtain rfl := Except.ok.inj h
  show (withReady c st).holds .ready = clusterReady c st
  rw [withReady, holds_setCondition, if_pos rfl]
  cases clusterReady c st <;> rfl

/-- A pass that stores `Ready` has seen everything `Ready` stands for, whatever the status it started from. -/
theorem reconcile_ready {env : PassEnv} {c : Cluster} {st' : ClusterStatus} (h : (reconcile env c).res = .ok st')
    (hready : st'.holds .ready = true) : FreshlyReady ⟨env, c⟩ := by
  obtain ⟨st, st₃, hat, hs, -, st₄, hcompute, rfl⟩ := reconcile_stages h
  obtain ⟨st₁, hp, hm⟩ := hat.reached
  have hservices := reconcileServices_step hs
  -- before the services each condition is the one its own stage of this pass has left
  have hbefore (t : ConditionType) (ht : t ≠ .available) : st₃.holds t = st.holds t :=
    (hservices.holds t ht).trans (holds_upgradeOutcome env c.spec st t)
  have hclusterReady : clusterReady c st₃ = true := (computeReadyAndPhase_holds_ready hcompute).symm.trans hready
  simp only [clusterReady, Bool.and_eq_true, Bool.or_eq_true, Bool.not_eq_true'] at hclusterReady
  obtain ⟨⟨⟨hreachable, hschema⟩, havailable⟩, hmtls⟩ := hclusterReady
  rw [hbefore _ (by decide)] at hreachable hschema hmtls
  refine ⟨?_, hat.fresh hreachable hschema, ?_, ?_⟩
  · rw [(reconcileMTLS_res hm).2 _ (by decide), reconcilePersistence_reachable hp] at hreachable
    exact datastoreAnswers_probed hreachable
  · intro s hs
    rw [← holds_upgradeOutcome env c.spec] at hschema
    obtain ⟨⟨n, hn, hseen⟩, -⟩ := hservices.available hschema havailable s hs
    exact ⟨n, hn, hat.services_log hseen⟩
  · intro henabled name
    rcases hmtls with hoff | hcerts
    · rw [henabled] at hoff
      cases hoff
    · exact certificateStatus_ready (reconcileMTLS_ready hm henabled hcerts name)

/-! ## Along a run -/

/-- The newest pass of a history that stored a status, and the status. -/
def lastStored : List Entry → Option (PassReport × ClusterStatus)
  | [] => none
  | .passed r :: h => (r.wrote.map fun st => (r, st)).or (lastStored h)
  | _ :: h => lastStored h

theorem lastStored_mem {h : List Entry} {r : PassReport} {st : ClusterStatus} (hl : lastStored h = some (r, st)) :
    Entry.passed r ∈ h ∧ r.wrote = some st := by
  induction h with
  | nil => cases hl
  | cons e h ih =>
    cases e with
    | edited old new => exact ⟨.tail _ (ih hl).1, (ih hl).2⟩
    | rejected old => exact ⟨.tail _ (ih hl).1, (ih hl).2⟩
    | passed r' =>
      rw [lastStored] at hl
      cases hw : r'.wrote with
      | none =>
        rw [hw] at hl
        exact ⟨.tail _ (ih hl).1, (ih hl).2⟩
      | some st' =>
        rw [hw] at hl
        obtain ⟨rfl, rfl⟩ := Prod.mk.inj (Option.some.inj hl)
        exact ⟨.head _, hw⟩

theorem ClusterRun.status_eq {ok : Cluster → List Entry → Input → Prop} {c₀ c : Cluster} {h : List Entry}
    (run : ClusterRun ok c₀ c h) : c.status = ((lastStored h).map Prod.snd).getD c₀.status := by
  refine ClusterRun.invariant (I := fun c h => c.status = ((lastStored h).map Prod.snd).getD c₀.status)
    rfl ?_ ?_ ?_ ?_ run
  · exact fun c h spec annotations _ ih _ _ => ih
  · exact fun c h _ ih => ih
  · intro c h env _ ih _ hw
    rw [lastStored, hw]
    exact ih
  · intro c h env st _ _ _ hw
    rw [lastStored, hw]
    rfl

/-- **From any starting status, every pass that leaves the cluster Ready has seen in that pass all that Ready stands
for; and a cluster that is Ready after a pass was made so by the newest pass that stored a status.** -/
theorem ready_never_stale {c₀ c : Cluster} {h : List Entry} (run : ClusterRun anyInput c₀ c h) :
    (∀ r st, Entry.passed r ∈ h → r.wrote = some st → st.holds .ready = true → FreshlyReady r) ∧
      (c.status.holds .ready = true →
        (lastStored h = none ∧ c.status = c₀.status) ∨ ∃ r, lastStored h = some (r, c.status) ∧ FreshlyReady r) := by
  have hpass (r : PassReport) (st : ClusterStatus) (hw : r.wrote = some st) (hr : st.holds .ready = true) :
      FreshlyReady r := reconcile_ready (res_of_wrote hw) hr
  refine ⟨fun r st _ hw hr => hpass r st hw hr, fun hr => ?_⟩
  have hstatus := run.status_eq
  cases hl : lastStored h with
  | none =>
    rw [hl] at hstatus
    exact .inl ⟨rfl, hstatus⟩
  | some stored =>
    obtain ⟨r, st⟩ := stored
    rw [hl] at hstatus
    obtain rfl : c.status = st := hstatus
    exact .inr ⟨r, rfl, hpass r _ (lastStored_mem hl).2 hr⟩

def mtlsCluster : Cluster :=
  ClusterWebhook.default
    { name := "temporal"
      spec := { sampleSpec "1.31.1" with mtls := some { provider := "cert-manager", issuerRef := some "issuer" } } }

def certifiedEnv : PassEnv :=
  { steadyEnv newestSchema "1.31.1" with certificate := fun _ => .ok [(.true, "Ready")] }

theorem ready_never_stale_sample :
    let run := clusterSystem.exec mtlsCluster [] [.pass certifiedEnv]
    run.1.status.holds .ready = true ∧ mTLSEnabled run.1.spec = true ∧
      FreshlyReady ⟨certifiedEnv, mtlsCluster⟩ := by
  intro run
  have hrun : ClusterRun anyInput mtlsCluster run.1 run.2 := ClusterRun.ofInputs _ _
  have hready : run.1.status.holds .ready = true := by decide +kernel
  have hstored : (⟨certifiedEnv, mtlsCluster⟩ : PassReport).wrote = some run.1.status := by decide +kernel
  exact ⟨hready, by decide +kernel,
    (ready_never_stale hrun).1 _ _ (List.mem_singleton.mpr rfl) hstored hready⟩

/-- The same cluster, once its certificates are not ready any more. -/
example :
    let run := clusterSystem.exec mtlsCluster [] [.pass certifiedEnv, .pass (steadyEnv newestSchema "1.31.1")]
    run.1.status.holds .ready = false ∧ run.1.status.holds .available = true := by
  decide +kernel

end TemporalOperator
