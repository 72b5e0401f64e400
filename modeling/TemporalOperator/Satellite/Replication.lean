import Mathlib.Logic.Function.Iterate
import TemporalOperator.Satellite.Drift

/-!
# Reaching the declared replication

`ensureRegistered` fails over before it updates the cluster list, and gives up when the failover is refused. The server
refuses a failover to a cluster that is not on the list, so a cluster that is added and made active in one edit is never
reached.

* `registered` : what one call makes of a namespace when every call is answered (`registerStep_eq`);
* `declared_replication_reached_iff` : when the declared clusters are reached; `added_active_cluster_never_reached`.
-/

namespace TemporalOperator.Satellite.Namespace
open Lib Proc

/-! ## One call -/

def At (info : NamespaceInfo) (s : NamespacePass) : Prop := s.remote = some info

section Calls

variable {info info' : NamespaceInfo} {change : Option NamespaceInfo → Except RpcErr (Option NamespaceInfo)}
  {call : Except Err Unit → NamespaceCall}

theorem triple_describe (n : Nat) (name : String) :
    Triple (At info) (describe {} n name) (fun i s => i = info ∧ At info s) fun _ _ => False := by
  refine triple_bind triple_get fun a => ?_
  rintro s ⟨rfl, hs⟩
  have hanswer : describeAnswer {} n a.remote = .ok info := by
    rw [hs]
    rfl
  rw [hanswer]
  exact ⟨rfl, hs⟩

theorem triple_redescribe (n : Nat) (name : String) (known : NamespaceInfo) :
    Triple (At info) (redescribe {} n name known) (fun i s => i = info ∧ At info s) fun _ _ => False :=
  triple_attempt_bind (triple_describe n name) (fun _ _ hs => hs) fun _ _ hs => hs.elim

theorem triple_call_applied (hchange : change (some info) = .ok (some info')) :
    Triple (At info) (remoteCall .done change call : Proc NamespacePass Err Unit) (fun _ => At info')
      fun _ _ => False := by
  have hserve : serve .done change (some info) = (.ok (), some info') := by rw [serve, hchange]
  refine triple_remoteCall (fun s r hs hr => ?_) fun s e r hs hr => ?_
  · rw [hs, hserve] at hr
    exact (congrArg Prod.snd hr).symm
  · rw [hs, hserve] at hr
    cases hr

theorem triple_call_refused {e : RpcErr} (hchange : change (some info) = .error e) :
    Triple (At info) (remoteCall .done change call : Proc NamespacePass Err Unit) (fun _ _ => False)
      fun _ => At info := by
  have hserve : serve .done change (some info) = (.error e, some info) := by rw [serve, hchange]
  refine triple_remoteCall (fun s r hs hr => ?_) fun s e r hs hr => ?_
  · rw [hs, hserve] at hr
    cases hr
  · rw [hs, hserve] at hr
    exact (congrArg Prod.snd hr).symm

end Calls

/-- The namespace after an update of what has drifted; the server refuses a cluster list without the active cluster. -/
def undrifted (p : NamespaceParams) (info : NamespaceInfo) : NamespaceInfo :=
  if namespaceDrifted p info ∧ info.activeCluster ∈ p.clusters then
    { info with
      description := given p.description info.description, ownerEmail := given p.ownerEmail info.ownerEmail
      retentionPeriod := p.retentionPeriod, clusters := p.clusters }
  else info

def registered (p : NamespaceParams) (info : NamespaceInfo) : NamespaceInfo :=
  if p.activeCluster = "" ∨ p.activeCluster = info.activeCluster then undrifted p info
  else if p.activeCluster ∈ info.clusters then undrifted p { info with activeCluster := p.activeCluster }
  else info

variable {ns : TemporalNamespace} {info : NamespaceInfo}

/-- The server's rules for an update of everything but the active cluster. -/
theorem serverUpdate_drift (p : NamespaceParams) (hclusters : p.clusters ≠ []) (info : NamespaceInfo) :
    serverUpdate (updateNamespaceRequest p) (some info) =
      if info.activeCluster ∈ p.clusters then
        .ok <| some
          { info with
            description := given p.description info.description, ownerEmail := given p.ownerEmail info.ownerEmail
            retentionPeriod := p.retentionPeriod, clusters := p.clusters }
      else .error ⟨.other, "cluster list does not contain the active cluster"⟩ := by
  have hrequest : (updateNamespaceRequest p).replicationConfig = some { clusters := p.clusters } := if_pos hclusters
  have hset : (updateNamespaceRequest p).clusters? = some p.clusters := by
    rw [UpdateNamespaceRequest.clusters?, hrequest, Option.bind_some, if_pos hclusters]
  have hkept : (updateNamespaceRequest p).failover? info = none := by
    rw [UpdateNamespaceRequest.failover?, hrequest, Option.bind_some, if_neg fun h => h.1 rfl]
  rw [serverUpdate, hkept]
  dsimp only
  rw [hset]
  by_cases hactive : info.activeCluster ∈ p.clusters
  · rw [if_pos hactive, if_neg fun h => h.2 hactive]
    rfl
  · rw [if_neg hactive, if_pos ⟨rfl, hactive⟩]

theorem serverUpdate_failover (name : String) {active : String} (hactive : active ≠ "") {info : NamespaceInfo}
    (hnew : active ≠ info.activeCluster) :
    serverUpdate (failoverNamespaceRequest name active) (some info) =
      if active ∈ info.clusters then .ok (some { info with activeCluster := active })
      else .error ⟨.other, "active cluster is not in the cluster list"⟩ := by
  have hfailover : (failoverNamespaceRequest name active).failover? info = some active := if_pos ⟨hactive, hnew⟩
  rw [serverUpdate, hfailover]
  dsimp only
  rw [if_neg (by rintro (h | h | h) <;> cases h)]
  by_cases hmem : active ∈ info.clusters
  · rw [if_pos hmem, if_neg (not_not_intro hmem)]
  · rw [if_neg hmem, if_pos hmem]

theorem triple_ensureUndrifted (hdrift : ns.spec.driftDetection ≠ .ignore) (hclusters : ns.spec.clusters ≠ [])
    (info : NamespaceInfo) :
    Triple (At info) (ensureUndrifted {} ns info) (fun _ => At (undrifted (namespaceParams ns) info))
      fun _ => At (undrifted (namespaceParams ns) info) := by
  have hserver := serverUpdate_drift (namespaceParams ns) hclusters info
  unfold ensureUndrifted undrifted
  by_cases hdrifted : namespaceDrifted (namespaceParams ns) info = true
  · rw [if_pos ⟨hdrift, hdrifted⟩]
    by_cases hactive : info.activeCluster ∈ (namespaceParams ns).clusters
    · rw [if_pos ⟨hdrifted, hactive⟩]
      rw [if_pos hactive] at hserver
      refine triple_bind (triple_mapError ((triple_call_applied hserver).conseq (fun _ hs => hs) (fun _ _ hs => hs)
        fun _ _ hs => hs.elim)) fun _ => ?_
      exact (triple_redescribe 2 _ info).conseq (fun _ hs => hs) (fun _ _ hs => hs.2) fun _ _ hs => hs.elim
    · rw [if_neg fun h => hactive h.2]
      rw [if_neg hactive] at hserver
      exact triple_bind (triple_mapError (triple_call_refused hserver)) fun _ _ hs => hs.elim
  · rw [if_neg fun h => hdrifted h.2, if_neg fun h => hdrifted h.1]
    exact triple_pure fun _ hs => hs

section Active

variable {p : NamespaceParams}

theorem triple_ensureActive_same (hp : p = namespaceParams ns)
    (hsame : p.activeCluster = "" ∨ p.activeCluster = info.activeCluster) :
    Triple (At info) (ensureActive {} ns info) (fun r s => r = (info, false) ∧ At info s) fun _ _ => False := by
  subst hp
  unfold ensureActive
  dsimp only
  rw [if_neg fun h => hsame.elim h.2.1 h.2.2]
  exact triple_pure fun _ hs => ⟨rfl, hs⟩

variable (hp : p = namespaceParams ns) (hglobal : ns.spec.isGlobal = true) (hnonempty : p.activeCluster ≠ "")
  (hnew : p.activeCluster ≠ info.activeCluster)

include hp hglobal hnonempty hnew

theorem triple_ensureActive_applied (hmem : p.activeCluster ∈ info.clusters) :
    Triple (At info) (ensureActive {} ns info)
      (fun r s => r = ({ info with activeCluster := p.activeCluster }, true) ∧
        At { info with activeCluster := p.activeCluster } s)
      fun _ _ => False := by
  subst hp
  have hserver := serverUpdate_failover (namespaceParams ns).name hnonempty hnew
  rw [if_pos hmem] at hserver
  unfold ensureActive
  dsimp only
  rw [if_pos ⟨hglobal, hnonempty, hnew⟩]
  refine triple_bind (triple_mapError (triple_call_applied hserver)) fun _ => ?_
  refine triple_bind (triple_redescribe 1 _ info) fun i => triple_pure ?_
  rintro s ⟨rfl, hs⟩
  exact ⟨rfl, hs⟩

theorem triple_ensureActive_refused (hmem : p.activeCluster ∉ info.clusters) :
    Triple (At info) (ensureActive {} ns info) (fun _ _ => False) fun _ => At info := by
  subst hp
  have hserver := serverUpdate_failover (namespaceParams ns).name hnonempty hnew
  rw [if_neg hmem] at hserver
  unfold ensureActive
  dsimp only
  rw [if_pos ⟨hglobal, hnonempty, hnew⟩]
  exact triple_bind (triple_mapError (triple_call_refused hserver)) fun _ _ hs => hs.elim

end Active

/-- One call, from a namespace that is there, with every call answered. -/
theorem triple_ensureRegistered (hdrift : ns.spec.driftDetection ≠ .ignore) (hglobal : ns.spec.isGlobal = true)
    (hclusters : ns.spec.clusters ≠ []) (info : NamespaceInfo) :
    Triple (At info) (ensureRegistered {} ns) (fun _ => At (registered (namespaceParams ns) info))
      fun _ => At (registered (namespaceParams ns) info) := by
  -- a failover that goes well, or is not needed, leads on to the update
  have hrest : ∀ {info' : NamespaceInfo} {failedOver : Bool},
      registered (namespaceParams ns) info = undrifted (namespaceParams ns) info' →
      Triple (At info) (ensureActive {} ns info) (fun r s => r = (info', failedOver) ∧ At info' s) (fun _ _ => False) →
      Triple (At info)
        (ensureActive {} ns info >>= fun r => do return (← ensureUndrifted {} ns r.1, r.2))
        (fun _ => At (registered (namespaceParams ns) info)) fun _ => At (registered (namespaceParams ns) info) := by
    intro info' failedOver heq hactive
    rw [heq]
    refine triple_bind (hactive.conseq (fun _ hs => hs) (fun _ _ hs => hs) fun _ _ hs => hs.elim) fun r => ?_
    rintro s ⟨rfl, hs⟩
    exact triple_bind (R := fun _ => At (undrifted (namespaceParams ns) info'))
      (triple_ensureUndrifted hdrift hclusters info') (fun _ => triple_pure fun _ hs => hs) s hs
  refine triple_attempt_bind (triple_describe 0 _) (fun i => ?_) fun _ _ hs => hs.elim
  rintro s ⟨rfl, hs⟩
  by_cases hsame : (namespaceParams ns).activeCluster = "" ∨ (namespaceParams ns).activeCluster = i.activeCluster
  · exact hrest (if_pos hsame) (triple_ensureActive_same rfl hsame) s hs
  · obtain ⟨hnonempty, hnew⟩ := not_or.mp hsame
    by_cases hmem : (namespaceParams ns).activeCluster ∈ i.clusters
    · have hregistered : registered (namespaceParams ns) i =
          undrifted (namespaceParams ns) { i with activeCluster := (namespaceParams ns).activeCluster } := by
        rw [registered, if_neg hsame, if_pos hmem]
      exact hrest hregistered (triple_ensureActive_applied rfl hglobal hnonempty hnew hmem) s hs
    · have hkept : registered (namespaceParams ns) i = i := by
        rw [registered, if_neg hsame, if_neg hmem]
      rw [hkept]
      exact triple_bind (triple_ensureActive_refused rfl hglobal hnonempty hnew hmem) (fun _ _ hs => hs.elim) s hs

/-! ## Consecutive calls -/

/-- What one call of `ensureRegistered` makes of the server, when every call is answered. -/
def registerStep (ns : TemporalNamespace) (remote : Option NamespaceInfo) : Option NamespaceInfo :=
  ((ensureRegistered {} ns).exec { stored := some ns, obj := ns, remote := remote }).2.remote

/-- The namespace on the server has the declared clusters, in any order, and the declared active cluster. -/
def Declared (spec : TemporalNamespaceSpec) (remote : Option NamespaceInfo) : Prop :=
  ∃ info ∈ remote, (∀ c, c ∈ info.clusters ↔ c ∈ spec.clusters) ∧ info.activeCluster = spec.activeCluster

/-- The declared active cluster is another one, and the server will not fail over to it. -/
def Blocked (spec : TemporalNamespaceSpec) (info : NamespaceInfo) : Prop :=
  spec.activeCluster ≠ info.activeCluster ∧ (spec.activeCluster ≠ "" → spec.activeCluster ∉ info.clusters)

theorem mem_iff_of_equalStringSets {a b : List String} (h : equalStringSets a b = true) (c : String) :
    c ∈ b ↔ c ∈ a :=
  ((equalStringSets_iff a b).mp h).mem_iff.symm

/-- Once the active cluster is the declared one, an update makes the cluster list the declared one. -/
theorem declared_undrifted (hactive : ns.spec.activeCluster ∈ ns.spec.clusters)
    (hsame : info.activeCluster = ns.spec.activeCluster) :
    Declared ns.spec (some (undrifted (namespaceParams ns) info)) := by
  refine ⟨_, rfl, ?_⟩
  have hmem : info.activeCluster ∈ (namespaceParams ns).clusters := by
    rw [hsame]
    exact hactive
  unfold undrifted
  by_cases hdrifted : namespaceDrifted (namespaceParams ns) info = true
  · rw [if_pos ⟨hdrifted, hmem⟩]
    exact ⟨fun _ => Iff.rfl, hsame⟩
  · rw [if_neg fun h => hdrifted h.1]
    have hequal : equalStringSets (namespaceParams ns).clusters info.clusters = true := by
      have hne : (namespaceParams ns).clusters ≠ [] := List.ne_nil_of_mem hmem
      simp only [namespaceDrifted, Bool.or_eq_true, Bool.and_eq_true, not_or, Bool.not_eq_true'] at hdrifted
      by_contra hunequal
      exact hdrifted.1.1.1 ⟨by simpa using hne, by simpa using hunequal⟩
    exact ⟨mem_iff_of_equalStringSets hequal, hsame⟩

theorem registerStep_eq (hdrift : ns.spec.driftDetection ≠ .ignore) (hglobal : ns.spec.isGlobal = true)
    (hclusters : ns.spec.clusters ≠ []) (info : NamespaceInfo) :
    registerStep ns (some info) = some (registered (namespaceParams ns) info) :=
  (triple_ensureRegistered hdrift hglobal hclusters info).exec rfl

theorem undrifted_activeCluster (p : NamespaceParams) (info : NamespaceInfo) :
    (undrifted p info).activeCluster = info.activeCluster := by
  unfold undrifted
  split <;> rfl

theorem namespaceParams_activeCluster : (namespaceParams ns).activeCluster = ns.spec.activeCluster := rfl

theorem Blocked.registered (h : Blocked ns.spec info) : Blocked ns.spec (registered (namespaceParams ns) info) := by
  obtain ⟨hother, hrefused⟩ := h
  unfold Namespace.registered
  rw [namespaceParams_activeCluster]
  by_cases hempty : ns.spec.activeCluster = ""
  · -- no active cluster is declared, so none is ever asked for
    rw [if_pos (.inl hempty)]
    refine ⟨?_, fun hnonempty => absurd hempty hnonempty⟩
    rw [undrifted_activeCluster]
    exact hother
  · rw [if_neg (not_or.mpr ⟨hempty, hother⟩), if_neg (hrefused hempty)]
    exact ⟨hother, hrefused⟩

theorem Blocked.iterate (hdrift : ns.spec.driftDetection ≠ .ignore) (hglobal : ns.spec.isGlobal = true)
    (hclusters : ns.spec.clusters ≠ []) (h : Blocked ns.spec info) (n : Nat) :
    ∃ info', (registerStep ns)^[n] (some info) = some info' ∧ Blocked ns.spec info' := by
  induction n with
  | zero => exact ⟨info, rfl, h⟩
  | succ n ih =>
    obtain ⟨info', heq, hblocked⟩ := ih
    refine ⟨_, ?_, hblocked.registered⟩
    rw [Function.iterate_succ_apply', heq, registerStep_eq hdrift hglobal hclusters]

/-- **The declared clusters are reached if and only if the declared active cluster is active already or on the server's
list.** The calls are consecutive and all answered; the first one gets there or none does. A spec with its active
cluster on its list passes `validateReplication`. -/
theorem declared_replication_reached_iff (hdrift : ns.spec.driftDetection ≠ .ignore) (hglobal : ns.spec.isGlobal = true)
    (hactive : ns.spec.activeCluster ∈ ns.spec.clusters) :
    (∃ n, Declared ns.spec ((registerStep ns)^[n] (some info))) ↔
      ns.spec.activeCluster = info.activeCluster ∨
        ns.spec.activeCluster ≠ "" ∧ ns.spec.activeCluster ∈ info.clusters := by
  have hclusters : ns.spec.clusters ≠ [] := List.ne_nil_of_mem hactive
  constructor
  · rintro ⟨n, hdeclared⟩
    by_contra hcond
    obtain ⟨hother, hunlisted⟩ := not_or.mp hcond
    have hblocked : Blocked ns.spec info := ⟨hother, fun hnonempty hmem => hunlisted ⟨hnonempty, hmem⟩⟩
    obtain ⟨info', heq, hstill⟩ := hblocked.iterate hdrift hglobal hclusters n
    rw [heq] at hdeclared
    obtain ⟨info'', hsome, -, hreached⟩ := hdeclared
    obtain rfl := Option.some.inj hsome
    exact hstill.1 hreached.symm
  · intro hcond
    refine ⟨1, ?_⟩
    rw [Function.iterate_one, registerStep_eq hdrift hglobal hclusters]
    unfold registered
    rw [namespaceParams_activeCluster]
    by_cases hsame : ns.spec.activeCluster = info.activeCluster
    · rw [if_pos (.inr hsame)]
      exact declared_undrifted hactive hsame.symm
    · obtain ⟨hnonempty, hmem⟩ := hcond.resolve_left hsame
      rw [if_neg (not_or.mpr ⟨hnonempty, hsame⟩), if_pos hmem]
      exact declared_undrifted hactive rfl

def replicated (activeCluster : String) : TemporalNamespace where
  name := "orders"
  spec :=
    { clusterRef := { name := "prod" }, isGlobal := true, clusters := ["east", "west"], activeCluster := activeCluster }
  status := {}

theorem declared_replication_reached_iff_sample :
    ∃ n, Declared (replicated "west").spec
      ((registerStep (replicated "west"))^[n]
        (some { isGlobal := true, activeCluster := "east", clusters := ["west"] })) :=
  (declared_replication_reached_iff (by decide) rfl (by decide)).mpr (.inr (by decide))

/-- `west` is added and made active in one edit. The server refuses the failover, and nothing ever changes. -/
theorem added_active_cluster_never_reached :
    ¬ ∃ n, Declared (replicated "west").spec
      ((registerStep (replicated "west"))^[n]
        (some { isGlobal := true, activeCluster := "east", clusters := ["east"] })) := by
  rintro ⟨n, hdeclared⟩
  have hblocked : Blocked (replicated "west").spec { isGlobal := true, activeCluster := "east", clusters := ["east"] } :=
    ⟨by decide, fun _ => by decide⟩
  obtain ⟨info, heq, hstill⟩ := hblocked.iterate (by decide) rfl (by decide) n
  rw [heq] at hdeclared
  obtain ⟨info', hsome, -, hreached⟩ := hdeclared
  obtain rfl := Option.some.inj hsome
  exact hstill.1 hreached.symm

end TemporalOperator.Satellite.Namespace
