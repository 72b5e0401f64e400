import TemporalOperator.Satellite.Replication

/-!
# Namespaces come to rest

`ensureRegistered` compares the object with what the server describes and writes what differs. A call that ends well
leaves nothing to write, except for a text that is cleared: the server takes an empty text for one that is not set.

* `settled` : what a call that ends well makes of a namespace, whatever its answers (`triple_ensureRegistered_settled`);
* `Quiet` : a call writes nothing; `Settles` : the object clears no text of the namespace;
* `namespace_quiesces_iff`.
-/

namespace TemporalOperator.Satellite.Namespace
open Lib Proc

/-! ## What a call leaves behind -/

def NeedsFailover (ns : TemporalNamespace) (info : NamespaceInfo) : Prop :=
  ns.spec.isGlobal = true ∧ (namespaceParams ns).activeCluster ≠ "" ∧
    (namespaceParams ns).activeCluster ≠ info.activeCluster

instance (ns : TemporalNamespace) (info : NamespaceInfo) : Decidable (NeedsFailover ns info) :=
  inferInstanceAs (Decidable (_ ∧ _ ∧ _))

/-- After a failover, if one is declared. -/
def activated (ns : TemporalNamespace) (info : NamespaceInfo) : NamespaceInfo :=
  if NeedsFailover ns info then { info with activeCluster := (namespaceParams ns).activeCluster } else info

/-- After an update that is accepted. -/
def updated (p : NamespaceParams) (info : NamespaceInfo) : NamespaceInfo :=
  { info with
    description := given p.description info.description
    ownerEmail := given p.ownerEmail info.ownerEmail
    retentionPeriod := p.retentionPeriod
    clusters := if p.clusters ≠ [] then p.clusters else info.clusters }

/-- After a call that ends well. -/
def settled (ns : TemporalNamespace) (info : NamespaceInfo) : NamespaceInfo :=
  if namespaceDrifted (namespaceParams ns) info then updated (namespaceParams ns) (activated ns info)
  else activated ns info

theorem namespaceDrifted_activated (p : NamespaceParams) (ns : TemporalNamespace) (info : NamespaceInfo) :
    namespaceDrifted p (activated ns info) = namespaceDrifted p info := by
  unfold activated
  split <;> rfl

theorem serverUpdate_update {p : NamespaceParams} {info : NamespaceInfo} {r : Option NamespaceInfo}
    (h : serverUpdate (updateNamespaceRequest p) (some info) = .ok r) : r = some (updated p info) := by
  have hkept : (updateNamespaceRequest p).failover? info = none := by
    unfold updateNamespaceRequest UpdateNamespaceRequest.failover?
    by_cases hclusters : p.clusters ≠ [] <;> simp [hclusters]
  have hset : (updateNamespaceRequest p).clusters?.getD info.clusters =
      if p.clusters ≠ [] then p.clusters else info.clusters := by
    unfold updateNamespaceRequest UpdateNamespaceRequest.clusters?
    by_cases hclusters : p.clusters ≠ [] <;> simp [hclusters]
  rw [serverUpdate, hkept] at h
  dsimp only at h
  split at h
  · cases h
  · rw [hset] at h
    exact (Except.ok.inj h).symm

theorem serverUpdate_failover_ok {ns : TemporalNamespace} {info : NamespaceInfo} (hneeds : NeedsFailover ns info)
    {r : Option NamespaceInfo}
    (h : serverUpdate (failoverNamespaceRequest (namespaceParams ns).name (namespaceParams ns).activeCluster)
      (some info) = .ok r) : r = some (activated ns info) := by
  rw [serverUpdate_failover _ hneeds.2.1 hneeds.2.2] at h
  split at h
  · rw [activated, if_pos hneeds]
    exact (Except.ok.inj h).symm
  · cases h

section
variable {ns : TemporalNamespace} {info : NamespaceInfo}

/-- A call whose answer is heard has been applied. -/
theorem triple_remoteCall_heard {outcome : Outcome RpcErr}
    {change : Option NamespaceInfo → Except RpcErr (Option NamespaceInfo)} {call : Except Err Unit → NamespaceCall}
    {remote remote' : Option NamespaceInfo} (hchange : ∀ r, change remote = .ok r → r = remote') :
    Triple (fun s => s.remote = remote) (remoteCall outcome change call : Proc NamespacePass Err Unit)
      (fun _ s => s.remote = remote') fun _ _ => True := by
  refine triple_remoteCall (fun s r hs hr => ?_) fun _ _ _ _ _ => trivial
  rw [hs] at hr
  exact hchange r (serve_eq_ok hr)

theorem triple_describe_at (env : NamespaceEnv) (n : Nat) (name : String) :
    Triple (At info) (describe env n name) (fun i s => i = info ∧ At info s) fun _ => At info := by
  refine triple_bind triple_get fun a => ?_
  rintro s ⟨rfl, hs⟩
  have hanswer : describeAnswer env n a.remote = .ok info ∨ ∃ e, describeAnswer env n a.remote = .error e := by
    unfold describeAnswer
    rw [hs]
    cases env.describe n with
    | none => exact .inl rfl
    | some e => exact .inr ⟨_, rfl⟩
  rcases hanswer with h | ⟨e, h⟩
  · rw [h]
    exact ⟨rfl, hs⟩
  · rw [h]
    exact hs

/-- What is known after a second look is what is there, or what was known before. -/
theorem triple_redescribe_at (env : NamespaceEnv) (n : Nat) (name : String) (known : NamespaceInfo) :
    Triple (At info) (redescribe env n name known) (fun i s => (i = info ∨ i = known) ∧ At info s) fun _ _ => True := by
  refine triple_attempt_bind (triple_describe_at env n name) (fun i => ?_) fun e => ?_
  · exact triple_pure fun _ hs => ⟨.inl hs.1, hs.2⟩
  · exact triple_pure fun _ hs => ⟨.inr rfl, hs⟩

theorem triple_ensureActive_at (env : NamespaceEnv) :
    Triple (At info) (ensureActive env ns info)
      (fun r s => (r.1 = activated ns info ∨ r.1 = info) ∧ At (activated ns info) s) fun _ _ => True := by
  unfold ensureActive
  dsimp only
  by_cases hneeds : NeedsFailover ns info
  · rw [if_pos ⟨hneeds.1, hneeds.2.1, hneeds.2.2⟩]
    refine triple_bind (triple_mapError (triple_remoteCall_heard fun r => serverUpdate_failover_ok hneeds)) fun _ => ?_
    exact triple_bind (triple_redescribe_at env 1 _ info) fun i => triple_pure fun s hs => hs
  · rw [if_neg fun h => hneeds ⟨h.1, h.2⟩]
    refine triple_pure fun s hs => ⟨.inr rfl, ?_⟩
    rw [activated, if_neg hneeds]
    exact hs

theorem triple_ensureUndrifted_at (env : NamespaceEnv) (hdrift : ns.spec.driftDetection ≠ .ignore)
    {known : NamespaceInfo} (hknown : namespaceDrifted (namespaceParams ns) known =
      namespaceDrifted (namespaceParams ns) info) :
    Triple (At info) (ensureUndrifted env ns known)
      (fun _ => At (if namespaceDrifted (namespaceParams ns) info then updated (namespaceParams ns) info else info))
      fun _ _ => True := by
  unfold ensureUndrifted
  dsimp only
  rw [hknown]
  by_cases hdrifted : namespaceDrifted (namespaceParams ns) info = true
  · rw [if_pos ⟨hdrift, hdrifted⟩, if_pos hdrifted]
    refine triple_bind (triple_mapError (triple_remoteCall_heard fun r => serverUpdate_update)) fun _ => ?_
    exact (triple_redescribe_at env 2 _ known).conseq (fun _ hs => hs) (fun _ _ hs => hs.2) fun _ _ hs => hs
  · rw [if_neg fun h => hdrifted h.2, if_neg hdrifted]
    exact triple_pure fun _ hs => hs

/-- **What a call makes of a namespace that is there**, if it ends well. -/
theorem triple_ensureRegistered_settled (env : NamespaceEnv) (hdrift : ns.spec.driftDetection ≠ .ignore) :
    Triple (At info) (ensureRegistered env ns) (fun _ => At (settled ns info)) fun _ _ => True := by
  refine triple_attempt_bind (triple_describe_at env 0 _) (fun i => ?_) fun e => ?_
  · rintro s ⟨rfl, hs⟩
    refine triple_bind (R := fun _ => At (settled ns i)) (triple_ensureActive_at env) ?_ s hs
    rintro ⟨known, failedOver⟩ s ⟨hknown, hs⟩
    have hsame : namespaceDrifted (namespaceParams ns) known =
        namespaceDrifted (namespaceParams ns) (activated ns i) := by
      rw [namespaceDrifted_activated]
      rcases hknown with rfl | rfl
      · exact namespaceDrifted_activated _ _ _
      · rfl
    have hundrifted := triple_ensureUndrifted_at env hdrift hsame
    rw [namespaceDrifted_activated] at hundrifted
    exact triple_bind (R := fun _ => At (settled ns i)) hundrifted (fun _ => triple_pure fun _ hs => hs) s hs
  · cases e with
    | notFound text =>
      -- a namespace that is there is not registered again
      have hregister : ∀ r, serverRegister (registerNamespaceRequest (namespaceParams ns)) (some info) = .ok r →
          r = some (settled ns info) := by
        intro r hr
        cases hr
      refine triple_bind (triple_mapError (triple_remoteCall_heard hregister)) fun _ => ?_
      refine triple_bind (Q := fun _ => At (settled ns info)) ?_ fun _ => triple_pure fun _ hs => hs
      exact (triple_describe_at env 1 _).conseq (fun _ hs => hs) (fun _ _ hs => hs.2) fun _ _ _ => trivial
    | rpc e => exact triple_throw fun _ _ => trivial
    | other e => exact triple_throw fun _ _ => trivial

def registeredInfo (p : NamespaceParams) : NamespaceInfo where
  description := p.description
  ownerEmail := p.ownerEmail
  retentionPeriod := p.retentionPeriod
  isGlobal := p.isGlobal
  activeCluster := p.activeCluster
  clusters := p.clusters

theorem triple_ensureRegistered_registered (env : NamespaceEnv) :
    Triple (fun s => s.remote = none) (ensureRegistered env ns) (fun _ => At (registeredInfo (namespaceParams ns)))
      fun _ _ => True := by
  have hdescribe : Triple (fun s => s.remote = none) (describe env 0 (namespaceParams ns).name) (fun _ _ => False)
      fun _ s => s.remote = none := by
    refine triple_bind triple_get fun a => ?_
    rintro s ⟨rfl, hs⟩
    obtain ⟨e, he⟩ : ∃ e, describeAnswer env 0 a.remote = .error e := by
      unfold describeAnswer
      rw [hs]
      cases env.describe 0 with
      | none => exact ⟨_, rfl⟩
      | some e => exact ⟨_, rfl⟩
    rw [he]
    exact hs
  refine triple_attempt_bind hdescribe (fun _ _ hs => hs.elim) fun e => ?_
  cases e with
  | notFound text =>
    have hregister : ∀ r, serverRegister (registerNamespaceRequest (namespaceParams ns)) none = .ok r →
        r = some (registeredInfo (namespaceParams ns)) := by
      intro r hr
      exact (Except.ok.inj hr).symm
    refine triple_bind (triple_mapError (triple_remoteCall_heard hregister)) fun _ => ?_
    refine triple_bind (Q := fun _ => At (registeredInfo (namespaceParams ns))) ?_ fun _ => triple_pure fun _ hs => hs
    exact (triple_describe_at env 1 _).conseq (fun _ hs => hs) (fun _ _ hs => hs.2) fun _ _ _ => trivial
  | rpc e => exact triple_throw fun _ _ => trivial
  | other e => exact triple_throw fun _ _ => trivial

end

/-! ## A namespace at rest -/

/-- Nothing is left to write. -/
def Rested (ns : TemporalNamespace) (info : NamespaceInfo) : Prop :=
  ¬ NeedsFailover ns info ∧ namespaceDrifted (namespaceParams ns) info = false

theorem namespaceDrifted_eq_false {p : NamespaceParams} {info : NamespaceInfo} :
    namespaceDrifted p info = false ↔
      (p.clusters = [] ∨ equalStringSets p.clusters info.clusters = true) ∧ p.description = info.description ∧
        p.ownerEmail = info.ownerEmail ∧ p.retentionPeriod = info.retentionPeriod := by
  unfold namespaceDrifted
  by_cases hclusters : p.clusters = [] <;> simp [hclusters, and_assoc]

/-- A failover leaves no other one to be done. -/
theorem not_needsFailover_activated (ns : TemporalNamespace) (info : NamespaceInfo) :
    ¬ NeedsFailover ns (activated ns info) := by
  unfold activated
  by_cases hneeds : NeedsFailover ns info
  · rw [if_pos hneeds]
    exact fun h => h.2.2 rfl
  · rw [if_neg hneeds]
    exact hneeds

theorem activated_texts (ns : TemporalNamespace) (info : NamespaceInfo) :
    (activated ns info).description = info.description ∧ (activated ns info).ownerEmail = info.ownerEmail := by
  unfold activated
  split <;> exact ⟨rfl, rfl⟩

/-- A text that is given is there afterwards; one that is not is there if it was. -/
theorem eq_given_iff (text kept : String) : text = given text kept ↔ (text = "" → kept = "") := by
  unfold given
  by_cases htext : text = ""
  · simp [htext, eq_comm]
  · simp [htext]

/-- The object clears no text that the namespace has. -/
def Settles (spec : TemporalNamespaceSpec) (remote : Option NamespaceInfo) : Prop :=
  ∀ info ∈ remote, (spec.description = "" → info.description = "") ∧ (spec.ownerEmail = "" → info.ownerEmail = "")

instance (spec : TemporalNamespaceSpec) (remote : Option NamespaceInfo) : Decidable (Settles spec remote) :=
  inferInstanceAs (Decidable (∀ info ∈ remote, _))

theorem rested_settled_iff (ns : TemporalNamespace) (info : NamespaceInfo) :
    Rested ns (settled ns info) ↔ Settles ns.spec (some info) := by
  obtain ⟨hdescription, hemail⟩ := activated_texts ns info
  have hsettles : Settles ns.spec (some info) ↔
      ((namespaceParams ns).description = "" → info.description = "") ∧
        ((namespaceParams ns).ownerEmail = "" → info.ownerEmail = "") := by
    simp [Settles, namespaceParams]
  rw [hsettles]
  unfold settled
  by_cases hdrifted : namespaceDrifted (namespaceParams ns) info = true
  · have hclusters : (namespaceParams ns).clusters = [] ∨ equalStringSets (namespaceParams ns).clusters
        (updated (namespaceParams ns) (activated ns info)).clusters = true := by
      by_cases hnone : (namespaceParams ns).clusters = []
      · exact .inl hnone
      · refine .inr ?_
        simp [updated, hnone, equalStringSets_self]
    have hactive : ¬ NeedsFailover ns (updated (namespaceParams ns) (activated ns info)) :=
      not_needsFailover_activated ns info
    rw [if_pos hdrifted, Rested, namespaceDrifted_eq_false, and_iff_right hactive, and_iff_right hclusters]
    simp only [updated, hdescription, hemail, eq_given_iff, and_true]
  · rw [Bool.not_eq_true] at hdrifted
    obtain ⟨-, hsame₁, hsame₂, -⟩ := namespaceDrifted_eq_false.mp hdrifted
    rw [hdrifted, if_neg (by decide), Rested, namespaceDrifted_activated]
    refine ⟨fun _ => ⟨fun h => hsame₁ ▸ h, fun h => hsame₂ ▸ h⟩, fun _ => ⟨not_needsFailover_activated ns info, hdrifted⟩⟩

theorem rested_registered (ns : TemporalNamespace) : Rested ns (registeredInfo (namespaceParams ns)) :=
  ⟨fun h => h.2.2 rfl, namespaceDrifted_eq_false.mpr ⟨.inr (equalStringSets_self _), rfl, rfl, rfl⟩⟩

/-! ## The next call -/

abbrev NamespaceEffect := Effect TemporalNamespaceSpec TemporalNamespaceStatus NamespaceCall

/-- The effect is a look at the server. -/
def IsLook (e : NamespaceEffect) : Prop := ∃ name answer, e = .call (.describe name answer)

def Looked (s : NamespacePass) : Prop := ∀ e ∈ s.events, IsLook e

def Wrote (s : NamespacePass) : Prop := ∃ request answer, Effect.call (.update request answer) ∈ s.events

def freshPass (ns : TemporalNamespace) (remote : Option NamespaceInfo) : NamespacePass :=
  { stored := some ns, obj := ns, remote }

/-- A call with this server issues no `Register`, no `Update` and no `Failover`. -/
def Quiet (env : NamespaceEnv) (ns : TemporalNamespace) (remote : Option NamespaceInfo) : Prop :=
  Looked ((ensureRegistered env ns).exec (freshPass ns remote)).2

/-- `Describe` does not deny a namespace that is there. -/
def Honest (env : NamespaceEnv) : Prop := ∀ n, ∀ e ∈ env.describe n, e.code ≠ .notFound

section
variable {ns : TemporalNamespace} {info : NamespaceInfo}

theorem triple_describe_looked {env : NamespaceEnv} (hhonest : Honest env) (n : Nat) (name : String) :
    Triple (fun s => At info s ∧ Looked s) (describe env n name) (fun i s => i = info ∧ At info s ∧ Looked s)
      fun e s => (∀ text, e ≠ .notFound text) ∧ Looked s := by
  refine triple_bind triple_get fun a => ?_
  rintro s ⟨rfl, hs, hlooked⟩
  have hafter (answer : Except Err NamespaceInfo) :
      Looked { a with events := .call (.describe name answer) :: a.events } := by
    intro e he
    rcases List.mem_cons.mp he with rfl | he
    · exact ⟨name, answer, rfl⟩
    · exact hlooked e he
  cases hdescribe : env.describe n with
  | none =>
    have hanswer : describeAnswer env n a.remote = .ok info := by
      unfold describeAnswer
      rw [hdescribe, hs]
    rw [hanswer]
    exact ⟨rfl, hs, hafter _⟩
  | some e =>
    have hanswer : describeAnswer env n a.remote = .error (.rpc e) := by
      unfold describeAnswer
      rw [hdescribe]
      exact congrArg Except.error (if_neg (hhonest n e hdescribe))
    rw [hanswer]
    exact ⟨nofun, hafter _⟩

/-- At rest only looks are issued. -/
theorem triple_ensureRegistered_looked {env : NamespaceEnv} (hhonest : Honest env) (hrested : Rested ns info) :
    Triple (fun s => At info s ∧ Looked s) (ensureRegistered env ns) (fun _ => Looked) fun _ => Looked := by
  refine triple_attempt_bind (triple_describe_looked hhonest 0 _) (fun i => ?_) fun e => ?_
  · rintro s ⟨rfl, hs, hlooked⟩
    have hactive : ensureActive env ns i = pure (i, false) := if_neg hrested.1
    have hundrifted : ensureUndrifted env ns i = pure i :=
      if_neg fun h => Bool.false_ne_true (hrested.2.symm.trans h.2)
    have hpass : Triple Looked (ensureActive env ns i) (fun r s => r = (i, false) ∧ Looked s) fun _ => Looked := by
      rw [hactive]
      exact triple_pure fun _ hs => ⟨rfl, hs⟩
    refine triple_bind (R := fun _ => Looked) hpass ?_ s hlooked
    rintro _ s ⟨rfl, hs⟩
    have hkeeps : Keeps Looked (ensureUndrifted env ns i) := by
      rw [hundrifted]
      exact keeps_pure i
    exact keeps_bind hkeeps (fun _ => keeps_pure _) s hs
  · cases e with
    | notFound text => exact fun s hs => absurd rfl (hs.1 text)
    | rpc e => exact triple_throw fun _ hs => hs.2
    | other e => exact triple_throw fun _ hs => hs.2

theorem keeps_wrote_describe (env : NamespaceEnv) (n : Nat) (name : String) : Keeps Wrote (describe env n name) := by
  refine triple_bind triple_get fun a => ?_
  rintro s ⟨rfl, request, answer, hs⟩
  have hafter (r : Except Err NamespaceInfo) : Wrote { a with events := .call (.describe name r) :: a.events } :=
    ⟨request, answer, List.mem_cons_of_mem _ hs⟩
  cases hr : describeAnswer env n a.remote <;> exact hafter _

theorem keeps_wrote_redescribe (env : NamespaceEnv) (n : Nat) (name : String) (known : NamespaceInfo) :
    Keeps Wrote (redescribe env n name known) :=
  triple_attempt_bind (keeps_wrote_describe env n name) (fun _ => keeps_pure _) fun _ => keeps_pure _

/-- A call that is issued is recorded, however it ends. -/
theorem triple_update_wrote (P : NamespacePass → Prop) (outcome : Outcome RpcErr)
    (change : Option NamespaceInfo → Except RpcErr (Option NamespaceInfo)) (request : UpdateNamespaceRequest) :
    Triple P (remoteCall outcome change (.update request) : Proc NamespacePass Err Unit) (fun _ => Wrote)
      fun _ => Wrote :=
  triple_remoteCall (fun _ _ _ _ => ⟨request, _, List.mem_cons_self⟩) fun _ _ _ _ _ => ⟨request, _, List.mem_cons_self⟩

theorem keeps_wrote_ensureUndrifted (env : NamespaceEnv) (known : NamespaceInfo) :
    Keeps Wrote (ensureUndrifted env ns known) := by
  unfold ensureUndrifted
  dsimp only
  split
  · exact triple_bind (triple_mapError (triple_update_wrote _ _ _ _)) fun _ => keeps_wrote_redescribe env 2 _ known
  · exact keeps_pure _

/-- Away from rest something is written. -/
theorem triple_ensureRegistered_wrote (hdrift : ns.spec.driftDetection ≠ .ignore) (hrested : ¬ Rested ns info) :
    Triple (At info) (ensureRegistered {} ns) (fun _ => Wrote) fun _ => Wrote := by
  refine triple_attempt_bind (triple_describe 0 _) (fun i => ?_) fun _ _ hs => hs.elim
  rintro s ⟨rfl, hs⟩
  by_cases hneeds : NeedsFailover ns i
  · have hactive : Triple (At i) (ensureActive {} ns i) (fun _ => Wrote) fun _ => Wrote := by
      unfold ensureActive
      dsimp only
      rw [if_pos ⟨hneeds.1, hneeds.2.1, hneeds.2.2⟩]
      refine triple_bind (triple_mapError (triple_update_wrote _ _ _ _)) fun _ => ?_
      exact keeps_bind (keeps_wrote_redescribe {} 1 _ i) fun _ => keeps_pure _
    refine triple_bind (R := fun _ => Wrote) hactive (fun r => ?_) s hs
    exact keeps_bind (keeps_wrote_ensureUndrifted {} r.1) fun _ => keeps_pure _
  · have hdrifted : namespaceDrifted (namespaceParams ns) i = true := by
      by_contra hnot
      exact hrested ⟨hneeds, by simpa using hnot⟩
    have hactive : Triple (At i) (ensureActive {} ns i) (fun r _ => r.1 = i) fun _ => Wrote := by
      have heq : ensureActive {} ns i = pure (i, false) := if_neg hneeds
      rw [heq]
      exact triple_pure fun _ _ => rfl
    refine triple_bind (R := fun _ => Wrote) hactive ?_ s hs
    rintro ⟨known, failedOver⟩ s rfl
    have hundrifted : Triple (fun _ => True) (ensureUndrifted {} ns known) (fun _ => Wrote) fun _ => Wrote := by
      unfold ensureUndrifted
      dsimp only
      rw [if_pos ⟨hdrift, hdrifted⟩]
      exact triple_bind (triple_mapError (triple_update_wrote _ _ _ _)) fun _ => keeps_wrote_redescribe {} 2 _ known
    exact triple_bind (R := fun _ => Wrote) hundrifted (fun _ => keeps_pure _) s trivial

/-- The calls to come are quiet, however their answers, exactly when the namespace is at rest. -/
theorem quiet_iff_rested (hdrift : ns.spec.driftDetection ≠ .ignore) :
    (∀ env, Honest env → Quiet env ns (some info)) ↔ Rested ns info := by
  constructor
  · intro hquiet
    by_contra hrested
    obtain ⟨request, answer, hmem⟩ :=
      (triple_ensureRegistered_wrote hdrift hrested).exec (s := freshPass ns (some info)) rfl
    obtain ⟨name, answer', heq⟩ := hquiet {} nofun _ hmem
    cases heq
  · intro hrested env hhonest
    have hstart : At info (freshPass ns (some info)) ∧ Looked (freshPass ns (some info)) :=
      ⟨rfl, fun e he => absurd he List.not_mem_nil⟩
    exact (triple_ensureRegistered_looked hhonest hrested).exec hstart

/-- **Namespaces come to rest.** After a call that returns no error the next call, however it is answered, issues no
`Register`, `Update` or `Failover` exactly when the object clears no text of the namespace. -/
theorem namespace_quiesces_iff (hdrift : ns.spec.driftDetection ≠ .ignore) {env : NamespaceEnv}
    {remote : Option NamespaceInfo} {r : NamespaceInfo × Bool} {s : NamespacePass}
    (hfirst : (ensureRegistered env ns).exec (freshPass ns remote) = (.ok r, s)) :
    (∀ env', Honest env' → Quiet env' ns s.remote) ↔ Settles ns.spec remote := by
  cases remote with
  | none =>
    have htriple : Triple (fun s => s.remote = none) (ensureRegistered env ns) _ _ :=
      triple_ensureRegistered_registered env
    have hafter := htriple (freshPass ns none) rfl
    rw [hfirst] at hafter
    rw [show s.remote = some _ from hafter, quiet_iff_rested hdrift]
    exact ⟨fun _ => nofun, fun _ => rested_registered ns⟩
  | some info =>
    have htriple : Triple (At info) (ensureRegistered env ns) _ _ := triple_ensureRegistered_settled env hdrift
    have hafter := htriple (freshPass ns (some info)) rfl
    rw [hfirst] at hafter
    rw [show s.remote = some _ from hafter, quiet_iff_rested hdrift, rested_settled_iff]

end

def described (description : String) : TemporalNamespace where
  name := "orders"
  spec := { clusterRef := { name := "prod" }, description, ownerEmail := "team@example.test" }
  status := {}

def olderInfo (description : String) : NamespaceInfo where
  description := description
  ownerEmail := "nobody@example.test"

theorem namespace_quiesces_described :
    let s := ((ensureRegistered {} (described "orders")).exec (freshPass (described "orders") (some (olderInfo "old")))).2
    s.remote ≠ some (olderInfo "old") ∧ ∀ env, Honest env → Quiet env (described "orders") s.remote := by
  intro s
  have hdrift : (described "orders").spec.driftDetection ≠ .ignore := by decide
  obtain ⟨r, hfirst⟩ : ∃ r, (ensureRegistered {} (described "orders")).exec
      (freshPass (described "orders") (some (olderInfo "old"))) = (.ok r, s) := ⟨_, rfl⟩
  have hsettles : Settles (described "orders").spec (some (olderInfo "old")) := by decide
  exact ⟨by decide, (namespace_quiesces_iff hdrift hfirst).mpr hsettles⟩

/-- The description is cleared: the update is accepted, changes nothing of it, and is issued again. -/
theorem cleared_description_never_rests :
    let first := (ensureRegistered {} (described "")).exec (freshPass (described "") (some (olderInfo "old")))
    let next := (ensureRegistered {} (described "")).exec (freshPass (described "") first.2.remote)
    first.1.isOk = true ∧ next.1.isOk = true ∧ next.2.remote = first.2.remote ∧
      Effect.call (.update (updateNamespaceRequest (namespaceParams (described ""))) (.ok ())) ∈ next.2.events ∧
      ¬ Quiet {} (described "") first.2.remote := by
  intro first next
  have hwrote : Effect.call (.update (updateNamespaceRequest (namespaceParams (described ""))) (.ok ())) ∈
      next.2.events := by decide
  refine ⟨by decide, by decide, by decide, hwrote, fun hquiet => ?_⟩
  obtain ⟨name, answer, heq⟩ := hquiet _ hwrote
  cases heq

end TemporalOperator.Satellite.Namespace
