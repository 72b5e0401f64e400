import TemporalOperator.Lib.Runs
import TemporalOperator.Satellite.Peers

/-!
# Peers that are taken out

The controller keeps no record of what it has registered: it registers the peers of the current spec, and on deletion
removes those. A peer that an edit takes out of the spec stays in the registries.

* `triple_reconcileDelete` : what a deletion removes; `Tracked` : what a pass may register;
* `connectionSystem` : edits and passes; `KeepsPeers` : no edit takes a peer out;
* `registered_peers_are_declared` : with it, registries have no other peers, and none after the deletion;
  `dropped_peer_stays`.
-/

namespace TemporalOperator.Satellite.Connection
open Lib Proc

def names (spec : TemporalClusterConnectionSpec) : List String := spec.peers.map (·.name)

variable {clusterAt : String → String} {env : ConnectionEnv} {peers : List ResolvedPeer} {registries : Registries}

/-! ## What a pass registers -/

/-- Entries of `after` are entries of `before`, or of one of `names`. -/
def Grown (names : List String) (before after : Registries) : Prop :=
  ∀ cluster n info, (after cluster).lookup n = some info → (before cluster).lookup n = some info ∨ n ∈ names

theorem Grown.refl (names : List String) (registries : Registries) : Grown names registries registries :=
  fun _ _ _ h => .inl h

theorem grown_reconciled (peers : List ResolvedPeer) (registries : Registries) :
    Grown (peers.map (·.name)) registries (reconciled peers registries) := by
  intro cluster n info hlookup
  by_cases hn : n ∈ peers.map (·.name)
  · exact .inr hn
  · unfold reconciled at hlookup
    split at hlookup
    · rw [lookup_converge_of_notMem hn] at hlookup
      exact .inl hlookup
    · exact .inl hlookup

abbrev ConnectionEffect := Effect TemporalClusterConnectionSpec TemporalClusterConnectionStatus ConnectionCall

/-- An upsert is of one of `peers`, on another one. -/
def Proper (peers : List ResolvedPeer) : ConnectionCall → Prop
  | .upsert peer address _ _ => ∃ other ∈ peers, other.address = address ∧ address ≠ "" ∧ other.name ≠ peer
  | _ => True

/-- In a pass over an object with `spec`: what has been called, and what the objects are. -/
structure Tracked (peers : List ResolvedPeer) (spec : TemporalClusterConnectionSpec) (s : ConnectionPass) : Prop where
  calls : ∀ c, Effect.call c ∈ s.events → Proper peers c
  stored : ∀ o ∈ s.stored, o.spec = spec
  obj : s.obj.spec = spec

theorem Tracked.call {spec : TemporalClusterConnectionSpec} {s : ConnectionPass} (h : Tracked peers spec s)
    {c : ConnectionCall} (hc : Proper peers c) (remote : Registries) :
    Tracked peers spec { s with remote := remote, events := .call c :: s.events } := by
  refine ⟨fun c' hmem => ?_, h.stored, h.obj⟩
  rcases List.mem_cons.mp hmem with heq | hmem
  · cases heq
    exact hc
  · exact h.calls c' hmem

variable {spec : TemporalClusterConnectionSpec}

/-- The peers dialed are kept under their names. -/
def NamedLocals (locals : Locals) : Prop := ∀ n l, locals.lookup n = some l → l.peer.name = n

theorem NamedLocals.insert {locals : Locals} (h : NamedLocals locals) {n : String} {l : LocalPeerState}
    (hl : l.peer.name = n) : NamedLocals (locals.insert n l) := by
  intro m l' hl'
  by_cases hm : m = n
  · subst hm
    rw [AList.lookup_insert] at hl'
    obtain rfl := Option.some.inj hl'
    exact hl
  · rw [AList.lookup_insert_ne hm] at hl'
    exact h m l' hl'

theorem keeps_issue {α : Type} {call : Except Err α → ConnectionCall} {answer : Except Err α}
    (hcall : Proper peers (call answer)) :
    Keeps (Tracked peers spec) (issue call answer : Proc ConnectionPass Err α) :=
  triple_bind (Q := fun _ => Tracked peers spec) (triple_modify fun s hs => hs.call hcall s.remote)
    fun _ => triple_ofExcept

theorem tracked_dialLocals :
    Triple (Tracked peers spec) (dialLocals clusterAt env peers)
      (fun locals s => NamedLocals locals ∧ Tracked peers spec s) fun _ => Tracked peers spec := by
  have hdial : ∀ p, Keeps (Tracked peers spec) (dial env p) := fun p => keeps_issue trivial
  have hlist : ∀ p, Keeps (Tracked peers spec) (listRemoteClusters clusterAt env p) := fun p =>
    triple_bind triple_get fun a => Triple.pre (P := Tracked peers spec) (keeps_issue trivial) fun _ hs => hs.2
  have hstep : ∀ (p : ResolvedPeer) {locals : Locals}, NamedLocals locals →
      Triple (Tracked peers spec) (dialLocal clusterAt env locals p)
        (fun locals' s => NamedLocals locals' ∧ Tracked peers spec s) fun _ => Tracked peers spec := by
    intro p locals hlocals
    unfold dialLocal
    split
    · exact triple_pure fun _ hs => ⟨hlocals, hs⟩
    · refine triple_attempt_bind (hdial p) (fun _ => ?_) fun _ => triple_pure fun _ hs => ⟨hlocals, hs⟩
      exact triple_attempt_bind (hlist p) (fun _ => triple_pure fun _ hs => ⟨hlocals.insert rfl, hs⟩)
        fun _ => triple_pure fun _ hs => ⟨hlocals, hs⟩
  have hloop := triple_foldlM (f := dialLocal clusterAt env) (E := fun _ => Tracked peers spec)
    (I := fun _ locals s => NamedLocals locals ∧ Tracked peers spec s)
    (fun p _ _ s hs => hstep p hs.1 s hs.2) peers ∅
  refine hloop.pre fun s hs => ⟨fun n l hl => ?_, hs⟩
  rw [AList.lookup_empty] at hl
  cases hl

theorem tracked_upsertRemote {name : String} {l : LocalPeerState} (hl : l.peer.name = name) {other : ResolvedPeer}
    (hother : other ∈ peers) :
    Triple (Tracked peers spec) (upsertRemote clusterAt env name l other)
      (fun l' s => l'.peer.name = name ∧ Tracked peers spec s) fun _ => Tracked peers spec := by
  unfold upsertRemote
  split
  · exact triple_pure fun _ hs => ⟨hl, hs⟩
  · rename_i hneeded
    obtain ⟨hname, haddress⟩ := not_or.mp hneeded
    have hproper : ∀ answer, Proper peers (.upsert l.peer.name other.address other.enable answer) :=
      fun _ => ⟨other, hother, rfl, haddress, hl ▸ hname⟩
    have hupsert : Keeps (Tracked peers spec) (upsertRemoteCluster clusterAt env l.peer other) :=
      triple_remoteCall (fun s r hs _ => hs.call (hproper _) r) fun s e r hs _ => hs.call (hproper _) r
    split
    · exact triple_pure fun _ hs => ⟨hl, hs⟩
    · exact triple_attempt_bind hupsert (fun _ => triple_pure fun _ hs => ⟨hl, hs⟩)
        fun _ => triple_pure fun _ hs => ⟨hl, hs⟩

theorem tracked_upsertRemotes {locals : Locals} (hlocals : NamedLocals locals) :
    Keeps (Tracked peers spec) (upsertRemotes clusterAt env peers locals) := by
  have hpeers : ∀ {name : String} {l : LocalPeerState}, l.peer.name = name →
      Triple (Tracked peers spec) (peers.foldlM (upsertRemote clusterAt env name) l)
        (fun l' s => l'.peer.name = name ∧ Tracked peers spec s) fun _ => Tracked peers spec := by
    intro name l hl
    have hloop := triple_foldlM (f := upsertRemote clusterAt env name) (E := fun _ => Tracked peers spec)
      (I := fun rest l' s => (∀ p ∈ rest, p ∈ peers) ∧ l'.peer.name = name ∧ Tracked peers spec s)
      (fun q qs l' => ?_) peers l
    · exact hloop.conseq (fun _ hs => ⟨fun _ hp => hp, hl, hs⟩) (fun _ _ hs => hs.2) fun _ _ hs => hs
    · rintro s ⟨hsubset, hl', hs⟩
      exact (tracked_upsertRemote hl' (hsubset q List.mem_cons_self)).conseq (fun _ hs => hs)
        (fun _ _ hs => ⟨fun p hp => hsubset p (List.mem_cons_of_mem _ hp), hs⟩) (fun _ _ hs => hs) s hs
  have hloop := triple_foldlM (f := upsertOn clusterAt env peers) (E := fun _ => Tracked peers spec)
    (I := fun _ locals' s => NamedLocals locals' ∧ Tracked peers spec s) (fun n rest locals' => ?_)
    (env.order locals.keys) locals
  · exact hloop.conseq (fun _ hs => ⟨hlocals, hs⟩) (fun _ _ hs => hs.2) fun _ _ hs => hs
  · rintro s ⟨hlocals', hs⟩
    unfold upsertOn
    cases hl : locals'.lookup n with
    | none => exact ⟨hlocals', hs⟩
    | some l =>
      exact triple_bind (hpeers (hlocals' n l hl)) (fun l' => triple_pure fun _ hs => ⟨hlocals'.insert hs.1, hs.2⟩) s hs

/-! ## What a deletion removes -/

/-- Every entry of `after` is one of `before`. -/
def Shrunk (before after : Registries) : Prop :=
  ∀ cluster n info, (after cluster).lookup n = some info → (before cluster).lookup n = some info

theorem Shrunk.refl (registries : Registries) : Shrunk registries registries := fun _ _ _ h => h

theorem Shrunk.trans {a b c : Registries} (hab : Shrunk a b) (hbc : Shrunk b c) : Shrunk a c :=
  fun cluster n info h => hab cluster n info (hbc cluster n info h)

theorem Shrunk.lookup_none {a b : Registries} (h : Shrunk a b) {cluster n : String}
    (hnone : (a cluster).lookup n = none) : (b cluster).lookup n = none := by
  rw [Option.eq_none_iff_forall_ne_some] at hnone ⊢
  exact fun info hinfo => hnone info (h cluster n info hinfo)

theorem shrunk_erase (registries : Registries) (cluster name : String) :
    Shrunk registries (Function.update registries cluster ((registries cluster).erase name)) := by
  intro c n info hlookup
  by_cases hc : c = cluster
  · subst hc
    rw [Function.update_self] at hlookup
    by_cases hn : n = name
    · subst hn
      rw [AList.lookup_erase] at hlookup
      cases hlookup
    · rwa [AList.lookup_erase_ne hn] at hlookup
  · rwa [Function.update_of_ne hc] at hlookup

structure AllSmooth (env : ConnectionEnv) : Prop extends Smooth env where
  remove : ∀ peer other, env.remove peer other = .done

/-- The entry is gone after a removal, whether or not it was there. -/
theorem serve_serverRemove {cluster name : String} {answer : Except RpcErr Unit} {after : Registries}
    (h : serve .done (serverRemove cluster name) registries = (answer, after)) :
    Shrunk registries after ∧ (after cluster).lookup name = none := by
  by_cases hsome : ((registries cluster).lookup name).isSome = true
  · have hremove : serverRemove cluster name registries =
        .ok (Function.update registries cluster ((registries cluster).erase name)) := if_pos hsome
    rw [serve, hremove] at h
    obtain ⟨-, rfl⟩ := Prod.mk.inj h
    refine ⟨shrunk_erase registries cluster name, ?_⟩
    rw [Function.update_self, AList.lookup_erase]
  · have hremove : serverRemove cluster name registries = .error ⟨.notFound, "remote cluster not found"⟩ := if_neg hsome
    rw [serve, hremove] at h
    obtain ⟨-, rfl⟩ := Prod.mk.inj h
    exact ⟨Shrunk.refl _, Option.not_isSome_iff_eq_none.mp hsome⟩

theorem triple_removeRemote (hsmooth : AllSmooth env) {name : String} {l other : ResolvedPeer}
    (hl : clusterAt l.address = name) :
    Triple (fun s => s.remote = registries) (removeRemote clusterAt env name l other)
      (fun _ s => Shrunk registries s.remote ∧ (other.name ≠ name → (s.remote name).lookup other.name = none))
      fun _ _ => False := by
  unfold removeRemote
  split
  · rename_i hname
    exact triple_pure fun s hs => ⟨hs ▸ Shrunk.refl _, fun hne => absurd hname hne⟩
  · rw [hsmooth.remove, hl]
    have hcall : Triple (fun s => s.remote = registries)
        (remoteCall .done (serverRemove name other.name) (.remove l.name other.name) : Proc ConnectionPass Err Unit)
        (fun _ s => Shrunk registries s.remote ∧ (s.remote name).lookup other.name = none)
        fun _ s => Shrunk registries s.remote ∧ (s.remote name).lookup other.name = none :=
      triple_remoteCall (fun s r hs hr => serve_serverRemove (hs ▸ hr)) fun s e r hs hr => serve_serverRemove (hs ▸ hr)
    exact triple_attempt_bind hcall (fun _ => triple_pure fun _ hs => ⟨hs.1, fun _ => hs.2⟩)
      fun _ => triple_pure fun _ hs => ⟨hs.1, fun _ => hs.2⟩

/-- No other peer is in the registry of `cluster`. -/
def Cleared (peers : List ResolvedPeer) (registries : Registries) (cluster : String) : Prop :=
  ∀ p ∈ peers, p.name ≠ cluster → (registries cluster).lookup p.name = none

theorem Cleared.shrunk {a b : Registries} {cluster : String} (h : Cleared peers a cluster) (hshrunk : Shrunk a b) :
    Cleared peers b cluster := fun p hp hname => hshrunk.lookup_none (h p hp hname)

theorem triple_removeOn (hsmooth : AllSmooth env) {name : String} {l : ResolvedPeer} (hl : clusterAt l.address = name) :
    Triple (fun s => s.remote = registries) (peers.forM (removeRemote clusterAt env name l))
      (fun _ s => Shrunk registries s.remote ∧ Cleared peers s.remote name) fun _ _ => False := by
  have hloop := triple_forM (f := removeRemote clusterAt env name l) (E := fun _ _ => False)
    (I := fun rest s => Shrunk registries s.remote ∧
      ∀ p ∈ peers, p.name ≠ name → p ∈ rest ∨ (s.remote name).lookup p.name = none) (fun q qs => ?_) peers
  · refine hloop.conseq (fun s hs => ⟨hs ▸ Shrunk.refl _, fun p hp _ => .inl hp⟩) (fun _ s hs => ⟨hs.1, ?_⟩)
      fun _ _ hs => hs
    exact fun p hp hname => (hs.2 p hp hname).resolve_left List.not_mem_nil
  · rintro s ⟨hshrunk, hdone⟩
    refine (triple_removeRemote hsmooth hl).conseq (fun _ hs => hs) (fun _ s' hs' => ?_) (fun _ _ hs => hs) s rfl
    refine ⟨hshrunk.trans hs'.1, fun p hp hname => ?_⟩
    rcases hdone p hp hname with hmem | hnone
    · rcases List.mem_cons.mp hmem with rfl | hmem
      · exact .inr (hs'.2 hname)
      · exact .inl hmem
    · exact .inr (hs'.1.lookup_none hnone)

/-- A deletion in which every call succeeds takes every peer out of the registry of every other one that is dialed. -/
theorem triple_removeAll (hsmooth : AllSmooth env) (hnamed : WellNamed clusterAt peers) {locals : Locals}
    (hdialed : DialedFrom peers registries [] locals) :
    Triple (fun s => s.remote = registries) ((env.order locals.keys).forM (removeOn clusterAt env peers locals))
      (fun _ s => Shrunk registries s.remote ∧ ∀ l ∈ peers, Dialed l → Cleared peers s.remote l.name)
      fun _ _ => False := by
  have hloop := triple_forM (f := removeOn clusterAt env peers locals) (E := fun _ _ => False)
    (I := fun rest s => Shrunk registries s.remote ∧
      ∀ l ∈ peers, Dialed l → l.name ∈ rest ∨ Cleared peers s.remote l.name) (fun n rest => ?_) (env.order locals.keys)
  · refine hloop.conseq (fun s hs => ⟨hs ▸ Shrunk.refl _, fun l hl hd => .inl ?_⟩) (fun _ s hs => ⟨hs.1, ?_⟩)
      fun _ _ hs => hs
    · exact (env.order_perm locals.keys).mem_iff.mpr ((hdialed.mem_iff l.name).mpr ⟨l, hl, hd, rfl⟩)
    · exact fun l hl hd => (hs.2 l hl hd).resolve_left List.not_mem_nil
  · rintro s ⟨hshrunk, hdone⟩
    unfold removeOn
    cases hl : locals.lookup n with
    | none =>
      -- every name in the order is that of a dialed peer
      refine ⟨hshrunk, fun p hp hd => ?_⟩
      refine (hdone p hp hd).imp_left fun hmem => (List.mem_cons.mp hmem).resolve_left fun heq => ?_
      have hmem : n ∈ locals := (hdialed.mem_iff n).mpr ⟨p, hp, hd, heq⟩
      rw [AList.lookup_eq_none] at hl
      exact hl hmem
    | some l =>
      obtain ⟨hpeer, hd, hname, -⟩ := hdialed.sound n l hl
      have hat : clusterAt l.peer.address = n := (hnamed.lives l.peer hpeer hd.2.2).trans hname
      refine (triple_removeOn hsmooth hat).conseq (fun _ hs => hs) (fun _ s' hs' => ?_) (fun _ _ hs => hs) s rfl
      refine ⟨hshrunk.trans hs'.1, fun p hp hd => ?_⟩
      rcases hdone p hp hd with hmem | hcleared
      · rcases List.mem_cons.mp hmem with heq | hmem
        · exact .inr (heq ▸ hs'.2)
        · exact .inl hmem
      · exact .inr (hcleared.shrunk hs'.1)

/-! ## A pass -/

theorem tracked_removeAll (locals : Locals) (order : List String) :
    Keeps (Tracked peers spec) (order.forM (removeOn clusterAt env peers locals)) := by
  refine triple_forM (I := fun _ => Tracked peers spec) (fun n _ => ?_) order
  unfold removeOn
  split
  · exact triple_pure fun _ hs => hs
  · refine triple_forM (I := fun _ => Tracked peers spec) (fun q _ => ?_) peers
    unfold removeRemote
    split
    · exact triple_pure fun _ hs => hs
    · have hproper : ∀ (l other : String) answer, Proper peers (.remove l other answer) := fun _ _ _ => trivial
      refine triple_attempt_bind (triple_remoteCall (P := Tracked peers spec) (Q := Tracked peers spec)
        (E := fun _ => Tracked peers spec) (fun s r hs _ => ?_) fun s e r hs _ => ?_)
        (fun _ => triple_pure fun _ hs => hs) fun _ => triple_pure fun _ hs => hs
      · exact hs.call (hproper _ _ _) r
      · exact hs.call (hproper _ _ _) r

/-- No user acts while the pass is at work. -/
def Undisturbed (env : ConnectionEnv) : Prop := env.beforeUpdate = [] ∧ env.beforeStatus = []

theorem tracked_write {outcome : Outcome GoErr}
    {new : TemporalClusterConnection → TemporalClusterConnection → TemporalClusterConnection}
    {event : TemporalClusterConnection → ConnectionEffect}
    (hnew : ∀ obj cur, obj.spec = spec → cur.spec = spec → (new obj cur).spec = spec)
    (hevent : ∀ o c, event o ≠ .call c) :
    Keeps (Tracked peers spec) (write kind [] outcome new event) := by
  have hwritten : ∀ (s : ConnectionPass) (cur : TemporalClusterConnection), Tracked peers spec s → cur ∈ s.stored →
      Tracked peers spec { s with stored := (new s.obj cur).orGone, events := event (new s.obj cur) :: s.events } ∧
        (new s.obj cur).spec = spec := by
    intro s cur hs hcur
    have hspec := hnew s.obj cur hs.obj (hs.stored cur hcur)
    refine ⟨⟨fun c hmem => ?_, fun o ho => ?_, hs.obj⟩, hspec⟩
    · rcases List.mem_cons.mp hmem with heq | hmem
      · exact absurd heq.symm (hevent _ c)
      · exact hs.calls c hmem
    · rw [Object.orGone_eq_some ho]
      exact hspec
  refine triple_write (fun s e hs => hs) (fun s cur e hs hcur _ => (hwritten s cur hs hcur).1) fun s cur hs hcur _ => ?_
  obtain ⟨htracked, hspec⟩ := hwritten s cur hs hcur
  exact ⟨htracked.calls, htracked.stored, hspec⟩

theorem tracked_updateObject (hquiet : Undisturbed env) :
    Keeps (Tracked peers spec) (updateObject kind env.toKubeEnv : Proc ConnectionPass Err Unit) := by
  unfold updateObject
  rw [hquiet.1]
  exact tracked_write (fun obj cur hobj _ => hobj) fun o c h => by cases h

theorem tracked_statusUpdate (hquiet : Undisturbed env) :
    Keeps (Tracked peers spec) (statusUpdate kind env.toKubeEnv : Proc ConnectionPass Err Unit) := by
  refine keeps_ignoreNotFound ?_
  unfold updateStatusObject
  rw [hquiet.2]
  exact tracked_write (fun obj cur _ hcur => hcur) fun o c h => by cases h

theorem tracked_reconcilePresent (hquiet : Undisturbed env) :
    Keeps (Tracked peers spec) (reconcilePresent clusterAt env peers) := by
  refine triple_bind (keeps_ensureFinalizer (fun s _ hs => ⟨hs.calls, hs.stored, hs.obj⟩) (tracked_updateObject hquiet))
    fun _ => ?_
  have hpeers : Keeps (Tracked peers spec) (reconcilePeers clusterAt env peers) := by
    refine triple_bind tracked_dialLocals fun locals => ?_
    rintro s ⟨hlocals, hs⟩
    exact keeps_bind (tracked_upsertRemotes hlocals) (fun _ => keeps_pure _) s hs
  refine triple_bind hpeers fun v => ?_
  refine triple_bind (Q := fun _ => Tracked peers spec) (triple_modify fun s hs => ⟨hs.calls, hs.stored, hs.obj⟩)
    fun _ => ?_
  exact triple_bind (tracked_statusUpdate hquiet) fun _ => triple_pure fun _ hs => hs

theorem tracked_reconcileDelete (hquiet : Undisturbed env) :
    Keeps (Tracked peers spec) (reconcileDelete clusterAt env peers) := by
  refine triple_bind triple_get fun a => ?_
  split
  · refine triple_bind (tracked_dialLocals.pre fun _ hs => hs.2) fun locals => ?_
    refine triple_bind ((tracked_removeAll locals _).pre fun _ hs => hs.2) fun _ => ?_
    exact keeps_dropFinalizer (fun s _ hs => ⟨hs.calls, hs.stored, hs.obj⟩) (tracked_updateObject hquiet)
  · exact triple_pure fun _ hs => hs.2

/-- What a pass calls, and what it leaves of the spec. -/
theorem tracked_reconcileObject (hquiet : Undisturbed env) (o : TemporalClusterConnection) :
    Triple (fun s => s.obj = o ∧ Tracked (resolvePeers env o.spec) o.spec s) (reconcileObject clusterAt env)
      (fun _ => Tracked (resolvePeers env o.spec) o.spec) fun _ => Tracked (resolvePeers env o.spec) o.spec := by
  refine triple_bind triple_get fun a => ?_
  rintro s ⟨rfl, rfl, hs⟩
  dsimp only
  by_cases hdeleting : a.obj.deleting = true
  · rw [if_pos hdeleting]
    exact keeps_bind (tracked_reconcileDelete hquiet) (fun _ => keeps_pure _) a hs
  · rw [if_neg hdeleting]
    exact tracked_reconcilePresent hquiet a hs

/-- What a pass does to the registries, when its calls succeed. -/
structure RegistriesEnd (o : TemporalClusterConnection) (peers : List ResolvedPeer) (before after : Registries) :
    Prop where
  grown : Grown (peers.map (·.name)) before after
  cleared : o.deleting = true → clusterConnectionFinalizer ∈ o.finalizers → ∀ l ∈ peers, Dialed l →
    Cleared peers after l.name

theorem Shrunk.grown {before after : Registries} (h : Shrunk before after) (names : List String) :
    Grown names before after :=
  fun cluster n info hinfo => .inl (h cluster n info hinfo)

theorem keeps_remote_updateObject :
    Keeps (fun s => s.remote = registries) (updateObject kind env.toKubeEnv : Proc ConnectionPass Err Unit) :=
  triple_write (fun _ _ hs => hs) (fun _ _ _ hs _ _ => hs) fun _ _ hs _ _ => hs

theorem registries_reconcilePresent (hsmooth : AllSmooth env) (hnamed : WellNamed clusterAt peers) :
    Triple (fun s => s.remote = registries) (reconcilePresent clusterAt env peers)
      (fun _ s => Grown (peers.map (·.name)) registries s.remote)
      fun _ s => Grown (peers.map (·.name)) registries s.remote := by
  have hstart : Keeps (fun s => s.remote = registries)
      (ensureFinalizer kind env.toKubeEnv : Proc ConnectionPass Err Unit) :=
    keeps_ensureFinalizer (fun _ _ hs => hs) keeps_remote_updateObject
  have hend : Keeps (fun s => s.remote = reconciled peers registries)
      (statusUpdate kind env.toKubeEnv : Proc ConnectionPass Err Unit) :=
    keeps_ignoreNotFound (triple_write (fun _ _ hs => hs) (fun _ _ _ hs _ _ => hs) fun _ _ hs _ _ => hs)
  have hgrown : ∀ s : ConnectionPass, s.remote = reconciled peers registries →
      Grown (peers.map (·.name)) registries s.remote := fun s hs => hs ▸ grown_reconciled peers registries
  refine triple_bind (hstart.conseq (fun _ hs => hs) (fun _ _ hs => hs) fun _ _ hs => hs ▸ Grown.refl _ _) fun _ => ?_
  refine triple_bind ((triple_reconcilePeers hsmooth.toSmooth hnamed).conseq (fun _ hs => hs) (fun _ _ hs => hs)
    fun _ _ hs => hs.elim) fun v => ?_
  refine triple_bind (Q := fun _ s => s.remote = reconciled peers registries) (triple_modify fun _ hs => hs) fun _ => ?_
  exact triple_bind (hend.conseq (fun _ hs => hs) (fun _ _ hs => hs) fun _ s hs => hgrown s hs)
    fun _ => triple_pure fun s hs => hgrown s hs

theorem registries_reconcileDelete (hsmooth : AllSmooth env) (hnamed : WellNamed clusterAt peers)
    {o : TemporalClusterConnection} :
    Triple (fun s => s.obj = o ∧ s.remote = registries) (reconcileDelete clusterAt env peers)
      (fun _ s => RegistriesEnd o peers registries s.remote) fun _ s => RegistriesEnd o peers registries s.remote := by
  refine triple_bind triple_get fun a => ?_
  rintro s ⟨rfl, rfl, hs⟩
  by_cases hfinalizer : clusterConnectionFinalizer ∈ a.obj.finalizers
  · rw [if_pos hfinalizer]
    refine triple_bind (P := fun s => s.remote = registries) ((triple_dialLocals hsmooth.toSmooth hnamed).conseq
      (fun _ hs => hs) (fun _ _ hs => hs) fun _ _ hs => hs.elim) (fun locals => ?_) a hs
    rintro s ⟨hdialed, hs⟩
    refine triple_bind (P := fun s => s.remote = registries) ((triple_removeAll hsmooth hnamed hdialed).conseq
      (fun _ hs => hs) (fun _ _ hs => hs) fun _ _ hs => hs.elim) (fun _ => ?_) s hs
    have hdrop : Keeps (fun s => Shrunk registries s.remote ∧ ∀ l ∈ peers, Dialed l → Cleared peers s.remote l.name)
        (dropFinalizer kind env.toKubeEnv : Proc ConnectionPass Err Unit) :=
      keeps_dropFinalizer (fun _ _ hs => hs)
        (triple_write (fun _ _ hs => hs) (fun _ _ _ hs _ _ => hs) fun _ _ hs _ _ => hs)
    exact hdrop.conseq (fun _ hs => hs) (fun _ _ hs => ⟨hs.1.grown _, fun _ _ => hs.2⟩)
      fun _ _ hs => ⟨hs.1.grown _, fun _ _ => hs.2⟩
  · rw [if_neg hfinalizer]
    exact ⟨hs ▸ Grown.refl _ _, fun _ hmem => absurd hmem hfinalizer⟩

theorem registries_reconcileObject (hsmooth : AllSmooth env) {o : TemporalClusterConnection}
    (hnamed : WellNamed clusterAt (resolvePeers env o.spec)) :
    Triple (fun s => s.obj = o ∧ s.remote = registries) (reconcileObject clusterAt env)
      (fun _ s => RegistriesEnd o (resolvePeers env o.spec) registries s.remote)
      fun _ s => RegistriesEnd o (resolvePeers env o.spec) registries s.remote := by
  refine triple_bind triple_get fun a => ?_
  rintro s ⟨rfl, rfl, hs⟩
  dsimp only
  by_cases hdeleting : a.obj.deleting = true
  · rw [if_pos hdeleting]
    exact triple_bind (registries_reconcileDelete hsmooth hnamed) (fun _ => triple_pure fun _ hs => hs) a ⟨rfl, hs⟩
  · rw [if_neg hdeleting]
    exact (registries_reconcilePresent hsmooth hnamed).conseq (fun _ hs => hs)
      (fun _ _ hs => ⟨hs, fun h => absurd h hdeleting⟩) (fun _ _ hs => ⟨hs, fun h => absurd h hdeleting⟩) a hs

/-! ## Runs -/

def connectionSystem (clusterAt : String → String) : System ConnectionWorld ConnectionEnv ConnectionReport where
  step := reconcilePass clusterAt

/-- Every call of the pass succeeds, users act between passes, and peers are called as the clusters at their addresses.
-/
structure Successful (clusterAt : String → String) (w : ConnectionWorld) (env : ConnectionEnv) : Prop where
  smooth : AllSmooth env
  quiet : Undisturbed env
  lives : ∀ o ∈ edits kind.admits env.beforeGet w.stored, ∀ p ∈ resolvePeers env o.spec, p.address ≠ "" →
    clusterAt p.address = p.name

/-- The edits before the pass take no peer out of the spec. -/
def KeepsPeers (w : ConnectionWorld) (env : ConnectionEnv) : Prop :=
  ∀ o ∈ w.stored, ∀ o' ∈ edits kind.admits env.beforeGet w.stored, ∀ n ∈ names o.spec, n ∈ names o'.spec

instance (w : ConnectionWorld) (env : ConnectionEnv) : Decidable (KeepsPeers w env) :=
  inferInstanceAs (Decidable (∀ o ∈ w.stored, _))

/-- Some pass has asked the dialed peer `peer` to register the cluster `n`. -/
def Upserted (clusterAt : String → String) (h : List ConnectionReport) (peer n : String) : Prop :=
  ∃ r ∈ h, ∃ address enable answer, Effect.call (.upsert peer address enable answer) ∈ r.events ∧ clusterAt address = n

/-- What has been registered since the registries `start` is declared by `spec`. -/
structure Declares (clusterAt : String → String) (start : Registries) (spec : TemporalClusterConnectionSpec)
    (registries : Registries) (h : List ConnectionReport) : Prop where
  entries : Grown (names spec) start registries
  upserts : ∀ peer n, Upserted clusterAt h peer n → n ∈ names spec ∧ n ≠ peer

/-- Between passes: the object was admitted, and declares what has been registered. -/
def Accounted (clusterAt : String → String) (start : Registries) (w : ConnectionWorld) (h : List ConnectionReport) :
    Prop :=
  ∀ o ∈ w.stored, validate o.spec = .ok () ∧ Declares clusterAt start o.spec w.remote h

section Runs

variable {start : Registries} {w : ConnectionWorld} {h : List ConnectionReport}

theorem Declares.mono {spec' : TemporalClusterConnectionSpec} (hd : Declares clusterAt start spec registries h)
    (hnames : ∀ n ∈ names spec, n ∈ names spec') : Declares clusterAt start spec' registries h :=
  ⟨fun cluster n info hinfo => (hd.entries cluster n info hinfo).imp_right (hnames n),
    fun peer n hup => ⟨hnames n (hd.upserts peer n hup).1, (hd.upserts peer n hup).2⟩⟩

theorem Accounted.edited (hinv : Accounted clusterAt start w h) (hkeeps : KeepsPeers w env) :
    ∀ o ∈ edits kind.admits env.beforeGet w.stored,
      validate o.spec = .ok () ∧ Declares clusterAt start o.spec w.remote h := by
  intro o ho
  have hadmitted : ∀ o ∈ edits kind.admits env.beforeGet w.stored, validate o.spec = .ok () := by
    refine edits_induction (I := fun o => validate o.spec = .ok ()) (fun o e o' hval happ => ?_) _
      fun o ho => (hinv o ho).1
    obtain rfl | ⟨spec, finalizers, generation, hadm, rfl⟩ | rfl := Edit.apply_cases happ
    · exact hval
    · have hok : (validate spec).isOk = true := hadm
      cases hv : validate spec with
      | error e =>
        rw [hv] at hok
        cases hok
      | ok u => rfl
    · exact hval
  have hstored : ∀ o ∈ edits kind.admits env.beforeGet w.stored, ∃ o₀, o₀ ∈ w.stored :=
    edits_induction (fun _ _ _ hex _ => hex) _ fun o ho => ⟨o, ho⟩
  obtain ⟨o₀, ho₀⟩ := hstored o ho
  exact ⟨hadmitted o ho, (hinv o₀ ho₀).2.mono (hkeeps o₀ ho₀ o ho)⟩

/-- A pass that reads `o` leaves nothing registered that `o` does not declare; a deletion clears the registries. -/
theorem pass_declares (hsuccess : Successful clusterAt w env) {o : TemporalClusterConnection}
    (ho : o ∈ edits kind.admits env.beforeGet w.stored) (hadmitted : validate o.spec = .ok ())
    (hdeclares : Declares clusterAt start o.spec w.remote h) {s : ConnectionPass}
    (hs : s = ((reconcileObject clusterAt env).exec { stored := some o, obj := o, remote := w.remote }).2) :
    Declares clusterAt start o.spec s.remote (⟨env, some o, s.events⟩ :: h) ∧ (∀ o' ∈ s.stored, o'.spec = o.spec) ∧
      (o.deleting = true → clusterConnectionFinalizer ∈ o.finalizers →
        ∀ l ∈ resolvePeers env o.spec, Dialed l → Cleared (resolvePeers env o.spec) s.remote l.name) := by
  have hnamed := wellNamed_resolvePeers hadmitted (hsuccess.lives o ho)
  have hnames : (resolvePeers env o.spec).map (·.name) = names o.spec := resolvePeers_names env o.spec
  have hregistries : RegistriesEnd o (resolvePeers env o.spec) w.remote s.remote := by
    rw [hs]
    exact (registries_reconcileObject hsuccess.smooth hnamed).exec ⟨rfl, rfl⟩
  have htracked : Tracked (resolvePeers env o.spec) o.spec s := by
    rw [hs]
    refine (tracked_reconcileObject hsuccess.quiet o).exec
      ⟨rfl, fun c hc => absurd hc List.not_mem_nil, fun o' ho' => ?_, rfl⟩
    exact congrArg Object.spec (Option.some.inj ho').symm
  refine ⟨⟨fun cluster n info hinfo => ?_, fun peer n hup => ?_⟩, htracked.stored, hregistries.cleared⟩
  · rcases hregistries.grown cluster n info hinfo with hold | hnew
    · exact hdeclares.entries cluster n info hold
    · exact .inr (hnames ▸ hnew)
  · obtain ⟨r, hr, address, enable, answer, hcall, rfl⟩ := hup
    rcases List.mem_cons.mp hr with rfl | hr
    · obtain ⟨other, hother, rfl, haddress, hne⟩ := htracked.calls _ hcall
      rw [hnamed.lives other hother haddress]
      exact ⟨hnames ▸ List.mem_map_of_mem hother, hne⟩
    · exact hdeclares.upserts peer _ ⟨r, hr, address, enable, answer, hcall, rfl⟩

theorem Accounted.step (hinv : Accounted clusterAt start w h) (hsuccess : Successful clusterAt w env)
    (hkeeps : KeepsPeers w env) :
    Accounted clusterAt start (reconcilePass clusterAt w env).1 ((reconcilePass clusterAt w env).2 :: h) := by
  have hedited := hinv.edited hkeeps
  rcases pass_cases kind ConnectionEnv.toKubeEnv (reconcileObject clusterAt) w env with heq | ⟨o, s, -, ho, hs, heq⟩
  · unfold reconcilePass
    rw [heq]
    intro o ho
    refine ⟨(hedited o ho).1, (hedited o ho).2.entries, fun peer n hup => ?_⟩
    obtain ⟨r, hr, address, enable, answer, hcall, hat⟩ := hup
    rcases List.mem_cons.mp hr with rfl | hr
    · exact absurd hcall List.not_mem_nil
    · exact (hedited o ho).2.upserts peer n ⟨r, hr, address, enable, answer, hcall, hat⟩
  · unfold reconcilePass
    rw [heq]
    intro o' ho'
    obtain ⟨hadmitted, hdeclares⟩ := hedited o ho
    obtain ⟨hdeclares', hspec, -⟩ := pass_declares hsuccess ho hadmitted hdeclares hs
    have hsame : o'.spec = o.spec := hspec o' ho'
    rw [hsame]
    exact ⟨hadmitted, hdeclares'⟩

/-- **As long as no edit takes a peer out, registries have no other peers than the spec, and none after the deletion.**
`o` is the object that the last pass has read, with the current spec; entries that were there before the connection
stay. -/
theorem registered_peers_are_declared {w₀ : ConnectionWorld} {r : ConnectionReport} {o : TemporalClusterConnection}
    (hcreated : ∀ o ∈ w₀.stored, validate o.spec = .ok ())
    (hrun : (connectionSystem clusterAt).Run (fun w _ env => Successful clusterAt w env ∧ KeepsPeers w env) w₀ w (r :: h))
    (hread : r.read = some o) (l : ResolvedPeer) (hl : l ∈ resolvePeers r.env o.spec) (hdialed : Dialed l) :
    (o.deleting = false → ∀ n info, (w.remote l.name).lookup n = some info →
      n ∈ names o.spec ∨ (w₀.remote l.name).lookup n = some info) ∧
    (o.deleting = true → clusterConnectionFinalizer ∈ o.finalizers →
      ∀ n, Upserted clusterAt (r :: h) l.name n → (w.remote l.name).lookup n = none) := by
  obtain ⟨w', env, hrun', ⟨hsuccess, hkeeps⟩, rfl, rfl⟩ := hrun.last
  have hinv : Accounted clusterAt w₀.remote w' h := by
    refine System.Run.invariant (I := Accounted clusterAt w₀.remote) (fun o ho => ⟨hcreated o ho, Grown.refl _ _, ?_⟩)
      (fun w h env _ hinv hok => hinv.step hok.1 hok.2) hrun'
    rintro peer n ⟨r, hr, -⟩
    exact absurd hr List.not_mem_nil
  rcases pass_cases kind ConnectionEnv.toKubeEnv (reconcileObject clusterAt) w' env with heq | ⟨o₁, s, -, ho, hs, heq⟩
  · have hnone : ((connectionSystem clusterAt).step w' env).2.read = none := congrArg (·.2.read) heq
    rw [hnone] at hread
    cases hread
  · have hstep : (connectionSystem clusterAt).step w' env = (⟨s.stored, s.remote⟩, ⟨env, some o₁, s.events⟩) := heq
    rw [hstep] at hread hl ⊢
    obtain rfl := Option.some.inj hread
    obtain ⟨hadmitted, hdeclares⟩ := hinv.edited hkeeps o₁ ho
    obtain ⟨hdeclares', -, hcleared⟩ := pass_declares hsuccess ho hadmitted hdeclares hs
    refine ⟨fun _ n info hinfo => (hdeclares'.entries l.name n info hinfo).symm, fun hdeleting hfinalizer n hup => ?_⟩
    obtain ⟨hn, hne⟩ := hdeclares'.upserts l.name n hup
    rw [names, ← resolvePeers_names env, List.mem_map] at hn
    obtain ⟨p, hp, rfl⟩ := hn
    exact hcleared hdeleting hfinalizer l hl hdialed p hp hne

end Runs

/-- The sample connection, with the external peers of the given names. -/
def sampleConnection (external : List String) : TemporalClusterConnectionSpec where
  peers :=
    { name := "east", clusterRef := some { name := "east", kind := "TemporalDevServer" } } ::
      external.map fun name => { name := name, frontendAddress := name ++ ":7233" }

def sampleWorld (external : List String) : ConnectionWorld where
  stored := some { name := "group", spec := sampleConnection external, status := {} }
  remote := fun _ => ∅

/-- External clusters live at the address that has their name. -/
def namedByAddress (address : String) : String :=
  if address = "west:7233" then "west" else if address = "south:7233" then "south" else "east"

def editedEnv (es : List (Edit TemporalClusterConnectionSpec)) : ConnectionEnv := { smoothEnv with beforeGet := es }

theorem successful_editedEnv {w : ConnectionWorld} {es : List (Edit TemporalClusterConnectionSpec)}
    (hlives : ∀ o ∈ edits kind.admits es w.stored, ∀ p ∈ resolvePeers (editedEnv es) o.spec, p.address ≠ "" →
      namedByAddress p.address = p.name) : Successful namedByAddress w (editedEnv es) :=
  ⟨⟨⟨fun _ => rfl, fun _ => rfl, fun _ _ => rfl⟩, fun _ _ => rfl⟩, ⟨rfl, rfl⟩, hlives⟩

/-- West is registered on east; the deletion takes it out again. -/
theorem registered_peers_are_declared_sample :
    let p₁ := reconcilePass namedByAddress (sampleWorld ["west"]) (editedEnv [])
    let p₂ := reconcilePass namedByAddress p₁.1 (editedEnv [.delete])
    Upserted namedByAddress [p₂.2, p₁.2] "east" "west" ∧ (p₂.1.remote "east").lookup "west" = none := by
  intro p₁ p₂
  have hrun : (connectionSystem namedByAddress).Run (fun w _ env => Successful namedByAddress w env ∧ KeepsPeers w env)
      (sampleWorld ["west"]) p₂.1 [p₂.2, p₁.2] := by
    refine .step (editedEnv [.delete]) (.step (editedEnv []) .start ⟨successful_editedEnv ?_, ?_⟩)
      ⟨successful_editedEnv ?_, ?_⟩
    · decide +kernel
    · decide +kernel
    · decide +kernel
    · decide +kernel
  have hupserted : Upserted namedByAddress [p₂.2, p₁.2] "east" "west" :=
    ⟨p₁.2, List.mem_cons_of_mem _ List.mem_cons_self, "west:7233", true, .ok (), by decide +kernel, by decide +kernel⟩
  have hread : ∃ o ∈ p₂.2.read, (o.deleting = true ∧ clusterConnectionFinalizer ∈ o.finalizers) ∧
      ∃ l ∈ resolvePeers p₂.2.env o.spec, Dialed l ∧ l.name = "east" := by decide +kernel
  obtain ⟨o, hread, ⟨hdeleting, hfinalizer⟩, l, hl, hdialed, hname⟩ := hread
  have hcreated : ∀ o ∈ (sampleWorld ["west"]).stored, validate o.spec = .ok () := by decide +kernel
  rw [← hname] at hupserted ⊢
  have hcleared := (registered_peers_are_declared hcreated hrun hread l hl hdialed).2 hdeleting hfinalizer
  exact ⟨hupserted, hcleared "west" hupserted⟩

/-- The peer `south` is registered and then taken out of the spec. It stays registered, also when the connection is
deleted. -/
theorem dropped_peer_stays :
    let S := connectionSystem namedByAddress
    let p₁ := S.step (sampleWorld ["west", "south"]) (editedEnv [])
    let p₂ := S.step p₁.1 (editedEnv [.edit (sampleConnection ["west"]) [clusterConnectionFinalizer]])
    let p₃ := S.step p₂.1 (editedEnv [.delete])
    S.Run (fun w _ env => Successful namedByAddress w env) (sampleWorld ["west", "south"]) p₃.1 [p₃.2, p₂.2, p₁.2] ∧
      (∃ o ∈ p₂.2.read, o.spec = sampleConnection ["west"]) ∧
      (p₂.1.remote "east").lookup "south" = some ⟨"south:7233", true⟩ ∧ p₃.1.stored = none ∧
      (p₃.1.remote "east").lookup "south" = some ⟨"south:7233", true⟩ := by
  intro S p₁ p₂ p₃
  have hrun₁ : S.Run (fun w _ env => Successful namedByAddress w env) (sampleWorld ["west", "south"]) p₁.1 [p₁.2] :=
    .step _ .start (successful_editedEnv (by decide +kernel))
  have hrun₂ : S.Run (fun w _ env => Successful namedByAddress w env) (sampleWorld ["west", "south"]) p₂.1 [p₂.2, p₁.2] :=
    .step _ hrun₁ (successful_editedEnv (by decide +kernel))
  refine ⟨.step _ hrun₂ (successful_editedEnv (by decide +kernel)), ?_⟩
  decide +kernel

end TemporalOperator.Satellite.Connection
