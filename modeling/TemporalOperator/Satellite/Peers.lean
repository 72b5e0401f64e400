import TemporalOperator.Satellite.Connection

/-!
# Replication peers

What a pass makes of the registries when every call succeeds. A peer is registered again only when its entry is missing
or its enabled state is another, so an entry with an old address stays.

* `upserted`, `converge` : what the controller does to one registry, for one peer and for all (`lookup_converge`);
* `reconciled` : what it does to all registries; `reconcilePeers_reconciled` : the loops of the controller do that;
* `peers_converge_iff` : when the declared topology is reached; `stale_address_stays`.
-/

namespace TemporalOperator.Satellite.Connection
open Lib Proc

/-! ## One registry -/

/-- The entry that a peer is to have. -/
def ResolvedPeer.entry (p : ResolvedPeer) : RemoteClusterInfo := { address := p.address, connectionEnabled := p.enable }

/-- The controller leaves the entry of `other` on the peer `name` as it is. -/
def Skipped (name : String) (other : ResolvedPeer) (old : Option RemoteClusterInfo) : Prop :=
  other.name = name ∨ other.address = "" ∨ old.any (·.connectionEnabled = other.enable) = true

instance (name : String) (other : ResolvedPeer) (old : Option RemoteClusterInfo) : Decidable (Skipped name other old) :=
  inferInstanceAs (Decidable (_ ∨ _))

/-- The registry of `name` after another peer has been looked at. -/
def upserted (name : String) (r : Registry) (other : ResolvedPeer) : Registry :=
  if Skipped name other (r.lookup other.name) then r else r.insert other.name other.entry

/-- The registry of `name` after all peers have been looked at. -/
def converge (name : String) (peers : List ResolvedPeer) (r : Registry) : Registry := peers.foldl (upserted name) r

variable {name n : String} {r : Registry} {p other : ResolvedPeer} {peers : List ResolvedPeer}

theorem lookup_upserted_of_ne (h : n ≠ other.name) : (upserted name r other).lookup n = r.lookup n := by
  unfold upserted
  split
  · rfl
  · exact AList.lookup_insert_ne h

theorem lookup_upserted_self :
    (upserted name r other).lookup other.name =
      if Skipped name other (r.lookup other.name) then r.lookup other.name else some other.entry := by
  unfold upserted
  split
  · rfl
  · exact AList.lookup_insert r

/-- Peers of other names leave an entry alone. -/
theorem lookup_converge_of_notMem (h : n ∉ peers.map (·.name)) : (converge name peers r).lookup n = r.lookup n := by
  induction peers generalizing r with
  | nil => rfl
  | cons q qs ih =>
    rw [List.map_cons, List.mem_cons, not_or] at h
    calc (converge name (q :: qs) r).lookup n
        = (converge name qs (upserted name r q)).lookup n := rfl
      _ = (upserted name r q).lookup n := ih h.2
      _ = r.lookup n := lookup_upserted_of_ne h.1

/-- With distinct names, the entry of a peer is decided by that peer and its old entry. -/
theorem lookup_converge (hnodup : (peers.map (·.name)).Nodup) (hp : p ∈ peers) :
    (converge name peers r).lookup p.name =
      if Skipped name p (r.lookup p.name) then r.lookup p.name else some p.entry := by
  induction peers generalizing r with
  | nil => cases hp
  | cons q qs ih =>
    rw [List.map_cons, List.nodup_cons] at hnodup
    obtain ⟨hfresh, hnodup⟩ := hnodup
    have hstep : converge name (q :: qs) r = converge name qs (upserted name r q) := rfl
    rw [hstep]
    rcases List.mem_cons.mp hp with rfl | hp
    · rw [lookup_converge_of_notMem hfresh, lookup_upserted_self]
    · have hne : p.name ≠ q.name := fun heq => hfresh (heq ▸ List.mem_map_of_mem hp)
      rw [ih hnodup hp, lookup_upserted_of_ne hne]

/-! ## The peers of a pass -/

def Dialed (p : ResolvedPeer) : Prop := p.isLocal = true ∧ p.ready = true ∧ p.address ≠ ""

instance (p : ResolvedPeer) : Decidable (Dialed p) := inferInstanceAs (Decidable (_ ∧ _))

def Answers (env : ConnectionEnv) (p : ResolvedPeer) : Prop :=
  Dialed p ∧ env.dial p.name = none ∧ env.list p.name = none

instance (env : ConnectionEnv) (p : ResolvedPeer) : Decidable (Answers env p) := inferInstanceAs (Decidable (_ ∧ _))

/-- The dialed peers once `p` has been looked at. -/
def withLocal (clusterAt : String → String) (env : ConnectionEnv) (registries : Registries) (locals : Locals)
    (p : ResolvedPeer) : Locals :=
  if Answers env p then locals.insert p.name { peer := p, remotes := registries (clusterAt p.address) } else locals

/-- Names are distinct, and every peer is called as the cluster that lives at its address. -/
structure WellNamed (clusterAt : String → String) (peers : List ResolvedPeer) : Prop where
  nodup : (peers.map (·.name)).Nodup
  lives : ∀ p ∈ peers, p.address ≠ "" → clusterAt p.address = p.name

theorem WellNamed.eq_of_name {clusterAt : String → String} (h : WellNamed clusterAt peers) {q : ResolvedPeer}
    (hp : p ∈ peers)
    (hq : q ∈ peers) (hname : p.name = q.name) : p = q :=
  List.inj_on_of_nodup_map h.nodup hp hq hname

/-- The registries after a pass in which every call succeeds. -/
def reconciled (peers : List ResolvedPeer) (registries : Registries) : Registries := fun cluster =>
  if ∃ p ∈ peers, Dialed p ∧ p.name = cluster then converge cluster peers (registries cluster) else registries cluster

/-- Every dial, list and upsert succeeds. -/
structure Smooth (env : ConnectionEnv) : Prop where
  dial : ∀ peer, env.dial peer = none
  list : ∀ peer, env.list peer = none
  upsert : ∀ peer other, env.upsert peer other = .done

section Loops

variable {clusterAt : String → String} {env : ConnectionEnv} {registries : Registries}

/-! ## Dialing -/

theorem triple_dial (p : ResolvedPeer) :
    Triple (fun s => s.remote = registries) (dial env p) (fun _ s => env.dial p.name = none ∧ s.remote = registries)
      fun _ s => env.dial p.name ≠ none ∧ s.remote = registries := by
  intro s hs
  unfold dial
  cases hdial : env.dial p.name with
  | none => exact ⟨rfl, hs⟩
  | some e => exact ⟨Option.some_ne_none e, hs⟩

theorem triple_listRemoteClusters (p : ResolvedPeer) :
    Triple (fun s => s.remote = registries) (listRemoteClusters clusterAt env p)
      (fun remotes s => env.list p.name = none ∧ remotes = registries (clusterAt p.address) ∧ s.remote = registries)
      fun _ s => env.list p.name ≠ none ∧ s.remote = registries := by
  refine triple_bind triple_get fun a => ?_
  rintro s ⟨rfl, hs⟩
  dsimp only
  rw [hs]
  cases hlist : env.list p.name with
  | none => exact ⟨rfl, rfl, hs⟩
  | some e => exact ⟨Option.some_ne_none e, hs⟩

/-- A peer that cannot be dialed is left out, whatever the reason. -/
theorem triple_dialLocal (locals : Locals) (p : ResolvedPeer) :
    Triple (fun s => s.remote = registries) (dialLocal clusterAt env locals p)
      (fun locals' s => locals' = withLocal clusterAt env registries locals p ∧ s.remote = registries)
      fun _ _ => False := by
  unfold dialLocal withLocal
  by_cases hdialed : Dialed p
  · obtain ⟨hlocal, hready, haddress⟩ := hdialed
    have hcond : ¬ ((!p.isLocal || !p.ready || p.address = "") = true) := by simp [hlocal, hready, haddress]
    rw [if_neg hcond]
    refine triple_attempt_bind (triple_dial p) (fun _ => ?_) fun _ => ?_
    · rintro s ⟨hdial, hs⟩
      refine triple_attempt_bind (triple_listRemoteClusters p) (fun remotes => ?_) (fun _ => ?_) s hs
      · rintro s ⟨hlist, rfl, hs⟩
        rw [if_pos ⟨⟨hlocal, hready, haddress⟩, hdial, hlist⟩]
        exact ⟨rfl, hs⟩
      · rintro s ⟨hlist, hs⟩
        rw [if_neg fun hanswers => hlist hanswers.2.2]
        exact ⟨rfl, hs⟩
    · rintro s ⟨hdial, hs⟩
      rw [if_neg fun hanswers => hdial hanswers.2.1]
      exact ⟨rfl, hs⟩
  · have hcond : (!p.isLocal || !p.ready || p.address = "") = true := by
      by_contra hcond
      simp only [Bool.or_eq_true, Bool.not_eq_true', decide_eq_true_eq, not_or, Bool.not_eq_false] at hcond
      exact hdialed ⟨hcond.1.1, hcond.1.2, hcond.2⟩
    rw [if_pos hcond, if_neg fun hanswers => hdialed hanswers.1]
    exact triple_pure fun _ hs => ⟨rfl, hs⟩

/-- The dialed peers among those that have been looked at, with their registries; `rest` is still to be looked at. -/
structure DialedFrom (peers : List ResolvedPeer) (registries : Registries) (rest : List ResolvedPeer) (locals : Locals) :
    Prop where
  subset : ∀ p ∈ rest, p ∈ peers
  sound : ∀ n l, locals.lookup n = some l → l.peer ∈ peers ∧ Dialed l.peer ∧ l.peer.name = n ∧ l.remotes = registries n
  complete : ∀ p ∈ peers, Dialed p → p ∈ rest ∨ ∃ l, locals.lookup p.name = some l ∧ l.peer = p

theorem DialedFrom.skip {rest : List ResolvedPeer} {locals : Locals} (h : DialedFrom peers registries (p :: rest) locals)
    (hp : ¬ Dialed p) : DialedFrom peers registries rest locals := by
  refine ⟨fun q hq => h.subset q (List.mem_cons_of_mem _ hq), h.sound, fun q hq hdialed => ?_⟩
  rcases h.complete q hq hdialed with hmem | hdone
  · rcases List.mem_cons.mp hmem with rfl | hmem
    · exact absurd hdialed hp
    · exact .inl hmem
  · exact .inr hdone

theorem DialedFrom.insert {rest : List ResolvedPeer} {locals : Locals} (hnamed : WellNamed clusterAt peers)
    (h : DialedFrom peers registries (p :: rest) locals) (hp : Dialed p) :
    DialedFrom peers registries rest (locals.insert p.name { peer := p, remotes := registries p.name }) := by
  have hpeer : p ∈ peers := h.subset p List.mem_cons_self
  refine ⟨fun q hq => h.subset q (List.mem_cons_of_mem _ hq), fun n l hl => ?_, fun q hq hdialed => ?_⟩
  · by_cases hn : n = p.name
    · subst hn
      rw [AList.lookup_insert] at hl
      obtain rfl := Option.some.inj hl
      exact ⟨hpeer, hp, rfl, rfl⟩
    · rw [AList.lookup_insert_ne hn] at hl
      exact h.sound n l hl
  · by_cases hname : q.name = p.name
    · obtain rfl := hnamed.eq_of_name hq hpeer hname
      exact .inr ⟨_, AList.lookup_insert locals, rfl⟩
    · rcases h.complete q hq hdialed with hmem | ⟨l, hl, hlq⟩
      · refine .inl ((List.mem_cons.mp hmem).resolve_left fun heq => ?_)
        exact hname (congrArg ResolvedPeer.name heq)
      · exact .inr ⟨l, by rw [AList.lookup_insert_ne hname]; exact hl, hlq⟩

theorem Smooth.answers_iff (hsmooth : Smooth env) : Answers env p ↔ Dialed p :=
  and_iff_left ⟨hsmooth.dial p.name, hsmooth.list p.name⟩

theorem triple_dialLocal_smooth (hsmooth : Smooth env) (hnamed : WellNamed clusterAt peers) (p : ResolvedPeer)
    (rest : List ResolvedPeer) (locals : Locals) :
    Triple (fun s => DialedFrom peers registries (p :: rest) locals ∧ s.remote = registries)
      (dialLocal clusterAt env locals p)
      (fun locals' s => DialedFrom peers registries rest locals' ∧ s.remote = registries) fun _ _ => False := by
  rintro s ⟨hfrom, hs⟩
  refine (triple_dialLocal locals p).conseq (fun _ hs => hs) (fun locals' s hlocals => ?_) (fun _ _ hs => hs) s hs
  obtain ⟨rfl, hs⟩ := hlocals
  refine ⟨?_, hs⟩
  unfold withLocal
  by_cases hdialed : Dialed p
  · rw [if_pos (hsmooth.answers_iff.mpr hdialed), hnamed.lives p (hfrom.subset p List.mem_cons_self) hdialed.2.2]
    exact hfrom.insert hnamed hdialed
  · rw [if_neg fun hanswers => hdialed (hsmooth.answers_iff.mp hanswers)]
    exact hfrom.skip hdialed

theorem triple_dialLocals (hsmooth : Smooth env) (hnamed : WellNamed clusterAt peers) :
    Triple (fun s => s.remote = registries) (dialLocals clusterAt env peers)
      (fun locals s => DialedFrom peers registries [] locals ∧ s.remote = registries) fun _ _ => False := by
  have hstart : DialedFrom peers registries peers ∅ := by
    refine ⟨fun _ hp => hp, fun n l hl => ?_, fun p hp _ => .inl hp⟩
    rw [AList.lookup_empty] at hl
    cases hl
  have hloop := triple_foldlM
    (I := fun rest locals (s : ConnectionPass) => DialedFrom peers registries rest locals ∧ s.remote = registries)
    (triple_dialLocal_smooth hsmooth hnamed) peers ∅
  exact hloop.pre fun _ hs => ⟨hstart, hs⟩

/-! ## Registering -/

/-- The registry of the dialed peer `name` is what the controller knows of it; the others are as in `registries`. -/
def Mirrored (clusterAt : String → String) (registries : Registries) (name : String) (l : LocalPeerState)
    (s : ConnectionPass) : Prop :=
  clusterAt l.peer.address = name ∧ s.remote = Function.update registries name l.remotes

theorem triple_upsertRemoteCluster (hsmooth : Smooth env) {l : ResolvedPeer} (hl : clusterAt l.address = name)
    (hother : clusterAt other.address = other.name) (remotes : Registry) :
    Triple (fun s => s.remote = Function.update registries name remotes) (upsertRemoteCluster clusterAt env l other)
      (fun _ s => s.remote = Function.update registries name (remotes.insert other.name other.entry))
      fun _ _ => False := by
  unfold upsertRemoteCluster
  rw [hsmooth.upsert, hl]
  refine triple_remoteCall (fun s r hs hr => ?_) fun s e r hs hr => ?_
  · have hr : Function.update s.remote name ((s.remote name).insert (clusterAt other.address) other.entry) = r :=
      congrArg Prod.snd hr
    calc r = Function.update s.remote name ((s.remote name).insert (clusterAt other.address) other.entry) := hr.symm
      _ = Function.update registries name (remotes.insert other.name other.entry) := by
        rw [hs, hother, Function.update_self, Function.update_idem]
  · cases hr

theorem triple_upsertRemote (hsmooth : Smooth env) (hother : other.address ≠ "" → clusterAt other.address = other.name)
    (l : LocalPeerState) :
    Triple (Mirrored clusterAt registries name l) (upsertRemote clusterAt env name l other)
      (fun l' s => l'.remotes = upserted name l.remotes other ∧ Mirrored clusterAt registries name l' s)
      fun _ _ => False := by
  rintro s ⟨hl, hs⟩
  unfold upsertRemote upserted
  by_cases hskip : other.name = name ∨ other.address = ""
  · rw [if_pos hskip, if_pos (hskip.elim .inl fun h => .inr (.inl h))]
    exact ⟨rfl, hl, hs⟩
  · rw [if_neg hskip]
    obtain ⟨hname, haddress⟩ := not_or.mp hskip
    by_cases hsame : (l.remotes.lookup other.name).any (·.connectionEnabled = other.enable) = true
    · rw [if_pos hsame, if_pos (.inr (.inr hsame))]
      exact ⟨rfl, hl, hs⟩
    · have hneeded : ¬ Skipped name other (l.remotes.lookup other.name) :=
        not_or.mpr ⟨hname, not_or.mpr ⟨haddress, hsame⟩⟩
      rw [if_neg hsame, if_neg hneeded]
      refine triple_attempt_bind (triple_upsertRemoteCluster hsmooth hl (hother haddress) l.remotes) (fun _ => ?_)
        (fun _ _ hs => hs.elim) s hs
      exact triple_pure fun s hs => ⟨rfl, hl, hs⟩

/-- The loop over the other peers, on one dialed peer. -/
theorem triple_upsertPeers (hsmooth : Smooth env) (hnamed : WellNamed clusterAt peers) (l : LocalPeerState) :
    Triple (Mirrored clusterAt registries name l) (peers.foldlM (upsertRemote clusterAt env name) l)
      (fun _ s => s.remote = Function.update registries name (converge name peers l.remotes)) fun _ _ => False := by
  have hloop := triple_foldlM (f := upsertRemote clusterAt env name) (E := fun _ _ => False)
    (I := fun rest l' s => (∀ p ∈ rest, p ∈ peers) ∧ converge name rest l'.remotes = converge name peers l.remotes ∧
      Mirrored clusterAt registries name l' s) (fun q qs l' => ?_) peers l
  · refine hloop.conseq (fun s hs => ⟨fun _ hp => hp, rfl, hs⟩) (fun l' s hs => ?_) fun _ _ hs => hs
    obtain ⟨-, hconverge, -, hs⟩ := hs
    rw [hs, ← hconverge]
    rfl
  · rintro s ⟨hsubset, hconverge, hs⟩
    have hq := hnamed.lives q (hsubset q List.mem_cons_self)
    refine (triple_upsertRemote hsmooth hq l').conseq (fun _ hs => hs) (fun l'' s hs => ?_) (fun _ _ hs => hs) s hs
    refine ⟨fun p hp => hsubset p (List.mem_cons_of_mem _ hp), ?_, hs.2⟩
    rw [hs.1, ← hconverge]
    rfl

/-- The registries when the dialed peers in `rest` are still to be seen to. -/
def upsertedBut (peers : List ResolvedPeer) (registries : Registries) (locals : Locals) (rest : List String) :
    Registries := fun n =>
  if n ∈ rest ∨ n ∉ locals then registries n else converge n peers (registries n)

theorem upsertedBut_cons {locals : Locals} {rest : List String} (hname : name ∉ rest) (hmem : name ∈ locals) :
    Function.update (upsertedBut peers registries locals (name :: rest)) name (converge name peers (registries name)) =
      upsertedBut peers registries locals rest := by
  funext n
  by_cases hn : n = name
  · subst hn
    rw [Function.update_self, upsertedBut, if_neg (not_or.mpr ⟨hname, not_not_intro hmem⟩)]
  · rw [Function.update_of_ne hn]
    unfold upsertedBut
    simp [hn]

theorem upsertedBut_skip {locals : Locals} {rest : List String} (hmem : name ∉ locals) :
    upsertedBut peers registries locals (name :: rest) = upsertedBut peers registries locals rest := by
  funext n
  unfold upsertedBut
  by_cases hn : n = name
  · subst hn
    rw [if_pos (.inr hmem), if_pos (.inr hmem)]
  · simp [hn]

theorem DialedFrom.mem_iff {locals : Locals} (h : DialedFrom peers registries [] locals) (n : String) :
    n ∈ locals ↔ ∃ p ∈ peers, Dialed p ∧ p.name = n := by
  rw [← AList.lookup_isSome, Option.isSome_iff_exists]
  constructor
  · rintro ⟨l, hl⟩
    obtain ⟨hpeer, hdialed, hname, -⟩ := h.sound n l hl
    exact ⟨l.peer, hpeer, hdialed, hname⟩
  · rintro ⟨p, hp, hdialed, rfl⟩
    obtain ⟨l, hl, -⟩ := (h.complete p hp hdialed).resolve_left List.not_mem_nil
    exact ⟨l, hl⟩

/-- The loop over the dialed peers. -/
theorem triple_upsertRemotes (hsmooth : Smooth env) (hnamed : WellNamed clusterAt peers) {locals : Locals}
    (hdialed : DialedFrom peers registries [] locals) :
    Triple (fun s => s.remote = registries) (upsertRemotes clusterAt env peers locals)
      (fun _ s => s.remote = reconciled peers registries) fun _ _ => False := by
  have hloop := triple_foldlM (f := upsertOn clusterAt env peers) (E := fun _ _ => False)
    (I := fun rest (locals' : Locals) s => rest.Nodup ∧ (∀ n ∈ rest, locals'.lookup n = locals.lookup n) ∧
      s.remote = upsertedBut peers registries locals rest) (fun n rest locals' => ?_) (env.order locals.keys) locals
  · have hkeys : ∀ n, n ∈ env.order locals.keys ↔ n ∈ locals := fun n => (env.order_perm locals.keys).mem_iff
    refine hloop.conseq (fun s hs => ⟨?_, fun _ _ => rfl, ?_⟩) (fun locals' s hs => ?_) fun _ _ hs => hs
    · exact (env.order_perm locals.keys).nodup_iff.mpr locals.keys_nodup
    · rw [hs]
      funext n
      unfold upsertedBut
      rw [if_pos ((em _).imp (hkeys n).mpr id)]
    · rw [hs.2.2]
      funext n
      have hmem := hdialed.mem_iff n
      unfold upsertedBut reconciled
      by_cases hn : n ∈ locals
      · rw [if_neg (not_or.mpr ⟨List.not_mem_nil, not_not_intro hn⟩), if_pos (hmem.mp hn)]
      · rw [if_pos (.inr hn), if_neg fun h => hn (hmem.mpr h)]
  · rintro s ⟨hnodup, hlookup, hs⟩
    obtain ⟨hfresh, hnodup⟩ := List.nodup_cons.mp hnodup
    have hn : locals'.lookup n = locals.lookup n := hlookup n List.mem_cons_self
    unfold upsertOn
    cases hl : locals.lookup n with
    | none =>
      rw [hn, hl]
      have hmem : n ∉ locals := AList.lookup_eq_none.mp hl
      exact ⟨hnodup, fun m hm => hlookup m (List.mem_cons_of_mem _ hm), hs.trans (upsertedBut_skip hmem)⟩
    | some l =>
      rw [hn, hl]
      obtain ⟨hpeer, hdialedl, hname, hremotes⟩ := hdialed.sound n l hl
      have hmem : n ∈ locals := AList.lookup_isSome.mp (by rw [hl]; rfl)
      have hmirrored : Mirrored clusterAt (upsertedBut peers registries locals (n :: rest)) n l s := by
        refine ⟨(hnamed.lives l.peer hpeer hdialedl.2.2).trans hname, ?_⟩
        have hown : upsertedBut peers registries locals (n :: rest) n = l.remotes := by
          rw [hremotes, upsertedBut, if_pos (.inl List.mem_cons_self)]
        rw [hs, ← hown, Function.update_eq_self]
      refine triple_bind (triple_upsertPeers hsmooth hnamed l) (fun l' => triple_pure fun s hs => ?_) s hmirrored
      refine ⟨hnodup, fun m hm => ?_, ?_⟩
      · have hne : m ≠ n := fun heq => hfresh (heq ▸ hm)
        rw [AList.lookup_insert_ne hne]
        exact hlookup m (List.mem_cons_of_mem _ hm)
      · rw [hs, hremotes, upsertedBut_cons hfresh hmem]

/-- The loops of a pass in which every call succeeds. -/
theorem triple_reconcilePeers (hsmooth : Smooth env) (hnamed : WellNamed clusterAt peers) :
    Triple (fun s => s.remote = registries) (reconcilePeers clusterAt env peers)
      (fun _ s => s.remote = reconciled peers registries) fun _ _ => False := by
  refine triple_bind (triple_dialLocals hsmooth hnamed) fun locals => ?_
  rintro s ⟨hdialed, hs⟩
  exact triple_bind (triple_upsertRemotes hsmooth hnamed hdialed) (fun _ => triple_pure fun _ hs => hs) s hs

end Loops

/-! ## Admitted peers -/

open ClusterWebhook in
theorem nodup_of_validatePeersFrom {i : Nat} {seen : List String} {ps : List ClusterConnectionPeer}
    (h : validatePeersFrom i seen ps = []) : (ps.map (·.name)).Nodup ∧ ∀ p ∈ ps, p.name ∉ seen := by
  induction ps generalizing i seen with
  | nil => exact ⟨List.nodup_nil, fun _ hp => absurd hp List.not_mem_nil⟩
  | cons p ps ih =>
    rw [validatePeersFrom, List.append_eq_nil_iff] at h
    obtain ⟨hp, hps⟩ := h
    simp only [validatePeer, List.append_eq_nil_iff, check_eq_nil, decide_eq_true_eq] at hp
    obtain ⟨hnodup, hunseen⟩ := ih hps
    have hfresh : p.name ∉ ps.map (·.name) := by
      intro hmem
      obtain ⟨q, hq, heq⟩ := List.mem_map.mp hmem
      exact hunseen q hq (heq ▸ List.mem_cons_self)
    refine ⟨List.nodup_cons.mpr ⟨hfresh, hnodup⟩, fun q hq => ?_⟩
    rcases List.mem_cons.mp hq with rfl | hq
    · exact hp.1.1.1.2
    · exact fun hmem => hunseen q hq (List.mem_cons_of_mem _ hmem)

open ClusterWebhook in
/-- A peer without a reference to a cluster has an address. -/
theorem address_of_validatePeersFrom {i : Nat} {seen : List String} {ps : List ClusterConnectionPeer}
    (h : validatePeersFrom i seen ps = []) : ∀ p ∈ ps, p.clusterRef = none → p.frontendAddress ≠ "" := by
  induction ps generalizing i seen with
  | nil => exact fun _ hp => absurd hp List.not_mem_nil
  | cons q qs ih =>
    rw [validatePeersFrom, List.append_eq_nil_iff] at h
    obtain ⟨hq, hqs⟩ := h
    intro p hp hexternal
    rcases List.mem_cons.mp hp with rfl | hp
    · simp only [validatePeer, List.append_eq_nil_iff, check_eq_nil, hexternal, Option.any_none, Bool.false_or,
        decide_eq_true_eq] at hq
      exact hq.1.2
    · exact ih hqs p hp hexternal

theorem validate_nodup {spec : TemporalClusterConnectionSpec} (h : validate spec = .ok ()) :
    (spec.peers.map (·.name)).Nodup := by
  unfold validate at h
  split at h
  · cases h
  · split at h
    · cases h
    · exact (nodup_of_validatePeersFrom (not_not.mp ‹_›)).1

theorem resolvePeer_name (env : ConnectionEnv) (p : ClusterConnectionPeer) : (resolvePeer env p).name = p.name := by
  unfold resolvePeer
  split
  · split <;> rfl
  · rfl

theorem resolvePeers_names (env : ConnectionEnv) (spec : TemporalClusterConnectionSpec) :
    (resolvePeers env spec).map (·.name) = spec.peers.map (·.name) := by
  rw [resolvePeers, List.map_map]
  exact List.map_congr_left fun p _ => resolvePeer_name env p

theorem wellNamed_resolvePeers {clusterAt : String → String} {env : ConnectionEnv} {spec : TemporalClusterConnectionSpec}
    (hadmitted : validate spec = .ok ())
    (hlives : ∀ p ∈ resolvePeers env spec, p.address ≠ "" → clusterAt p.address = p.name) :
    WellNamed clusterAt (resolvePeers env spec) :=
  ⟨by rw [resolvePeers_names]; exact validate_nodup hadmitted, hlives⟩

theorem reconcilePeers_reconciled {clusterAt : String → String} {env : ConnectionEnv} (hsmooth : Smooth env)
    (hnamed : WellNamed clusterAt peers) (s : ConnectionPass) :
    ((reconcilePeers clusterAt env peers).exec s).2.remote = reconciled peers s.remote := by
  have hpass : Triple (fun s' => s'.remote = s.remote) (reconcilePeers clusterAt env peers)
      (fun _ s' => s'.remote = reconciled peers s.remote) fun _ s' => s'.remote = reconciled peers s.remote :=
    (triple_reconcilePeers hsmooth hnamed).conseq (fun _ hs => hs) (fun _ _ hs => hs) fun _ _ hs => hs.elim
  exact hpass.exec rfl

/-- An entry becomes the declared one unless it is kept with another address. -/
theorem entry_declared_iff (hname : p.name ≠ name) (haddress : p.address ≠ "") (old : Option RemoteClusterInfo) :
    (if Skipped name p old then old else some p.entry) = some p.entry ↔
      ∀ e ∈ old, e.connectionEnabled = p.enable → e.address = p.address := by
  cases old with
  | none =>
    have hneeded : ¬ Skipped name p none := by simp [Skipped, hname, haddress]
    rw [if_neg hneeded]
    simp
  | some e =>
    by_cases hflag : e.connectionEnabled = p.enable
    · have hskip : Skipped name p (some e) := .inr (.inr (by simp [hflag]))
      rw [if_pos hskip]
      constructor
      · rintro heq e' he' -
        obtain rfl := Option.some.inj he'
        exact congrArg RemoteClusterInfo.address (Option.some.inj heq)
      · intro h
        have haddr : e.address = p.address := h e rfl hflag
        rw [ResolvedPeer.entry, ← haddr, ← hflag]
    · have hneeded : ¬ Skipped name p (some e) := by simp [Skipped, hname, haddress, hflag]
      rw [if_neg hneeded]
      refine ⟨fun _ e' he' hsame => ?_, fun _ => rfl⟩
      obtain rfl := Option.some.inj he'
      exact absurd hsame hflag

/-- **A pass in which every call succeeds registers every other peer with its address and its declared state on every
dialed peer, unless a registry has the peer in its declared state under another address.** -/
theorem peers_converge_iff {clusterAt : String → String} {env : ConnectionEnv} {spec : TemporalClusterConnectionSpec}
    (hadmitted : validate spec = .ok ()) (hsmooth : Smooth env)
    (hlives : ∀ p ∈ resolvePeers env spec, p.address ≠ "" → clusterAt p.address = p.name) (s : ConnectionPass) :
    let peers := resolvePeers env spec
    let after := ((reconcilePeers clusterAt env peers).exec s).2.remote
    (∀ l ∈ peers, Dialed l → ∀ p ∈ peers, p.name ≠ l.name → p.address ≠ "" →
      (after l.name).lookup p.name = some p.entry) ↔
    ∀ l ∈ peers, Dialed l → ∀ p ∈ peers, p.name ≠ l.name → p.address ≠ "" →
      ∀ e ∈ (s.remote l.name).lookup p.name, e.connectionEnabled = p.enable → e.address = p.address := by
  intro peers after
  have hnamed : WellNamed clusterAt peers := wellNamed_resolvePeers hadmitted hlives
  have hafter : after = reconciled peers s.remote := reconcilePeers_reconciled hsmooth hnamed s
  -- what becomes of one entry, from what it was
  have hentry : ∀ l ∈ peers, Dialed l → ∀ p ∈ peers, p.name ≠ l.name → p.address ≠ "" →
      ((after l.name).lookup p.name = some p.entry ↔
        ∀ e ∈ (s.remote l.name).lookup p.name, e.connectionEnabled = p.enable → e.address = p.address) := by
    intro l hl hdialed p hp hname haddress
    have hlookup : (after l.name).lookup p.name = if Skipped l.name p ((s.remote l.name).lookup p.name) then
        (s.remote l.name).lookup p.name else some p.entry := by
      have hconverge : after l.name = converge l.name peers (s.remote l.name) := by
        rw [hafter, reconciled, if_pos ⟨l, hl, hdialed, rfl⟩]
      rw [hconverge, lookup_converge hnamed.nodup hp]
    rw [hlookup]
    exact entry_declared_iff hname haddress _
  exact ⟨fun h l hl hd p hp hn ha => (hentry l hl hd p hp hn ha).mp (h l hl hd p hp hn ha),
    fun h l hl hd p hp hn ha => (hentry l hl hd p hp hn ha).mpr (h l hl hd p hp hn ha)⟩

/-- Two peers: a local dev server, and an external cluster at `address`. -/
def samplePeers (address : String) : TemporalClusterConnectionSpec where
  peers :=
    [{ name := "east", clusterRef := some { name := "east", kind := "TemporalDevServer" } },
      { name := "west", frontendAddress := address }]

def smoothEnv : ConnectionEnv where
  targets := fun _ => { getDevServer := .ok { name := "east", conditions := [⟨.ready, .true, "Ready", "", 1⟩] } }

theorem smooth_smoothEnv : Smooth smoothEnv := ⟨fun _ => rfl, fun _ => rfl, fun _ _ => rfl⟩

/-- West lives at both of its addresses, and nothing else lives there. -/
def sampleClusterAt (address : String) : String := if address ∈ ["west-1:7233", "west-2:7233"] then "west" else "east"

def samplePass (registries : Registries) (address : String) : ConnectionPass where
  stored := none
  obj := { name := "pair", spec := samplePeers address, status := {} }
  remote := registries

/-- From empty registries, west is registered on east. -/
theorem peers_converge_iff_sample :
    let peers := resolvePeers smoothEnv (samplePeers "west-1:7233")
    let s := samplePass (fun _ => ∅) "west-1:7233"
    ∀ l ∈ peers, Dialed l → ∀ p ∈ peers, p.name ≠ l.name → p.address ≠ "" →
      ((((reconcilePeers sampleClusterAt smoothEnv peers).exec s).2.remote) l.name).lookup p.name = some p.entry := by
  intro peers s
  refine (peers_converge_iff (by decide +kernel) smooth_smoothEnv (by decide +kernel) s).mpr ?_
  rintro l - - p - - - e he
  cases he

/-- West has moved from its first address to its second. Its entry is in the declared state, so it stays. -/
theorem stale_address_stays :
    let peers := resolvePeers smoothEnv (samplePeers "west-2:7233")
    let registries : Registries := fun _ => (∅ : Registry).insert "west" ⟨"west-1:7233", true⟩
    let after := ((reconcilePeers sampleClusterAt smoothEnv peers).exec (samplePass registries "west-2:7233")).2.remote
    validate (samplePeers "west-2:7233") = .ok () ∧
      (∀ p ∈ peers, p.address ≠ "" → sampleClusterAt p.address = p.name) ∧
      (∃ l ∈ peers, l.name = "east" ∧ Dialed l) ∧
      (after "east").lookup "west" = some ⟨"west-1:7233", true⟩ ∧
      ∃ p ∈ peers, p.name = "west" ∧ p.address = "west-2:7233" := by
  decide +kernel

end TemporalOperator.Satellite.Connection
