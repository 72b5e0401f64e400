import TemporalOperator.Satellite.Peers

/-!
# The verdict on a connection

A connection is ready when every enabled peer is connected. What the controller knows of a dialed peer depends on the
calls to that peer alone, so the order in which it goes through the dialed peers does not matter.

* `registered`, `viewAfter`, `view` : what the controller knows of a dialed peer after the upserts;
* `reconcilePeers_verdict` : what a pass returns, for every outcome of its calls;
* `Connected` : the definition of a connected peer;
* `ready_iff_connected` : the verdict is ready when all enabled peers are connected, and does not depend on the order.
-/

namespace TemporalOperator.Satellite.Connection
open Lib Proc

section Views

variable (clusterAt : String → String) (env : ConnectionEnv)

/-! ## What the controller knows after the upserts -/

/-- The dialed peer `name` as the controller knows it, after another peer has been looked at. -/
def registered (name : String) (l : LocalPeerState) (other : ResolvedPeer) : LocalPeerState :=
  if Skipped name other (l.remotes.lookup other.name) ∨ env.upsert l.peer.name other.name ≠ .done then l
  else { l with remotes := l.remotes.insert other.name other.entry }

/-- The dialed peer `name` as the controller knows it, after all peers have been looked at. -/
def viewAfter (peers : List ResolvedPeer) (name : String) (l : LocalPeerState) : LocalPeerState :=
  peers.foldl (registered env name) l

def dialedLocals (registries : Registries) (peers : List ResolvedPeer) : Locals :=
  peers.foldl (withLocal clusterAt env registries) ∅

variable {clusterAt env} {peers : List ResolvedPeer} {registries : Registries} {p other : ResolvedPeer} {name : String}

theorem registered_peer (name : String) (l : LocalPeerState) (other : ResolvedPeer) :
    (registered env name l other).peer = l.peer := by
  unfold registered
  split <;> rfl

theorem viewAfter_peer (peers : List ResolvedPeer) (name : String) (l : LocalPeerState) :
    (viewAfter env peers name l).peer = l.peer := by
  induction peers generalizing l with
  | nil => rfl
  | cons q qs ih => exact (ih (registered env name l q)).trans (registered_peer name l q)

/-- The registries of the servers matter for the view of a peer only when it is dialed. -/
theorem triple_upsertRemote_view (name : String) (l : LocalPeerState) (other : ResolvedPeer) :
    Triple (fun _ => True) (upsertRemote clusterAt env name l other) (fun l' _ => l' = registered env name l other)
      fun _ _ => False := by
  unfold upsertRemote registered
  by_cases hskip : other.name = name ∨ other.address = ""
  · rw [if_pos hskip, if_pos (.inl (hskip.elim .inl fun h => .inr (.inl h)))]
    exact triple_pure fun _ _ => rfl
  · rw [if_neg hskip]
    by_cases hsame : (l.remotes.lookup other.name).any (·.connectionEnabled = other.enable) = true
    · rw [if_pos hsame, if_pos (.inl (.inr (.inr hsame)))]
      exact triple_pure fun _ _ => rfl
    · have hneeded : ¬ Skipped name other (l.remotes.lookup other.name) := by
        obtain ⟨hname, haddress⟩ := not_or.mp hskip
        exact not_or.mpr ⟨hname, not_or.mpr ⟨haddress, hsame⟩⟩
      have hcall : Triple (fun _ => True) (upsertRemoteCluster clusterAt env l.peer other)
          (fun _ _ => env.upsert l.peer.name other.name = .done)
          fun _ _ => env.upsert l.peer.name other.name ≠ .done := by
        unfold upsertRemoteCluster
        refine triple_remoteCall (fun s r _ hserve => ?_) fun s e r _ hserve => ?_
        · cases houtcome : env.upsert l.peer.name other.name with
          | done => rfl
          | failed e => rw [houtcome] at hserve; cases hserve
          | unheard e => rw [houtcome] at hserve; cases hserve
        · intro hdone
          rw [hdone] at hserve
          cases hserve
      rw [if_neg hsame]
      refine triple_attempt_bind hcall (fun _ => triple_pure fun _ hdone => ?_) fun _ => triple_pure fun _ hfailed => ?_
      · rw [if_neg (not_or.mpr ⟨hneeded, not_not_intro hdone⟩)]
        rfl
      · rw [if_pos (.inr hfailed)]

theorem triple_upsertPeers_view (name : String) (l : LocalPeerState) :
    Triple (fun _ => True) (peers.foldlM (upsertRemote clusterAt env name) l)
      (fun l' _ => l' = viewAfter env peers name l) fun _ _ => False := by
  have hloop := triple_foldlM (f := upsertRemote clusterAt env name) (E := fun _ _ => False)
    (I := fun rest l' _ => viewAfter env rest name l' = viewAfter env peers name l) (fun q qs l' s hview => ?_) peers l
  · exact hloop.conseq (fun _ _ => rfl) (fun _ _ hview => hview) fun _ _ hs => hs
  · refine (triple_upsertRemote_view name l' q).conseq (fun _ h => h) (fun l'' _ hl'' => ?_) (fun _ _ hs => hs) s
      trivial
    rw [hl'', ← hview]
    rfl

/-- In whatever order the dialed peers are gone through, each ends with its own view. -/
theorem triple_upsertRemotes_view (locals : Locals) :
    Triple (fun _ => True) (upsertRemotes clusterAt env peers locals)
      (fun locals' _ => ∀ n, locals'.lookup n = (locals.lookup n).map (viewAfter env peers n)) fun _ _ => False := by
  have hloop := triple_foldlM (f := upsertOn clusterAt env peers) (E := fun _ _ => False)
    (I := fun rest (locals' : Locals) _ => rest.Nodup ∧ (∀ n ∈ rest, locals'.lookup n = locals.lookup n) ∧
      ∀ n, n ∉ rest → locals'.lookup n = (locals.lookup n).map (viewAfter env peers n))
    (fun name rest locals' => ?_) (env.order locals.keys) locals
  · refine hloop.conseq (fun _ _ => ⟨?_, fun _ _ => rfl, fun n hn => ?_⟩) (fun _ _ hs n => hs.2.2 n List.not_mem_nil)
      fun _ _ hs => hs
    · exact (env.order_perm locals.keys).nodup_iff.mpr locals.keys_nodup
    · have hnone : locals.lookup n = none :=
        AList.lookup_eq_none.mpr fun hmem => hn ((env.order_perm locals.keys).mem_iff.mpr hmem)
      rw [hnone]
      rfl
  · rintro s ⟨hnodup, htodo, hdone⟩
    obtain ⟨hfresh, hnodup⟩ := List.nodup_cons.mp hnodup
    have hname : locals'.lookup name = locals.lookup name := htodo name List.mem_cons_self
    have hothers : ∀ n, n ∉ rest → n ≠ name → locals'.lookup n = (locals.lookup n).map (viewAfter env peers n) :=
      fun n hn hne => hdone n fun hmem => (List.mem_cons.mp hmem).elim hne hn
    unfold upsertOn
    rw [hname]
    cases hl : locals.lookup name with
    | none =>
      refine ⟨hnodup, fun n hn => htodo n (List.mem_cons_of_mem _ hn), fun n hn => ?_⟩
      by_cases hne : n = name
      · rw [hne, hname, hl]
        rfl
      · exact hothers n hn hne
    | some l =>
      refine triple_bind (triple_upsertPeers_view name l) (fun l' => triple_pure fun _ hl' => ?_) s trivial
      refine ⟨hnodup, fun n hn => ?_, fun n hn => ?_⟩
      · have hne : n ≠ name := fun heq => hfresh (heq ▸ hn)
        rw [AList.lookup_insert_ne hne]
        exact htodo n (List.mem_cons_of_mem _ hn)
      · by_cases hne : n = name
        · rw [hne, AList.lookup_insert, hl, hl']
          rfl
        · rw [AList.lookup_insert_ne hne]
          exact hothers n hn hne

theorem triple_dialLocals_view :
    Triple (fun s => s.remote = registries) (dialLocals clusterAt env peers)
      (fun locals _ => locals = dialedLocals clusterAt env registries peers) fun _ _ => False := by
  have hloop := triple_foldlM (f := dialLocal clusterAt env) (E := fun _ _ => False)
    (I := fun rest locals (s : ConnectionPass) =>
      rest.foldl (withLocal clusterAt env registries) locals = dialedLocals clusterAt env registries peers ∧
        s.remote = registries)
    (fun p rest locals => ?_) peers ∅
  · exact hloop.conseq (fun _ hs => ⟨rfl, hs⟩) (fun _ _ hs => hs.1) fun _ _ hs => hs
  · rintro s ⟨hlocals, hs⟩
    refine (triple_dialLocal locals p).conseq (fun _ hs => hs) (fun locals' s hs => ?_) (fun _ _ hs => hs) s hs
    obtain ⟨rfl, hs⟩ := hs
    exact ⟨hlocals, hs⟩

/-! ## Looking up -/

theorem lookup_withLocals_of_notMem {n : String} (h : n ∉ peers.map (·.name)) (locals : Locals) :
    (peers.foldl (withLocal clusterAt env registries) locals).lookup n = locals.lookup n := by
  induction peers generalizing locals with
  | nil => rfl
  | cons q qs ih =>
    rw [List.map_cons, List.mem_cons, not_or] at h
    rw [List.foldl_cons, ih h.2]
    unfold withLocal
    split
    · exact AList.lookup_insert_ne h.1
    · rfl

theorem lookup_withLocals (hnodup : (peers.map (·.name)).Nodup) (hp : p ∈ peers) (locals : Locals) :
    (peers.foldl (withLocal clusterAt env registries) locals).lookup p.name =
      if Answers env p then some { peer := p, remotes := registries (clusterAt p.address) }
      else locals.lookup p.name := by
  induction peers generalizing locals with
  | nil => cases hp
  | cons q qs ih =>
    obtain ⟨hfresh, hnodup⟩ := List.nodup_cons.mp hnodup
    rw [List.foldl_cons]
    rcases List.mem_cons.mp hp with rfl | hp
    · rw [lookup_withLocals_of_notMem hfresh]
      unfold withLocal
      split
      · exact AList.lookup_insert locals
      · rfl
    · have hne : p.name ≠ q.name := fun heq => hfresh (List.mem_map.mpr ⟨p, hp, heq⟩)
      rw [ih hnodup hp]
      congr 1
      unfold withLocal
      split
      · exact AList.lookup_insert_ne hne
      · rfl

variable (clusterAt env registries peers) in
/-- What the controller knows of a peer that answers, after the upserts. -/
def view (p : ResolvedPeer) : LocalPeerState :=
  viewAfter env peers p.name { peer := p, remotes := registries (clusterAt p.address) }

theorem view_peer (p : ResolvedPeer) : (view clusterAt env peers registries p).peer = p := viewAfter_peer peers p.name _

variable (clusterAt env registries peers) in
/-- The controller knows the peers that answer, and no others. -/
structure Views (locals : Locals) : Prop where
  known : ∀ p ∈ peers, locals.lookup p.name = if Answers env p then some (view clusterAt env peers registries p) else none
  only : ∀ n, n ∉ peers.map (·.name) → locals.lookup n = none

variable (clusterAt env) in
/-- **What a pass makes of its peers**, for every outcome of its calls. -/
theorem reconcilePeers_verdict (hnodup : (peers.map (·.name)).Nodup) (s : ConnectionPass) :
    ∃ locals, Views clusterAt env peers s.remote locals ∧ ((reconcilePeers clusterAt env peers).exec s).1 =
      .ok (buildStatuses peers locals (computeReachable peers locals)) := by
  have hpass : Triple (fun s' => s'.remote = s.remote) (reconcilePeers clusterAt env peers)
      (fun v _ => ∃ locals, Views clusterAt env peers s.remote locals ∧
        v = buildStatuses peers locals (computeReachable peers locals)) fun _ _ => False := by
    refine triple_bind triple_dialLocals_view fun dialed => ?_
    rintro s' rfl
    refine triple_bind (triple_upsertRemotes_view _) (fun locals => triple_pure fun _ hlocals => ?_) s' trivial
    refine ⟨locals, ⟨fun p hp => ?_, fun n hn => ?_⟩, rfl⟩
    · rw [hlocals, dialedLocals, lookup_withLocals hnodup hp]
      split <;> rfl
    · rw [hlocals, dialedLocals, lookup_withLocals_of_notMem hn]
      rfl
  have hend := hpass s rfl
  rcases hexec : (reconcilePeers clusterAt env peers).exec s with ⟨e | v, s'⟩
  · rw [hexec] at hend
    exact hend.elim
  · rw [hexec] at hend
    obtain ⟨locals, hviews, rfl⟩ := hend
    exact ⟨locals, hviews, rfl⟩

end Views

/-! ## The verdict -/

variable {clusterAt : String → String} {env : ConnectionEnv} {peers : List ResolvedPeer} {registries : Registries}
  {locals locals' : Locals} {p : ResolvedPeer}

theorem mem_allLocals {l : LocalPeerState} : l ∈ allLocals locals ↔ ∃ n, locals.lookup n = some l := by
  unfold allLocals
  rw [List.mem_map]
  constructor
  · rintro ⟨⟨n, l⟩, hmem, rfl⟩
    exact ⟨n, AList.mem_lookup_iff.mpr hmem⟩
  · rintro ⟨n, hl⟩
    exact ⟨⟨n, l⟩, AList.mem_lookup_iff.mp hl, rfl⟩

/-- The peers are the same in another order when all lookups are the same. -/
theorem allLocals_perm (h : ∀ n, locals.lookup n = locals'.lookup n) : (allLocals locals).Perm (allLocals locals') := by
  refine List.Perm.map _ (List.lookup_ext locals.nodupKeys locals'.nodupKeys fun n l => ?_)
  have hn : locals.entries.dlookup n = locals'.entries.dlookup n := h n
  rw [hn]

theorem peerConnected_congr (h : ∀ n, locals.lookup n = locals'.lookup n) (p : ResolvedPeer) :
    peerConnected p peers locals = peerConnected p peers locals' := by
  have hothers := (allLocals_perm h).filter fun l => decide (l.peer.name ≠ p.name)
  unfold peerConnected
  rw [h p.name]
  dsimp only
  rw [hothers.all_eq, hothers.isEmpty_eq]

theorem computeReachable_congr (h : ∀ n, locals.lookup n = locals'.lookup n) :
    computeReachable peers locals = computeReachable peers locals' := by
  have hmark : markReachable locals = markReachable locals' := by
    funext reachable p
    unfold markReachable
    rw [h p.name, (allLocals_perm h).any_eq]
  rw [computeReachable, computeReachable, hmark]

theorem buildStatuses_congr (h : ∀ n, locals.lookup n = locals'.lookup n) :
    buildStatuses peers locals (computeReachable peers locals) =
      buildStatuses peers locals' (computeReachable peers locals') := by
  unfold buildStatuses
  rw [computeReachable_congr h]
  congr 1
  funext v p
  unfold buildStatus
  rw [peerConnected_congr h]

theorem buildStatus_allReady (reachable : String → Bool) (v : Verdict) (p : ResolvedPeer) :
    (buildStatus peers locals reachable v p).allReady =
      (v.allReady && (!p.enable || reachable p.name && peerConnected p peers locals)) := by
  unfold buildStatus
  cases hreachable : reachable p.name <;> cases henable : p.enable <;> cases hconnected : peerConnected p peers locals <;>
    cases hresolve : p.resolveErr <;> simp <;> split <;> rfl

theorem buildStatuses_allReady (reachable : String → Bool) :
    (buildStatuses peers locals reachable).allReady = true ↔
      ∀ p ∈ peers, p.enable = true → reachable p.name = true ∧ peerConnected p peers locals = true := by
  have hloop : ∀ (ps : List ResolvedPeer) (v : Verdict), (ps.foldl (buildStatus peers locals reachable) v).allReady =
      (v.allReady && ps.all fun p => !p.enable || reachable p.name && peerConnected p peers locals) := by
    intro ps
    induction ps with
    | nil => exact fun v => (Bool.and_true v.allReady).symm
    | cons p ps ih =>
      intro v
      rw [List.foldl_cons, ih, buildStatus_allReady, List.all_cons, Bool.and_assoc]
  unfold buildStatuses
  rw [hloop]
  simp only [Bool.true_and, List.all_eq_true, Bool.or_eq_true, Bool.not_eq_true', Bool.and_eq_true]
  refine forall₂_congr fun p _ => ?_
  cases p.enable <;> simp

/-- A local peer is reachable when it is dialed, an external one when a dialed peer has an entry of it. -/
def reachableNow (locals : Locals) (p : ResolvedPeer) : Bool :=
  if p.isLocal then (locals.lookup p.name).isSome
  else (allLocals locals).any fun l => (l.remotes.lookup p.name).isSome

theorem markReachable_of_ne {n : String} (hn : n ≠ p.name) (reachable : String → Bool) :
    markReachable locals reachable p n = reachable n := by
  unfold markReachable
  split
  · exact Function.update_of_ne hn _ _
  · split
    · exact Function.update_of_ne hn _ _
    · rfl

theorem markReachable_self {reachable : String → Bool} (h : reachable p.name = false) :
    markReachable locals reachable p p.name = reachableNow locals p := by
  unfold markReachable reachableNow
  split
  · exact Function.update_self _ _ _
  · split
    · rename_i hany
      rw [Function.update_self, hany]
    · rename_i hany
      rw [h, Bool.eq_false_of_not_eq_true hany]

theorem markReachables_of_notMem {n : String} (hn : n ∉ peers.map (·.name)) (reachable : String → Bool) :
    peers.foldl (markReachable locals) reachable n = reachable n := by
  induction peers generalizing reachable with
  | nil => rfl
  | cons q qs ih =>
    rw [List.map_cons, List.mem_cons, not_or] at hn
    rw [List.foldl_cons, ih hn.2, markReachable_of_ne hn.1]

theorem markReachables_mem (hnodup : (peers.map (·.name)).Nodup) (hp : p ∈ peers) {reachable : String → Bool}
    (h : reachable p.name = false) : peers.foldl (markReachable locals) reachable p.name = reachableNow locals p := by
  induction peers generalizing reachable with
  | nil => cases hp
  | cons q qs ih =>
    obtain ⟨hfresh, hnodup⟩ := List.nodup_cons.mp hnodup
    rw [List.foldl_cons]
    rcases List.mem_cons.mp hp with rfl | hp
    · rw [markReachables_of_notMem hfresh, markReachable_self h]
    · have hne : p.name ≠ q.name := fun heq => hfresh (List.mem_map.mpr ⟨p, hp, heq⟩)
      exact ih hnodup hp ((markReachable_of_ne hne _).trans h)

theorem computeReachable_eq (hnodup : (peers.map (·.name)).Nodup) (hp : p ∈ peers) :
    computeReachable peers locals p.name = reachableNow locals p :=
  markReachables_mem hnodup hp rfl

/-! ## The definition of a connected peer -/

variable (clusterAt env registries peers) in
/-- A local peer is connected when it is dialed and has every other enabled peer as an enabled remote. An external one
is connected when a local peer is dialed and every dialed peer has it as an enabled remote. -/
def Connected (p : ResolvedPeer) : Prop :=
  if p.isLocal then
    Answers env p ∧ ∀ other ∈ peers, other.name ≠ p.name → other.enable = true →
      enabledIn (view clusterAt env peers registries p) other.name = true
  else
    (∃ q ∈ peers, Answers env q) ∧
      ∀ q ∈ peers, Answers env q → enabledIn (view clusterAt env peers registries q) p.name = true

section Views

variable (hviews : Views clusterAt env peers registries locals)
include hviews

theorem Views.lookup_eq_some {n : String} {l : LocalPeerState} :
    locals.lookup n = some l ↔ ∃ p ∈ peers, Answers env p ∧ p.name = n ∧ view clusterAt env peers registries p = l := by
  constructor
  · intro hl
    have hn : n ∈ peers.map (·.name) := by
      by_contra hn
      rw [hviews.only n hn] at hl
      cases hl
    obtain ⟨p, hp, rfl⟩ := List.mem_map.mp hn
    rw [hviews.known p hp] at hl
    split at hl
    · exact ⟨p, hp, ‹_›, rfl, Option.some.inj hl⟩
    · cases hl
  · rintro ⟨p, hp, hanswers, rfl, rfl⟩
    rw [hviews.known p hp, if_pos hanswers]

theorem Views.mem_allLocals {l : LocalPeerState} :
    l ∈ allLocals locals ↔ ∃ p ∈ peers, Answers env p ∧ view clusterAt env peers registries p = l := by
  rw [Connection.mem_allLocals]
  constructor
  · rintro ⟨n, hl⟩
    obtain ⟨p, hp, hanswers, -, hview⟩ := hviews.lookup_eq_some.mp hl
    exact ⟨p, hp, hanswers, hview⟩
  · rintro ⟨p, hp, hanswers, hview⟩
    exact ⟨p.name, hviews.lookup_eq_some.mpr ⟨p, hp, hanswers, rfl, hview⟩⟩

theorem Views.isSome_iff (hp : p ∈ peers) : (locals.lookup p.name).isSome = true ↔ Answers env p := by
  rw [hviews.known p hp]
  split
  · exact iff_of_true rfl ‹_›
  · exact iff_of_false Bool.false_ne_true ‹_›

/-- No dialed peer has the name of an external one. -/
theorem Views.others_eq (hnodup : (peers.map (·.name)).Nodup) (hp : p ∈ peers) (hexternal : p.isLocal = false) :
    (allLocals locals).filter (·.peer.name ≠ p.name) = allLocals locals := by
  refine List.filter_eq_self.mpr fun l hl => decide_eq_true fun hname => ?_
  obtain ⟨q, hq, hanswers, rfl⟩ := hviews.mem_allLocals.mp hl
  rw [view_peer] at hname
  obtain rfl := List.inj_on_of_nodup_map hnodup hq hp hname
  exact Bool.false_ne_true (hexternal.symm.trans hanswers.1.1)

theorem Views.connected_local (hp : p ∈ peers) (hlocal : p.isLocal = true) :
    peerConnected p peers locals = true ↔ Answers env p ∧ ∀ other ∈ peers, other.name ≠ p.name → other.enable = true →
      other.address ≠ "" → enabledIn (view clusterAt env peers registries p) other.name = true := by
  unfold peerConnected
  rw [if_pos hlocal, hviews.known p hp]
  by_cases hanswers : Answers env p
  · rw [if_pos hanswers]
    simp only [List.all_eq_true, Bool.or_eq_true, decide_eq_true_eq, Bool.not_eq_true', hanswers, true_and]
    refine forall₂_congr fun other _ => ?_
    cases other.enable <;> tauto
  · rw [if_neg hanswers]
    exact iff_of_false Bool.false_ne_true fun h => hanswers h.1

theorem Views.connected_external (hnodup : (peers.map (·.name)).Nodup) (hp : p ∈ peers) (hexternal : p.isLocal = false) :
    peerConnected p peers locals = true ↔ Connected clusterAt env peers registries p := by
  have hcond : ¬ (p.isLocal = true) := by rw [hexternal]; exact Bool.false_ne_true
  unfold peerConnected Connected
  rw [if_neg hcond, if_neg hcond]
  dsimp only
  rw [hviews.others_eq hnodup hp hexternal, Bool.and_eq_true, List.all_eq_true, Bool.not_eq_true',
    List.isEmpty_eq_false_iff_exists_mem, and_comm]
  refine and_congr ⟨?_, ?_⟩ ⟨?_, ?_⟩
  · rintro ⟨l, hl⟩
    obtain ⟨q, hq, hanswers, -⟩ := hviews.mem_allLocals.mp hl
    exact ⟨q, hq, hanswers⟩
  · rintro ⟨q, hq, hanswers⟩
    exact ⟨_, hviews.mem_allLocals.mpr ⟨q, hq, hanswers, rfl⟩⟩
  · intro hall q hq hanswers
    exact hall _ (hviews.mem_allLocals.mpr ⟨q, hq, hanswers, rfl⟩)
  · intro hall l hl
    obtain ⟨q, hq, hanswers, rfl⟩ := hviews.mem_allLocals.mp hl
    exact hall q hq hanswers

/-- An enabled remote has an entry, so a connected external peer is reachable. -/
theorem Views.reachable_external (hexternal : p.isLocal = false) (h : Connected clusterAt env peers registries p) :
    reachableNow locals p = true := by
  have hcond : ¬ (p.isLocal = true) := by rw [hexternal]; exact Bool.false_ne_true
  unfold Connected at h
  rw [if_neg hcond] at h
  obtain ⟨⟨q, hq, hanswers⟩, hall⟩ := h
  unfold reachableNow
  rw [if_neg hcond, List.any_eq_true]
  refine ⟨_, hviews.mem_allLocals.mpr ⟨q, hq, hanswers, rfl⟩, ?_⟩
  have henabled := hall q hq hanswers
  unfold enabledIn at henabled
  cases hinfo : (view clusterAt env peers registries q).remotes.lookup p.name with
  | none =>
    rw [hinfo] at henabled
    cases henabled
  | some info => rfl

/-- A peer whose address is not known is a local one that is not reachable, so its being left out of the registries of
the others does not make the verdict ready. -/
theorem Views.ready_iff (hnodup : (peers.map (·.name)).Nodup)
    (haddress : ∀ p ∈ peers, p.isLocal = false → p.address ≠ "") :
    (buildStatuses peers locals (computeReachable peers locals)).allReady = true ↔
      ∀ p ∈ peers, p.enable = true → Connected clusterAt env peers registries p := by
  rw [buildStatuses_allReady]
  constructor
  · intro hready p hp henable
    obtain ⟨hreachable, hconnected⟩ := hready p hp henable
    cases hlocal : p.isLocal with
    | false => exact (hviews.connected_external hnodup hp hlocal).mp hconnected
    | true =>
      obtain ⟨hanswers, hothers⟩ := (hviews.connected_local hp hlocal).mp hconnected
      unfold Connected
      rw [if_pos hlocal]
      refine ⟨hanswers, fun other hother hne henabled => hothers other hother hne henabled ?_⟩
      -- the other peer is ready too, so it has been dialed if it is local
      have hreachable := (hready other hother henabled).1
      rw [computeReachable_eq hnodup hother, reachableNow] at hreachable
      cases hlocal' : other.isLocal with
      | false => exact haddress other hother hlocal'
      | true =>
        rw [if_pos hlocal', hviews.isSome_iff hother] at hreachable
        exact hreachable.1.2.2
  · intro hconnected p hp henable
    have hp' := hconnected p hp henable
    rw [computeReachable_eq hnodup hp]
    cases hlocal : p.isLocal with
    | false => exact ⟨hviews.reachable_external hlocal hp', (hviews.connected_external hnodup hp hlocal).mpr hp'⟩
    | true =>
      unfold Connected at hp'
      rw [if_pos hlocal] at hp'
      obtain ⟨hanswers, hothers⟩ := hp'
      refine ⟨?_, (hviews.connected_local hp hlocal).mpr ⟨hanswers, fun other hother hne henabled _ => ?_⟩⟩
      · rw [reachableNow, if_pos hlocal]
        exact (hviews.isSome_iff hp).mpr hanswers
      · exact hothers other hother hne henabled

end Views

theorem Views.lookup_unique (h : Views clusterAt env peers registries locals)
    (h' : Views clusterAt env peers registries locals') (n : String) : locals.lookup n = locals'.lookup n := by
  by_cases hn : n ∈ peers.map (·.name)
  · obtain ⟨p, hp, rfl⟩ := List.mem_map.mp hn
    rw [h.known p hp, h'.known p hp]
  · rw [h.only n hn, h'.only n hn]

theorem resolvePeers_address {spec : TemporalClusterConnectionSpec} (hvalid : validatePeers spec = []) :
    ∀ p ∈ resolvePeers env spec, p.isLocal = false → p.address ≠ "" := by
  intro p hp hexternal
  obtain ⟨q, hq, rfl⟩ := List.mem_map.mp hp
  have haddress := address_of_validatePeersFrom hvalid q hq
  unfold resolvePeer at hexternal ⊢
  cases hclusterRef : q.clusterRef with
  | none => exact haddress hclusterRef
  | some ref =>
    rw [hclusterRef] at hexternal
    dsimp only at hexternal
    split at hexternal <;> cases hexternal

/-- **What the verdict means.** A pass over admitted peers is ready when all enabled peers are connected, for every
outcome of its calls. Verdict and statuses are the same in whatever order the dialed peers are gone through. -/
theorem ready_iff_connected (clusterAt : String → String) (env : ConnectionEnv) (spec : TemporalClusterConnectionSpec)
    (hvalid : validatePeers spec = []) (s : ConnectionPass) :
    let peers := resolvePeers env spec
    ∃ v, ((reconcilePeers clusterAt env peers).exec s).1 = .ok v ∧
      (v.allReady = true ↔ ∀ p ∈ peers, p.enable = true → Connected clusterAt env peers s.remote p) ∧
      ∀ order horder,
        ((reconcilePeers clusterAt { env with order := order, order_perm := horder } peers).exec s).1 = .ok v := by
  intro peers
  have hnodup : (peers.map (·.name)).Nodup := by
    rw [resolvePeers_names]
    exact (nodup_of_validatePeersFrom hvalid).1
  obtain ⟨locals, hviews, hverdict⟩ := reconcilePeers_verdict clusterAt env hnodup s
  refine ⟨_, hverdict, hviews.ready_iff hnodup (resolvePeers_address hvalid), fun order horder => ?_⟩
  obtain ⟨locals', hviews', hverdict'⟩ :=
    reconcilePeers_verdict clusterAt { env with order := order, order_perm := horder } hnodup s
  -- what the controller knows of a peer does not mention the order
  have hsame : Views clusterAt env peers s.remote locals' := ⟨hviews'.known, hviews'.only⟩
  rw [hverdict', buildStatuses_congr (hsame.lookup_unique hviews)]

/-- From empty registries, west is registered on east and the pass is ready; if the registry refuses it, it is not. -/
theorem ready_iff_connected_sample :
    let spec := samplePeers "west-1:7233"
    let s := samplePass (fun _ => ∅) "west-1:7233"
    let refusing : ConnectionEnv := { smoothEnv with upsert := fun _ _ => .failed ⟨.unavailable, "refused"⟩ }
    let peers := resolvePeers smoothEnv spec
    validatePeers spec = [] ∧
      (∃ v, ((reconcilePeers sampleClusterAt smoothEnv peers).exec s).1 = .ok v ∧ v.allReady = true ∧
        ∀ p ∈ peers, p.enable = true → Connected sampleClusterAt smoothEnv peers s.remote p) ∧
      ∃ v, ((reconcilePeers sampleClusterAt refusing peers).exec s).1 = .ok v ∧ v.allReady = false ∧
        ¬ ∀ p ∈ peers, p.enable = true → Connected sampleClusterAt refusing peers s.remote p := by
  intro spec s refusing peers
  obtain ⟨hvalid, hsmooth, hrefused⟩ : validatePeers spec = [] ∧
      ((reconcilePeers sampleClusterAt smoothEnv peers).exec s).1.map Verdict.allReady = .ok true ∧
      ((reconcilePeers sampleClusterAt refusing peers).exec s).1.map Verdict.allReady = .ok false := by
    decide +kernel
  refine ⟨hvalid, ?_, ?_⟩
  · obtain ⟨v, hv, hready, -⟩ := ready_iff_connected sampleClusterAt smoothEnv spec hvalid s
    rw [hv] at hsmooth
    have hall : v.allReady = true := Except.ok.inj hsmooth
    exact ⟨v, hv, hall, hready.mp hall⟩
  · obtain ⟨v, hv, hready, -⟩ := ready_iff_connected sampleClusterAt refusing spec hvalid s
    have hpeers : resolvePeers refusing spec = peers := rfl
    rw [hpeers] at hv hready
    rw [hv] at hrefused
    have hall : v.allReady = false := Except.ok.inj hrefused
    exact ⟨v, hv, hall, fun hconnected => Bool.false_ne_true (hall.symm.trans (hready.mpr hconnected))⟩

end TemporalOperator.Satellite.Connection
