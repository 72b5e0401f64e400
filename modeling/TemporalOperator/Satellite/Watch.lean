import TemporalOperator.DevServer.Resources
import TemporalOperator.Lib.Informer
import TemporalOperator.Satellite.Connection
import TemporalOperator.Satellite.Namespace
import TemporalOperator.Satellite.SearchAttribute

/-!
# Watches on targets

`internal/controller/cluster_watch.go`, the `mapClusterTo...` functions and `SetupWithManager` of the controllers whose
objects refer to a `TemporalCluster` or a `TemporalDevServer`. A pass of these controllers reads its object and then
resolves each target; it is woken by changes of a target that `clusterReadinessChanged` lets through.

* `clusterReadinessChanged`, `mapClusterTo` : the predicate and the map functions; `targetWatcher` : the controllers;
* `targetWatcher_sound` : what the predicate holds back does not change a resolved target.
-/

namespace TemporalOperator.Satellite
open Lib

/-! ## Targets -/

inductive TargetKind
  | temporalCluster
  | temporalDevServer
  deriving DecidableEq, Repr

def TargetKind.text : TargetKind → String
  | .temporalCluster => "TemporalCluster"
  | .temporalDevServer => "TemporalDevServer"

structure NamespacedName where
  namespace_ : String
  name : String
  deriving DecidableEq, Repr

structure TargetKey where
  kind : TargetKind
  namespace_ : String
  name : String
  deriving DecidableEq, Repr

inductive Target
  | cluster (uid : String) (c : Cluster)
  | devServer (ns : String) (dev : TemporalDevServer)
  deriving DecidableEq

namespace Target

def uid : Target → String
  | .cluster uid _ => uid
  | .devServer _ dev => dev.uid

def generation : Target → Nat
  | .cluster _ c => c.generation
  | .devServer _ dev => dev.generation

def conditions : Target → List (Condition ConditionType)
  | .cluster _ c => c.status.conditions
  | .devServer _ dev => dev.status.conditions

/-- What `resolveTarget` makes of the target, and of which kind it is. -/
def resolved (lib : CertLib) (secret : Except GoErr Persistence.Secret) :
    Target → TargetKind × Except TargetErr ResolvedTarget
  | .cluster _ c =>
    (.temporalCluster, resolveTarget { getCluster := .ok c, certLib := lib, getSecret := secret } { name := c.name })
  | .devServer ns dev =>
    (.temporalDevServer,
      resolveTarget { getDevServer := .ok (dev.target ns) } { name := dev.name, kind := "TemporalDevServer" })

theorem resolved_devServer (lib : CertLib) (secret : Except GoErr Persistence.Secret) (ns : String)
    (dev : TemporalDevServer) :
    (devServer ns dev).resolved lib secret = (.temporalDevServer, .ok
      { address := devServerFrontendEndpoint (dev.target ns)
        ready := isStatusConditionTrue .ready dev.status.conditions
        workflowRunPolicy := effectiveWorkflowRunPolicy true dev.spec.workflowRunPolicy }) := by
  simp [resolved, resolveTarget, TemporalDevServer.target]

/-- The second is a later version of the first, or another object: a version of the same object has the same name, and
the same spec if it has the same generation. -/
def Later : Target → Target → Prop
  | .cluster uid c, .cluster uid' c' =>
    uid = uid' → c'.name = c.name ∧ c'.namespace_ = c.namespace_ ∧ (c'.generation = c.generation → c'.spec = c.spec)
  | .devServer ns dev, .devServer ns' dev' =>
    dev.uid = dev'.uid → ns' = ns ∧ dev'.name = dev.name ∧ (dev'.generation = dev.generation → dev'.spec = dev.spec)
  | t, t' => t.uid ≠ t'.uid

instance : DecidableRel Later
  | .cluster .., .cluster .. => inferInstanceAs (Decidable (_ → _))
  | .devServer .., .devServer .. => inferInstanceAs (Decidable (_ → _))
  | .cluster .., .devServer .. => inferInstanceAs (Decidable (_ ≠ _))
  | .devServer .., .cluster .. => inferInstanceAs (Decidable (_ ≠ _))

/-- Both are versions of one object. -/
def same (t t' : Target) : Bool := t.uid = t'.uid

end Target

/-! ## The predicate and the map functions -/

def refTargets (ref : ClusterReference) (kind name : String) : Bool :=
  let refKind := if ref.kind = "" then "TemporalCluster" else ref.kind
  refKind = kind && ref.name = name

def targetReadyStatus (t : Target) : ConditionStatus :=
  ((findStatusCondition .ready t.conditions).map (·.status)).getD .unknown

/-- `clusterReadinessChanged` on what was cached before and what is cached now: a creation, a deletion or an update. -/
def clusterReadinessChanged : Option Target → Option Target → Bool
  | none, some _ => true
  | some old, some new =>
    if old.generation ≠ new.generation then true else targetReadyStatus old ≠ targetReadyStatus new
  | _, none => false

/-- The map functions: the listed objects in the namespace of the target that refer to it, each once. -/
def mapClusterTo {S : Type} (refs : S → List ClusterReference) (target : TargetKey) (items : List (NamespacedName × S)) :
    List NamespacedName :=
  (items.filter fun item => item.1.namespace_ = target.namespace_ &&
    (refs item.2).any (refTargets · target.kind.text target.name)).map Prod.fst

def mapClusterToNamespaces := mapClusterTo fun spec : Namespace.TemporalNamespaceSpec => [spec.clusterRef]

def mapClusterToSchedules := mapClusterTo fun spec : TemporalScheduleSpec => [spec.clusterRef]

def mapClusterToSearchAttributes :=
  mapClusterTo fun spec : SearchAttribute.TemporalSearchAttributeSpec => [spec.clusterRef]

def mapClusterToWorkflowRuns := mapClusterTo fun spec : TemporalWorkflowRunSpec => [spec.clusterRef]

def mapClusterToConnections :=
  mapClusterTo fun spec : Connection.TemporalClusterConnectionSpec => spec.peers.filterMap (·.clusterRef)

/-! ## The controllers -/

/-- The target that a pass reads for a reference. -/
def targetKey (ns : String) (ref : ClusterReference) : Option TargetKey :=
  if ref.kind = "" ∨ ref.kind = "TemporalCluster" then some ⟨.temporalCluster, ns, ref.name⟩
  else if ref.kind = "TemporalDevServer" then some ⟨.temporalDevServer, ns, ref.name⟩
  else none

/-- A controller whose objects have references `refs`, which are resolved one after the other. -/
def targetWatcher {S : Type} (refs : S → List ClusterReference) : Watcher NamespacedName S TargetKey Target where
  reads d spec := (refs spec).filterMap (targetKey d.namespace_)
  fires _ := clusterReadinessChanged
  requests := mapClusterTo refs

/-! `SetupWithManager` of the controllers with targets. -/

def namespaceWatcher : Watcher NamespacedName Namespace.TemporalNamespaceSpec TargetKey Target :=
  { targetWatcher fun spec => [spec.clusterRef] with requests := mapClusterToNamespaces }

def scheduleWatcher : Watcher NamespacedName TemporalScheduleSpec TargetKey Target :=
  { targetWatcher fun spec => [spec.clusterRef] with requests := mapClusterToSchedules }

def searchAttributeWatcher : Watcher NamespacedName SearchAttribute.TemporalSearchAttributeSpec TargetKey Target :=
  { targetWatcher fun spec => [spec.clusterRef] with requests := mapClusterToSearchAttributes }

def workflowRunWatcher : Watcher NamespacedName TemporalWorkflowRunSpec TargetKey Target :=
  { targetWatcher fun spec => [spec.clusterRef] with requests := mapClusterToWorkflowRuns }

def connectionWatcher : Watcher NamespacedName Connection.TemporalClusterConnectionSpec TargetKey Target :=
  { targetWatcher fun spec => spec.peers.filterMap (·.clusterRef) with requests := mapClusterToConnections }

example : namespaceWatcher = targetWatcher (fun spec => [spec.clusterRef]) ∧
    scheduleWatcher = targetWatcher (fun spec => [spec.clusterRef]) ∧
    searchAttributeWatcher = targetWatcher (fun spec => [spec.clusterRef]) ∧
    workflowRunWatcher = targetWatcher (fun spec => [spec.clusterRef]) ∧
    connectionWatcher = targetWatcher (fun spec => spec.peers.filterMap (·.clusterRef)) := ⟨rfl, rfl, rfl, rfl, rfl⟩

/-- The answers to `resolveTarget` of an API that has `objects`; `secret` is what the read of the certificate gives. -/
def targetReads (objects : TargetKey → Option Target) (lib : CertLib) (secret : Except GoErr Persistence.Secret)
    (ns : String) (ref : ClusterReference) : TargetIO where
  getCluster :=
    match objects ⟨.temporalCluster, ns, ref.name⟩ with
    | some (.cluster _ c) => .ok c
    | _ => .error ⟨.notFound, "not found"⟩
  certLib := lib
  getSecret := secret
  getDevServer :=
    match objects ⟨.temporalDevServer, ns, ref.name⟩ with
    | some (.devServer ns dev) => .ok (dev.target ns)
    | _ => .error ⟨.notFound, "not found"⟩

theorem refTargets_targetKey {ns : String} {ref : ClusterReference} {k : TargetKey} (h : targetKey ns ref = some k) :
    k.namespace_ = ns ∧ refTargets ref k.kind.text k.name = true := by
  unfold targetKey at h
  unfold refTargets
  split at h
  next hkind =>
    obtain rfl := Option.some.inj h
    rcases hkind with hkind | hkind <;> simp [hkind, TargetKind.text]
  next =>
    split at h
    next hkind =>
      obtain rfl := Option.some.inj h
      simp [hkind, TargetKind.text]
    next => cases h

/-- The map function names every object that refers to the target. -/
theorem mem_mapClusterTo {S : Type} {refs : S → List ClusterReference} {items : List (NamespacedName × S)}
    {d : NamespacedName} {spec : S} (hmem : (d, spec) ∈ items) {k : TargetKey}
    (hk : k ∈ (targetWatcher refs).reads d spec) : d ∈ mapClusterTo refs k items := by
  obtain ⟨ref, href, hkey⟩ := List.mem_filterMap.mp hk
  obtain ⟨hns, htargets⟩ := refTargets_targetKey hkey
  refine List.mem_map.mpr ⟨(d, spec), List.mem_filter.mpr ⟨hmem, ?_⟩, rfl⟩
  rw [hns, decide_eq_true rfl, Bool.true_and]
  exact List.any_eq_true.mpr ⟨ref, href, htargets⟩

/-- An update that the predicate holds back leaves the Ready condition true, or not. -/
theorem isTrue_of_targetReadyStatus {t t' : Target} (h : targetReadyStatus t = targetReadyStatus t') :
    isStatusConditionTrue .ready t.conditions = isStatusConditionTrue .ready t'.conditions := by
  have htrue : ∀ t : Target, isStatusConditionTrue .ready t.conditions = decide (targetReadyStatus t = .true) := by
    intro t
    rw [isStatusConditionTrue_eq, targetReadyStatus]
    cases (findStatusCondition .ready t.conditions).map (·.status) <;> simp
  rw [htrue, htrue, h]

/-- **What the predicate holds back does not change a resolved target.** -/
theorem targetWatcher_sound {S : Type} (refs : S → List ClusterReference) (lib : CertLib)
    (secret : Except GoErr Persistence.Secret) :
    (targetWatcher refs).Sound Target.Later Target.same (Target.resolved lib secret) where
  refl t := by
    cases t with
    | cluster uid c => exact fun _ => ⟨rfl, rfl, fun _ => rfl⟩
    | devServer ns dev => exact fun _ => ⟨rfl, rfl, fun _ => rfl⟩
  created _ _ := rfl
  quiet k t t' hlater hsame hfires := by
    have huid : t.uid = t'.uid := of_decide_eq_true hsame
    have hgen : t.generation = t'.generation := by
      by_contra hne
      simp [targetWatcher, clusterReadinessChanged, hne] at hfires
    have hready : targetReadyStatus t = targetReadyStatus t' := by
      simpa [targetWatcher, clusterReadinessChanged, hgen] using hfires
    have htrue := isTrue_of_targetReadyStatus hready
    cases t with
    | cluster uid c =>
      cases t' with
      | cluster uid' c' =>
        obtain ⟨hname, hns, hspec⟩ := hlater huid
        have haddress : frontendAddress c = frontendAddress c' := by rw [frontendAddress, frontendAddress, hname, hns]
        have htls : clusterTLSConfig lib secret c = clusterTLSConfig lib secret c' := by
          rw [clusterTLSConfig, clusterTLSConfig, hspec hgen.symm, hname, hns]
        have hholds : c.status.holds .ready = c'.status.holds .ready := htrue
        simp only [Target.resolved, resolveTarget, haddress, htls, hholds, hspec hgen.symm]
      | devServer ns dev => exact absurd huid hlater
    | devServer ns dev =>
      cases t' with
      | cluster uid' c' => exact absurd huid hlater
      | devServer ns' dev' =>
        obtain ⟨rfl, hname, hspec⟩ := hlater huid
        have haddress : devServerFrontendEndpoint (dev.target ns') = devServerFrontendEndpoint (dev'.target ns') := by
          rw [devServerFrontendEndpoint_target, devServerFrontendEndpoint_target, devServerEndpoint, devServerEndpoint, hname]
        have hholds : isStatusConditionTrue .ready dev.status.conditions =
          isStatusConditionTrue .ready dev'.status.conditions := htrue
        rw [Target.resolved_devServer, Target.resolved_devServer, haddress, hholds, hspec hgen.symm]
  mapped _ _ _ _ hmem hk := mem_mapClusterTo hmem hk

/-- What a reference to a target of this kind is resolved to. -/
def answerOf (kind : TargetKind) : Option (TargetKind × Except TargetErr ResolvedTarget) → Except TargetErr ResolvedTarget
  | some (kind', answer) => if kind' = kind then answer else .error .notFound
  | none => .error .notFound

section Resolve

variable {lib : CertLib} {secret : Except GoErr Persistence.Secret} {ns : String} {ref : ClusterReference}
  (objects : TargetKey → Option Target)

theorem resolveTarget_cluster (hkind : ref.kind = "" ∨ ref.kind = "TemporalCluster") :
    resolveTarget (targetReads objects lib secret ns ref) ref =
      answerOf .temporalCluster ((objects ⟨.temporalCluster, ns, ref.name⟩).map (Target.resolved lib secret)) := by
  rw [resolveTarget, if_pos hkind]
  unfold targetReads
  cases objects ⟨.temporalCluster, ns, ref.name⟩ with
  | none => rfl
  | some t =>
    cases t with
    | cluster uid c => simp [answerOf, Target.resolved, resolveTarget]
    | devServer ns dev => rfl

theorem resolveTarget_devServer (hcluster : ¬ (ref.kind = "" ∨ ref.kind = "TemporalCluster"))
    (hkind : ref.kind = "TemporalDevServer") :
    resolveTarget (targetReads objects lib secret ns ref) ref =
      answerOf .temporalDevServer ((objects ⟨.temporalDevServer, ns, ref.name⟩).map (Target.resolved lib secret)) := by
  rw [resolveTarget, if_neg hcluster, if_pos hkind]
  unfold targetReads
  cases objects ⟨.temporalDevServer, ns, ref.name⟩ with
  | none => rfl
  | some t =>
    cases t with
    | cluster uid c => rfl
    | devServer ns dev => simp [answerOf, Target.resolved_devServer, TemporalDevServer.target]

theorem resolveTarget_congr {objects' : TargetKey → Option Target}
    (h : ∀ k ∈ targetKey ns ref,
      (objects k).map (Target.resolved lib secret) = (objects' k).map (Target.resolved lib secret)) :
    resolveTarget (targetReads objects lib secret ns ref) ref =
      resolveTarget (targetReads objects' lib secret ns ref) ref := by
  unfold targetKey at h
  by_cases hcluster : ref.kind = "" ∨ ref.kind = "TemporalCluster"
  · rw [if_pos hcluster] at h
    rw [resolveTarget_cluster objects hcluster, resolveTarget_cluster objects' hcluster, h _ rfl]
  · by_cases hdev : ref.kind = "TemporalDevServer"
    · rw [if_neg hcluster, if_pos hdev] at h
      rw [resolveTarget_devServer objects hcluster hdev, resolveTarget_devServer objects' hcluster hdev, h _ rfl]
    · simp only [resolveTarget, if_neg hcluster, if_neg hdev]

end Resolve

/-- **No wake-up is lost.** In every interleaving of writes, caches, notices and passes, with any references: when
nothing is under way for an object, its own cache entry and those of its targets have caught up with the API server and
no notice that would wake it is left, then the last pass over it has read its present spec, and each of its references
whose target exists it has resolved to what it resolves to now, if the Secret for TLS is read as it was. -/
theorem no_lost_wakeup {S : Type} {refs : S → List ClusterReference}
    {s : WatchState NamespacedName S TargetKey Target} {h : List (WatchEvent NamespacedName S TargetKey Target)}
    (hr : (targetWatcher refs).system.Run (fun s _ => Watcher.Orderly Target.Later Target.same s) {} s h)
    {d : NamespacedName} (hsettled : Watcher.Settled s d) {spec : S} (hstored : s.ownStore d = some spec)
    (hcached : s.ownCache.lookup d = s.ownStore d) {ref : ClusterReference} (href : ref ∈ refs spec)
    (hsynced : ∀ k ∈ targetKey d.namespace_ ref, s.cache k = s.store k ∧ ¬ (targetWatcher refs).Announced s k)
    (hpresent : ∀ k ∈ targetKey d.namespace_ ref, s.store k ≠ none) (lib : CertLib)
    (secret : Except GoErr Persistence.Secret) :
    s.seenOwn d = some spec ∧ resolveTarget (targetReads (s.seen d) lib secret d.namespace_ ref) ref =
      resolveTarget (targetReads s.store lib secret d.namespace_ ref) ref := by
  have hcovered := Watcher.system_covered (targetWatcher_sound refs lib secret) hr d
  obtain ⟨hown, hcurrent⟩ := hsettled.fresh hcovered (hcached.trans hstored)
  refine ⟨hown, resolveTarget_congr _ fun k hk => ?_⟩
  obtain ⟨hcache, hquiet⟩ := hsynced k hk
  have hreads : k ∈ (targetWatcher refs).reads d spec := List.mem_filterMap.mpr ⟨ref, href, hk⟩
  have hview := (hcurrent k hreads (.inl (hcache ▸ hpresent k hk))).resolve_left hquiet
  rw [hview, hcache]

/-! ### A connection whose targets appear -/

def linkSpec : Connection.TemporalClusterConnectionSpec where
  peers :=
    [{ name := "east", clusterRef := some { name := "east" } },
      { name := "west", clusterRef := some { name := "west", kind := "TemporalDevServer" } }]

def link : NamespacedName := ⟨"orders", "link"⟩

def eastKey : TargetKey := ⟨.temporalCluster, "orders", "east"⟩

def westKey : TargetKey := ⟨.temporalDevServer, "orders", "west"⟩

def east (conditions : List (Condition ConditionType)) : Target :=
  .cluster "1" { name := "east", namespace_ := "orders", spec := sampleSpec "1.31.0", status := { conditions } }

def west : Target := .devServer "orders" { name := "west", uid := "2", spec := {}, status := {} }

def readyEast : Target := east [⟨.ready, .true, "Available", "", 1⟩]

/-- The events of a whole pass over the connection. -/
def linkPass : List (WatchEvent NamespacedName Connection.TemporalClusterConnectionSpec TargetKey Target) :=
  [.take link, .get link, .read link, .read link, .finish link false]

/-- The connection is created before its targets. The second target is created while a pass reads the first, and the first
becomes ready at the end. -/
def linkEvents : List (WatchEvent NamespacedName Connection.TemporalClusterConnectionSpec TargetKey Target) :=
  [.writeOwn link (some linkSpec), .syncOwn link, .deliver (.own link) false] ++ linkPass ++
  [.write eastKey (some (east [])), .sync eastKey, .deliver (.other eastKey none (some (east []))) false,
    .take link, .get link, .read link, .write westKey (some west), .read link, .sync westKey, .finish link false,
    .deliver (.other westKey none (some west)) false] ++ linkPass ++
  [.write eastKey (some readyEast), .sync eastKey,
    .deliver (.other eastKey (some (east [])) (some readyEast)) false] ++ linkPass

def linkState : WatchState NamespacedName Connection.TemporalClusterConnectionSpec TargetKey Target :=
  (connectionWatcher.system.exec {} [] linkEvents).1

theorem linkState_run : connectionWatcher.system.Run (fun s _ => Watcher.Orderly Target.Later Target.same s) {}
    linkState (connectionWatcher.system.exec {} [] linkEvents).2 :=
  System.Run.exec .start (by decide +kernel)

theorem no_lost_wakeup_link :
    linkState.seenOwn link = some linkSpec ∧
      resolveTarget (targetReads (linkState.seen link) {} (.ok {}) "orders" { name := "east" }) { name := "east" } =
        .ok { address := "east-frontend.orders.svc:7233", ready := true, workflowRunPolicy := { enabled := false } } := by
  have hstate : linkState.queued link = false ∧ linkState.work link = .idle ∧ linkState.notices = [] ∧
      linkState.ownStore link = some linkSpec ∧ linkState.ownCache.lookup link = linkState.ownStore link ∧
      linkState.cache eastKey = linkState.store eastKey ∧ linkState.store eastKey = some readyEast := by
    decide +kernel
  obtain ⟨hqueued, hwork, hnotices, hstored, hcached, hsync, heast⟩ := hstate
  have hsettled : Watcher.Settled linkState link := ⟨hqueued, hwork, by simp [hnotices]⟩
  have href : ({ name := "east" } : ClusterReference) ∈ linkSpec.peers.filterMap (·.clusterRef) := by decide
  have hwake := no_lost_wakeup linkState_run hsettled hstored hcached href ?_ ?_ {} (.ok {})
  · refine ⟨hwake.1, hwake.2.trans ?_⟩
    rw [resolveTarget_cluster linkState.store (.inl rfl)]
    change answerOf _ ((linkState.store eastKey).map _) = _
    rw [heast]
    decide +kernel
  · rintro k ⟨⟩
    refine ⟨hsync, ?_⟩
    rintro ⟨old, new, hmem, -⟩
    rw [hnotices] at hmem
    cases hmem
  · rintro k ⟨⟩
    change linkState.store eastKey ≠ none
    simp [heast]

end TemporalOperator.Satellite
