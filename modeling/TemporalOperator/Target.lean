import TemporalOperator.Api.Schedule
import TemporalOperator.Cluster.Environment
import TemporalOperator.Lib.GoText

/-!
# Temporal targets and calls

`internal/controller/{target,temporal_tls,cluster_watch}.go`, shared by the controllers that talk to a Temporal frontend.

* `clusterTLSConfig` : the TLS client for a cluster;
* `resolveTarget` : from a cluster reference to a frontend; `TargetUnreadable`, `TargetTLSFails` : how it fails when the
  target may be there (`resolveTarget_eq_other`); `TargetUnreachable` : a controller may give up on it;
* `RpcErr`, `isTransientClusterErr` : errors of Temporal calls;
* `Outcome` : how a call that changes something goes, which may fail before or after it has taken effect.
-/

namespace TemporalOperator
open Lib Persistence

/-! ## TLS -/

/-- What the client needs of `crypto/tls` and `crypto/x509`. -/
structure CertLib where
  /-- `tls.X509KeyPair` fails. -/
  keyPairErr : GoString → GoString → Option GoErr := fun _ _ => none
  /-- `AppendCertsFromPEM` finds a certificate. -/
  hasCertificate : GoString → Bool := fun _ => true

inductive TLSVersion
  | tls12
  | tls13
  deriving DecidableEq, Repr

/-- A key pair and a pool are given by the texts they were read from. -/
structure TLSClientConfig where
  certificate : GoString × GoString
  rootCAs : GoString
  serverName : String
  minVersion : TLSVersion
  deriving DecidableEq, Repr

/-- `read` answers the read of the internode Secret; the result is `none` when the cluster has no mTLS. -/
def clusterTLSConfig (lib : CertLib) (read : Except GoErr Secret) (c : Cluster) :
    Except GoErr (Option TLSClientConfig) :=
  match c.spec.mtls with
  | none => .ok none
  | some _ =>
    let key := c.namespace_ ++ "/" ++ internodeCertName c.name
    match read with
    | .error e => .error (e.wrap ("reading internode cert secret " ++ key))
    | .ok secret =>
      let crt := (secret.data.lookup "tls.crt").getD []
      let tlsKey := (secret.data.lookup "tls.key").getD []
      let ca := (secret.data.lookup "ca.crt").getD []
      match lib.keyPairErr crt tlsKey with
      | some e => .error (e.wrap "parsing client key pair")
      | none =>
        if !lib.hasCertificate ca then .error (goErr ("no CA certificates found in " ++ key ++ " ca.crt"))
        else .ok (some
          { certificate := (crt, tlsKey)
            rootCAs := ca
            serverName := frontendServiceName c.name ++ "." ++ c.namespace_ ++ ".svc.cluster.local"
            minVersion := .tls12 })

/-! ## Resolving a reference -/

/-- What the controller reads of a `TemporalDevServer`. -/
structure DevServer where
  name : String := ""
  namespace_ : String := "default"
  workflowRunPolicy : Option WorkflowRunPolicy := none
  conditions : List (Condition ConditionType) := []

/-- The answers of the API to `resolveTarget`, and the libraries for TLS. -/
structure TargetIO where
  getCluster : Except GoErr Cluster := .error ⟨.notFound, "not found"⟩
  certLib : CertLib := {}
  /-- The Secret of the internode certificate. -/
  getSecret : Except GoErr Secret := .error ⟨.notFound, "not found"⟩
  getDevServer : Except GoErr DevServer := .error ⟨.notFound, "not found"⟩

/-- A frontend to connect to. -/
structure ResolvedTarget where
  address : String
  tlsConfig : Option TLSClientConfig := none
  ready : Bool
  workflowRunPolicy : WorkflowRunPolicy
  deriving DecidableEq, Repr

inductive TargetErr
  /-- `ErrTargetNotFound`. -/
  | notFound
  | other (err : GoErr)
  deriving DecidableEq, Repr

def getTargetErr (e : GoErr) : TargetErr := if e.cause = .notFound then .notFound else .other e

/-- `frontendAddress` of a cluster. -/
def frontendAddress (cluster : Cluster) : String := cluster.name ++ "-frontend." ++ cluster.namespace_ ++ ".svc:7233"

def devServerFrontendEndpoint (dev : DevServer) : String := dev.name ++ "-devserver." ++ dev.namespace_ ++ ".svc:7233"

/-- The policy of a target; without one, runs are refused on a cluster and allowed on a dev server. -/
def effectiveWorkflowRunPolicy (devServer : Bool) : Option WorkflowRunPolicy → WorkflowRunPolicy
  | some p => p
  | none => { enabled := devServer }

def resolveTarget (io : TargetIO) (ref : ClusterReference) : Except TargetErr ResolvedTarget :=
  if ref.kind = "" ∨ ref.kind = "TemporalCluster" then
    match io.getCluster with
    | .error e => .error (getTargetErr e)
    | .ok cluster =>
      match clusterTLSConfig io.certLib io.getSecret cluster with
      | .error e => .error (.other (e.wrap "building temporal client tls"))
      | .ok tlsConfig =>
        .ok
          { address := frontendAddress cluster
            tlsConfig := tlsConfig
            ready := cluster.status.holds .ready
            workflowRunPolicy := effectiveWorkflowRunPolicy false cluster.spec.workflowRunPolicy }
  else if ref.kind = "TemporalDevServer" then
    match io.getDevServer with
    | .error e => .error (getTargetErr e)
    | .ok dev =>
      .ok
        { address := devServerFrontendEndpoint dev
          ready := isStatusConditionTrue .ready dev.conditions
          workflowRunPolicy := effectiveWorkflowRunPolicy true dev.workflowRunPolicy }
  else .error (.other ⟨.other, "unknown cluster reference kind " ++ GoText.quote ref.kind⟩)

/-- The reference could not be read, for another reason than that the object is missing; or it is of no known kind. -/
def TargetUnreadable (io : TargetIO) (ref : ClusterReference) : Prop :=
  if ref.kind = "" ∨ ref.kind = "TemporalCluster" then ∃ e, io.getCluster = .error e ∧ e.cause ≠ .notFound
  else if ref.kind = "TemporalDevServer" then ∃ e, io.getDevServer = .error e ∧ e.cause ≠ .notFound
  else True

/-- The target is there, but its TLS configuration cannot be built. -/
def TargetTLSFails (io : TargetIO) (ref : ClusterReference) : Prop :=
  (ref.kind = "" ∨ ref.kind = "TemporalCluster") ∧
    ∃ cluster e, io.getCluster = .ok cluster ∧ clusterTLSConfig io.certLib io.getSecret cluster = .error e

theorem getTargetErr_eq_other {e e' : GoErr} (h : getTargetErr e = .other e') : e.cause ≠ .notFound := by
  unfold getTargetErr at h
  split at h
  · cases h
  · assumption

theorem getTargetErr_of_ne {e : GoErr} (h : e.cause ≠ .notFound) : getTargetErr e = .other e := if_neg h

/-- The errors of `resolveTarget` other than that the target does not exist. -/
theorem resolveTarget_eq_other {io : TargetIO} {ref : ClusterReference} {e : GoErr}
    (h : resolveTarget io ref = .error (.other e)) : TargetUnreadable io ref ∨ TargetTLSFails io ref := by
  unfold resolveTarget at h
  unfold TargetUnreadable TargetTLSFails
  by_cases hcluster : ref.kind = "" ∨ ref.kind = "TemporalCluster"
  · rw [if_pos hcluster] at h ⊢
    cases hget : io.getCluster with
    | error e' =>
      rw [hget] at h
      exact .inl ⟨e', rfl, getTargetErr_eq_other (Except.error.inj h)⟩
    | ok cluster =>
      rw [hget] at h
      cases htls : clusterTLSConfig io.certLib io.getSecret cluster with
      | error e' => exact .inr ⟨hcluster, cluster, e', rfl, htls⟩
      | ok tlsConfig =>
        simp only [htls] at h
        cases h
  · rw [if_neg hcluster] at h ⊢
    by_cases hdev : ref.kind = "TemporalDevServer"
    · rw [if_pos hdev] at h ⊢
      cases hget : io.getDevServer with
      | error e' =>
        rw [hget] at h
        exact .inl ⟨e', rfl, getTargetErr_eq_other (Except.error.inj h)⟩
      | ok dev =>
        rw [hget] at h
        cases h
    · rw [if_neg hdev]
      exact .inl trivial

theorem TargetUnreadable.resolveTarget {io : TargetIO} {ref : ClusterReference} (h : TargetUnreadable io ref) :
    ∃ e, TemporalOperator.resolveTarget io ref = .error (.other e) := by
  unfold TemporalOperator.resolveTarget
  unfold TargetUnreadable at h
  by_cases hcluster : ref.kind = "" ∨ ref.kind = "TemporalCluster"
  · rw [if_pos hcluster] at h ⊢
    obtain ⟨e, hget, he⟩ := h
    rw [hget]
    exact ⟨e, congrArg Except.error (getTargetErr_of_ne he)⟩
  · rw [if_neg hcluster] at h ⊢
    by_cases hdev : ref.kind = "TemporalDevServer"
    · rw [if_pos hdev] at h ⊢
      obtain ⟨e, hget, he⟩ := h
      rw [hget]
      exact ⟨e, congrArg Except.error (getTargetErr_of_ne he)⟩
    · rw [if_neg hdev]
      exact ⟨_, rfl⟩

theorem TargetUnreadable.not_tlsFails {io : TargetIO} {ref : ClusterReference} (h : TargetUnreadable io ref) :
    ¬ TargetTLSFails io ref := by
  rintro ⟨hcluster, cluster, -, hget, -⟩
  unfold TargetUnreadable at h
  rw [if_pos hcluster, hget] at h
  obtain ⟨e, heq, -⟩ := h
  cases heq

/-- There is nothing to talk to: the target does not exist, or it is there but its TLS configuration or the client
cannot be built. -/
def TargetUnreachable (io : TargetIO) (clientErr : Option GoErr) (ref : ClusterReference) : Prop :=
  resolveTarget io ref = .error .notFound ∨ TargetTLSFails io ref ∨
    (∃ target, resolveTarget io ref = .ok target) ∧ clientErr ≠ none

theorem TargetUnreadable.not_unreachable {io : TargetIO} {ref : ClusterReference} (h : TargetUnreadable io ref)
    (clientErr : Option GoErr) : ¬ TargetUnreachable io clientErr ref := by
  obtain ⟨e, he⟩ := h.resolveTarget
  rintro (hmissing | htls | ⟨⟨target, hok⟩, -⟩)
  · rw [he] at hmissing
    cases hmissing
  · exact h.not_tlsFails htls
  · rw [he] at hok
    cases hok

/-- Where a controller has no client, the target was unreachable, or it could not be read. -/
theorem unreachable_or_unreadable {io : TargetIO} {ref : ClusterReference} {clientErr : Option GoErr}
    (h : (∃ e, resolveTarget io ref = .error e) ∨ clientErr ≠ none) :
    TargetUnreachable io clientErr ref ∨ TargetUnreadable io ref := by
  cases hresolve : resolveTarget io ref with
  | error e =>
    cases e with
    | notFound => exact .inl (.inl hresolve)
    | other e =>
      rcases resolveTarget_eq_other hresolve with hunreadable | htls
      · exact .inr hunreadable
      · exact .inl (.inr (.inl htls))
  | ok target =>
    refine .inl (.inr (.inr ⟨⟨target, hresolve⟩, h.resolve_left ?_⟩))
    rintro ⟨e, he⟩
    rw [hresolve] at he
    cases he

/-! ## Temporal calls -/

/-- The gRPC codes the controllers look at. -/
inductive Code
  | notFound
  | alreadyExists
  | unavailable
  | deadlineExceeded
  | canceled
  | failedPrecondition
  | other
  deriving DecidableEq, Repr

structure RpcErr where
  code : Code
  text : String
  deriving DecidableEq, Repr

/-- `fmt.Errorf("pre: %w", e)`. -/
def RpcErr.wrap (pre : String) (e : RpcErr) : RpcErr := { e with text := pre ++ ": " ++ e.text }

def isTransientClusterErr (e : RpcErr) : Bool :=
  e.code = .unavailable || e.code = .deadlineExceeded || e.code = .canceled

/-- How a call goes that is to change something. -/
inductive Outcome (ε : Type)
  | done
  /-- It fails and has no effect. -/
  | failed (err : ε)
  /-- It takes effect, but the caller is told that it failed. -/
  | unheard (err : ε)
  deriving DecidableEq, Repr

end TemporalOperator
