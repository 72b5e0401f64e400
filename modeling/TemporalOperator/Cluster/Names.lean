import TemporalOperator.Cluster.SwitchOff

/-!
# Names of objects

The name builders of `internal/resources`: a name is the cluster's name and a suffix that begins with a dash, and a
cluster's name may itself end in such a suffix.

* `builtObjects` : kind and name of the Deployments, Services, PodDisruptionBudgets, Secrets, ConfigMaps and Jobs of a
  cluster; `planServices_built`, `planUI_built` : what a pass plans is among them;
* `append_eq_append_cases` : two names with different stems are equal only if one suffix ends in the other;
* `names_disjoint_iff` : two clusters share a name exactly when one is called like the other with `-internal` added and
  the other runs an internal frontend.
-/

namespace TemporalOperator
open Lib

inductive Kind
  | deployment
  | service
  | podDisruptionBudget
  | secret
  | configMap
  | job
  deriving DecidableEq, Repr

/-! ## Built objects -/

def serviceObjects (clusterName component : String) : List (Kind × String) :=
  [(.deployment, deploymentName clusterName component), (.service, headlessServiceName clusterName component),
    (.podDisruptionBudget, pdbName clusterName component)]

def storeJobs (clusterName : String) (store : SchemaStore) : List (Kind × String) :=
  [(.job, inspectorJobName clusterName store), (.job, schemaJobName clusterName store .setup),
    (.job, schemaJobName clusterName store .update)]

/-- Kind and name of what the operator builds for a cluster. -/
def builtObjects (c : Cluster) : List (Kind × String) :=
  (enabledServices c.spec).flatMap (fun svc => serviceObjects c.name svc.name.name) ++
    (if uiEnabled c.spec then [(.deployment, uiName c.name), (.service, uiName c.name)] else []) ++
    [(.service, frontendServiceName c.name), (.secret, configSecretName c.name),
      (.configMap, dynamicConfigMapName c.name)] ++
    storeJobs c.name .default ++ storeJobs c.name .visibility

/-! ## What a pass plans -/

/-- Kind and name of a planned object, for the kinds considered here. -/
def Planned.object (c : Cluster) : Planned → Option (Kind × String)
  | .deployment s _ _ => some (.deployment, deploymentName c.name s.name)
  | .headlessService s => some (.service, headlessServiceName c.name s.name)
  | .podDisruptionBudget s => some (.podDisruptionBudget, pdbName c.name s.name)
  | .frontendService => some (.service, frontendServiceName c.name)
  | .configSecret => some (.secret, configSecretName c.name)
  | .dynamicConfigMap => some (.configMap, dynamicConfigMapName c.name)
  | .uiDeployment => some (.deployment, uiName c.name)
  | .uiService => some (.service, uiName c.name)
  | _ => none

theorem serviceObjects_built {c : Cluster} {svc : ServiceInfo} (hsvc : svc ∈ enabledServices c.spec)
    {o : Kind × String} (ho : o ∈ serviceObjects c.name svc.name.name) : o ∈ builtObjects c := by
  simp only [builtObjects, List.mem_append]
  exact .inl (.inl (.inl (.inl (List.mem_flatMap.mpr ⟨svc, hsvc, ho⟩))))

theorem planServices_built {env : PassEnv} {c : Cluster} {i : TemplateInputs} {versions : List (Service × String)}
    {objs : List Planned} (h : planServices env c i versions = .ok objs) :
    ∀ obj ∈ objs, ∀ o, obj.object c = some o → o ∈ builtObjects c := by
  intro obj hobj o ho
  rcases ((planServices_eq_ok h).2 obj).mp hobj with rfl | rfl | ⟨svc, hsvc, hobj⟩
  · obtain rfl := Option.some.inj ho
    simp [builtObjects]
  · obtain rfl := Option.some.inj ho
    simp [builtObjects]
  · cases hobj with
    | frontendService hs =>
      obtain rfl := Option.some.inj ho
      simp [builtObjects]
    | _ =>
      obtain rfl := Option.some.inj ho
      exact serviceObjects_built hsvc (by simp [serviceObjects])

theorem planUI_built {c : Cluster} :
    ∀ obj ∈ planUI c.spec, ∀ o, obj.object c = some o → o ∈ builtObjects c := by
  intro obj hobj o ho
  unfold planUI at hobj
  cases hui : c.spec.ui with
  | none => simp [hui] at hobj
  | some ui =>
    cases hon : ui.enabled with
    | false => simp [hui, hon] at hobj
    | true =>
      have henabled : uiEnabled c.spec = true := by simp [uiEnabled, hui, hon]
      simp only [hui, hon, Bool.not_true, Bool.false_eq_true, if_false, List.mem_append, List.mem_cons,
        List.not_mem_nil, or_false] at hobj
      rcases hobj with (hobj | rfl | rfl) | hobj
      · split at hobj
        · obtain rfl := List.mem_singleton.mp hobj
          cases ho
        · cases hobj
      · obtain rfl := Option.some.inj ho
        simp [builtObjects, henabled]
      · obtain rfl := Option.some.inj ho
        simp [builtObjects, henabled]
      · split at hobj
        · obtain rfl := List.mem_singleton.mp hobj
          cases ho
        · cases hobj

/-! ## Suffixes -/

/-- The services of a cluster with or without an internal frontend. -/
def servicesOf (internalFrontend : Bool) : List Service :=
  [.frontend, .history, .matching, .worker] ++ if internalFrontend then [.internalFrontend] else []

/-- What is added to the cluster's name. -/
def objectSuffixes (internalFrontend ui : Bool) : List (Kind × String) :=
  (servicesOf internalFrontend).flatMap (fun s =>
      [(.deployment, "-" ++ s.name), (.service, "-" ++ s.name ++ "-headless"),
        (.podDisruptionBudget, "-" ++ s.name)]) ++
    (if ui then [(.deployment, "-ui"), (.service, "-ui")] else []) ++
    [(.service, "-frontend"), (.secret, "-config"), (.configMap, "-dynamicconfig")] ++
    [SchemaStore.default, .visibility].flatMap fun store =>
      [(.job, "-inspect-" ++ store.text), (.job, "-schema-" ++ store.text ++ "-setup"),
        (.job, "-schema-" ++ store.text ++ "-update")]

theorem enabledServices_names (spec : ClusterSpec) :
    (enabledServices spec).map ServiceInfo.name = servicesOf (internalFrontendEnabled spec) := by
  unfold enabledServices internalFrontendEnabled servicesOf
  cases hf : spec.services.internalFrontend with
  | none => simp [hf]
  | some f => cases he : f.enabled <;> simp [hf, he]

theorem builtObjects_eq (c : Cluster) :
    builtObjects c =
      (objectSuffixes (internalFrontendEnabled c.spec) (uiEnabled c.spec)).map fun o => (o.1, c.name ++ o.2) := by
  have hservices : (enabledServices c.spec).flatMap (fun svc => serviceObjects c.name svc.name.name) =
      (servicesOf (internalFrontendEnabled c.spec)).flatMap fun s => serviceObjects c.name s.name := by
    rw [← enabledServices_names, List.flatMap_map]
  rw [builtObjects, hservices, objectSuffixes]
  simp only [List.map_append, List.map_flatMap]
  cases uiEnabled c.spec <;>
    simp [serviceObjects, deploymentName, headlessServiceName, pdbName, uiName, frontendServiceName, configSecretName,
      dynamicConfigMapName, storeJobs, inspectorJobName, schemaJobName, String.append_assoc, SchemaAction.text]

theorem objectSuffixes_subset (i u : Bool) : objectSuffixes i u ⊆ objectSuffixes true true := by
  cases i <;> cases u <;> decide +kernel

theorem internal_of_suffix {i u : Bool} {p : Kind × String} (hp : p ∈ objectSuffixes i u) {t : String}
    (ht : p.2 = "-internal" ++ t) : i = true := by
  have hothers : ∀ p ∈ objectSuffixes false true, ¬ "-internal".toList <+: p.2.toList := by decide +kernel
  cases i with
  | true => rfl
  | false =>
    have hfalse : p ∈ objectSuffixes false true := by
      cases u
      · exact (show objectSuffixes false false ⊆ objectSuffixes false true by decide +kernel) hp
      · exact hp
    refine absurd ?_ (hothers p hfalse)
    rw [ht, String.toList_append]
    exact List.prefix_append _ _

/-- Of the suffixes of one kind, one ends in another only where the internal frontend's ends in the frontend's. -/
theorem suffix_of_suffix {i u i' u' : Bool} {p q : Kind × String} (hp : p ∈ objectSuffixes i u)
    (hq : q ∈ objectSuffixes i' u') (hkind : p.1 = q.1) (h : q.2.toList <:+ p.2.toList) :
    p.2 = q.2 ∨ i = true ∧ p.2 = "-internal" ++ q.2 := by
  -- it is enough to look at the suffixes of a cluster that has everything
  have hall : ∀ p ∈ objectSuffixes true true, ∀ q ∈ objectSuffixes true true, p.1 = q.1 →
      q.2.toList <:+ p.2.toList → p.2 = q.2 ∨ p.2 = "-internal" ++ q.2 := by
    decide +kernel
  rcases hall p (objectSuffixes_subset i u hp) q (objectSuffixes_subset i' u' hq) hkind h with heq | hinternal
  · exact .inl heq
  · exact .inr ⟨internal_of_suffix hp hinternal, hinternal⟩

/-- Two names with the same ending: the stems are equal, or one stem is the other with the rest of its suffix. -/
theorem append_eq_append_cases {x y s t : String} (h : x ++ s = y ++ t) :
    (∃ r, y = x ++ r ∧ s = r ++ t) ∨ ∃ r, x = y ++ r ∧ t = r ++ s := by
  have hl : x.toList ++ s.toList = y.toList ++ t.toList := by
    rw [← String.toList_append, h, String.toList_append]
  rcases List.append_eq_append_iff.mp hl with ⟨r, hy, hs⟩ | ⟨r, hx, ht⟩
  · refine .inl ⟨String.ofList r, String.toList_inj.mp ?_, String.toList_inj.mp ?_⟩
    · rw [String.toList_append, String.toList_ofList, hy]
    · rw [String.toList_append, String.toList_ofList, hs]
  · refine .inr ⟨String.ofList r, String.toList_inj.mp ?_, String.toList_inj.mp ?_⟩
    · rw [String.toList_append, String.toList_ofList, hx]
    · rw [String.toList_append, String.toList_ofList, ht]

/-! ## Collisions -/

/-- `a` runs an internal frontend, and `b` is called like the rest of its name before `-frontend`. -/
def Shadows (a b : Cluster) : Prop := internalFrontendEnabled a.spec = true ∧ b.name = a.name ++ "-internal"

instance (a b : Cluster) : Decidable (Shadows a b) := inferInstanceAs (Decidable (_ ∧ _))

/-- A longer stem that makes up for a shorter suffix is the one of an internal frontend. -/
theorem shadows_of_suffix {a b : Cluster} (hne : a.name ≠ b.name) {k : Kind} {s t r : String}
    (hs : (k, s) ∈ objectSuffixes (internalFrontendEnabled a.spec) (uiEnabled a.spec))
    (ht : (k, t) ∈ objectSuffixes (internalFrontendEnabled b.spec) (uiEnabled b.spec))
    (hb : b.name = a.name ++ r) (hr : s = r ++ t) : Shadows a b := by
  have hsuffix : t.toList <:+ s.toList := ⟨r.toList, by rw [← String.toList_append, hr]⟩
  rcases suffix_of_suffix hs ht rfl hsuffix with heq | ⟨hon, hinternal⟩
  · -- equal suffixes leave nothing for the stem
    have hempty : r.toList = [] := by
      have hl := congrArg String.toList (hr.symm.trans heq)
      rw [String.toList_append] at hl
      exact List.append_left_eq_self.mp hl
    rw [String.toList_eq_nil_iff.mp hempty, String.append_empty] at hb
    exact absurd hb.symm hne
  · refine ⟨hon, ?_⟩
    have hl := congrArg String.toList (hr.symm.trans hinternal)
    rw [String.toList_append, String.toList_append] at hl
    rw [hb, String.toList_inj.mp (List.append_cancel_right hl)]

theorem internalFrontend_built {c : Cluster} (h : internalFrontendEnabled c.spec = true) :
    (.deployment, deploymentName c.name "internal-frontend") ∈ builtObjects c := by
  have hen : Enabled c.spec .internalFrontend := (enabled_iff _ _).mpr (.inr h)
  obtain ⟨svc, hsvc, hname⟩ := List.mem_map.mp hen
  exact serviceObjects_built hsvc (by simp [serviceObjects, hname, Service.name])

theorem frontend_built (c : Cluster) : (.deployment, deploymentName c.name "frontend") ∈ builtObjects c := by
  have hen : Enabled c.spec .frontend := (enabled_iff _ _).mpr (.inl (by decide))
  obtain ⟨svc, hsvc, hname⟩ := List.mem_map.mp hen
  exact serviceObjects_built hsvc (by simp [serviceObjects, hname, Service.name])

theorem Shadows.collides {a b : Cluster} (h : Shadows a b) : ∃ o ∈ builtObjects a, o ∈ builtObjects b := by
  refine ⟨_, internalFrontend_built h.1, ?_⟩
  have hname : deploymentName a.name "internal-frontend" = deploymentName b.name "frontend" := by
    rw [deploymentName, deploymentName, h.2, String.append_assoc, String.append_assoc, String.append_assoc]
    rfl
  rw [hname]
  exact frontend_built b

/-- **Names of two clusters**: clusters with different names share no object of one kind and name exactly when neither
is called like the other with `-internal` added while the other runs an internal frontend. -/
theorem names_disjoint_iff {a b : Cluster} (hne : a.name ≠ b.name) :
    (∀ o ∈ builtObjects a, o ∉ builtObjects b) ↔ ¬ Shadows a b ∧ ¬ Shadows b a := by
  constructor
  · intro h
    constructor
    · intro hs
      obtain ⟨o, ha, hb⟩ := hs.collides
      exact h o ha hb
    · intro hs
      obtain ⟨o, hb, ha⟩ := hs.collides
      exact h o ha hb
  · rintro ⟨hab, hba⟩ o ha hb
    rw [builtObjects_eq] at ha hb
    obtain ⟨⟨k, s⟩, hs, rfl⟩ := List.mem_map.mp ha
    obtain ⟨⟨k', t⟩, ht, heq⟩ := List.mem_map.mp hb
    obtain ⟨rfl, hname⟩ := Prod.mk.inj heq
    rcases append_eq_append_cases hname.symm with ⟨r, hstem, hr⟩ | ⟨r, hstem, hr⟩
    · exact hab (shadows_of_suffix hne hs ht hstem hr)
    · exact hba (shadows_of_suffix hne.symm ht hs hstem hr)

/-- Two clusters whose names are prefixes of each other, with nothing in common. -/
theorem names_disjoint_sample :
    let a := withInternalFrontend "1.31.0" true
    let b := { sampleCluster "1.31.0" with name := "temporal-prod" }
    a.name ≠ b.name ∧ ∀ o ∈ builtObjects a, o ∉ builtObjects b := by
  intro a b
  have hne : a.name ≠ b.name := by decide
  exact ⟨hne, (names_disjoint_iff hne).mpr (by decide)⟩

/-- Both clusters build the Deployment `temporal-internal-frontend`. -/
theorem internal_frontend_name_collides :
    let a := withInternalFrontend "1.31.0" true
    let b := { sampleCluster "1.31.0" with name := "temporal-internal" }
    ClusterWebhook.validateCreate a = [] ∧ ClusterWebhook.validateCreate b = [] ∧ a.name ≠ b.name ∧
      (.deployment, "temporal-internal-frontend") ∈ builtObjects a ∧
      (.deployment, "temporal-internal-frontend") ∈ builtObjects b := by
  decide +kernel

end TemporalOperator
