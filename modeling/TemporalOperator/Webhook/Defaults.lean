import TemporalOperator.Cluster.UI
import TemporalOperator.Versions.Listing
import TemporalOperator.Webhook.History

/-!
# What defaulting leaves alone

`Default` runs on every create and update, on objects it has defaulted before. The image of the servers is derived from
the version each time it is read; the version of the UI is written into the object once.

* `isDefaultServerImage_iff` : the images that spell out a version;
* `serverImage_default` : defaulting does not change which image a server runs;
* `Upgrades` : the objects that are stored when the UI is left to the defaults and updates change the version alone;
  `Upgrades.pinned` : the UI keeps the version it was created with.
-/

namespace TemporalOperator
open Lib

/-! ## Default-shaped images -/

theorem serverImageOf_eq (v : String) : serverImageOf v = "temporalio/server:" ++ v :=
  congrArg (· ++ v) (show "temporalio/server" ++ ":" = "temporalio/server:" by decide)

theorem isDefaultServerImage_iff (image : String) :
    isDefaultServerImage image = true ↔ ∃ v, Parses v ∧ image = serverImageOf v := by
  simp only [serverImageOf_eq]
  unfold isDefaultServerImage
  -- only the text before the version matters, not what it is
  generalize "temporalio/server:" = pre
  dsimp only
  constructor
  · intro h
    split at h
    case isTrue hprefix =>
      obtain ⟨tag, rfl⟩ := GoText.hasPrefix_iff.mp hprefix
      rw [GoText.ofList_drop_toList] at h
      refine ⟨tag, ?_, rfl⟩
      unfold Parses
      cases hv : parseSemver tag with
      | ok x => rfl
      | error e =>
        rw [hv] at h
        cases h
    case isFalse => cases h
  · rintro ⟨v, hv, rfl⟩
    obtain ⟨x, hx⟩ := hv.exists_eq
    have hprefix : pre.toList.isPrefixOf (pre ++ v).toList = true := GoText.hasPrefix_iff.mpr ⟨v, rfl⟩
    rw [if_pos hprefix, GoText.ofList_drop_toList, hx]

/-- A version has digits, signs and dots. -/
theorem char_of_parses {v : String} (h : Parses v) {c : Char} (hc : c ∈ v.toList) :
    c = '-' ∨ c = '+' ∨ c.isDigit = true ∨ c = '.' := by
  obtain ⟨x, hx⟩ := h.exists_eq
  obtain ⟨major, minor, patch, hsplit, hmajor, hminor, hpatch⟩ := parseSemver_parts hx
  have hparts : v.toList = ['.'].intercalate ([major, minor, patch].map String.toList) := by
    rw [← hsplit, GoText.split, List.map_map]
    simp only [Function.comp_def, String.toList_ofList, List.map_id']
    exact (List.intercalate_splitOn '.').symm
  have hdigit : ∀ {part : String} {n : Int}, GoText.atoi part = .ok n → c ∈ part.toList →
      c = '-' ∨ c = '+' ∨ c.isDigit = true ∨ c = '.' := by
    intro part n hpart hmem
    rcases GoText.char_of_atoi (by rw [hpart]; rfl) hmem with h | h | h
    · exact .inl h
    · exact .inr (.inl h)
    · exact .inr (.inr (.inl h))
  rw [hparts] at hc
  simp only [List.intercalate, List.map_cons, List.map_nil, List.intersperse_cons_cons, List.intersperse_singleton,
    List.flatten_cons, List.flatten_nil, List.append_nil, List.mem_append, List.mem_singleton] at hc
  rcases hc with hc | hc | hc | hc | hc
  · exact hdigit hmajor hc
  · exact .inr (.inr (.inr hc))
  · exact hdigit hminor hc
  · exact .inr (.inr (.inr hc))
  · exact hdigit hpatch hc

/-- An image that is pinned to a digest does not spell out a version. -/
theorem isDefaultServerImage_digest {image : String} (h : '@' ∈ image.toList) : isDefaultServerImage image = false := by
  refine Bool.eq_false_iff.mpr fun hdefault => ?_
  obtain ⟨v, hv, rfl⟩ := (isDefaultServerImage_iff image).mp hdefault
  rw [serverImageOf_eq, String.toList_append, List.mem_append] at h
  rcases h with h | h
  · exact absurd h (by decide)
  · rcases char_of_parses hv h with h | h | h | h <;> exact absurd h (by decide)

namespace ClusterWebhook

/-! ## The image of the servers -/

theorem default_image (c : Cluster) :
    (default c).spec.image = if isDefaultServerImage c.spec.image then "" else c.spec.image := rfl

theorem default_image_custom {c : Cluster} (h : isDefaultServerImage c.spec.image = false) :
    (default c).spec.image = c.spec.image := by
  rw [default_image, h]
  rfl

theorem serverImage_of_default {spec : ClusterSpec} (h : spec.image = "" ∨ isDefaultServerImage spec.image = true)
    (v : String) : serverImage spec v = serverImageOf (if v = "" then spec.version else v) := by
  unfold serverImage
  rw [if_neg]
  rintro ⟨hset, hcustom⟩
  exact h.elim hset hcustom

theorem serverImage_custom {spec : ClusterSpec} (hset : spec.image ≠ "") (h : isDefaultServerImage spec.image = false)
    (v : String) : serverImage spec v = spec.image := by
  unfold serverImage
  rw [if_pos ⟨hset, by rw [h]; nofun⟩]

theorem serverImage_default (c : Cluster) (v : String) : serverImage (default c).spec v = serverImage c.spec v := by
  cases h : isDefaultServerImage c.spec.image with
  | true =>
    have hcleared : (default c).spec.image = "" := by rw [default_image, h]; rfl
    rw [serverImage_of_default (.inl hcleared), serverImage_of_default (.inr h)]
    rfl
  | false =>
    have hkept := default_image_custom h
    unfold serverImage
    rw [hkept]
    rfl

/-- **Defaulting is idempotent and does not change which image a server runs.** An image that spells out a version
follows the version that is asked for; another one, and one with a digest, stays as it is and is what the servers
run. -/
theorem defaulting_neutral (c : Cluster) :
    default (default c) = default c ∧
    (∀ v, serverImage (default c).spec v = serverImage c.spec v) ∧
    ((∃ tag, Parses tag ∧ c.spec.image = serverImageOf tag) →
      ∀ v, serverImage (default c).spec v = serverImageOf (if v = "" then c.spec.version else v)) ∧
    ((¬ ∃ tag, Parses tag ∧ c.spec.image = serverImageOf tag) → (default c).spec.image = c.spec.image) ∧
    (c.spec.image ≠ "" → (¬ ∃ tag, Parses tag ∧ c.spec.image = serverImageOf tag) →
      ∀ v, serverImage (default c).spec v = c.spec.image) ∧
    ('@' ∈ c.spec.image.toList →
      (default c).spec.image = c.spec.image ∧ ∀ v, serverImage (default c).spec v = c.spec.image) := by
  have hcustom : (¬ ∃ tag, Parses tag ∧ c.spec.image = serverImageOf tag) → isDefaultServerImage c.spec.image = false :=
    fun h => Bool.eq_false_iff.mpr fun hdefault => h ((isDefaultServerImage_iff _).mp hdefault)
  refine ⟨default_default c, serverImage_default c, ?_, fun h => default_image_custom (hcustom h), ?_, ?_⟩
  · intro h v
    have hdefault := (isDefaultServerImage_iff _).mpr h
    rw [serverImage_default, serverImage_of_default (.inr hdefault)]
  · intro hset h v
    rw [serverImage_default, serverImage_custom hset (hcustom h)]
  · intro hat
    have hdigest := isDefaultServerImage_digest hat
    have hset : c.spec.image ≠ "" := by
      rintro he
      rw [he] at hat
      exact absurd hat (by decide)
    refine ⟨default_image_custom hdigest, fun v => ?_⟩
    rw [serverImage_default, serverImage_custom hset hdigest]

/-- An image an older operator wrote, another repository, and a digest. -/
theorem defaulting_neutral_images :
    let image (text : String) : Cluster := { revision "1.31.0" none with
      spec := { (revision "1.31.0" none).spec with image := text } }
    serverImage (default (image "temporalio/server:1.20.3")).spec "1.31.1" = serverImageOf "1.31.1" ∧
      serverImage (default (image "registry/server:1.20.3")).spec "1.31.1" = "registry/server:1.20.3" ∧
      serverImage (default (image "temporalio/server@sha256:abc")).spec "1.31.1" = "temporalio/server@sha256:abc" := by
  intro image
  have hshaped : ∃ tag, Parses tag ∧ (image "temporalio/server:1.20.3").spec.image = serverImageOf tag :=
    ⟨"1.20.3", by unfold Parses; decide, by decide⟩
  have hset : (image "registry/server:1.20.3").spec.image ≠ "" := by decide
  have hcustom : ¬ ∃ tag, Parses tag ∧ (image "registry/server:1.20.3").spec.image = serverImageOf tag := by
    rw [← isDefaultServerImage_iff]
    decide
  have hdigest : '@' ∈ (image "temporalio/server@sha256:abc").spec.image.toList := by decide
  exact ⟨(defaulting_neutral _).2.2.1 hshaped "1.31.1", (defaulting_neutral _).2.2.2.2.1 hset hcustom "1.31.1",
    ((defaulting_neutral _).2.2.2.2.2 hdigest).2 "1.31.1"⟩

/-! ## The version of the UI -/

/-- The objects that are stored, newest first: a create with the UI enabled and no version for it, then updates that take
the stored object, whatever its status is by then, and change `spec.version` alone. -/
inductive Upgrades : List Cluster → Prop
  | create {c : Cluster} {ui : UISpec} (ui_eq : c.spec.ui = some ui) (enabled : ui.enabled = true)
      (unset : ui.version = "") (valid : validateCreate (default c) = []) : Upgrades [default c]
  | update {stored : Cluster} {earlier : List Cluster} (upgrades : Upgrades (stored :: earlier)) (generation : Nat)
      (status : ClusterStatus) (version : String)
      (valid : validateUpdate stored
        (default { stored with generation, status, spec := { stored.spec with version } }) = []) :
      Upgrades (default { stored with generation, status, spec := { stored.spec with version } } :: stored :: earlier)

/-- The UI that the matrix pairs with the server. -/
def knownGoodUI (c : Cluster) : String := "temporalio/ui:" ++ defaultUIVersion supportedVersions c.spec.version

/-- The UI has the version of the matrix for the server version `origin`. -/
def Pinned (origin : String) (c : Cluster) : Prop :=
  ∃ ui, c.spec.ui = some ui ∧ ui.version = defaultUIVersion supportedVersions origin

theorem defaultUIVersion_ne_empty : ∀ v ∈ patches supportedVersions, defaultUIVersion supportedVersions v ≠ "" := by
  decide +kernel

/-- Every minor has its own version of the UI. -/
theorem defaultUIVersion_eq_iff : ∀ v ∈ patches supportedVersions, ∀ w ∈ patches supportedVersions,
    (defaultUIVersion supportedVersions v = defaultUIVersion supportedVersions w ↔ minorOf v = minorOf w) := by
  decide +kernel

theorem pinned_default_unset {c : Cluster} {ui : UISpec} (hui : c.spec.ui = some ui) (hunset : ui.version = "") :
    Pinned c.spec.version (default c) := by
  refine ⟨defaultUI c.spec.version ui, ?_, ?_⟩
  · simp [default, hui]
  · simp [defaultUI, hunset]

theorem Pinned.default {origin : String} (horigin : origin ∈ patches supportedVersions) {c : Cluster}
    (h : Pinned origin c) : Pinned origin (default c) := by
  obtain ⟨ui, hui, hversion⟩ := h
  have hset : ui.version ≠ "" := by
    rw [hversion]
    exact defaultUIVersion_ne_empty origin horigin
  refine ⟨ui, ?_, hversion⟩
  simp [ClusterWebhook.default, hui, defaultUI, hset]

theorem Pinned.uiImage_eq {origin : String} (horigin : origin ∈ patches supportedVersions) {c : Cluster}
    (h : Pinned origin c) : uiImage c = "temporalio/ui:" ++ defaultUIVersion supportedVersions origin := by
  obtain ⟨ui, hui, hversion⟩ := h
  unfold uiImage
  rw [hui, Option.map_some, Option.getD_some, hversion]
  dsimp only
  rw [if_neg (defaultUIVersion_ne_empty origin horigin)]

namespace Upgrades

/-- Every stored object has a version of the matrix. -/
theorem supported {objects : List Cluster} (h : Upgrades objects) :
    ∀ c ∈ objects, c.spec.version ∈ patches supportedVersions := by
  induction h with
  | create _ _ _ hvalid =>
    intro c hc
    obtain rfl := List.mem_singleton.mp hc
    exact isSupported_mem _ (validateSpec_version hvalid)
  | update _ _ _ _ hvalid ih =>
    intro c hc
    rcases List.mem_cons.mp hc with rfl | hc
    · exact isSupported_mem _ (validateSpec_version (validateUpdate_spec hvalid))
    · exact ih c hc

theorem pinned {objects : List Cluster} (h : Upgrades objects) :
    ∃ first ∈ objects, ∀ c ∈ objects, Pinned first.spec.version c := by
  induction h with
  | @create c ui hui _ hunset hvalid =>
    refine ⟨ClusterWebhook.default c, List.mem_singleton_self _, fun c' hc' => ?_⟩
    obtain rfl := List.mem_singleton.mp hc'
    exact pinned_default_unset hui hunset
  | @update stored earlier hist generation status version hvalid ih =>
    obtain ⟨first, hfirst, hpinned⟩ := ih
    refine ⟨first, List.mem_cons_of_mem _ hfirst, fun c hc => ?_⟩
    rcases List.mem_cons.mp hc with rfl | hc
    · -- the update does not touch `ui`
      have hstored : Pinned first.spec.version
          { stored with generation, status, spec := { stored.spec with version } } :=
        hpinned stored List.mem_cons_self
      exact hstored.default (hist.supported first hfirst)
    · exact hpinned c hc

end Upgrades

/-- No object has another minor than the others. -/
def SameMinor (objects : List Cluster) : Prop :=
  ∀ c ∈ objects, ∀ c' ∈ objects, minorOf c.spec.version = minorOf c'.spec.version

instance (objects : List Cluster) : Decidable (SameMinor objects) :=
  inferInstanceAs (Decidable (∀ c ∈ objects, ∀ c' ∈ objects, minorOf c.spec.version = minorOf c'.spec.version))

/-- **A defaulted UI follows the server exactly while the minor stays.** The defaulter writes the version of the UI into
the object at its creation, and takes it for the user's choice from then on. -/
theorem ui_follows_server_iff (objects : List Cluster) (h : Upgrades objects) :
    (∀ c ∈ objects, ∀ extra, ∀ container ∈ (buildUIDeploymentIn c extra).template.spec.containers,
      container.image = knownGoodUI c) ↔ SameMinor objects := by
  obtain ⟨first, hfirst, hpinned⟩ := h.pinned
  have himage : ∀ c ∈ objects, (uiImage c = knownGoodUI c ↔ minorOf first.spec.version = minorOf c.spec.version) := by
    intro c hc
    rw [(hpinned c hc).uiImage_eq (h.supported first hfirst), knownGoodUI, String.append_right_inj]
    exact defaultUIVersion_eq_iff _ (h.supported first hfirst) _ (h.supported c hc)
  constructor
  · intro hfollows c hc c' hc'
    have hminor : ∀ d ∈ objects, minorOf first.spec.version = minorOf d.spec.version := by
      intro d hd
      exact (himage d hd).mp (hfollows d hd [] _ List.mem_cons_self)
    rw [← hminor c hc, ← hminor c' hc']
  · intro hsame c hc extra container hcontainer
    obtain rfl := List.mem_singleton.mp hcontainer
    exact (himage c hc).mpr (hsame first hfirst c hc)

def withUI (version : String) : Cluster :=
  { revision version none with spec := { (revision version none).spec with ui := some { enabled := true } } }

def upgraded (stored : Cluster) (version : String) : Cluster :=
  default { stored with spec := { stored.spec with version } }

theorem ui_follows_patch :
    let stored := default (withUI "1.31.0")
    SameMinor [upgraded stored "1.31.1", stored] ∧
      ∀ c ∈ [upgraded stored "1.31.1", stored], ∀ extra,
        ∀ container ∈ (buildUIDeploymentIn c extra).template.spec.containers, container.image = knownGoodUI c := by
  intro stored
  have hcreate : Upgrades [stored] := .create (c := withUI "1.31.0") rfl rfl rfl (by decide +kernel)
  have hupgrade : Upgrades [upgraded stored "1.31.1", stored] :=
    .update hcreate stored.generation stored.status "1.31.1" (by decide +kernel)
  have hsame : SameMinor [upgraded stored "1.31.1", stored] := by decide +kernel
  exact ⟨hsame, (ui_follows_server_iff _ hupgrade).mpr hsame⟩

/-- From 1.30 to 1.31 the UI stays the one of 1.30. -/
theorem ui_left_behind :
    let stored := default (withUI "1.30.8")
    let new := upgraded stored "1.31.0"
    Upgrades [new, stored] ∧ uiImage new = "temporalio/ui:2.34.0" ∧ knownGoodUI new = "temporalio/ui:2.52.1" ∧
      ∀ extra, ∃ container ∈ (buildUIDeploymentIn new extra).template.spec.containers,
        container.image ≠ knownGoodUI new := by
  intro stored new
  have hcreate : Upgrades [stored] := .create (c := withUI "1.30.8") rfl rfl rfl (by decide +kernel)
  have hupgrade : Upgrades [new, stored] :=
    .update hcreate stored.generation stored.status "1.31.0" (by decide +kernel)
  have hold : uiImage new = "temporalio/ui:2.34.0" := by decide +kernel
  have hgood : knownGoodUI new = "temporalio/ui:2.52.1" := by decide +kernel
  refine ⟨hupgrade, hold, hgood, fun extra => ⟨_, List.mem_cons_self, ?_⟩⟩
  show uiImage new ≠ knownGoodUI new
  rw [hold, hgood]
  decide

end ClusterWebhook

end TemporalOperator
