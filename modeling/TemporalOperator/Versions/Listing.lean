import Mathlib.Data.List.Pairwise
import TemporalOperator.Lib.Result
import TemporalOperator.Versions

/-!
# Listing the versions of a matrix

`SupportedVersions`, `LatestSupportedVersion` and `ResolveLatestPatch` of `internal/temporal/versions.go`, for any
matrix. `sort.Slice` is any function that sorts by a strict weak order; it need not be stable.

* `SortSlice` : a sorting function; `insertionSlice` : the one of `listSupportedVersions`;
* `WellFormed` : the patches of a matrix parse, and belong to the minor that they are listed under;
* `versionLess_iff` : `less` is the numeric order of versions that parse;
* `latestPatch_spec` : the running maximum of `ResolveLatestPatch`.
-/

namespace TemporalOperator
open Lib

/-! ## Sorting -/

/-- What `sort.Slice` asks of `less` on the elements of a list. -/
structure StrictWeakOn (less : String → String → Bool) (l : List String) : Prop where
  asymm : ∀ a ∈ l, ∀ b ∈ l, less a b = true → less b a = false
  /-- What is not below `b`, which is not below `c`, is not below `c`. -/
  trans : ∀ a ∈ l, ∀ b ∈ l, ∀ c ∈ l, less a b = false → less b c = false → less a c = false

/-- `sort.Slice` on strings. -/
structure SortSlice where
  sort : (String → String → Bool) → List String → List String
  perm : ∀ less l, StrictWeakOn less l → (sort less l).Perm l
  ascending : ∀ less l, StrictWeakOn less l → (sort less l).Pairwise fun a b => less b a = false

/-- `SupportedVersions`. -/
def supportedVersionsBy (slice : SortSlice) (matrix : List VersionInfo) : List String :=
  slice.sort versionLess (patches matrix)

def latestSupportedVersion (slice : SortSlice) (matrix : List VersionInfo) : String :=
  (supportedVersionsBy slice matrix).getLast?.getD ""

/-- Sorting by insertion, for any strict weak order on the list. -/
theorem pairwise_insertionSort {less : String → String → Bool} {l : List String} (h : StrictWeakOn less l) :
    (l.insertionSort fun a b => ¬ less b a).Pairwise fun a b => less b a = false := by
  -- on the elements of the list the relation is total and transitive
  let r : { s // s ∈ l } → { s // s ∈ l } → Prop := fun a b => ¬ less b.1 a.1
  have htotal : Std.Total r := ⟨fun a b => by
    by_cases hba : less b.1 a.1 = true
    · exact .inr (by simp [r, h.asymm _ b.2 _ a.2 hba])
    · exact .inl hba⟩
  have htrans : IsTrans _ r := ⟨fun a b c hab hbc => by
    simp only [r, Bool.not_eq_true] at hab hbc ⊢
    exact h.trans _ c.2 _ b.2 _ a.2 hbc hab⟩
  have hsorted := List.pairwise_insertionSort r l.attach
  have hmap := List.map_insertionSort (r := r) (s := fun a b => ¬ less b a) Subtype.val l.attach fun _ _ _ _ => Iff.rfl
  rw [List.attach_map_subtype_val] at hmap
  rw [← hmap, List.pairwise_map]
  exact hsorted.imp fun hab => by simpa [r] using hab

def insertionSlice : SortSlice where
  sort less l := l.insertionSort fun a b => ¬ less b a
  perm _ l _ := List.perm_insertionSort _ l
  ascending _ _ h := pairwise_insertionSort h

theorem supportedVersionsBy_insertionSlice (matrix : List VersionInfo) :
    supportedVersionsBy insertionSlice matrix = listSupportedVersions matrix := rfl

/-! ## The order of versions that parse -/

def Parses (v : String) : Prop := (parseSemver v).isOk = true

theorem Parses.exists_eq {v : String} (h : Parses v) : ∃ x, parseSemver v = .ok x := by
  unfold Parses at h
  cases hv : parseSemver v with
  | error e =>
    rw [hv] at h
    exact nomatch h
  | ok x => exact ⟨x, rfl⟩

theorem versionLE_of_ok {a b : String} {x y : Semver} (ha : parseSemver a = .ok x) (hb : parseSemver b = .ok y) :
    versionLE a b = true ↔ x.LE y := by
  rw [versionLE, ha, hb]
  exact decide_eq_true_iff

theorem versionLess_iff {a b : String} (ha : Parses a) (hb : Parses b) :
    versionLess a b = false ↔ versionLE b a = true := by
  obtain ⟨x, hx⟩ := ha.exists_eq
  obtain ⟨y, hy⟩ := hb.exists_eq
  rw [versionLE_of_ok hy hx]
  unfold versionLess Semver.LE
  rw [hx, hy]
  dsimp only
  by_cases hmajor : x.major = y.major
  · rw [if_neg (not_not.mpr hmajor)]
    by_cases hminor : x.minor = y.minor
    · rw [if_neg (not_not.mpr hminor), decide_eq_false_iff_not]
      omega
    · rw [if_pos hminor, decide_eq_false_iff_not]
      omega
  · rw [if_pos hmajor, decide_eq_false_iff_not]
    omega

theorem versionLE_total {a b : String} (ha : Parses a) (hb : Parses b) : versionLE a b = true ∨ versionLE b a = true := by
  obtain ⟨x, hx⟩ := ha.exists_eq
  obtain ⟨y, hy⟩ := hb.exists_eq
  rw [versionLE_of_ok hx hy, versionLE_of_ok hy hx]
  unfold Semver.LE
  omega

theorem strictWeakOn_versionLess {l : List String} (h : ∀ v ∈ l, Parses v) : StrictWeakOn versionLess l where
  asymm a ha b hb hless := by
    rw [versionLess_iff (h b hb) (h a ha)]
    refine (versionLE_total (h a ha) (h b hb)).resolve_right fun hle => ?_
    rw [(versionLess_iff (h a ha) (h b hb)).mpr hle] at hless
    exact nomatch hless
  trans a ha b hb c hc hab hbc := by
    rw [versionLess_iff (h a ha) (h b hb)] at hab
    rw [versionLess_iff (h b hb) (h c hc)] at hbc
    rw [versionLess_iff (h a ha) (h c hc)]
    exact versionLE.trans hbc hab

/-! ## Minors -/

theorem parseSemver_parts {v : String} {x : Semver} (h : parseSemver v = .ok x) :
    ∃ a b c, GoText.split '.' v = [a, b, c] ∧ GoText.atoi a = .ok x.major ∧ GoText.atoi b = .ok x.minor ∧
      GoText.atoi c = .ok x.patch := by
  unfold parseSemver at h
  split at h
  · rename_i a b c hsplit
    obtain ⟨major, hmajor, h⟩ := bind_eq_ok.mp h
    obtain ⟨minor, hminor, h⟩ := bind_eq_ok.mp h
    obtain ⟨patch, hpatch, h⟩ := bind_eq_ok.mp h
    obtain rfl := Except.ok.inj h
    exact ⟨a, b, c, hsplit, mapError_eq_ok.mp hmajor, mapError_eq_ok.mp hminor, mapError_eq_ok.mp hpatch⟩
  · exact nomatch h

theorem dot_not_mem_of_atoi {part : String} (h : (GoText.atoi part).isOk = true) :
    ∀ c ∈ part.toList, (c == '.') = false := by
  intro c hc
  refine beq_false_of_ne ?_
  rintro rfl
  rcases GoText.char_of_atoi h hc with hminus | hplus | hdigit
  · exact absurd hminus (by decide)
  · exact absurd hplus (by decide)
  · exact absurd hdigit (by decide)

/-- Two numbers with a dot between them are taken apart again. -/
theorem split_two {a b : String} (ha : (GoText.atoi a).isOk = true) (hb : (GoText.atoi b).isOk = true) :
    GoText.split '.' (a ++ "." ++ b) = [a, b] := by
  unfold GoText.split List.splitOn
  have hlist : (a ++ "." ++ b).toList = a.toList ++ '.' :: b.toList := by
    rw [String.toList_append, String.toList_append, List.append_assoc]
    rfl
  rw [hlist, List.splitOnP_append_cons_of_forall_mem (dot_not_mem_of_atoi ha) _ (by decide),
    List.splitOnP_eq_singleton (dot_not_mem_of_atoi hb)]
  simp

theorem minorOf_parts {v a b c : String} (h : GoText.split '.' v = [a, b, c]) : minorOf v = a ++ "." ++ b := by
  rw [minorOf, h]

/-- The minor of a version that parses is its own minor. -/
theorem minorOf_minorOf {v : String} (h : Parses v) : minorOf (minorOf v) = minorOf v := by
  obtain ⟨x, hx⟩ := h.exists_eq
  obtain ⟨a, b, c, hsplit, ha, hb, -⟩ := parseSemver_parts hx
  have htwo : GoText.split '.' (a ++ "." ++ b) = [a, b] := split_two (by rw [ha]; rfl) (by rw [hb]; rfl)
  rw [minorOf_parts hsplit, minorOf, htwo]

/-- Versions of one minor differ in the patch only. -/
theorem same_minor {v w : String} {x y : Semver} (hv : parseSemver v = .ok x) (hw : parseSemver w = .ok y)
    (h : minorOf v = minorOf w) : x.major = y.major ∧ x.minor = y.minor := by
  obtain ⟨a, b, c, hsplit, ha, hb, -⟩ := parseSemver_parts hv
  obtain ⟨a', b', c', hsplit', ha', hb', -⟩ := parseSemver_parts hw
  rw [minorOf_parts hsplit, minorOf_parts hsplit'] at h
  have htwo := split_two (a := a) (b := b) (by rw [ha]; rfl) (by rw [hb]; rfl)
  rw [h, split_two (by rw [ha']; rfl) (by rw [hb']; rfl)] at htwo
  obtain ⟨rfl, rfl⟩ : a' = a ∧ b' = b := by simpa using htwo
  exact ⟨Except.ok.inj (ha.symm.trans ha'), Except.ok.inj (hb.symm.trans hb')⟩

/-! ## The latest patch of a minor -/

/-- The loop of `ResolveLatestPatch`: a patch that does not parse is passed over. -/
def latestPatch (latest : String) (latestVer : Semver) : List String → String
  | [] => latest
  | p :: ps =>
    match parseSemver p with
    | .error _ => latestPatch latest latestVer ps
    | .ok v => if v.patch > latestVer.patch then latestPatch p v ps else latestPatch latest latestVer ps

/-- The first patch stands for `0.0.0` if it does not parse. -/
def latestOf (minor : String) : List String → Except String String
  | [] => .error ("no patch versions registered for " ++ GoText.quote minor)
  | p :: ps => .ok (latestPatch p ((parseSemver p).toOption.getD ⟨0, 0, 0⟩) ps)

def resolveLatestPatch (matrix : List VersionInfo) (minor : String) : Except String String := do
  let info ← lookupVersion matrix minor
  latestOf minor info.patchVersions

/-- The running maximum, over patches of one minor: it is one of them and none exceeds it. -/
theorem latestPatch_spec {minor latest : String} {ver : Semver} (hlatest : parseSemver latest = .ok ver)
    (hminor : minorOf latest = minor) {ps : List String} (hps : ∀ p ∈ ps, Parses p ∧ minorOf p = minor) :
    latestPatch latest ver ps ∈ latest :: ps ∧ ∀ p ∈ latest :: ps, versionLE p (latestPatch latest ver ps) = true := by
  induction ps generalizing latest ver with
  | nil =>
    refine ⟨List.mem_cons_self, fun p hp => ?_⟩
    obtain rfl := List.mem_singleton.mp hp
    exact (versionLE_of_ok hlatest hlatest).mpr (Semver.LE.refl ver)
  | cons q ps ih =>
    obtain ⟨⟨hq, hqminor⟩, hrest⟩ := List.forall_mem_cons.mp hps
    obtain ⟨v, hv⟩ := hq.exists_eq
    obtain ⟨hmaj, hmin⟩ := same_minor hlatest hv (hminor.trans hqminor.symm)
    unfold latestPatch
    rw [hv]
    dsimp only
    split
    · -- the new patch is the maximum so far
      rename_i hgt
      obtain ⟨hmem, hmax⟩ := ih hv hqminor hrest
      have hle : versionLE latest q = true := (versionLE_of_ok hlatest hv).mpr (.inr ⟨hmaj, .inr ⟨hmin, by omega⟩⟩)
      refine ⟨List.mem_cons_of_mem _ hmem, List.forall_mem_cons.mpr ⟨?_, hmax⟩⟩
      exact versionLE.trans hle (hmax q List.mem_cons_self)
    · rename_i hgt
      obtain ⟨hmem, hmax⟩ := ih hlatest hminor hrest
      have hle : versionLE q latest = true :=
        (versionLE_of_ok hv hlatest).mpr (.inr ⟨hmaj.symm, .inr ⟨hmin.symm, by omega⟩⟩)
      obtain ⟨hself, hothers⟩ := List.forall_mem_cons.mp hmax
      refine ⟨?_, List.forall_mem_cons.mpr ⟨hself, List.forall_mem_cons.mpr ⟨?_, hothers⟩⟩⟩
      · rcases List.mem_cons.mp hmem with heq | hmem
        · exact List.mem_cons.mpr (.inl heq)
        · exact List.mem_cons_of_mem _ (List.mem_cons_of_mem _ hmem)
      · exact versionLE.trans hle hself

/-! ## Well-formed matrices -/

/-- Every patch parses and is listed under its minor, and no minor is listed twice. -/
structure WellFormedMatrix (matrix : List VersionInfo) : Prop where
  parses : ∀ info ∈ matrix, ∀ p ∈ info.patchVersions, Parses p
  belongs : ∀ info ∈ matrix, ∀ p ∈ info.patchVersions, minorOf p = info.version
  distinct : (matrix.map VersionInfo.version).Nodup

variable {matrix : List VersionInfo}

theorem WellFormedMatrix.parses_patches (h : WellFormedMatrix matrix) : ∀ v ∈ patches matrix, Parses v := by
  intro v hv
  obtain ⟨info, hinfo, hmem⟩ := List.mem_flatMap.mp hv
  exact h.parses info hinfo v hmem

theorem WellFormedMatrix.eq_of_version (h : WellFormedMatrix matrix) {i j : VersionInfo} (hi : i ∈ matrix)
    (hj : j ∈ matrix) (hversion : i.version = j.version) : i = j :=
  List.inj_on_of_nodup_map h.distinct hi hj hversion

theorem WellFormedMatrix.lookupVersion_eq (h : WellFormedMatrix matrix) {info : VersionInfo} (hinfo : info ∈ matrix)
    (hpatch : info.patchVersions ≠ []) : lookupVersion matrix info.version = .ok info := by
  obtain ⟨p, ps, hps⟩ := List.exists_cons_of_ne_nil hpatch
  have hp : p ∈ info.patchVersions := hps ▸ List.mem_cons_self
  have hminor : minorOf info.version = info.version := by
    rw [← h.belongs info hinfo p hp]
    exact minorOf_minorOf (h.parses info hinfo p hp)
  unfold lookupVersion
  rw [hminor]
  cases hfind : matrix.find? fun i => i.version = info.version with
  | none => exact absurd (decide_eq_true rfl) (List.find?_eq_none.mp hfind info hinfo)
  | some i =>
    have hi := List.find?_some hfind
    exact congrArg Except.ok (h.eq_of_version (List.mem_of_find?_eq_some hfind) hinfo (of_decide_eq_true hi))

theorem isSupported_iff (version : String) :
    isSupported matrix version = true ↔ ∃ info ∈ matrix, info.version = minorOf version ∧ version ∈ info.patchVersions := by
  simp [isSupported]

/-- The resolved patch is listed, and none of the minor exceeds it. -/
theorem WellFormedMatrix.resolveLatestPatch_spec (h : WellFormedMatrix matrix) {info : VersionInfo}
    (hinfo : info ∈ matrix) (hpatch : info.patchVersions ≠ []) :
    ∃ latest, resolveLatestPatch matrix info.version = .ok latest ∧ latest ∈ info.patchVersions ∧
      ∀ p ∈ info.patchVersions, versionLE p latest = true := by
  unfold resolveLatestPatch
  rw [h.lookupVersion_eq hinfo hpatch]
  obtain ⟨p, ps, hps⟩ := List.exists_cons_of_ne_nil hpatch
  have hparses := h.parses info hinfo
  have hbelongs := h.belongs info hinfo
  rw [hps] at hparses hbelongs
  obtain ⟨x, hx⟩ := (hparses p List.mem_cons_self).exists_eq
  have hrest : ∀ q ∈ ps, Parses q ∧ minorOf q = info.version := fun q hq =>
    ⟨hparses q (List.mem_cons_of_mem _ hq), hbelongs q (List.mem_cons_of_mem _ hq)⟩
  have hspec := latestPatch_spec hx (hbelongs p List.mem_cons_self) hrest
  refine ⟨latestPatch p x ps, ?_, by rw [hps]; exact hspec.1, by rw [hps]; exact hspec.2⟩
  show latestOf info.version info.patchVersions = _
  rw [hps, latestOf, hx]
  rfl

/-! ## Listing -/

theorem supportedVersionsBy_perm (slice : SortSlice) (h : WellFormedMatrix matrix) :
    (supportedVersionsBy slice matrix).Perm (patches matrix) :=
  slice.perm _ _ (strictWeakOn_versionLess h.parses_patches)

theorem supportedVersionsBy_ascending (slice : SortSlice) (h : WellFormedMatrix matrix) :
    (supportedVersionsBy slice matrix).Pairwise fun a b => versionLE a b = true := by
  have hparses : ∀ v ∈ supportedVersionsBy slice matrix, Parses v := fun v hv =>
    h.parses_patches v ((supportedVersionsBy_perm slice h).mem_iff.mp hv)
  have hsorted := slice.ascending _ _ (strictWeakOn_versionLess h.parses_patches)
  exact hsorted.imp_of_mem fun ha hb hless => (versionLess_iff (hparses _ hb) (hparses _ ha)).mp hless

/-- The last of an ascending list is its maximum. -/
theorem latestSupportedVersion_max (slice : SortSlice) (h : WellFormedMatrix matrix) (hne : patches matrix ≠ []) :
    latestSupportedVersion slice matrix ∈ patches matrix ∧
      ∀ v ∈ patches matrix, versionLE v (latestSupportedVersion slice matrix) = true := by
  have hperm := supportedVersionsBy_perm slice h
  have hlist : supportedVersionsBy slice matrix ≠ [] := fun hnil => by
    rw [hnil] at hperm
    exact hne hperm.symm.eq_nil
  have hlast : latestSupportedVersion slice matrix = (supportedVersionsBy slice matrix).getLast hlist := by
    rw [latestSupportedVersion, List.getLast?_eq_getLast_of_ne_nil hlist]
    rfl
  have hmem : (supportedVersionsBy slice matrix).getLast hlist ∈ patches matrix :=
    hperm.mem_iff.mp (List.getLast_mem hlist)
  obtain ⟨x, hx⟩ := (h.parses_patches _ hmem).exists_eq
  have hself : versionLE _ _ = true := (versionLE_of_ok hx hx).mpr (Semver.LE.refl x)
  rw [hlast]
  exact ⟨hmem, fun v hv =>
    (supportedVersionsBy_ascending slice h).rel_getLast_of_rel_getLast_getLast (hperm.mem_iff.mpr hv) hself⟩

/-- **For every well-formed matrix the list of versions is a permutation of its patches in ascending order, its last
element is the maximum, and the resolved patch of a minor is a supported one that none of the minor exceeds.** -/
theorem version_listing_correct (slice : SortSlice) (matrix : List VersionInfo) (h : WellFormedMatrix matrix) :
    (supportedVersionsBy slice matrix).Perm (patches matrix) ∧
      (supportedVersionsBy slice matrix).Pairwise (fun a b => versionLE a b = true) ∧
      (patches matrix = [] → latestSupportedVersion slice matrix = "") ∧
      (patches matrix ≠ [] → latestSupportedVersion slice matrix ∈ patches matrix ∧
        ∀ v ∈ patches matrix, versionLE v (latestSupportedVersion slice matrix) = true) ∧
      ∀ info ∈ matrix, info.patchVersions ≠ [] →
        ∃ latest, resolveLatestPatch matrix info.version = .ok latest ∧ isSupported matrix latest = true ∧
          ∀ v, isSupported matrix v = true → minorOf v = info.version → versionLE v latest = true := by
  have hperm := supportedVersionsBy_perm slice h
  refine ⟨hperm, supportedVersionsBy_ascending slice h, ?_, latestSupportedVersion_max slice h, ?_⟩
  · intro hnil
    rw [hnil] at hperm
    rw [latestSupportedVersion, hperm.eq_nil]
    rfl
  · intro info hinfo hpatch
    obtain ⟨latest, hlatest, hmem, hmax⟩ := h.resolveLatestPatch_spec hinfo hpatch
    refine ⟨latest, hlatest, ?_, ?_⟩
    · exact (isSupported_iff latest).mpr ⟨info, hinfo, (h.belongs info hinfo latest hmem).symm, hmem⟩
    · intro v hv hminor
      obtain ⟨info', hinfo', hversion, hv'⟩ := (isSupported_iff v).mp hv
      obtain rfl := h.eq_of_version hinfo' hinfo (hversion.trans hminor)
      exact hmax v hv'

/-- The generated matrix is one of them. -/
theorem version_listing_generated :
    WellFormedMatrix supportedVersions ∧
      latestSupportedVersion insertionSlice supportedVersions ∈ patches supportedVersions ∧
      ∃ latest, resolveLatestPatch supportedVersions "1.31" = .ok latest ∧ isSupported supportedVersions latest = true := by
  have hwell : WellFormedMatrix supportedVersions := by
    refine ⟨?_, ?_, ?_⟩
    · unfold Parses
      decide +kernel
    · decide +kernel
    · decide +kernel
  have hne : patches supportedVersions ≠ [] := by decide +kernel
  have hlisted : ∃ info ∈ supportedVersions, info.version = "1.31" ∧ info.patchVersions ≠ [] := by decide +kernel
  obtain ⟨-, -, -, hmax, hresolve⟩ := version_listing_correct insertionSlice supportedVersions hwell
  obtain ⟨info, hinfo, hversion, hpatch⟩ := hlisted
  obtain ⟨latest, hlatest, hsupported, -⟩ := hresolve info hinfo hpatch
  rw [hversion] at hlatest
  exact ⟨hwell, (hmax hne).1, latest, hlatest, hsupported⟩

end TemporalOperator
