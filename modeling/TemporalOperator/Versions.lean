import TemporalOperator.Lib.GoText
import Mathlib.Data.List.Sort

/-!
# The version compatibility matrix

`internal/temporal/versions.go` and the generated `versions_gen.go`. The functions take the matrix as an
argument; `supportedVersions` is the generated one.

* `Semver`, `parseSemver` : `major.minor.patch`, ordered lexicographically;
* `lookupVersion`, `isSupported`, `canUpgrade` : the lookups the webhook and the controller make;
* `versionLE` : the order of two version texts;
* `isSupported_mem`, `canUpgrade_patches` : a supported version is one of the listed patches, and an admitted
  move between two of them never goes down.
-/

namespace TemporalOperator
open Lib

/-- One supported minor version (the fields the operator's core reads). -/
structure VersionInfo where
  version : String
  patchVersions : List String
  minSchemaSQL : String
  minSchemaSQLVisibility : String
  minSchemaCassandra : String
  minSchemaES : String
  allowedFromVersions : List String
  uiSeries : String
  defaultUIVersion : String
  devServerCLIVersion : String
  cassandraVisibilitySupported : Bool := false
  removedDynamicConfig : List String := []
  addedDynamicConfig : List String := []
  deriving DecidableEq, Repr

def supportedVersions : List VersionInfo :=
  [ { version := "1.27", patchVersions := ["1.27.0"],
      minSchemaSQL := "v1.15", minSchemaSQLVisibility := "v1.9", minSchemaCassandra := "v1.11", minSchemaES := "v7",
      allowedFromVersions := ["1.26"], uiSeries := "2.31", defaultUIVersion := "2.31.2",
      devServerCLIVersion := "1.3.0" },
    { version := "1.28", patchVersions := ["1.28.3", "1.28.4"],
      minSchemaSQL := "v1.17", minSchemaSQLVisibility := "v1.9", minSchemaCassandra := "v1.12", minSchemaES := "v7",
      allowedFromVersions := ["1.27"], uiSeries := "2.32", defaultUIVersion := "2.32.0",
      devServerCLIVersion := "1.4.1" },
    { version := "1.29", patchVersions := ["1.29.6", "1.29.7"],
      minSchemaSQL := "v1.18", minSchemaSQLVisibility := "v1.9", minSchemaCassandra := "v1.13", minSchemaES := "v7",
      allowedFromVersions := ["1.28"], uiSeries := "2.33", defaultUIVersion := "2.33.0",
      devServerCLIVersion := "1.5.1" },
    { version := "1.30", patchVersions := ["1.30.4", "1.30.5", "1.30.6", "1.30.8"],
      minSchemaSQL := "v1.18", minSchemaSQLVisibility := "v1.13", minSchemaCassandra := "v1.13", minSchemaES := "v7",
      allowedFromVersions := ["1.29"], uiSeries := "2.34", defaultUIVersion := "2.34.0",
      devServerCLIVersion := "1.6.2" },
    { version := "1.31", patchVersions := ["1.31.0", "1.31.1", "1.31.2", "1.31.4"],
      minSchemaSQL := "v1.19", minSchemaSQLVisibility := "v1.14", minSchemaCassandra := "v1.13", minSchemaES := "v7",
      allowedFromVersions := ["1.30"], uiSeries := "2.52", defaultUIVersion := "2.52.1",
      devServerCLIVersion := "1.7.2" },
    { version := "1.32", patchVersions := ["1.32.0", "1.32.1"],
      minSchemaSQL := "v1.19", minSchemaSQLVisibility := "v1.14", minSchemaCassandra := "v1.13", minSchemaES := "v7",
      allowedFromVersions := ["1.31"], uiSeries := "2.56", defaultUIVersion := "2.56.0",
      devServerCLIVersion := "1.9.1",
      removedDynamicConfig := ["matching.enableMigration", "nexusoperation.useSystemCallbackURL",
        "component.nexusoperations.useSystemCallbackURL", "component.callbacks.allowedAddresses"] } ]

/-! ## Semantic versions -/

structure Semver where
  major : Int
  minor : Int
  patch : Int
  deriving DecidableEq, Repr

/-- The numeric order of versions. -/
def Semver.LE (a b : Semver) : Prop :=
  a.major < b.major ∨ a.major = b.major ∧ (a.minor < b.minor ∨ a.minor = b.minor ∧ a.patch ≤ b.patch)

instance (a b : Semver) : Decidable (a.LE b) :=
  inferInstanceAs (Decidable (_ ∨ _))

theorem Semver.LE.refl (a : Semver) : a.LE a := .inr ⟨rfl, .inr ⟨rfl, Int.le_refl _⟩⟩

theorem Semver.LE.trans {a b c : Semver} (h₁ : a.LE b) (h₂ : b.LE c) : a.LE c := by
  unfold Semver.LE at *
  omega

def parseSemver (v : String) : Except String Semver :=
  match GoText.split '.' v with
  | [a, b, c] => do
    let part (p : String) : Except String Int :=
      (GoText.atoi p).mapError fun e => "invalid version " ++ GoText.quote v ++ ": " ++ e
    let major ← part a
    let minor ← part b
    let patch ← part c
    return ⟨major, minor, patch⟩
  | _ => .error ("invalid version " ++ GoText.quote v ++ ": expected major.minor.patch")

/-- The order of two version texts; a text that does not parse is below and above nothing. -/
def versionLE (a b : String) : Bool :=
  match parseSemver a, parseSemver b with
  | .ok x, .ok y => decide (x.LE y)
  | _, _ => false

theorem versionLE_iff (a b : String) :
    versionLE a b ↔ ∃ x y, parseSemver a = .ok x ∧ parseSemver b = .ok y ∧ x.LE y := by
  unfold versionLE
  constructor
  · intro h
    split at h
    · rename_i x y hx hy
      exact ⟨x, y, hx, hy, by simpa using h⟩
    · cases h
  · rintro ⟨x, y, hx, hy, h⟩
    simpa [hx, hy] using h

theorem versionLE.trans {a b c : String} (h₁ : versionLE a b) (h₂ : versionLE b c) : versionLE a c := by
  obtain ⟨x, y, hx, hy, hxy⟩ := (versionLE_iff a b).mp h₁
  obtain ⟨y', z, hy', hz, hyz⟩ := (versionLE_iff b c).mp h₂
  rw [hy] at hy'
  obtain rfl := Except.ok.inj hy'
  exact (versionLE_iff a c).mpr ⟨x, z, hx, hz, hxy.trans hyz⟩

/-! ## Lookups -/

section Matrix
variable (matrix : List VersionInfo)

/-- `minorOf`: the `major.minor` part of a version. -/
def minorOf (version : String) : String :=
  match GoText.split '.' version with
  | a :: b :: _ => a ++ "." ++ b
  | _ => version

def lookupVersion (version : String) : Except String VersionInfo :=
  match matrix.find? fun info => info.version = minorOf version with
  | some info => .ok info
  | none => .error ("version " ++ GoText.quote version ++ " is not supported")

def isSupported (version : String) : Bool :=
  matrix.any fun info => info.version = minorOf version && info.patchVersions.any (· = version)

def defaultUIVersion (serverVersion : String) : String :=
  match lookupVersion matrix serverVersion with
  | .ok info => info.defaultUIVersion
  | .error _ => ""

def canUpgrade (fromV toV : String) : Except String Bool :=
  if !isSupported matrix toV then .error ("version " ++ GoText.quote toV ++ " is not supported")
  else
    match parseSemver fromV, parseSemver toV with
    | .error e, _ => .error e
    | _, .error e => .error e
    | .ok f, .ok t =>
      if t.major = f.major ∧ t.minor = f.minor then .ok (t.patch ≥ f.patch)
      else
        match lookupVersion matrix toV with
        | .error e => .error e
        | .ok toInfo => .ok (toInfo.allowedFromVersions.any (· = minorOf fromV))

/-- The minor of `toV` follows that of `fromV` and lists it as a minor to come from. -/
def isNextMinor (fromV toV : String) : Bool :=
  match parseSemver fromV, parseSemver toV, lookupVersion matrix toV with
  | .ok f, .ok t, .ok info =>
    t.major = f.major && t.minor = f.minor + 1 && info.allowedFromVersions.contains (minorOf fromV)
  | _, _, _ => false

/-- The patch versions listed in the matrix. -/
def patches : List String := matrix.flatMap VersionInfo.patchVersions

/-- The `less` function of `SupportedVersions`. -/
def versionLess (a b : String) : Bool :=
  match parseSemver a, parseSemver b with
  | .ok x, .ok y =>
    if x.major ≠ y.major then x.major < y.major
    else if x.minor ≠ y.minor then x.minor < y.minor
    else x.patch < y.patch
  | _, _ => a < b

/-- `SupportedVersions`: the listed patches, sorted. -/
def listSupportedVersions : List String :=
  (patches matrix).insertionSort fun a b => ¬ versionLess b a

theorem isSupported_mem {version : String} (h : isSupported matrix version = true) :
    version ∈ patches matrix := by
  simp only [isSupported, List.any_eq_true, Bool.and_eq_true, decide_eq_true_eq] at h
  obtain ⟨info, hinfo, -, p, hp, rfl⟩ := h
  exact List.mem_flatMap.mpr ⟨info, hinfo, hp⟩

end Matrix

def serverImageOf (version : String) : String := "temporalio/server" ++ ":" ++ version

def isDefaultServerImage (image : String) : Bool :=
  let pre := "temporalio/server:"
  if pre.toList.isPrefixOf image.toList then
    match parseSemver (String.ofList (image.toList.drop pre.toList.length)) with
    | .ok _ => true
    | .error _ => false
  else false

def adminToolsImage (version : String) : String := "temporalio/admin-tools:" ++ version

/-! ## The generated matrix never moves a version down -/

theorem parse_patches : ∀ v ∈ patches supportedVersions, versionLE v v := by
  decide +kernel

theorem canUpgrade_patches : ∀ f ∈ patches supportedVersions, ∀ t ∈ patches supportedVersions,
    canUpgrade supportedVersions f t = .ok true → versionLE f t := by
  decide +kernel

/-- A move that changes the minor goes to the next one. -/
theorem canUpgrade_nextMinor : ∀ f ∈ patches supportedVersions, ∀ t ∈ patches supportedVersions,
    canUpgrade supportedVersions f t = .ok true → minorOf t ≠ minorOf f → isNextMinor supportedVersions f t := by
  decide +kernel

theorem versionLE_antisymm_patches : ∀ f ∈ patches supportedVersions, ∀ t ∈ patches supportedVersions,
    versionLE f t → versionLE t f → f = t := by
  decide +kernel

end TemporalOperator
