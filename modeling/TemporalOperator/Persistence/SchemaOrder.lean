import Mathlib.Data.Int.Order.Basic
import Mathlib.Order.PiLex
import TemporalOperator.Persistence.Schema

/-!
# The order of schema versions

A version stands for the sequence of its components, with zeros after the last one. `CompareSchemaVersions` compares
these sequences lexicographically, so that it is an order whatever the two texts are.

* `components` : the sequence of a version; `compareSchemaVersions_cases` : the comparison is the one of the sequences;
* `compareSchemaVersions_le_iff` : the order; `NumericComponents` : a version as it is written in the schema directories;
* `components_appendZeros` : trailing zeros do not count.
-/

namespace TemporalOperator.Persistence
open Lib

/-! ## Versions as sequences -/

def components (v : String) (i : Nat) : Int := componentAt (GoText.split '.' (normalizeSchemaVersion v)) i

theorem componentAt_of_length_le {parts : List String} {i : Nat} (h : parts.length ≤ i) : componentAt parts i = 0 := by
  unfold componentAt
  rw [List.getElem?_eq_none h]
  rfl

theorem toLex_lt_of_first {f g : Nat → Int} (i : Nat) (hsame : ∀ j, j < i → f j = g j) (hlt : f i < g i) :
    toLex f < toLex g :=
  ⟨i, hsame, hlt⟩

/-- The order of the sequences. -/
def Before (a b : String) : Prop := toLex (components a) < toLex (components b)

theorem before_of_first {a b : String} (i : Nat) (hsame : ∀ j, j < i → components a j = components b j)
    (hlt : components a i < components b i) : Before a b :=
  toLex_lt_of_first i hsame hlt

theorem Before.asymm {a b : String} (h : Before a b) : ¬ Before b a :=
  lt_asymm (α := Lex (Nat → Int)) h

theorem not_before_of_eq {a b : String} (h : components a = components b) : ¬ Before a b := by
  unfold Before
  rw [h]
  exact lt_irrefl (α := Lex (Nat → Int)) _

/-- The order is total, so that not being before is transitive. -/
theorem not_before_trans {a b c : String} (hab : ¬ Before b a) (hbc : ¬ Before c b) : ¬ Before c a := fun hca =>
  have hle : (toLex (components b) : Lex (Nat → Int)) ≤ toLex (components c) := not_lt.mp hbc
  hab (lt_of_le_of_lt hle hca)

/-- Nothing differs, or the first component that does decides. -/
theorem compareSchemaVersions_cases (a b : String) :
    compareSchemaVersions a b = 0 ∧ components a = components b ∨ compareSchemaVersions a b = -1 ∧ Before a b ∨
      compareSchemaVersions a b = 1 ∧ Before b a := by
  unfold compareSchemaVersions
  dsimp only
  split
  · rename_i hnone
    refine .inl ⟨rfl, funext fun i => ?_⟩
    rcases Nat.lt_or_ge i (max (GoText.split '.' (normalizeSchemaVersion a)).length
      (GoText.split '.' (normalizeSchemaVersion b)).length) with hlt | hge
    · have hi := List.find?_eq_none.mp hnone i (List.mem_range.mpr hlt)
      exact not_not.mp fun hne => hi (decide_eq_true hne)
    · unfold components
      rw [componentAt_of_length_le (by omega), componentAt_of_length_le (by omega)]
  · rename_i i hsome
    obtain ⟨hdiffer, -, hbefore⟩ := List.find?_range_eq_some.mp hsome
    have hsame : ∀ j, j < i → components a j = components b j := fun j hj =>
      not_not.mp fun hne => of_decide_eq_false (Bool.not_eq_true' _ ▸ hbefore j hj) hne
    have hne : components a i ≠ components b i := of_decide_eq_true hdiffer
    split
    · rename_i hlt
      exact .inr (.inl ⟨rfl, before_of_first i hsame hlt⟩)
    · rename_i hnlt
      have hgt : components b i < components a i := lt_of_le_of_ne (not_lt.mp hnlt) hne.symm
      exact .inr (.inr ⟨rfl, before_of_first i (fun j hj => (hsame j hj).symm) hgt⟩)

open Classical in
/-- The results, told apart by the order. -/
theorem compareSchemaVersions_eq (a b : String) :
    compareSchemaVersions a b = if Before a b then -1 else if Before b a then 1 else 0 := by
  rcases compareSchemaVersions_cases a b with ⟨hcompare, heq⟩ | ⟨hcompare, hlt⟩ | ⟨hcompare, hgt⟩
  · rw [hcompare, if_neg (not_before_of_eq heq), if_neg (not_before_of_eq heq.symm)]
  · rw [hcompare, if_pos hlt]
  · rw [hcompare, if_neg hgt.asymm, if_pos hgt]

theorem compareSchemaVersions_neg (a b : String) : compareSchemaVersions a b = -compareSchemaVersions b a := by
  rw [compareSchemaVersions_eq, compareSchemaVersions_eq]
  by_cases hlt : Before a b
  · rw [if_pos hlt, if_neg hlt.asymm, if_pos hlt]
  · rw [if_neg hlt, if_neg hlt]
    by_cases hgt : Before b a
    · rw [if_pos hgt, if_pos hgt]
      rfl
    · rw [if_neg hgt, if_neg hgt]
      rfl

theorem compareSchemaVersions_le_iff (a b : String) : compareSchemaVersions a b ≤ 0 ↔ ¬ Before b a := by
  rcases compareSchemaVersions_cases a b with ⟨hcompare, heq⟩ | ⟨hcompare, hlt⟩ | ⟨hcompare, hgt⟩
  · exact iff_of_true hcompare.le (not_before_of_eq heq.symm)
  · exact iff_of_true (by omega) hlt.asymm
  · exact iff_of_false (by omega) (not_not.mpr hgt)

theorem compareSchemaVersions_trans {a b c : String} (hab : compareSchemaVersions a b ≤ 0)
    (hbc : compareSchemaVersions b c ≤ 0) : compareSchemaVersions a c ≤ 0 := by
  rw [compareSchemaVersions_le_iff] at hab hbc ⊢
  exact not_before_trans hab hbc

/-- Texts with the same components are not told apart. -/
theorem compareSchemaVersions_congr {a a' b b' : String} (ha : components a = components a')
    (hb : components b = components b') : compareSchemaVersions a b = compareSchemaVersions a' b' := by
  rw [compareSchemaVersions_eq, compareSchemaVersions_eq]
  unfold Before
  rw [ha, hb]

/-! ## Trailing zeros -/

/-- Numbers between dots, after an optional `v`. -/
def NumericComponents (v : String) : Prop := ∀ part ∈ GoText.split '.' (GoText.trimPrefix v "v"), (GoText.atoi part).isOk

def appendZeros (v : String) : Nat → String
  | 0 => v
  | n + 1 => appendZeros v n ++ ".0"

theorem split_append_zero (v : String) : GoText.split '.' (v ++ ".0") = GoText.split '.' v ++ ["0"] := by
  unfold GoText.split List.splitOn
  rw [String.toList_append]
  show (List.splitOnP _ (v.toList ++ '.' :: ['0'])).map _ = _
  rw [List.splitOnP_append_cons _ _ (by decide), List.map_append]
  rfl

theorem componentAt_append_zero (parts : List String) (i : Nat) : componentAt (parts ++ ["0"]) i = componentAt parts i := by
  rcases Nat.lt_trichotomy i parts.length with hlt | rfl | hgt
  · unfold componentAt
    rw [List.getElem?_append_left hlt]
  · rw [componentAt_of_length_le le_rfl]
    unfold componentAt
    rw [List.getElem?_concat_length]
    rfl
  · rw [componentAt_of_length_le (by rw [List.length_append]; exact hgt), componentAt_of_length_le hgt.le]

theorem not_isSpace_of_isDigit {c : Char} (h : c.isDigit = true) : GoText.isSpace c = false := by
  have hrange := Char.isDigit_iff_toNat.mp h
  have hzero : '0'.toNat = 48 := rfl
  have hnine : '9'.toNat = 57 := rfl
  unfold GoText.isSpace
  simp only [Bool.or_eq_false_iff, Bool.and_eq_false_iff, decide_eq_false_iff_not, beq_eq_false_iff_ne]
  omega

theorem not_isSpace_of_atoi {part : String} (h : (GoText.atoi part).isOk = true) {c : Char} (hc : c ∈ part.toList) :
    GoText.isSpace c = false := by
  rcases GoText.char_of_atoi h hc with rfl | rfl | hdigit
  · decide
  · decide
  · exact not_isSpace_of_isDigit hdigit

theorem mem_split (sep : Char) {c : Char} {cs : List Char} (hc : c ∈ cs) : c = sep ∨ ∃ part ∈ cs.splitOn sep, c ∈ part := by
  induction cs with
  | nil => exact absurd hc List.not_mem_nil
  | cons d cs ih =>
    unfold List.splitOn at ih ⊢
    rw [List.splitOnP_cons_eq_if_modifyHead]
    obtain ⟨first, rest, hsplit⟩ := List.exists_cons_of_ne_nil (List.splitOnP_ne_nil (· == sep) cs)
    rw [hsplit] at ih ⊢
    split
    · rename_i hd
      rcases List.mem_cons.mp hc with rfl | hc
      · exact .inl (beq_iff_eq.mp hd)
      · exact (ih hc).imp_right fun ⟨part, hpart, hmem⟩ => ⟨part, List.mem_cons_of_mem _ hpart, hmem⟩
    · rw [List.modifyHead_cons]
      rcases List.mem_cons.mp hc with rfl | hc
      · exact .inr ⟨_, List.mem_cons_self, List.mem_cons_self⟩
      · refine (ih hc).imp_right fun ⟨part, hpart, hmem⟩ => ?_
        rcases List.mem_cons.mp hpart with rfl | hpart
        · exact ⟨_, List.mem_cons_self, List.mem_cons_of_mem _ hmem⟩
        · exact ⟨part, List.mem_cons_of_mem _ hpart, hmem⟩

theorem trimSpace_eq_self {s : String} (h : ∀ c ∈ s.toList, GoText.isSpace c = false) : GoText.trimSpace s = s := by
  have hdrop : ∀ cs : List Char, (∀ c ∈ cs, GoText.isSpace c = false) → cs.dropWhile GoText.isSpace = cs := by
    intro cs hcs
    rw [List.dropWhile_eq_self_iff]
    intro hlen
    rw [hcs _ (List.getElem_mem hlen)]
    decide
  unfold GoText.trimSpace
  rw [hdrop _ h, hdrop _ fun c hc => h c (List.mem_reverse.mp hc), List.reverse_reverse, String.ofList_toList]

theorem trimPrefix_cases (v : String) :
    v.toList = 'v' :: (GoText.trimPrefix v "v").toList ∨
      GoText.trimPrefix v "v" = v ∧ ∀ cs, v.toList ≠ 'v' :: cs := by
  unfold GoText.trimPrefix
  cases hv : v.toList with
  | nil => exact .inr ⟨rfl, nofun⟩
  | cons c cs =>
    by_cases hc : c = 'v'
    · subst hc
      have hprefix : "v".toList.isPrefixOf ('v' :: cs) = true := rfl
      refine .inl ?_
      rw [if_pos hprefix]
      exact congrArg _ String.toList_ofList.symm
    · refine .inr ⟨if_neg ?_, fun ds h => hc (List.cons.inj h).1⟩
      simp [List.isPrefixOf, Ne.symm hc]

theorem normalize_of_numeric {v : String} (h : NumericComponents v) :
    normalizeSchemaVersion v = GoText.trimPrefix v "v" := by
  have hparts : ∀ c ∈ (GoText.trimPrefix v "v").toList, GoText.isSpace c = false := by
    intro c hc
    rcases mem_split '.' hc with rfl | ⟨part, hpart, hmem⟩
    · decide
    · refine not_isSpace_of_atoi (h (String.ofList part) (List.mem_map_of_mem hpart)) ?_
      rwa [String.toList_ofList]
  unfold normalizeSchemaVersion
  rw [trimSpace_eq_self]
  intro c hc
  rcases trimPrefix_cases v with hv | ⟨hv, -⟩
  · rw [hv] at hc
    rcases List.mem_cons.mp hc with rfl | hc
    · decide
    · exact hparts c hc
  · rw [hv] at hparts
    exact hparts c hc

theorem trimPrefix_append (v : String) : GoText.trimPrefix (v ++ ".0") "v" = GoText.trimPrefix v "v" ++ ".0" := by
  rw [← String.toList_inj, String.toList_append]
  rcases trimPrefix_cases v with hv | ⟨hv, hnot⟩
  · rcases trimPrefix_cases (v ++ ".0") with hw | ⟨-, hnot⟩
    · rw [String.toList_append, hv] at hw
      exact (List.cons.inj hw).2.symm
    · refine absurd ?_ (hnot ((GoText.trimPrefix v "v").toList ++ ".0".toList))
      rw [String.toList_append, hv]
      rfl
  · rw [hv]
    rcases trimPrefix_cases (v ++ ".0") with hw | ⟨hw, -⟩
    · rw [String.toList_append] at hw
      cases hlist : v.toList with
      | nil =>
        rw [hlist] at hw
        exact absurd (List.cons.inj hw).1 (by decide)
      | cons c cs =>
        rw [hlist] at hw
        exact absurd (hlist.trans (congrArg (· :: cs) (List.cons.inj hw).1)) (hnot cs)
    · rw [hw, String.toList_append]

theorem NumericComponents.append_zero {v : String} (h : NumericComponents v) : NumericComponents (v ++ ".0") := by
  unfold NumericComponents
  rw [trimPrefix_append, split_append_zero]
  exact List.forall_mem_append.mpr ⟨h, by decide⟩

theorem numericComponents_appendZeros {v : String} (h : NumericComponents v) (n : Nat) :
    NumericComponents (appendZeros v n) := by
  induction n with
  | zero => exact h
  | succ n ih => exact ih.append_zero

/-- Trailing zeros do not count. -/
theorem components_appendZeros {v : String} (h : NumericComponents v) (n : Nat) :
    components (appendZeros v n) = components v := by
  induction n with
  | zero => rfl
  | succ n ih =>
    have hn := numericComponents_appendZeros h n
    rw [← ih]
    funext i
    show componentAt (GoText.split '.' (normalizeSchemaVersion (appendZeros v n ++ ".0"))) i =
      componentAt (GoText.split '.' (normalizeSchemaVersion (appendZeros v n))) i
    rw [normalize_of_numeric hn.append_zero, normalize_of_numeric hn, trimPrefix_append, split_append_zero,
      componentAt_append_zero]

/-! ## The comparison is an order -/

theorem schemaSatisfies_iff (current required : String) :
    schemaSatisfies current required = true ↔
      GoText.trimSpace current ≠ "" ∧ compareSchemaVersions required current ≤ 0 := by
  unfold schemaSatisfies
  rw [compareSchemaVersions_neg required current]
  split
  · rename_i hblank
    exact ⟨nofun, fun h => absurd hblank h.1⟩
  · rename_i hblank
    rw [decide_eq_true_eq, and_iff_right hblank]
    omega

/-- **The comparison is antisymmetric and transitive for all texts, trailing zeros of numeric versions do not count, and
a version that meets a requirement meets every lower one, as does every higher version.** -/
theorem schema_versions_ordered :
    (∀ a b, compareSchemaVersions a b = -compareSchemaVersions b a) ∧
      (∀ a b c, compareSchemaVersions a b ≤ 0 → compareSchemaVersions b c ≤ 0 → compareSchemaVersions a c ≤ 0) ∧
      (∀ a b n m, NumericComponents a → NumericComponents b →
        compareSchemaVersions (appendZeros a n) (appendZeros b m) = compareSchemaVersions a b) ∧
      ∀ current required current' required', schemaSatisfies current required = true →
        GoText.trimSpace current' ≠ "" → compareSchemaVersions current' current ≥ 0 →
        compareSchemaVersions required' required ≤ 0 → schemaSatisfies current' required' = true := by
  refine ⟨compareSchemaVersions_neg, fun _ _ _ => compareSchemaVersions_trans, ?_, ?_⟩
  · intro a b n m ha hb
    exact compareSchemaVersions_congr (components_appendZeros ha n) (components_appendZeros hb m)
  · intro current required current' required' hsat hblank hcurrent hrequired
    rw [schemaSatisfies_iff] at hsat ⊢
    rw [compareSchemaVersions_neg] at hcurrent
    have hlower := compareSchemaVersions_trans hrequired hsat.2
    exact ⟨hblank, compareSchemaVersions_trans hlower (by omega)⟩

theorem schema_versions_ordered_v1_12 :
    compareSchemaVersions "v1.9" "1.12" ≤ 0 ∧ compareSchemaVersions "1.12" "1.13" ≤ 0 ∧
      compareSchemaVersions "v1.9" "1.13" ≤ 0 ∧ compareSchemaVersions "v1.12.0.0" "1.12" = 0 ∧
      schemaSatisfies "1.13" "v1.9" = true := by
  have hlow : compareSchemaVersions "v1.9" "1.12" ≤ 0 := by decide
  have hhigh : compareSchemaVersions "1.12" "1.13" ≤ 0 := by decide
  have hnumeric : NumericComponents "v1.12" := by unfold NumericComponents; decide
  have hnumeric' : NumericComponents "1.12" := by unfold NumericComponents; decide
  have hzeros := schema_versions_ordered.2.2.1 "v1.12" "1.12" 2 0 hnumeric hnumeric'
  have hsame : compareSchemaVersions "v1.12" "1.12" = 0 := by decide
  have hsat : schemaSatisfies "1.12" "1.12" = true := by decide
  have hblank : GoText.trimSpace "1.13" ≠ "" := by decide
  have hnewer : compareSchemaVersions "1.13" "1.12" ≥ 0 := by decide
  exact ⟨hlow, hhigh, schema_versions_ordered.2.1 _ _ _ hlow hhigh, hzeros.trans hsame,
    schema_versions_ordered.2.2.2 _ _ _ _ hsat hblank hnewer hlow⟩

end TemporalOperator.Persistence
