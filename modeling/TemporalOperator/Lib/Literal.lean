import TemporalOperator.Lib.Shortest

/-!
# The exact number of a literal

`strconv.ParseFloat` rounds the number that a literal stands for, except that it drops the digits of an exponent once it
has reached 10000.

* `exact` : the number of a literal; `exponentSize` : its exponent as written, without the sign;
* `FloatDecimal` : a number that is the shortest decimal of its binary64 number;
* `written_parseFloat_iff` : reading a literal and writing the shortest decimal gives the number back for zero, and for
  the float decimals with an exponent below 100000.
-/

namespace TemporalOperator.Lib.Float64

/-! ## The parts of a literal -/

def splitSign : List Char → Bool × List Char
  | '-' :: cs => (true, cs)
  | '+' :: cs => (false, cs)
  | cs => (false, cs)

def splitBase (cs : List Char) : Bool × List Char :=
  match cs with
  | '0' :: x :: c :: rest => if x.toLower = 'x' then (true, c :: rest) else (false, cs)
  | _ => (false, cs)

def exponentValue (e : Nat) : List Char → Nat
  | [] => e
  | c :: cs => if c = '_' then exponentValue e cs else exponentValue (e * 10 + (c.toNat - '0'.toNat)) cs

/-- The sign and the size of the exponent part. -/
def exponentPart : List Char → Bool × Nat
  | [] => (false, 0)
  | _ :: cs => ((splitSign cs).1, exponentValue 0 (splitSign cs).2)

structure Parts where
  hex : Bool
  mant : Nat
  frac : Nat
  rest : List Char

/-- A literal without its sign: the base, the digits, how many follow the point, and the exponent part. -/
def parts (cs : List Char) : Parts :=
  let b := splitBase cs
  let d := scanDigits b.1 0 0 false false b.2
  ⟨b.1, d.1, d.2.1, d.2.2.2⟩

namespace Parts

def base (p : Parts) : Nat := if p.hex then 2 else 10

def scaled (p : Parts) (e : Int) : ℚ := p.mant * p.base ^ (e - (if p.hex then 4 * p.frac else p.frac : Nat))

def value (p : Parts) : ℚ := p.scaled (signed (exponentPart p.rest).1 (exponentPart p.rest).2)

end Parts

def exact (literal : List Char) : ℚ :=
  let q := (parts (splitSign literal).2).value
  if (splitSign literal).1 then -q else q

def exponentSize (literal : List Char) : Nat := (exponentPart (parts (splitSign literal).2).rest).2

/-- The shortest decimal of the binary64 number that it is read as. -/
def FloatDecimal (q : ℚ) : Prop := ∃ p m, FewestAt (reads |q|) p m ∧ |q| = (m : ℚ) * 10 ^ p

theorem splitSign_of_ne {cs : List Char} (hminus : ∀ ds, cs = '-' :: ds → False)
    (hplus : ∀ ds, cs = '+' :: ds → False) : splitSign cs = (false, cs) := by
  unfold splitSign
  split
  · exact absurd rfl (hminus _)
  · exact absurd rfl (hplus _)
  · rfl

/-! ## Exponents that are too long -/

theorem le_exponentValue (e : Nat) (cs : List Char) : e ≤ exponentValue e cs := by
  induction cs generalizing e with
  | nil => exact Nat.le_refl e
  | cons c cs ih =>
    unfold exponentValue
    split
    · exact ih e
    · exact (by omega : e ≤ e * 10 + (c.toNat - '0'.toNat)).trans (ih _)

theorem scanExponent_of_le {e e' : Nat} {cs : List Char} (he : 10000 ≤ e) (h : scanExponent e cs = (e', [])) :
    e' = e := by
  induction cs with
  | nil => exact (Prod.mk.inj h).1.symm
  | cons c cs ih =>
    unfold scanExponent at h
    rw [if_neg (by omega : ¬ e < 10000)] at h
    split at h
    · exact ih h
    · split at h
      · exact ih h
      · exact nomatch (Prod.mk.inj h).2

/-- The exponent `k` is the exponent `e` as it is written, or `e` cut short. -/
def ReadAs (e k : Nat) : Prop := k = e ∧ e < 100000 ∨ 10000 ≤ k ∧ 10 * k ≤ e

theorem digit_le {c : Char} (h : c.isDigit) : c.toNat - '0'.toNat ≤ 9 := by
  unfold Char.isDigit at h
  rw [Bool.and_eq_true, decide_eq_true_eq, decide_eq_true_eq] at h
  have hle : c.toNat ≤ 57 := UInt32.le_iff_toNat_le.mp h.2
  have hzero : '0'.toNat = 48 := rfl
  omega

theorem scanExponent_readAs {e k : Nat} {cs : List Char} (he : e < 100000) (h : scanExponent e cs = (k, [])) :
    ReadAs (exponentValue e cs) k := by
  induction cs generalizing e with
  | nil =>
    obtain rfl := (Prod.mk.inj h).1
    exact .inl ⟨rfl, he⟩
  | cons c cs ih =>
    unfold scanExponent at h
    unfold exponentValue
    split at h
    · rename_i hunder
      rw [if_pos hunder]
      exact ih he h
    · rename_i hunder
      rw [if_neg hunder]
      split at h
      · rename_i hdigit
        have hnine := digit_le hdigit
        split at h
        · exact ih (by omega) h
        · -- the digit is dropped, and so are the ones after it
          obtain rfl := scanExponent_of_le (by omega) h
          have hle := le_exponentValue (k * 10 + (c.toNat - '0'.toNat)) cs
          exact .inr ⟨by omega, by omega⟩
      · exact nomatch (Prod.mk.inj h).2

theorem wholeExponent_readAs {k : Nat} {cs : List Char} (h : wholeExponent cs = some k) :
    ReadAs (exponentValue 0 cs) k := by
  unfold wholeExponent at h
  split at h
  · split at h
    · split at h
      · rename_i hscan
        obtain rfl := Option.some.inj h
        exact scanExponent_readAs (by decide) hscan
      · exact nomatch h
    · exact nomatch h
  · exact nomatch h

theorem readExponent_readAs {hex : Bool} {e : Int} {cs : List Char} (h : readExponent hex cs = some e) :
    ∃ k, e = signed (exponentPart cs).1 k ∧ ReadAs (exponentPart cs).2 k := by
  cases cs with
  | nil =>
    cases hex with
    | true => exact nomatch h
    | false =>
      obtain rfl := Option.some.inj h
      exact ⟨0, rfl, .inl ⟨rfl, by decide⟩⟩
  | cons c cs =>
    unfold readExponent at h
    dsimp only at h
    by_cases hmark : c.toLower ≠ (if hex then 'p' else 'e')
    · rw [if_pos hmark] at h
      exact nomatch h
    · rw [if_neg hmark] at h
      unfold exponentPart
      split at h <;> obtain ⟨i, hi, rfl⟩ := Option.map_eq_some_iff.mp h <;>
        obtain ⟨k, hk, hki⟩ := Option.bind_eq_some_iff.mp hi <;> obtain rfl := Option.some.inj hki
      · exact ⟨k, rfl, wholeExponent_readAs hk⟩
      · exact ⟨k, rfl, wholeExponent_readAs hk⟩
      · rename_i hminus hplus
        show ∃ k', (k : Int) = signed (splitSign cs).1 k' ∧ ReadAs (exponentValue 0 (splitSign cs).2) k'
        rw [splitSign_of_ne hminus hplus]
        exact ⟨k, rfl, wholeExponent_readAs hk⟩

/-! ## Reading -/

theorem ofRatio_eq_some {neg : Bool} {n d : Nat} {f : Float64} (h : ofRatio neg n d = some f) :
    ∃ hrep, f = .finite neg ⟨nearest n d, hrep⟩ := by
  unfold ofRatio at h
  dsimp only at h
  split at h
  · exact ⟨_, (Option.some.inj h).symm⟩
  · exact nomatch h

theorem ofScaled_eq_some {neg : Bool} {base mant : Nat} {e : Int} {f : Float64} (hbase : 0 < base)
    (h : ofScaled neg base mant e = some f) :
    ∃ hrep, f = .finite neg ⟨reads (mant * (base : ℚ) ^ e), hrep⟩ := by
  have hone : (2 : ℚ) ^ onePlace ≠ 0 := pow_ne_zero _ (by norm_num)
  cases e with
  | ofNat e =>
    unfold ofScaled at h
    obtain ⟨hrep, rfl⟩ := ofRatio_eq_some h
    have hreads : reads (mant * (base : ℚ) ^ (Int.ofNat e)) = nearest (mant * 2 ^ onePlace * base ^ e) 1 := by
      rw [← reads_div (by decide)]
      refine congrArg reads ?_
      rw [Int.ofNat_eq_natCast, zpow_natCast]
      push_cast
      rw [div_one, mul_right_comm, mul_div_cancel_right₀ _ hone]
    exact ⟨hreads ▸ hrep, by simp only [hreads]⟩
  | negSucc e =>
    unfold ofScaled at h
    obtain ⟨hrep, rfl⟩ := ofRatio_eq_some h
    have hreads : reads (mant * (base : ℚ) ^ (Int.negSucc e)) = nearest (mant * 2 ^ onePlace) (base ^ (e + 1)) := by
      rw [← reads_div (Nat.pow_pos hbase)]
      refine congrArg reads ?_
      rw [zpow_negSucc]
      push_cast
      rw [div_right_comm, mul_div_cancel_right₀ _ hone, div_eq_mul_inv]
    exact ⟨hreads ▸ hrep, by simp only [hreads]⟩

theorem Parts.one_lt_base (p : Parts) : 1 < p.base := by
  unfold base
  split <;> decide

theorem Parts.scaled_hex {p : Parts} {e : Int} (h : p.hex = true) :
    p.scaled e = p.mant * ((2 : Nat) : ℚ) ^ (e - 4 * p.frac) := by
  unfold scaled base
  rw [if_pos h, if_pos h, Nat.cast_mul]
  rfl

theorem Parts.scaled_decimal {p : Parts} {e : Int} (h : ¬ p.hex = true) :
    p.scaled e = p.mant * ((10 : Nat) : ℚ) ^ (e - p.frac) := by
  unfold scaled base
  rw [if_neg h, if_neg h]

theorem readMagnitude_eq_some {neg : Bool} {cs : List Char} {f : Float64} (h : readMagnitude neg cs = some (some f)) :
    ∃ e, readExponent (parts cs).hex (parts cs).rest = some e ∧
      ∃ hrep, f = .finite neg ⟨reads ((parts cs).scaled e), hrep⟩ := by
  have hread : (readExponent (parts cs).hex (parts cs).rest).map (fun e =>
      if (parts cs).hex then ofScaled neg 2 (parts cs).mant (e - 4 * (parts cs).frac)
      else ofScaled neg 10 (parts cs).mant (e - (parts cs).frac)) = some (some f) := by
    have hunfold : readMagnitude neg cs =
        if !(scanDigits (splitBase cs).1 0 0 false false (splitBase cs).2).2.2.1 ||
            !underscoreOK (splitBase cs).1 (splitBase cs).1 false (splitBase cs).2 then none
        else (readExponent (parts cs).hex (parts cs).rest).map (fun e =>
          if (parts cs).hex then ofScaled neg 2 (parts cs).mant (e - 4 * (parts cs).frac)
          else ofScaled neg 10 (parts cs).mant (e - (parts cs).frac)) := rfl
    rw [hunfold] at h
    split at h
    · exact nomatch h
    · exact h
  obtain ⟨e, he, hscaled⟩ := Option.map_eq_some_iff.mp hread
  refine ⟨e, he, ?_⟩
  split at hscaled
  · rename_i hhex
    rw [Parts.scaled_hex hhex]
    exact ofScaled_eq_some (by decide) hscaled
  · rename_i hhex
    rw [Parts.scaled_decimal hhex]
    exact ofScaled_eq_some (by decide) hscaled

theorem parseFloat_eq_ok {literal : List Char} {f : Float64} (h : parseFloat (String.ofList literal) = .ok f)
    (hf : f.isFinite = true) : readMagnitude (splitSign literal).1 (splitSign literal).2 = some (some f) := by
  unfold parseFloat at h
  dsimp only at h
  split at h
  · obtain rfl := Except.ok.inj h
    exact nomatch hf
  · split at h
    · obtain rfl := Except.ok.inj h
      exact nomatch hf
    · split at h
      · obtain rfl := Except.ok.inj h
        exact nomatch hf
      · rw [String.toList_ofList] at h
        -- the three signs, and for each the outcomes: no literal, out of range, a number
        split at h
        · split at h
          · exact nomatch h
          · exact nomatch h
          · rename_i hread
            rwa [Except.ok.inj h] at hread
        · split at h
          · exact nomatch h
          · exact nomatch h
          · rename_i hread
            rwa [Except.ok.inj h] at hread
        · rename_i hminus hplus
          rw [splitSign_of_ne hminus hplus]
          split at h
          · exact nomatch h
          · exact nomatch h
          · rename_i hread
            rwa [Except.ok.inj h] at hread

/-- A literal is read as the number with its own exponent, or with the exponent cut short. -/
theorem parseFloat_reads {literal : List Char} {f : Float64} (h : parseFloat (String.ofList literal) = .ok f)
    (hf : f.isFinite = true) :
    ∃ k, ReadAs (exponentSize literal) k ∧ ∃ hrep, f = .finite (splitSign literal).1
      ⟨reads ((parts (splitSign literal).2).scaled
        (signed (exponentPart (parts (splitSign literal).2).rest).1 k)), hrep⟩ := by
  obtain ⟨e, he, hrep, hfinite⟩ := readMagnitude_eq_some (parseFloat_eq_ok h hf)
  obtain ⟨k, rfl, hk⟩ := readExponent_readAs he
  exact ⟨k, hk, hrep, hfinite⟩

/-! ## Numbers that are read as the same -/

theorem exists_ratio {q : ℚ} (hq : 0 ≤ q) : ∃ n d : Nat, 0 < d ∧ q = n / d / 2 ^ onePlace := by
  have hone : (0 : ℚ) < 2 ^ onePlace := pow_pos (by norm_num) _
  refine ⟨(q * 2 ^ onePlace).num.toNat, (q * 2 ^ onePlace).den, Rat.den_pos _, ?_⟩
  have hnum : (((q * 2 ^ onePlace).num.toNat : Int) : ℚ) = (q * 2 ^ onePlace).num :=
    congrArg Int.cast (Int.toNat_of_nonneg (Rat.num_nonneg.mpr (mul_nonneg hq hone.le)))
  rw [Int.cast_natCast] at hnum
  rw [hnum, Rat.num_div_den, mul_div_cancel_right₀ _ hone.ne']

/-- A number is at least half of what it is read as, and less than twice as large. -/
theorem reads_bounds {q : ℚ} (hq : 0 ≤ q) :
    (reads q : ℚ) ≤ 2 * (q * 2 ^ onePlace) ∧ (0 < reads q → q * 2 ^ onePlace < 2 * reads q) := by
  obtain ⟨n, d, hd, rfl⟩ := exists_ratio hq
  have hone : (2 : ℚ) ^ onePlace ≠ 0 := pow_ne_zero _ (by norm_num)
  have hd' : (0 : ℚ) < d := Nat.cast_pos.mpr hd
  rw [reads_div hd, div_mul_cancel₀ _ hone]
  constructor
  · rw [← mul_div_assoc, le_div_iff₀ hd']
    exact_mod_cast nearest_mul_le n d
  · intro hpos
    rw [div_lt_iff₀ hd']
    exact_mod_cast lt_of_nearest hpos hd rfl

theorem reads_ne_of_ten_mul_le {q r : ℚ} (hq : 0 ≤ q) (h : 10 * q ≤ r) (hpos : 0 < reads r) : reads q ≠ reads r := by
  intro heq
  have hone : (0 : ℚ) < 2 ^ onePlace := pow_pos (by norm_num) _
  have hlow := (reads_bounds hq).1
  have hhigh := (reads_bounds (le_trans (by linarith) h)).2 hpos
  have hscaled : 10 * (q * 2 ^ onePlace) ≤ r * 2 ^ onePlace := by
    rw [← mul_assoc]
    exact mul_le_mul_of_nonneg_right h hone.le
  rw [heq] at hlow
  have hreads : (0 : ℚ) < reads r := Nat.cast_pos.mpr hpos
  linarith

theorem reads_zero : reads 0 = 0 := by decide +kernel

/-- Zero is read as the magnitude 0, at every place. -/
theorem not_fewestAt_zero (p : Int) (m : Nat) : ¬ FewestAt 0 p m := by
  intro h
  refine h.fewest 0 ?_
  rw [Nat.cast_zero, zero_mul]
  exact reads_zero

namespace Parts

variable (p : Parts)

theorem base_ne_zero : (p.base : ℚ) ≠ 0 := Nat.cast_ne_zero.mpr (Nat.ne_of_gt (Nat.lt_of_succ_lt p.one_lt_base))

theorem scaled_nonneg (e : Int) : 0 ≤ p.scaled e :=
  mul_nonneg (Nat.cast_nonneg _) (zpow_nonneg (Nat.cast_nonneg _) _)

theorem scaled_add (e : Int) (j : Nat) : p.scaled (e + j) = p.scaled e * (p.base : ℚ) ^ j := by
  unfold scaled
  rw [add_sub_right_comm, zpow_add₀ p.base_ne_zero, zpow_natCast, mul_assoc]

theorem scaled_eq_zero {p : Parts} {e e' : Int} (h : p.scaled e = 0) : p.scaled e' = 0 := by
  have hmant : (p.mant : ℚ) = 0 := (mul_eq_zero.mp h).resolve_right (zpow_ne_zero _ p.base_ne_zero)
  rw [scaled, hmant, zero_mul]

theorem ten_le_base_pow {j : Nat} (hj : 4 ≤ j) : (10 : ℚ) ≤ (p.base : ℚ) ^ j := by
  have hle : 10 ≤ p.base ^ j :=
    calc 10 ≤ 2 ^ 4 := by decide
      _ ≤ p.base ^ 4 := Nat.pow_le_pow_left p.one_lt_base 4
      _ ≤ p.base ^ j := Nat.pow_le_pow_right (Nat.lt_of_succ_lt p.one_lt_base) hj
  exact_mod_cast hle

/-- With an exponent cut short the literal is not read as its own number is. -/
theorem reads_ne_of_cut {neg : Bool} {e k : Nat} (hk : 10000 ≤ k) (hcut : 10 * k ≤ e)
    (hpos : 0 < reads (p.scaled (signed neg k))) :
    reads (p.scaled (signed neg e)) ≠ reads (p.scaled (signed neg k)) := by
  have hten := p.ten_le_base_pow (by omega : 4 ≤ e - k)
  cases neg with
  | false =>
    have hstep : signed false e = signed false k + ((e - k : Nat) : Int) := by
      simp only [signed, Bool.false_eq_true, if_false]
      omega
    have hlarger : 10 * p.scaled (signed false k) ≤ p.scaled (signed false e) := by
      rw [hstep, scaled_add, mul_comm]
      exact mul_le_mul_of_nonneg_left hten (p.scaled_nonneg _)
    intro heq
    rw [← heq] at hpos
    exact reads_ne_of_ten_mul_le (p.scaled_nonneg _) hlarger hpos heq.symm
  | true =>
    have hstep : signed true k = signed true e + ((e - k : Nat) : Int) := by
      simp only [signed, if_true]
      omega
    have hlarger : 10 * p.scaled (signed true e) ≤ p.scaled (signed true k) := by
      rw [hstep, scaled_add, mul_comm]
      exact mul_le_mul_of_nonneg_left hten (p.scaled_nonneg _)
    exact reads_ne_of_ten_mul_le (p.scaled_nonneg _) hlarger hpos

end Parts

theorem abs_exact (literal : List Char) : |exact literal| = (parts (splitSign literal).2).value := by
  have hnonneg : 0 ≤ (parts (splitSign literal).2).value := Parts.scaled_nonneg _ _
  unfold exact
  dsimp only
  split
  · rw [abs_neg, abs_of_nonneg hnonneg]
  · exact abs_of_nonneg hnonneg

/-- The decimals of a magnitude that is not zero, with the sign of the literal. -/
theorem shortest_finite_iff {literal : List Char} {mag : Nat} (hrep : Representable mag) (hmag : mag ≠ 0) :
    Shortest (.finite (splitSign literal).1 ⟨mag, hrep⟩) (exact literal) ↔
      ∃ p m, FewestAt mag p m ∧ (parts (splitSign literal).2).value = (m : ℚ) * 10 ^ p := by
  unfold Shortest
  dsimp only
  rw [if_neg hmag]
  unfold exact
  cases (splitSign literal).1 with
  | false => rfl
  | true =>
    simp only [if_true, neg_neg]

/-- **Reading a literal and writing the shortest decimal gives its number back for zero, and for the float decimals
whose exponent is not cut short.** -/
theorem written_parseFloat_iff {literal : List Char} {f : Float64} (h : parseFloat (String.ofList literal) = .ok f)
    (hf : f.isFinite = true) :
    f.written = some (exact literal) ↔
      exact literal = 0 ∨ exponentSize literal < 100000 ∧ FloatDecimal (exact literal) := by
  obtain ⟨k, hk, hrep, rfl⟩ := parseFloat_reads h hf
  have hvalue := abs_exact literal
  rw [written_eq_some_iff]
  unfold FloatDecimal
  rw [hvalue]
  generalize hmag : reads ((parts (splitSign literal).2).scaled
    (signed (exponentPart (parts (splitSign literal).2).rest).1 k)) = mag at hrep ⊢
  rcases hk with ⟨rfl, hshort⟩ | ⟨hten, hcut⟩
  · have hown : reads (parts (splitSign literal).2).value = mag := hmag
    rw [hown]
    rcases Nat.eq_zero_or_pos mag with rfl | hpos
    · refine ⟨.inl, fun hor => hor.elim id ?_⟩
      rintro ⟨-, p, m, hfewest, -⟩
      exact absurd hfewest (not_fewestAt_zero p m)
    · rw [shortest_finite_iff hrep hpos.ne']
      refine ⟨fun hex => .inr ⟨hshort, hex⟩, fun hor => hor.elim ?_ And.right⟩
      intro hzero
      rw [hzero, abs_zero] at hvalue
      rw [← hvalue, reads_zero] at hown
      exact absurd hown hpos.ne
  · rcases Nat.eq_zero_or_pos mag with rfl | hpos
    · exact ⟨.inl, fun hor => hor.elim id fun hand => absurd hand.1 (by omega)⟩
    · rw [shortest_finite_iff hrep hpos.ne']
      have hne := Parts.reads_ne_of_cut _ hten hcut (hmag.symm ▸ hpos)
      constructor
      · rintro ⟨p, m, hfewest, heq⟩
        refine absurd ?_ hne
        rw [hmag, ← hfewest.reads, ← heq]
        rfl
      · rintro (hzero | ⟨hshort, -⟩)
        · rw [hzero, abs_zero] at hvalue
          rw [Parts.scaled_eq_zero hvalue.symm, reads_zero] at hmag
          exact absurd hmag hpos.ne
        · exact absurd hshort (by omega)

end TemporalOperator.Lib.Float64
