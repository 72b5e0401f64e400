import Mathlib.Algebra.Order.Field.Rat
import Mathlib.Data.Nat.Dist
import Mathlib.Data.Nat.Log
import Mathlib.Tactic.FieldSimp
import Mathlib.Tactic.Linarith
import Mathlib.Tactic.Ring
import TemporalOperator.Lib.Float64

/-!
# The shortest decimal of a binary64 number

`strconv.FormatFloat` with the precision -1 writes the fewest digits that are read as the same number, and of those the
nearest to it. In units of `10 ^ -1074` every finite number is a natural, and so are the decimals that come into
question; the places of a decimal number are then the powers of ten that divide it.

* `nearest` : rounding, as in `ofRatio`; it is monotone (`nearest_mono`) and keeps magnitudes (`nearest_mul_self`);
* `readBack` : the magnitude that a decimal is read as; `shortest` : the decimal that is written;
* `shortest_spec` : nothing that ends at a higher place is read as the number, and nothing that ends at the same place
  is nearer.
-/

namespace TemporalOperator.Lib.Float64

/-! ## Rounding -/

theorem le_roundEven (n d : Nat) : n / d ≤ roundEven n d := by
  unfold roundEven
  dsimp only
  split <;> omega

theorem div_le_div_of_mul_le {n₁ d₁ n₂ d₂ : Nat} (hd₁ : 0 < d₁) (hd₂ : 0 < d₂) (h : n₁ * d₂ ≤ n₂ * d₁) :
    n₁ / d₁ ≤ n₂ / d₂ := by
  rw [Nat.le_div_iff_mul_le hd₂]
  refine Nat.le_of_mul_le_mul_right ?_ hd₁
  calc n₁ / d₁ * d₂ * d₁ = n₁ / d₁ * d₁ * d₂ := Nat.mul_right_comm _ _ _
    _ ≤ n₁ * d₂ := Nat.mul_le_mul_right _ (Nat.div_mul_le_self n₁ d₁)
    _ ≤ n₂ * d₁ := h

/-- A larger ratio is not rounded to a smaller natural. -/
theorem roundEven_mono {n₁ d₁ n₂ d₂ : Nat} (hd₁ : 0 < d₁) (hd₂ : 0 < d₂) (h : n₁ * d₂ ≤ n₂ * d₁) :
    roundEven n₁ d₁ ≤ roundEven n₂ d₂ := by
  have hfloor := div_le_div_of_mul_le hd₁ hd₂ h
  rcases Nat.lt_or_eq_of_le hfloor with hlt | heq
  · exact (roundEven_le n₁ d₁).trans (Nat.le_trans hlt (le_roundEven n₂ d₂))
  · -- the same integer part, so that the remainders decide
    have hrest : n₁ % d₁ * d₂ ≤ n₂ % d₂ * d₁ := by
      have h₁ := Nat.div_add_mod n₁ d₁
      have h₂ := Nat.div_add_mod n₂ d₂
      rw [← heq] at h₂
      rw [← h₁, ← h₂, Nat.add_mul, Nat.add_mul] at h
      have hsame : d₁ * (n₁ / d₁) * d₂ = d₂ * (n₁ / d₁) * d₁ := by ring
      omega
    unfold roundEven
    dsimp only
    rw [← heq]
    split
    · split <;> omega
    · rename_i hup
      rw [if_neg]
      rintro hdown
      refine hup ?_
      rcases hdown with hlt | ⟨htie, heven⟩
      · left
        refine Nat.lt_of_mul_lt_mul_right (a := d₂) ?_
        calc 2 * (n₁ % d₁) * d₂ = 2 * (n₁ % d₁ * d₂) := Nat.mul_assoc _ _ _
          _ ≤ 2 * (n₂ % d₂ * d₁) := Nat.mul_le_mul_left _ hrest
          _ = 2 * (n₂ % d₂) * d₁ := (Nat.mul_assoc _ _ _).symm
          _ < d₂ * d₁ := Nat.mul_lt_mul_of_pos_right hlt hd₁
          _ = d₁ * d₂ := Nat.mul_comm _ _
      · have hle : 2 * (n₁ % d₁) ≤ d₁ := by
          refine Nat.le_of_mul_le_mul_right (c := d₂) ?_ hd₂
          calc 2 * (n₁ % d₁) * d₂ = 2 * (n₁ % d₁ * d₂) := Nat.mul_assoc _ _ _
            _ ≤ 2 * (n₂ % d₂ * d₁) := Nat.mul_le_mul_left _ hrest
            _ = 2 * (n₂ % d₂) * d₁ := (Nat.mul_assoc _ _ _).symm
            _ = d₁ * d₂ := by rw [htie, Nat.mul_comm]
        rcases Nat.lt_or_eq_of_le hle with hlt | heq'
        · exact .inl hlt
        · exact .inr ⟨heq', heven⟩

/-- `n / d` units, rounded to the places of a significand of 53 bits. -/
def nearest (n d : Nat) : Nat := roundEven n (d * 2 ^ lastPlace (n / d)) * 2 ^ lastPlace (n / d)

theorem nearest_le (n d : Nat) : nearest n d ≤ 2 ^ (53 + lastPlace (n / d)) := by
  rw [Nat.pow_add]
  exact Nat.mul_le_mul_right _ (roundEven_lastPlace_le n d)

theorem le_nearest {n d : Nat} (h : 0 < lastPlace (n / d)) : 2 ^ (52 + lastPlace (n / d)) ≤ nearest n d := by
  have hlog : 52 + lastPlace (n / d) = (n / d).log2 := by
    unfold lastPlace at h ⊢
    omega
  have hpos : n / d ≠ 0 := by
    rintro h0
    rw [h0] at h
    exact absurd h (by decide)
  have hdiv : 2 ^ 52 ≤ n / d / 2 ^ lastPlace (n / d) := by
    rw [Nat.le_div_iff_mul_le (Nat.two_pow_pos _), ← Nat.pow_add, hlog]
    exact Nat.log2_self_le hpos
  rw [Nat.pow_add]
  refine Nat.mul_le_mul_right _ (hdiv.trans ?_)
  rw [Nat.div_div_eq_div_mul]
  exact le_roundEven _ _

theorem lastPlace_mono {k₁ k₂ : Nat} (h : k₁ ≤ k₂) : lastPlace k₁ ≤ lastPlace k₂ := by
  have hlog : k₁.log2 ≤ k₂.log2 := by
    rw [Nat.log2_eq_log_two, Nat.log2_eq_log_two]
    exact Nat.log_mono_right h
  unfold lastPlace
  omega

theorem nearest_mono {n₁ d₁ n₂ d₂ : Nat} (hd₁ : 0 < d₁) (hd₂ : 0 < d₂) (h : n₁ * d₂ ≤ n₂ * d₁) :
    nearest n₁ d₁ ≤ nearest n₂ d₂ := by
  have hplace := lastPlace_mono (div_le_div_of_mul_le hd₁ hd₂ h)
  rcases Nat.lt_or_eq_of_le hplace with hlt | heq
  · -- a full significand at the lower place is not above the least one at the higher place
    calc nearest n₁ d₁ ≤ 2 ^ (53 + lastPlace (n₁ / d₁)) := nearest_le n₁ d₁
      _ ≤ 2 ^ (52 + lastPlace (n₂ / d₂)) := Nat.pow_le_pow_right (by decide) (by omega)
      _ ≤ nearest n₂ d₂ := le_nearest (by omega)
  · unfold nearest
    rw [← heq]
    refine Nat.mul_le_mul_right _ (roundEven_mono ?_ ?_ ?_)
    · exact Nat.mul_pos hd₁ (Nat.two_pow_pos _)
    · exact Nat.mul_pos hd₂ (Nat.two_pow_pos _)
    · rw [← Nat.mul_assoc, ← Nat.mul_assoc]
      exact Nat.mul_le_mul_right _ h

theorem nearest_congr {n₁ d₁ n₂ d₂ : Nat} (hd₁ : 0 < d₁) (hd₂ : 0 < d₂) (h : n₁ * d₂ = n₂ * d₁) :
    nearest n₁ d₁ = nearest n₂ d₂ :=
  Nat.le_antisymm (nearest_mono hd₁ hd₂ h.le) (nearest_mono hd₂ hd₁ h.ge)

theorem two_pow_lastPlace_dvd {mag : Nat} (h : Representable mag) : 2 ^ lastPlace mag ∣ mag := by
  obtain ⟨-, q, hdvd, hlt⟩ := h
  rcases Nat.eq_zero_or_pos mag with rfl | hpos
  · exact Nat.dvd_zero _
  · have hlog : mag.log2 < 53 + q := (Nat.log2_lt (by omega)).mpr hlt
    refine (Nat.pow_dvd_pow 2 ?_).trans hdvd
    unfold lastPlace
    omega

theorem roundEven_mul (m : Nat) {d : Nat} (hd : 0 < d) : roundEven (m * d) d = m := by
  unfold roundEven
  rw [Nat.mul_div_cancel m hd, Nat.mul_mod_left]
  exact if_pos (.inl (by omega))

/-- What ends at its last place is not changed. -/
theorem nearest_mul_self {mag d : Nat} (hmag : 2 ^ lastPlace mag ∣ mag) (hd : 0 < d) : nearest (mag * d) d = mag := by
  obtain ⟨c, hc⟩ := hmag
  unfold nearest
  rw [Nat.mul_div_cancel mag hd]
  have hunits : mag * d = c * (d * 2 ^ lastPlace mag) := by
    calc mag * d = 2 ^ lastPlace mag * c * d := by rw [← hc]
      _ = c * (d * 2 ^ lastPlace mag) := by ring
  rw [hunits, roundEven_mul c (Nat.mul_pos hd (Nat.two_pow_pos _)), Nat.mul_comm, ← hc]

/-- What is rounded to a magnitude is less than twice as large. -/
theorem lt_of_nearest {n d mag : Nat} (hpos : 0 < mag) (hd : 0 < d) (h : nearest n d = mag) : n < 2 * mag * d := by
  refine Nat.lt_of_not_le fun hle => ?_
  have hself : nearest (2 ^ (mag.log2 + 1) * d) d = 2 ^ (mag.log2 + 1) := by
    refine nearest_mul_self ?_ hd
    unfold lastPlace
    rw [Nat.log2_two_pow]
    exact Nat.pow_dvd_pow 2 (by omega)
  have hpow : 2 ^ (mag.log2 + 1) ≤ 2 * mag := by
    rw [Nat.pow_succ']
    exact Nat.mul_le_mul_left 2 (Nat.log2_self_le hpos.ne')
  have hmono : nearest (2 ^ (mag.log2 + 1) * d) d ≤ nearest n d :=
    nearest_mono hd hd (Nat.mul_le_mul_right d ((Nat.mul_le_mul_right d hpow).trans hle))
  rw [hself, h] at hmono
  exact absurd (Nat.lt_log2_self (n := mag)) (Nat.not_lt.mpr hmono)

theorem roundEven_mul_le (n d : Nat) : roundEven n d * d ≤ 2 * n := by
  have hdiv := Nat.div_add_mod' n d
  unfold roundEven
  dsimp only
  split
  · omega
  · rw [Nat.succ_mul]
    omega

/-- And at least half as large. -/
theorem nearest_mul_le (n d : Nat) : nearest n d * d ≤ 2 * n := by
  unfold nearest
  rw [Nat.mul_right_comm, Nat.mul_assoc]
  exact roundEven_mul_le n _

/-! ## Decimals, in units of `10 ^ -1074` -/

def decimalUnits (mag : Nat) : Nat := mag * 5 ^ onePlace

/-- The magnitude that a decimal is read as. -/
def readBack (n : Nat) : Nat := nearest n (5 ^ onePlace)

/-- The neighbours of a magnitude that end at the place `k`. -/
def below (mag k : Nat) : Nat := decimalUnits mag / 10 ^ k * 10 ^ k

def above (mag k : Nat) : Nat := below mag k + 10 ^ k

/-- The neighbour that is read as the magnitude; if both are, the one that it rounds to. -/
def shortestAt (mag k : Nat) : Option Nat :=
  if readBack (below mag k) = mag then
    if readBack (above mag k) = mag then some (roundEven (decimalUnits mag) (10 ^ k) * 10 ^ k)
    else some (below mag k)
  else if readBack (above mag k) = mag then some (above mag k)
  else none

/-- From the place `k` down. -/
def shortestFrom (mag : Nat) : Nat → Nat
  | 0 => decimalUnits mag
  | k + 1 => (shortestAt mag (k + 1)).getD (shortestFrom mag k)

/-- The place above the first digit of a magnitude. -/
def topPlace (mag : Nat) : Nat := Nat.log 10 (decimalUnits mag) + 1

/-- The decimal that is written for a magnitude. -/
def shortest (mag : Nat) : Nat := shortestFrom mag (topPlace mag)

theorem readBack_mono {m n : Nat} (h : m ≤ n) : readBack m ≤ readBack n :=
  nearest_mono (Nat.pow_pos (by decide)) (Nat.pow_pos (by decide)) (Nat.mul_le_mul_right _ h)

theorem readBack_decimalUnits {mag : Nat} (hmag : Representable mag) : readBack (decimalUnits mag) = mag :=
  nearest_mul_self (two_pow_lastPlace_dvd hmag) (Nat.pow_pos (by decide))

/-- What lies between a magnitude and a decimal that is read as it is read as it too. -/
theorem readBack_between {mag m n : Nat} (hmag : Representable mag) (hn : readBack n = mag)
    (h : decimalUnits mag ≤ m ∧ m ≤ n ∨ n ≤ m ∧ m ≤ decimalUnits mag) : readBack m = mag := by
  have hself := readBack_decimalUnits hmag
  rcases h with ⟨hlow, hhigh⟩ | ⟨hlow, hhigh⟩
  · have h₁ := readBack_mono hlow
    have h₂ := readBack_mono hhigh
    omega
  · have h₁ := readBack_mono hlow
    have h₂ := readBack_mono hhigh
    omega

/-- `m` is nearer to the magnitude than `n`, or as near and, where they differ, even at the place `k`. -/
def Nearer (mag k m n : Nat) : Prop :=
  m.dist (decimalUnits mag) < n.dist (decimalUnits mag) ∨
    m.dist (decimalUnits mag) = n.dist (decimalUnits mag) ∧ (m = n ∨ 2 ∣ m / 10 ^ k)

/-- A decimal at the place `k` that is read as the magnitude, and no other at this place is nearer. -/
structure NearestAt (mag k m : Nat) : Prop where
  place : 10 ^ k ∣ m
  reads : readBack m = mag
  nearer : ∀ n, 10 ^ k ∣ n → readBack n = mag → Nearer mag k m n

/-- Two of them would have one between them that is nearer than both. -/
theorem NearestAt.not_lt {mag k m n : Nat} (hmag : Representable mag) (hm : NearestAt mag k m)
    (hn : NearestAt mag k n) : ¬ m < n := by
  intro hlt
  have hmn := hm.nearer n hn.place hn.reads
  have hnm := hn.nearer m hm.place hm.reads
  have hpos : 0 < 10 ^ k := Nat.pow_pos (by decide)
  obtain ⟨a, rfl⟩ := hm.place
  obtain ⟨b, rfl⟩ := hn.place
  unfold Nearer Nat.dist at hmn hnm
  rw [Nat.mul_div_cancel_left _ hpos] at hmn hnm
  have hab : a < b := Nat.lt_of_mul_lt_mul_left hlt
  have hgap : 10 ^ k * (a + 2) ≤ 10 ^ k * b := Nat.mul_le_mul_left _ (by omega)
  rw [Nat.mul_add] at hgap
  have hread : readBack (10 ^ k * (a + 1)) = mag := by
    rw [Nat.mul_add]
    rcases Nat.le_total (10 ^ k * a + 10 ^ k * 1) (decimalUnits mag) with hle | hle
    · exact readBack_between hmag hm.reads (.inr ⟨by omega, hle⟩)
    · exact readBack_between hmag hn.reads (.inl ⟨hle, by omega⟩)
  have hmid := hm.nearer _ (Nat.dvd_mul_right _ _) hread
  unfold Nearer Nat.dist at hmid
  rw [Nat.mul_add] at hmid
  omega

theorem NearestAt.unique {mag k m n : Nat} (hmag : Representable mag) (hm : NearestAt mag k m)
    (hn : NearestAt mag k n) : m = n := by
  have h₁ := hm.not_lt hmag hn
  have h₂ := hn.not_lt hmag hm
  omega

/-! ## The search -/

section Search

theorem below_le (mag k : Nat) : below mag k ≤ decimalUnits mag := Nat.div_mul_le_self _ _

theorem lt_above (mag k : Nat) : decimalUnits mag < above mag k := Nat.lt_div_mul_add (Nat.pow_pos (by decide))

variable {mag k : Nat}

/-- Nothing at this place lies between the neighbours. -/
theorem le_below_or_above_le (mag : Nat) {n : Nat} (hn : 10 ^ k ∣ n) : n ≤ below mag k ∨ above mag k ≤ n := by
  obtain ⟨t, rfl⟩ := hn
  unfold above below
  rcases Nat.lt_or_ge (decimalUnits mag / 10 ^ k) t with hlt | hge
  · right
    calc decimalUnits mag / 10 ^ k * 10 ^ k + 10 ^ k = (decimalUnits mag / 10 ^ k + 1) * 10 ^ k := by ring
      _ ≤ t * 10 ^ k := Nat.mul_le_mul_right _ hlt
      _ = 10 ^ k * t := Nat.mul_comm _ _
  · left
    rw [Nat.mul_comm]
    exact Nat.mul_le_mul_right _ hge

theorem dvd_below : 10 ^ k ∣ below mag k := Nat.dvd_mul_left _ _

theorem dvd_above : 10 ^ k ∣ above mag k := Nat.dvd_add dvd_below (Nat.dvd_refl _)

theorem below_div : below mag k / 10 ^ k = decimalUnits mag / 10 ^ k :=
  Nat.mul_div_cancel _ (Nat.pow_pos (by decide))

theorem above_div : above mag k / 10 ^ k = decimalUnits mag / 10 ^ k + 1 := by
  rw [above, Nat.add_div_right _ (Nat.pow_pos (by decide)), below_div]

/-- Rounding at the place takes one of the neighbours: the nearer one, and the even one when they are as near. -/
theorem roundEven_decimalUnits (mag k : Nat) :
    roundEven (decimalUnits mag) (10 ^ k) * 10 ^ k = below mag k ∧
        (decimalUnits mag - below mag k < above mag k - decimalUnits mag ∨
          decimalUnits mag - below mag k = above mag k - decimalUnits mag ∧ 2 ∣ below mag k / 10 ^ k) ∨
      roundEven (decimalUnits mag) (10 ^ k) * 10 ^ k = above mag k ∧
        (above mag k - decimalUnits mag < decimalUnits mag - below mag k ∨
          above mag k - decimalUnits mag = decimalUnits mag - below mag k ∧ 2 ∣ above mag k / 10 ^ k) := by
  have hlow := below_le mag k
  have hhigh := lt_above mag k
  have hrest : decimalUnits mag % 10 ^ k = decimalUnits mag - below mag k :=
    Nat.mod_eq_sub_div_mul
  have habove : above mag k = below mag k + 10 ^ k := rfl
  rw [above_div, below_div]
  unfold roundEven
  dsimp only
  rw [hrest]
  split
  · left
    exact ⟨rfl, by omega⟩
  · right
    refine ⟨Nat.succ_mul _ _, by omega⟩

/-- Above the top place there are only zero and what is more than twice the magnitude. -/
theorem readBack_ne_of_topPlace (hpos : 0 < mag) {n : Nat} (hn : 10 ^ (topPlace mag + 1) ∣ n) : readBack n ≠ mag := by
  intro hread
  have hlt := lt_of_nearest hpos (Nat.pow_pos (by decide)) hread
  have hlog : decimalUnits mag < 10 ^ topPlace mag := Nat.lt_pow_succ_log_self (by decide) _
  rcases Nat.eq_zero_or_pos n with rfl | hn0
  · have hzero : readBack 0 = 0 := by decide +kernel
    omega
  · have hle := Nat.le_of_dvd hn0 hn
    rw [Nat.pow_succ] at hle
    have hunits : 2 * mag * 5 ^ onePlace = 2 * decimalUnits mag := Nat.mul_assoc _ _ _
    omega

variable (hmag : Representable mag)
include hmag

theorem le_below_of_reads {n : Nat} (hn : 10 ^ k ∣ n) (hread : readBack n = mag)
    (habove : readBack (above mag k) ≠ mag) : n ≤ below mag k :=
  (le_below_or_above_le mag hn).resolve_right fun hge =>
    habove (readBack_between hmag hread (.inl ⟨(lt_above mag k).le, hge⟩))

theorem above_le_of_reads {n : Nat} (hn : 10 ^ k ∣ n) (hread : readBack n = mag)
    (hbelow : readBack (below mag k) ≠ mag) : above mag k ≤ n :=
  (le_below_or_above_le mag hn).resolve_left fun hle =>
    hbelow (readBack_between hmag hread (.inr ⟨hle, below_le mag k⟩))

theorem nearestAt_of_shortestAt {m : Nat} (h : shortestAt mag k = some m) : NearestAt mag k m := by
  have hlow := below_le mag k
  have hhigh := lt_above mag k
  unfold shortestAt at h
  split at h
  · rename_i hbelow
    split at h
    · rename_i habove
      obtain rfl := Option.some.inj h
      rcases roundEven_decimalUnits mag k with ⟨heq, hnear⟩ | ⟨heq, hnear⟩ <;> rw [heq]
      · refine ⟨dvd_below, hbelow, fun n hn hread => ?_⟩
        have hside := le_below_or_above_le mag hn
        unfold Nearer Nat.dist
        omega
      · refine ⟨dvd_above, habove, fun n hn hread => ?_⟩
        have hside := le_below_or_above_le mag hn
        unfold Nearer Nat.dist
        omega
    · rename_i habove
      obtain rfl := Option.some.inj h
      refine ⟨dvd_below, hbelow, fun n hn hread => ?_⟩
      have hside := le_below_of_reads hmag hn hread habove
      unfold Nearer Nat.dist
      omega
  · rename_i hbelow
    split at h
    · rename_i habove
      obtain rfl := Option.some.inj h
      refine ⟨dvd_above, habove, fun n hn hread => ?_⟩
      have hside := above_le_of_reads hmag hn hread hbelow
      unfold Nearer Nat.dist
      omega
    · exact nomatch h

theorem readBack_ne_of_shortestAt {n : Nat} (h : shortestAt mag k = none) (hn : 10 ^ k ∣ n) :
    readBack n ≠ mag := by
  intro hread
  unfold shortestAt at h
  split at h
  · split at h <;> exact nomatch h
  · rename_i hbelow
    split at h
    · exact nomatch h
    · rename_i habove
      have hle := le_below_of_reads hmag hn hread habove
      have hge := above_le_of_reads hmag hn hread hbelow
      have hlow := below_le mag k
      have hhigh := lt_above mag k
      omega

/-- The magnitude itself, at the last place. -/
theorem nearestAt_zero : NearestAt mag 0 (decimalUnits mag) where
  place := one_dvd _
  reads := readBack_decimalUnits hmag
  nearer n _ _ := by
    unfold Nearer
    rw [Nat.dist_self]
    rcases Nat.eq_zero_or_pos (n.dist (decimalUnits mag)) with hzero | hpos
    · exact .inr ⟨hzero.symm, .inl (Nat.eq_of_dist_eq_zero hzero).symm⟩
    · exact .inl hpos

/-- The search ends at the first place, from `k` down, at which a decimal is read as the magnitude. -/
theorem shortestFrom_spec (hpos : ∀ n, 10 ^ (k + 1) ∣ n → readBack n ≠ mag) :
    ∃ p, NearestAt mag p (shortestFrom mag k) ∧ ∀ n, 10 ^ (p + 1) ∣ n → readBack n ≠ mag := by
  induction k with
  | zero => exact ⟨0, nearestAt_zero hmag, hpos⟩
  | succ k ih =>
    unfold shortestFrom
    cases h : shortestAt mag (k + 1) with
    | some m => exact ⟨k + 1, nearestAt_of_shortestAt hmag h, hpos⟩
    | none => exact ih fun n hn => readBack_ne_of_shortestAt hmag h hn

/-- **The decimal that is written is read as the number; none that ends at a higher place is, and of those that end at
its own place none is nearer.** -/
theorem shortest_spec (hpos : 0 < mag) :
    ∃ p, NearestAt mag p (shortest mag) ∧ ∀ n, 10 ^ (p + 1) ∣ n → readBack n ≠ mag :=
  shortestFrom_spec hmag fun _ hn => readBack_ne_of_topPlace hpos hn

end Search

/-! ## As rational numbers -/

/-- The magnitude that a number is read as. -/
def reads (q : ℚ) : Nat := nearest (q * 2 ^ onePlace).num.toNat (q * 2 ^ onePlace).den

/-- Decimal units. -/
def ofUnits (n : Nat) : ℚ := n / 10 ^ onePlace

/-- `m * 10 ^ p` is read as the magnitude, no multiple of `10 ^ (p + 1)` is, and no multiple of `10 ^ p` that is lies
nearer to it, or as near and even at that place. -/
structure FewestAt (mag : Nat) (p : ℤ) (m : Nat) : Prop where
  reads : reads (m * 10 ^ p) = mag
  fewest : ∀ n : Nat, Float64.reads (n * 10 ^ (p + 1)) ≠ mag
  nearest : ∀ n : Nat, Float64.reads (n * 10 ^ p) = mag →
    |(m : ℚ) * 10 ^ p - mag / 2 ^ onePlace| < |(n : ℚ) * 10 ^ p - mag / 2 ^ onePlace| ∨
      |(m : ℚ) * 10 ^ p - mag / 2 ^ onePlace| = |(n : ℚ) * 10 ^ p - mag / 2 ^ onePlace| ∧ (m = n ∨ 2 ∣ m)

theorem reads_div {n d : Nat} (hd : 0 < d) : reads (n / d / 2 ^ onePlace) = nearest n d := by
  have hunits : (n : ℚ) / d / 2 ^ onePlace * 2 ^ onePlace = n / d := div_mul_cancel₀ _ (by positivity)
  unfold reads
  rw [hunits]
  refine nearest_congr (Rat.den_pos _) hd ?_
  have hnum : ((n : ℚ) / d).num = ((n : ℚ) / d).num.toNat :=
    (Int.toNat_of_nonneg (Rat.num_nonneg.mpr (div_nonneg n.cast_nonneg d.cast_nonneg))).symm
  have hcross : (((n : ℚ) / d).num : ℚ) * d = n * ((n : ℚ) / d).den := by
    have hden : (((n : ℚ) / d).den : ℚ) ≠ 0 := Nat.cast_ne_zero.mpr (Rat.den_nz _)
    have hd' : (d : ℚ) ≠ 0 := Nat.cast_ne_zero.mpr hd.ne'
    have hdiv := Rat.num_div_den ((n : ℚ) / d)
    rwa [div_eq_div_iff hden hd'] at hdiv
  rw [hnum] at hcross
  exact_mod_cast hcross

theorem ten_pow_onePlace : (10 : ℚ) ^ onePlace = 5 ^ onePlace * 2 ^ onePlace := by
  rw [← mul_pow]
  norm_num

theorem reads_ofUnits (n : Nat) : reads (ofUnits n) = readBack n := by
  have hfive : ofUnits n = n / (5 ^ onePlace : Nat) / 2 ^ onePlace := by
    rw [ofUnits, ten_pow_onePlace, div_div, Nat.cast_pow, Nat.cast_ofNat]
  rw [hfive]
  exact reads_div (Nat.pow_pos (by decide))

theorem ofUnits_decimalUnits (mag : Nat) : ofUnits (decimalUnits mag) = mag / 2 ^ onePlace := by
  rw [ofUnits, ten_pow_onePlace, decimalUnits, Nat.cast_mul, Nat.cast_pow, Nat.cast_ofNat, mul_comm (mag : ℚ),
    mul_div_mul_left _ _ (pow_ne_zero _ (by norm_num))]

theorem mul_place (m k : Nat) : (m : ℚ) * 10 ^ ((k : ℤ) - onePlace) = ofUnits (m * 10 ^ k) := by
  rw [zpow_sub₀ (by norm_num), zpow_natCast, zpow_natCast, ofUnits, Nat.cast_mul, Nat.cast_pow, Nat.cast_ofNat,
    mul_div_assoc]

theorem abs_ofUnits_sub (m n : Nat) : |ofUnits m - ofUnits n| = (m.dist n : ℚ) / 10 ^ onePlace := by
  have hpos : (0 : ℚ) < 10 ^ onePlace := pow_pos (by norm_num) _
  unfold ofUnits Nat.dist
  rw [← sub_div]
  rcases Nat.le_total m n with hle | hle
  · have hsign : ((m : ℚ) - n) / 10 ^ onePlace ≤ 0 :=
      div_nonpos_of_nonpos_of_nonneg (sub_nonpos.mpr (Nat.cast_le.mpr hle)) hpos.le
    rw [abs_of_nonpos hsign, Nat.sub_eq_zero_of_le hle, Nat.zero_add, Nat.cast_sub hle, ← neg_div, neg_sub]
  · have hsign : 0 ≤ ((m : ℚ) - n) / 10 ^ onePlace := div_nonneg (sub_nonneg.mpr (Nat.cast_le.mpr hle)) hpos.le
    rw [abs_of_nonneg hsign, Nat.sub_eq_zero_of_le hle, Nat.add_zero, Nat.cast_sub hle]

theorem abs_mul_place_sub (mag m k : Nat) :
    |(m : ℚ) * 10 ^ ((k : ℤ) - onePlace) - mag / 2 ^ onePlace| =
      ((m * 10 ^ k).dist (decimalUnits mag) : ℚ) / 10 ^ onePlace := by
  rw [mul_place, ← ofUnits_decimalUnits, abs_ofUnits_sub]

theorem reads_mul_place (m k : Nat) : reads ((m : ℚ) * 10 ^ ((k : ℤ) - onePlace)) = readBack (m * 10 ^ k) := by
  rw [mul_place, reads_ofUnits]

/-- `Nearer` with the distances as rational numbers. -/
theorem nearer_iff (mag k m n : Nat) :
    Nearer mag k (m * 10 ^ k) (n * 10 ^ k) ↔
      |(m : ℚ) * 10 ^ ((k : ℤ) - onePlace) - mag / 2 ^ onePlace| <
          |(n : ℚ) * 10 ^ ((k : ℤ) - onePlace) - mag / 2 ^ onePlace| ∨
        |(m : ℚ) * 10 ^ ((k : ℤ) - onePlace) - mag / 2 ^ onePlace| =
          |(n : ℚ) * 10 ^ ((k : ℤ) - onePlace) - mag / 2 ^ onePlace| ∧ (m = n ∨ 2 ∣ m) := by
  have hpos : (0 : ℚ) < 10 ^ onePlace := pow_pos (by norm_num) _
  have hplace : 0 < 10 ^ k := Nat.pow_pos (by decide)
  rw [abs_mul_place_sub, abs_mul_place_sub, div_lt_div_iff_of_pos_right hpos, div_left_inj' hpos.ne', Nat.cast_lt,
    Nat.cast_inj, Nearer, Nat.mul_div_cancel m hplace, Nat.mul_left_inj hplace.ne']

/-- The decimals of the search are the nearest ones with the fewest digits. -/
theorem fewestAt_iff (mag k m : Nat) :
    FewestAt mag ((k : ℤ) - onePlace) m ↔
      NearestAt mag k (m * 10 ^ k) ∧ ∀ n, 10 ^ (k + 1) ∣ n → readBack n ≠ mag := by
  have hnext : (k : ℤ) - onePlace + 1 = ((k + 1 : Nat) : ℤ) - onePlace := by
    push_cast
    ring
  constructor
  · intro h
    refine ⟨⟨Nat.dvd_mul_left _ _, ?_, ?_⟩, ?_⟩
    · rw [← reads_mul_place]
      exact h.reads
    · rintro _ ⟨n, rfl⟩ hread
      rw [Nat.mul_comm (10 ^ k) n] at hread ⊢
      rw [← reads_mul_place] at hread
      exact (nearer_iff mag k m n).mpr (h.nearest n hread)
    · rintro _ ⟨n, rfl⟩ hread
      rw [Nat.mul_comm (10 ^ (k + 1)) n, ← reads_mul_place, ← hnext] at hread
      exact h.fewest n hread
  · rintro ⟨hnear, hfew⟩
    refine ⟨?_, ?_, ?_⟩
    · rw [reads_mul_place]
      exact hnear.reads
    · intro n hread
      rw [hnext, reads_mul_place] at hread
      exact hfew _ (Nat.dvd_mul_left _ _) hread
    · intro n hread
      rw [reads_mul_place] at hread
      exact (nearer_iff mag k m n).mp (hnear.nearer _ (Nat.dvd_mul_left _ _) hread)

/-- Zeros behind a decimal with `n` places. -/
theorem mul_place_below (d n j : Nat) : ((d * 10 ^ j : Nat) : ℚ) * 10 ^ (-(n : ℤ) - j) = d / 10 ^ n := by
  have hten : (10 : ℚ) ≠ 0 := by norm_num
  rw [zpow_sub₀ hten, zpow_neg, zpow_natCast, zpow_natCast]
  push_cast
  field_simp

/-- Below the last place of `10 ^ -1074` the magnitude itself would end at a higher place. -/
theorem FewestAt.exists_place {mag m : Nat} {p : ℤ} (hmag : Representable mag) (h : FewestAt mag p m) :
    ∃ k : Nat, p = (k : ℤ) - onePlace := by
  rcases le_or_gt 0 (p + onePlace) with hle | hlt
  · exact ⟨(p + onePlace).toNat, by omega⟩
  · obtain ⟨j, hj⟩ : ∃ j : Nat, p + 1 = -(onePlace : ℤ) - j := ⟨(-(onePlace : ℤ) - (p + 1)).toNat, by omega⟩
    have hself : ((decimalUnits mag * 10 ^ j : Nat) : ℚ) * 10 ^ (p + 1) = ofUnits (decimalUnits mag) := by
      rw [hj]
      exact mul_place_below (decimalUnits mag) onePlace j
    refine absurd ?_ (h.fewest (decimalUnits mag * 10 ^ j))
    rw [hself, reads_ofUnits]
    exact readBack_decimalUnits hmag

/-- **The decimals with the fewest digits that are read as a magnitude, and of these the nearest: there is one, and it
is the one that is written.** -/
theorem exists_fewestAt_iff {mag : Nat} (hmag : Representable mag) (hpos : 0 < mag) (q : ℚ) :
    (∃ p m, FewestAt mag p m ∧ q = (m : ℚ) * 10 ^ p) ↔ q = ofUnits (shortest mag) := by
  obtain ⟨k, hnear, hfew⟩ := shortest_spec hmag hpos
  constructor
  · rintro ⟨p, m, hfewest, rfl⟩
    obtain ⟨j, rfl⟩ := hfewest.exists_place hmag
    obtain ⟨hnear', hfew'⟩ := (fewestAt_iff mag j m).mp hfewest
    rw [mul_place]
    -- at different places, one of the two decimals would end at a place that is too high for the other
    rcases Nat.lt_trichotomy j k with hlt | rfl | hlt
    · exact absurd hnear.reads (hfew' _ ((Nat.pow_dvd_pow 10 hlt).trans hnear.place))
    · rw [hnear'.unique hmag hnear]
    · exact absurd hnear'.reads (hfew _ ((Nat.pow_dvd_pow 10 hlt).trans hnear'.place))
  · rintro rfl
    obtain ⟨m, hm⟩ := hnear.place
    rw [Nat.mul_comm] at hm
    rw [hm] at hnear ⊢
    exact ⟨(k : ℤ) - onePlace, m, (fewestAt_iff mag k m).mpr ⟨hnear, hfew⟩, (mul_place m k).symm⟩

/-! ## Numbers with a sign -/

/-- The exact number that `strconv.FormatFloat` writes for a finite number with the precision -1. -/
def written : Float64 → Option ℚ
  | .finite neg mag => some (if neg then -ofUnits (shortest mag) else ofUnits (shortest mag))
  | _ => none

/-- The decimal with the fewest digits that is read as the number, and the nearest of these. -/
def Shortest : Float64 → ℚ → Prop
  | .finite neg mag, q =>
    if mag.1 = 0 then q = 0
    else ∃ p m, FewestAt mag p m ∧ (if neg then -q else q) = (m : ℚ) * 10 ^ p
  | _, _ => False

theorem shortest_zero : shortest 0 = 0 := by decide +kernel

theorem written_eq_some_iff (f : Float64) (q : ℚ) : f.written = some q ↔ f.Shortest q := by
  cases f with
  | nan => exact ⟨nofun, nofun⟩
  | inf neg => exact ⟨nofun, nofun⟩
  | finite neg mag =>
    obtain ⟨mag, hmag⟩ := mag
    simp only [written, Shortest, Option.some.injEq]
    rcases Nat.eq_zero_or_pos mag with rfl | hpos
    · have hzero : ofUnits (shortest 0) = 0 := by rw [shortest_zero, ofUnits, Nat.cast_zero, zero_div]
      rw [if_pos rfl, hzero, neg_zero, ite_self, eq_comm]
    · rw [if_neg hpos.ne', exists_fewestAt_iff hmag hpos]
      cases neg with
      | false => exact eq_comm
      | true =>
        rw [if_pos rfl, if_pos rfl, neg_eq_iff_eq_neg]
        exact eq_comm

example : ((parseFloat "0.1").toOption.bind written, (parseFloat "9223372036854775807").toOption.bind written) =
    (some (1 / 10), some 9223372036854776000) := by
  decide +kernel

end TemporalOperator.Lib.Float64
