import TemporalOperator.Lib.GoText

/-!
# Binary64 numbers and `strconv.ParseFloat`

A finite number is a sign and a magnitude in units of the smallest subnormal, `2 ^ -1074`, so that the exact value of a
literal is a ratio of naturals and rounding is done once, on it.

* `Representable` : the magnitudes of finite numbers; `ofRatio` rounds to the nearest of them, ties to even;
* `parseFloat` : `strconv.ParseFloat(s, 64)`: decimal and hexadecimal literals with underscores, infinities and NaN;
* `lt` : the operator `<`.
-/

namespace TemporalOperator.Lib

/-- The number 1 has the magnitude `2 ^ onePlace`. -/
def onePlace : Nat := 1074

/-- Magnitudes from `2 ^ overflowPlace` on are too large. -/
def overflowPlace : Nat := 1024 + onePlace

/-- Magnitudes with a significand of 53 bits, short of an overflow. -/
def Representable (mag : Nat) : Prop := mag < 2 ^ overflowPlace ∧ ∃ q, 2 ^ q ∣ mag ∧ mag < 2 ^ (53 + q)

inductive Float64
  | nan
  | inf (neg : Bool)
  | finite (neg : Bool) (mag : { n : Nat // Representable n })
  deriving DecidableEq, Repr

namespace Float64

/-! ## Rounding -/

/-- `n / d` rounded to the nearest natural, ties to even. -/
def roundEven (n d : Nat) : Nat :=
  let k := n / d
  if 2 * (n % d) < d ∨ 2 * (n % d) = d ∧ k % 2 = 0 then k else k + 1

theorem roundEven_le (n d : Nat) : roundEven n d ≤ n / d + 1 := by
  unfold roundEven
  dsimp only
  split <;> omega

/-- The last place of a number with integer part `k`, as a power of two. -/
def lastPlace (k : Nat) : Nat := k.log2 - 52

theorem roundEven_lastPlace_le (n d : Nat) : roundEven n (d * 2 ^ lastPlace (n / d)) ≤ 2 ^ 53 := by
  have hlt : n / d < 2 ^ 53 * 2 ^ lastPlace (n / d) := by
    have hlog : n / d < 2 ^ ((n / d).log2 + 1) := Nat.lt_log2_self
    have hexp : (n / d).log2 + 1 ≤ 53 + lastPlace (n / d) := by
      unfold lastPlace
      omega
    calc n / d < 2 ^ ((n / d).log2 + 1) := hlog
      _ ≤ 2 ^ (53 + lastPlace (n / d)) := Nat.pow_le_pow_right (by decide) hexp
      _ = 2 ^ 53 * 2 ^ lastPlace (n / d) := Nat.pow_add 2 53 _
  have hdiv : n / (d * 2 ^ lastPlace (n / d)) < 2 ^ 53 := by
    rw [← Nat.div_div_eq_div_mul]
    exact Nat.div_lt_of_lt_mul (by rwa [Nat.mul_comm] at hlt)
  have hround := roundEven_le n (d * 2 ^ lastPlace (n / d))
  omega

/-- A significand of at most `2 ^ 53` at any place is representable, short of an overflow. -/
theorem representable_of_le {m q : Nat} (hm : m ≤ 2 ^ 53) (hlt : m * 2 ^ q < 2 ^ overflowPlace) :
    Representable (m * 2 ^ q) := by
  refine ⟨hlt, ?_⟩
  rcases Nat.lt_or_eq_of_le hm with hm | rfl
  · refine ⟨q, Nat.dvd_mul_left _ _, ?_⟩
    rw [Nat.pow_add]
    exact Nat.mul_lt_mul_of_pos_right hm (Nat.two_pow_pos q)
  · refine ⟨q + 1, ?_, ?_⟩
    · rw [← Nat.pow_add]
      exact Nat.pow_dvd_pow 2 (by omega)
    · rw [← Nat.pow_add]
      exact Nat.pow_lt_pow_right (by decide) (by omega)

/-- The number nearest to `n / d` units, or `none` on overflow. -/
def ofRatio (neg : Bool) (n d : Nat) : Option Float64 :=
  let m := roundEven n (d * 2 ^ lastPlace (n / d))
  if h : m * 2 ^ lastPlace (n / d) < 2 ^ overflowPlace then
    some (.finite neg ⟨_, representable_of_le (roundEven_lastPlace_le n d) h⟩)
  else none

/-- `mant * base ^ exp`, rounded. -/
def ofScaled (neg : Bool) (base mant : Nat) (exp : Int) : Option Float64 :=
  match exp with
  | .ofNat e => ofRatio neg (mant * 2 ^ onePlace * base ^ e) 1
  | .negSucc e => ofRatio neg (mant * 2 ^ onePlace) (base ^ (e + 1))

/-! ## Reading literals -/

def digitValue (hex : Bool) (c : Char) : Option Nat :=
  if c.isDigit then some (c.toNat - '0'.toNat)
  else if hex && 'a' ≤ c.toLower && c.toLower ≤ 'f' then some (c.toLower.toNat - 'a'.toNat + 10)
  else none

/-- The digits of a literal: their value, how many follow the point, whether there are any, and the rest. -/
def scanDigits (hex : Bool) (mant frac : Nat) (dot seen : Bool) : List Char → Nat × Nat × Bool × List Char
  | [] => (mant, frac, seen, [])
  | c :: cs =>
    if c = '_' then scanDigits hex mant frac dot seen cs
    else if c = '.' then
      if dot then (mant, frac, seen, c :: cs) else scanDigits hex mant frac true seen cs
    else
      match digitValue hex c with
      | some v => scanDigits hex (mant * (if hex then 16 else 10) + v) (if dot then frac + 1 else frac) dot true cs
      | none => (mant, frac, seen, c :: cs)

/-- The digits of an exponent. Further digits are dropped once it has reached 10000. -/
def scanExponent (e : Nat) : List Char → Nat × List Char
  | [] => (e, [])
  | c :: cs =>
    if c = '_' then scanExponent e cs
    else if c.isDigit then scanExponent (if e < 10000 then e * 10 + (c.toNat - '0'.toNat) else e) cs
    else (e, c :: cs)

/-- An exponent that starts with a digit and runs to the end. -/
def wholeExponent (cs : List Char) : Option Nat :=
  match cs with
  | c :: _ =>
    if c.isDigit then
      match scanExponent 0 cs with
      | (e, []) => some e
      | _ => none
    else none
  | [] => none

/-- The exponent part after the digits: absent, or introduced by `e` (by `p` in hexadecimal, where it must be there). -/
def readExponent (hex : Bool) : List Char → Option Int
  | [] => if hex then none else some 0
  | c :: cs =>
    if c.toLower ≠ (if hex then 'p' else 'e') then none
    else
      match cs with
      | '-' :: ds => (wholeExponent ds).map fun e => -e
      | '+' :: ds => (wholeExponent ds).map fun e => e
      | ds => (wholeExponent ds).map fun e => e

/-- `underscoreOK` after the sign and the base mark; `afterDigit` and `afterUnderscore` describe the last character. -/
def underscoreOK (hex afterDigit afterUnderscore : Bool) : List Char → Bool
  | [] => !afterUnderscore
  | c :: cs =>
    if (digitValue hex c).isSome then underscoreOK hex true false cs
    else if c = '_' then afterDigit && underscoreOK hex false true cs
    else !afterUnderscore && underscoreOK hex false false cs

/-- The magnitude of a literal without its sign: `none` when it is not one. -/
def readMagnitude (neg : Bool) (cs : List Char) : Option (Option Float64) :=
  let (hex, body) :=
    match cs with
    | '0' :: x :: c :: rest => if x.toLower = 'x' then (true, c :: rest) else (false, cs)
    | _ => (false, cs)
  let (mant, frac, seen, rest) := scanDigits hex 0 0 false false body
  if !seen || !underscoreOK hex hex false body then none
  else
    (readExponent hex rest).map fun e =>
      if hex then ofScaled neg 2 mant (e - 4 * frac) else ofScaled neg 10 mant (e - frac)

/-- `strconv.ParseFloat(s, 64)`. -/
def parseFloat (s : String) : Except String Float64 :=
  let bad := "strconv.ParseFloat: parsing " ++ GoText.quote s ++ ": "
  let signed (neg : Bool) (cs : List Char) : Except String Float64 :=
    match readMagnitude neg cs with
    | none => .error (bad ++ "invalid syntax")
    | some none => .error (bad ++ "value out of range")
    | some (some f) => .ok f
  let lower := GoText.toLower s
  if lower = "nan" then .ok .nan
  else if lower ∈ ["inf", "infinity", "+inf", "+infinity"] then .ok (.inf false)
  else if lower ∈ ["-inf", "-infinity"] then .ok (.inf true)
  else
    match s.toList with
    | '-' :: cs => signed true cs
    | '+' :: cs => signed false cs
    | cs => signed false cs

def one : Float64 :=
  have hlt : 1 * 2 ^ onePlace < 2 ^ overflowPlace := by
    rw [Nat.one_mul]
    exact Nat.pow_lt_pow_right (by decide) (by decide)
  .finite false ⟨1 * 2 ^ onePlace, representable_of_le (by decide) hlt⟩

def two : Float64 :=
  have hlt : 2 * 2 ^ onePlace < 2 ^ overflowPlace := by
    rw [← Nat.pow_succ']
    exact Nat.pow_lt_pow_right (by decide) (by decide)
  .finite false ⟨2 * 2 ^ onePlace, representable_of_le (by decide) hlt⟩

example : parseFloat "2.0" = .ok two ∧ parseFloat "0x1p+1" = .ok two ∧ parseFloat "2_0e-1" = .ok two := by
  decide +kernel

example : parseFloat "1e400" = .error "strconv.ParseFloat: parsing \"1e400\": value out of range" ∧
    parseFloat "2_" = .error "strconv.ParseFloat: parsing \"2_\": invalid syntax" := by
  decide +kernel

/-! ## Comparing -/

/-- The magnitude with its sign. -/
def signed (neg : Bool) (mag : Nat) : Int := if neg then -mag else mag

/-- Nothing is less than NaN, nor the other way round. -/
def lt : Float64 → Float64 → Bool
  | .nan, _ => false
  | _, .nan => false
  | .inf neg, .inf neg' => neg && !neg'
  | .inf neg, .finite _ _ => neg
  | .finite _ _, .inf neg => !neg
  | .finite neg mag, .finite neg' mag' => signed neg mag < signed neg' mag'

def isFinite : Float64 → Bool
  | .finite _ _ => true
  | _ => false

example : lt .nan one = false ∧ lt (.inf true) one = true ∧ lt one two = true ∧ lt one one = false := by decide +kernel

end Float64

end TemporalOperator.Lib
