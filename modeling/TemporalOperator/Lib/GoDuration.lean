import Mathlib.Data.Bool.AllAny
import TemporalOperator.Lib.GoText

/-!
# Printed numbers and durations

* `string` : `time.Duration.String`, of a duration in nanoseconds;
* `number_shape`, `string_shape` : a printed number or duration is a digit and further characters of numbers, after at
  most a sign.
-/

namespace TemporalOperator.Lib.GoDuration

/-- The characters of numbers and durations after the sign. -/
def isNumeric (c : Char) : Bool := c.isDigit || "hmnsµ.".toList.contains c

theorem digit_isNumeric {c : Char} (h : c.isDigit = true) : isNumeric c = true := by
  rw [isNumeric, h, Bool.true_or]

/-! ## `time.Duration.String` -/

/-- The last `prec` decimal digits of `v` as a fraction, without trailing zeros, and what is left of `v`. The text grows
to the left. -/
def fmtFracDigits : Nat → Nat → Bool → List Char → List Char × Nat
  | 0, v, printed, buf => (if printed then '.' :: buf else buf, v)
  | prec + 1, v, printed, buf =>
    let digit := v % 10
    let printed := printed || digit ≠ 0
    fmtFracDigits prec (v / 10) printed (if printed then Nat.digitChar digit :: buf else buf)

def fmtFrac (buf : List Char) (v prec : Nat) : List Char × Nat := fmtFracDigits prec v false buf

def fmtInt (buf : List Char) (v : Nat) : List Char := Nat.toDigits 10 v ++ buf

/-- The unit of a duration under a second, and the digits of it that are a fraction. -/
def smallUnit (u : Nat) : List Char × Nat :=
  if u < 1000 then (['n', 's'], 0) else if u < 1000000 then (['µ', 's'], 3) else (['m', 's'], 6)

def formatSmall (u : Nat) : List Char :=
  if u = 0 then ['0', 's']
  else
    let frac := fmtFrac (smallUnit u).1 u (smallUnit u).2
    fmtInt frac.1 frac.2

/-- A duration of a second or more, in hours, minutes and seconds. -/
def formatLarge (u : Nat) : List Char :=
  let frac := fmtFrac ['s'] u 9
  let seconds := fmtInt frac.1 (frac.2 % 60)
  let minutes := fmtInt ('m' :: seconds) (frac.2 / 60 % 60)
  if frac.2 / 60 = 0 then seconds
  else if frac.2 / 60 / 60 = 0 then minutes
  else fmtInt ('h' :: minutes) (frac.2 / 60 / 60)

def string (d : Int) : String :=
  let u := d.natAbs
  let buf := if u < 1000000000 then formatSmall u else formatLarge u
  String.ofList (if d < 0 then '-' :: buf else buf)

example : ([0, 1, -1500, 2500000, 1500000000, 2592000000000000, 3661000000000].map string) =
    ["0s", "1ns", "-1.5µs", "2.5ms", "1.5s", "720h0m0s", "1h1m1s"] := by decide +kernel

/-! ## The characters of a printed number -/

def Numeral (cs : List Char) : Prop := ∃ d ds, cs = d :: ds ∧ d.isDigit = true ∧ ∀ c ∈ ds, isNumeric c = true

theorem fmtInt_numeral {buf : List Char} (h : ∀ c ∈ buf, isNumeric c = true) (v : Nat) : Numeral (fmtInt buf v) := by
  obtain ⟨d, ds, hds⟩ := List.exists_cons_of_ne_nil (Nat.toDigits_ne_nil (b := 10) (n := v))
  have hdigit : ∀ c ∈ d :: ds, c.isDigit = true := fun c hc =>
    Nat.isDigit_of_mem_toDigits (by decide) (by decide) (hds ▸ hc)
  refine ⟨d, ds ++ buf, by rw [fmtInt, hds, List.cons_append], hdigit d (.head _), fun c hc => ?_⟩
  rcases List.mem_append.mp hc with hc | hc
  · exact digit_isNumeric (hdigit c (.tail _ hc))
  · exact h c hc

theorem Numeral.isNumeric {cs : List Char} (h : Numeral cs) : ∀ c ∈ cs, isNumeric c = true := by
  obtain ⟨d, ds, rfl, hd, hds⟩ := h
  intro c hc
  rcases List.mem_cons.mp hc with rfl | hc
  · exact digit_isNumeric hd
  · exact hds c hc

theorem fmtFracDigits_isNumeric (prec v : Nat) (printed : Bool) {buf : List Char} (h : ∀ c ∈ buf, isNumeric c = true) :
    ∀ c ∈ (fmtFracDigits prec v printed buf).1, isNumeric c = true := by
  induction prec generalizing v printed buf with
  | zero =>
    cases printed with
    | false => exact h
    | true => exact List.forall_mem_cons.mpr ⟨by decide, h⟩
  | succ prec ih =>
    rw [fmtFracDigits]
    refine ih _ _ ?_
    split
    · have hdigit : ∀ d < 10, isNumeric (Nat.digitChar d) = true := by decide
      exact List.forall_mem_cons.mpr ⟨hdigit _ (Nat.mod_lt v (by decide)), h⟩
    · exact h

theorem fmtFrac_isNumeric {buf : List Char} (h : ∀ c ∈ buf, isNumeric c = true) (v prec : Nat) :
    ∀ c ∈ (fmtFrac buf v prec).1, isNumeric c = true :=
  fmtFracDigits_isNumeric prec v false h

theorem formatSmall_numeral (u : Nat) : Numeral (formatSmall u) := by
  have hunit : ∀ c ∈ (smallUnit u).1, isNumeric c = true := by
    rw [← List.all_iff_forall_prop]
    unfold smallUnit
    split
    · decide
    · split <;> decide
  unfold formatSmall
  split
  · exact ⟨'0', ['s'], rfl, by decide, List.all_iff_forall_prop.mp (by decide)⟩
  · exact fmtInt_numeral (fmtFrac_isNumeric hunit u _) _

theorem formatLarge_numeral (u : Nat) : Numeral (formatLarge u) := by
  have hcons {c : Char} {buf : List Char} (hc : isNumeric c = true) (h : Numeral buf) :
      ∀ d ∈ c :: buf, isNumeric d = true :=
    List.forall_mem_cons.mpr ⟨hc, h.isNumeric⟩
  have hunit : ∀ c ∈ ['s'], isNumeric c = true := List.all_iff_forall_prop.mp (by decide)
  have hseconds := fmtInt_numeral (fmtFrac_isNumeric hunit u 9) ((fmtFrac ['s'] u 9).2 % 60)
  have hminutes := fmtInt_numeral (hcons (by decide : isNumeric 'm' = true) hseconds) ((fmtFrac ['s'] u 9).2 / 60 % 60)
  unfold formatLarge
  dsimp only
  split
  · exact hseconds
  · split
    · exact hminutes
    · exact fmtInt_numeral (hcons (by decide) hminutes) _

theorem string_shape (d : Int) :
    ∃ sign cs, (string d).toList = sign ++ cs ∧ (sign = [] ∨ sign = ['-']) ∧ Numeral cs := by
  have hbuf : Numeral (if d.natAbs < 1000000000 then formatSmall d.natAbs else formatLarge d.natAbs) := by
    split
    · exact formatSmall_numeral _
    · exact formatLarge_numeral _
  rw [string, String.toList_ofList]
  split
  · exact ⟨['-'], _, rfl, .inr rfl, hbuf⟩
  · exact ⟨[], _, rfl, .inl rfl, hbuf⟩

theorem number_shape (n : Int) :
    ∃ sign cs, (toString n).toList = sign ++ cs ∧ (sign = [] ∨ sign = ['-']) ∧ Numeral cs := by
  have hdigits (v : Nat) : Numeral (Nat.toDigits 10 v) := by
    have h := fmtInt_numeral (by simp : ∀ c ∈ [], isNumeric c = true) v
    rwa [fmtInt, List.append_nil] at h
  cases n with
  | ofNat v => exact ⟨[], _, GoText.toList_toString_ofNat v, .inl rfl, hdigits v⟩
  | negSucc v => exact ⟨['-'], _, GoText.toList_toString_negSucc v, .inr rfl, hdigits (v + 1)⟩

end TemporalOperator.Lib.GoDuration
