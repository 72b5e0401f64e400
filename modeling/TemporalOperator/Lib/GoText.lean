import Mathlib.Algebra.Order.Ring.Int
import Mathlib.Data.List.DropRight

/-!
# Go's `strings` and `strconv` on the texts the operator handles

* `split` : `strings.Split` with a one-character separator;
* `atoi` : `strconv.Atoi` (an optional sign, decimal digits, the range of a 64-bit `int`); `atoi_toString` reads
  a printed number back;
* `contains`, `hasPrefix`, `trimPrefix`, `trimSuffix`, `trimRight`, `trimSpace`, and `toLower` on ASCII text : the
  functions of the same names.
-/

namespace TemporalOperator.Lib.GoText

/-- `strings.Split(s, sep)` for a one-character separator. -/
def split (sep : Char) (s : String) : List String :=
  (s.toList.splitOn sep).map String.ofList

/-- The value of a non-empty run of decimal digits. -/
def digits (cs : List Char) : Option Nat :=
  if cs = [] ∨ ¬ cs.all Char.isDigit then none
  else some (cs.foldl (fun n c => 10 * n + (c.toNat - '0'.toNat)) 0)

/-- `%q` on text without quotes, backslashes and control characters. -/
def quote (s : String) : String := "\"" ++ s ++ "\""

def atoi (s : String) : Except String Int :=
  let bad := "strconv.Atoi: parsing " ++ quote s ++ ": "
  let signed (ds : List Char) (limit : Nat) (value : Nat → Int) : Except String Int :=
    match digits ds with
    | none => .error (bad ++ "invalid syntax")
    | some n => if n ≤ limit then .ok (value n) else .error (bad ++ "value out of range")
  match s.toList with
  | '-' :: ds => signed ds (2 ^ 63) fun n => -n
  | '+' :: ds => signed ds (2 ^ 63 - 1) fun n => n
  | ds => signed ds (2 ^ 63 - 1) fun n => n

/-- Whether `sub` occurs in a list of characters. -/
def hasInfix (sub : List Char) : List Char → Bool
  | [] => sub.isEmpty
  | c :: cs => sub.isPrefixOf (c :: cs) || hasInfix sub cs

/-- `strings.Contains(s, sub)`. -/
def contains (s sub : String) : Bool := hasInfix sub.toList s.toList

/-- `strings.ToLower` on ASCII text. -/
def toLower (s : String) : String := String.ofList (s.toList.map Char.toLower)

def trimPrefix (s pre : String) : String :=
  if pre.toList.isPrefixOf s.toList then String.ofList (s.toList.drop pre.toList.length) else s

def hasPrefix (s pre : String) : Bool := pre.toList.isPrefixOf s.toList

/-- `strings.TrimRight` with one character to cut. -/
def trimRight (s : String) (cut : Char) : String := String.ofList (s.toList.rdropWhile (· == cut))

def trimSuffix (s suf : String) : String :=
  if suf.toList.isSuffixOf s.toList then String.ofList (s.toList.take (s.toList.length - suf.toList.length)) else s

def isSpace (c : Char) : Bool :=
  let n := c.toNat
  (9 ≤ n && n ≤ 13) || n == 0x20 || n == 0x85 || n == 0xA0 || n == 0x1680 || (0x2000 ≤ n && n ≤ 0x200A) ||
    n == 0x2028 || n == 0x2029 || n == 0x202F || n == 0x205F || n == 0x3000

def trimSpace (s : String) : String :=
  String.ofList ((s.toList.dropWhile isSpace).reverse.dropWhile isSpace).reverse

example : split '.' "1.31.1" = ["1", "31", "1"] := by decide

example : atoi "-12" = .ok (-12) ∧ atoi "1x" = .error "strconv.Atoi: parsing \"1x\": invalid syntax" := by decide

/-! ## Printing and parsing -/

theorem digits_toDigits (n : Nat) : digits (Nat.toDigits 10 n) = some n := by
  have hall : (Nat.toDigits 10 n).all Char.isDigit = true :=
    List.all_eq_true.mpr fun c hc => Nat.isDigit_of_mem_toDigits (by decide) (by decide) hc
  have hvalue := Nat.ofDigitChars_toDigits (b := 10) (n := n) (by decide) (by decide)
  rw [Nat.ofDigitChars_eq_foldl] at hvalue
  simp only [digits, Nat.toDigits_ne_nil, hall, not_true_eq_false, or_self, if_false, hvalue]

theorem atoi_unsigned {s : String} {n : Nat} (hn : digits s.toList = some n) (hi : n ≤ 2 ^ 63 - 1) :
    atoi s = .ok n := by
  unfold atoi
  dsimp only
  split
  · rename_i ds hs
    rw [hs] at hn
    cases hn
  · rename_i ds hs
    rw [hs] at hn
    cases hn
  · rw [hn]
    exact if_pos hi

theorem isDigit_of_digits {cs : List Char} {n : Nat} (h : digits cs = some n) {c : Char} (hc : c ∈ cs) :
    c.isDigit = true := by
  unfold digits at h
  split at h
  · exact nomatch h
  · rename_i hdigits
    have hall : cs.all Char.isDigit = true := not_not.mp fun hnot => hdigits (.inr hnot)
    exact List.all_eq_true.mp hall c hc

/-- A number is a sign and digits. -/
theorem char_of_atoi {s : String} (h : (atoi s).isOk = true) {c : Char} (hc : c ∈ s.toList) :
    c = '-' ∨ c = '+' ∨ c.isDigit = true := by
  unfold atoi at h
  dsimp only at h
  split at h
  · rename_i ds hs
    rw [hs] at hc
    split at h
    · exact nomatch h
    · rename_i n hdigits
      exact (List.mem_cons.mp hc).imp_right fun hmem => .inr (isDigit_of_digits hdigits hmem)
  · rename_i ds hs
    rw [hs] at hc
    split at h
    · exact nomatch h
    · rename_i n hdigits
      exact .inr ((List.mem_cons.mp hc).imp_right fun hmem => isDigit_of_digits hdigits hmem)
  · split at h
    · exact nomatch h
    · rename_i n hdigits
      exact .inr (.inr (isDigit_of_digits hdigits hc))

theorem hasPrefix_iff {s pre : String} : hasPrefix s pre = true ↔ ∃ rest, s = pre ++ rest := by
  unfold hasPrefix
  rw [List.isPrefixOf_iff_prefix]
  constructor
  · rintro ⟨rest, hrest⟩
    refine ⟨String.ofList rest, ?_⟩
    rw [← String.toList_inj, String.toList_append, String.toList_ofList, hrest]
  · rintro ⟨rest, rfl⟩
    rw [String.toList_append]
    exact List.prefix_append _ _

theorem ofList_drop_toList (pre rest : String) : String.ofList ((pre ++ rest).toList.drop pre.toList.length) = rest := by
  rw [String.toList_append, List.drop_left, String.ofList_toList]

theorem trimRight_eq_self {s : String} {cut : Char} : trimRight s cut = s ↔ s.toList.getLast? ≠ some cut := by
  rw [trimRight, ← String.toList_inj, String.toList_ofList, List.rdropWhile_eq_self_iff]
  rcases s.toList.eq_nil_or_concat with hs | ⟨cs, c, hs⟩
  · simp [hs]
  · simp [hs]

theorem length_trimRight_le (s : String) (cut : Char) : (trimRight s cut).length ≤ s.length := by
  rw [← String.length_toList, ← String.length_toList, trimRight, String.toList_ofList]
  exact (List.rdropWhile_prefix _ _).length_le

theorem toList_toString_ofNat (n : Nat) : (toString (Int.ofNat n)).toList = Nat.toDigits 10 n := Nat.toList_repr

theorem toList_toString_negSucc (n : Nat) :
    (toString (Int.negSucc n)).toList = '-' :: Nat.toDigits 10 (n + 1) := by
  show ("-" ++ (n + 1).repr).toList = _
  rw [String.toList_append, Nat.toList_repr]
  rfl

/-- Printing a 64-bit integer and parsing it gives it back. -/
theorem atoi_toString {n : Int} (lo : -2 ^ 63 ≤ n) (hi : n < 2 ^ 63) : atoi (toString n) = .ok n := by
  cases n with
  | ofNat n =>
    have hdigits : digits (toString (Int.ofNat n)).toList = some n := by rw [toList_toString_ofNat, digits_toDigits]
    have hbound : (n : Int) < 2 ^ 63 := hi
    exact atoi_unsigned hdigits (by omega)
  | negSucc n =>
    simp only [atoi, toList_toString_negSucc, digits_toDigits]
    rw [if_pos (by omega)]
    rfl

theorem toDigits_inj {m n : Nat} (h : Nat.toDigits 10 m = Nat.toDigits 10 n) : m = n := by
  have hdigits := congrArg digits h
  rw [digits_toDigits, digits_toDigits] at hdigits
  exact Option.some.inj hdigits

theorem minus_not_digits (n : Nat) (ds : List Char) : '-' :: ds ≠ Nat.toDigits 10 n := by
  intro h
  have hdigit : '-'.isDigit = true :=
    Nat.isDigit_of_mem_toDigits (by decide) (by decide) (h ▸ List.mem_cons_self)
  revert hdigit
  decide

theorem toString_inj {m n : Int} : toString m = toString n ↔ m = n := by
  refine ⟨fun h => ?_, fun h => h ▸ rfl⟩
  have hlist := congrArg String.toList h
  cases m with
  | ofNat m =>
    rw [toList_toString_ofNat] at hlist
    cases n with
    | ofNat n =>
      rw [toList_toString_ofNat] at hlist
      rw [toDigits_inj hlist]
    | negSucc n =>
      rw [toList_toString_negSucc] at hlist
      exact absurd hlist.symm (minus_not_digits m _)
  | negSucc m =>
    rw [toList_toString_negSucc] at hlist
    cases n with
    | ofNat n =>
      rw [toList_toString_ofNat] at hlist
      exact absurd hlist (minus_not_digits n _)
    | negSucc n =>
      rw [toList_toString_negSucc] at hlist
      have hsucc := toDigits_inj (List.cons.inj hlist).2
      rw [Nat.succ.inj hsucc]

end TemporalOperator.Lib.GoText
