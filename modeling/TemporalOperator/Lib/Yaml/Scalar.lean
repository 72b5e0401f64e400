import Mathlib.Data.List.Chain
import TemporalOperator.Lib.GoDuration
import TemporalOperator.Lib.GoQuote

/-!
# YAML scalars on one line

Double-quoted and plain scalars as `go-yaml` reads them in block style, where NEL, LS and PS are line breaks too. The
reader takes what stands on the line as it is: no blanks around it, no comment after it.

* `scanQuoted` : the characters up to the closing quote, escapes resolved; `scanQuoted_escape` undoes `strconv.Quote`;
* `plainValue`, `plainKey` : the texts that a plain scalar leaves as they are;
* `readScalar` : one scalar; `readScalar_quote`, `readScalar_plain` say when a value comes back, `readScalar_inv` what
  a scalar that was read can be.
-/

namespace TemporalOperator.Lib.Yaml
open GoQuote GoDuration

/-! ## Characters -/

def isBlank (c : Char) : Bool := c = ' ' || c = '\t'

def isBreak (c : Char) : Bool :=
  let n := c.toNat
  n = 0x0a || n = 0x0d || n = 0x85 || n = 0x2028 || n = 0x2029

/-- The characters a stream may hold. -/
def isPrintable (c : Char) : Bool :=
  let n := c.toNat
  n = 0x09 || n = 0x0a || n = 0x0d || (0x20 ≤ n && n ≤ 0x7e) || n = 0x85 || (0xa0 ≤ n && n ≤ 0xd7ff) ||
    (0xe000 ≤ n && n ≤ 0xfffd && n ≠ 0xfeff) || 0x10000 ≤ n

def inLine (c : Char) : Bool := isPrintable c && !isBreak c

theorem inLine_of_isPrint (t : PrintTable) {c : Char} (h : t.isPrint c = true) : inLine c = true := by
  have hsep := t.separator c
  have hnon := t.noncharacter c
  have hascii := t.ascii c
  have hval : c.toNat < 0xd800 ∨ 0xdfff < c.toNat := by
    rcases c.valid with h | h
    · exact .inl h
    · exact .inr h.1
  simp only [h, Bool.true_eq_false, imp_false] at hsep hnon
  rw [h] at hascii
  simp only [inLine, isPrintable, isBreak, Bool.and_eq_true, Bool.or_eq_true, decide_eq_true_eq, Bool.not_eq_true',
    Bool.or_eq_false_iff, decide_eq_false_iff_not, ne_eq]
  by_cases ha : c.toNat < 0xa1
  · have hrange := (hascii ha).symm
    simp only [Bool.and_eq_true, decide_eq_true_eq] at hrange
    omega
  · omega

/-! ## Double-quoted scalars -/

def hexDigit (c : Char) : Option Nat :=
  let n := c.toNat
  if 0x30 ≤ n ∧ n ≤ 0x39 then some (n - 0x30)
  else if 0x61 ≤ n ∧ n ≤ 0x66 then some (n - 0x61 + 10)
  else if 0x41 ≤ n ∧ n ≤ 0x46 then some (n - 0x41 + 10)
  else none

/-- The character of an escape of one letter. -/
def escaped : Char → Option Char
  | '0' => some (Char.ofNat 0)
  | 'a' => some (Char.ofNat 7)
  | 'b' => some (Char.ofNat 8)
  | 't' => some '\t'
  | '\t' => some '\t'
  | 'n' => some '\n'
  | 'v' => some (Char.ofNat 11)
  | 'f' => some (Char.ofNat 12)
  | 'r' => some '\r'
  | 'e' => some (Char.ofNat 27)
  | ' ' => some ' '
  | '"' => some '"'
  | '\'' => some '\''
  | '/' => some '/'
  | '\\' => some '\\'
  | 'N' => some (Char.ofNat 0x85)
  | '_' => some (Char.ofNat 0xa0)
  | 'L' => some (Char.ofNat 0x2028)
  | 'P' => some (Char.ofNat 0x2029)
  | _ => none

/-- How many digits an escape by code has, after the first. -/
def codeLength : Char → Option Nat
  | 'x' => some 1
  | 'u' => some 3
  | 'U' => some 7
  | _ => none

/-- Where in a double-quoted scalar the reader is; in a code, the digits that follow the next one and the value of
those that were read. -/
inductive Mode
  | text
  | escape
  | code (left value : Nat)
  deriving DecidableEq

def push (c : Char) : Option (List Char × List Char) → Option (List Char × List Char) :=
  Option.map fun r => (c :: r.1, r.2)

/-- The value of a double-quoted scalar, from after the opening quote, and what follows the closing one. -/
def scanQuoted : Mode → List Char → Option (List Char × List Char)
  | _, [] => none
  | .text, c :: cs =>
    if c = '"' then some ([], cs)
    else if c = '\\' then scanQuoted .escape cs
    else if inLine c then push c (scanQuoted .text cs)
    else none
  | .escape, c :: cs =>
    match escaped c, codeLength c with
    | some d, _ => push d (scanQuoted .text cs)
    | none, some left => scanQuoted (.code left 0) cs
    | none, none => none
  | .code 0 value, c :: cs =>
    match hexDigit c with
    | some d =>
      if (16 * value + d).isValidChar then push (Char.ofNat (16 * value + d)) (scanQuoted .text cs) else none
    | none => none
  | .code (left + 1) value, c :: cs =>
    match hexDigit c with
    | some d => scanQuoted (.code left (16 * value + d)) cs
    | none => none

theorem push_eq_some {c : Char} {r : Option (List Char × List Char)} {s rest : List Char}
    (h : push c r = some (s, rest)) :
    ∃ s', r = some (s', rest) ∧ s = c :: s' := by
  obtain ⟨⟨s', rest'⟩, hr, h⟩ := Option.map_eq_some_iff.mp h
  obtain ⟨rfl, rfl⟩ := Prod.mk.inj h
  exact ⟨s', hr, rfl⟩

/-- What one character can be: the closing quote, the last of a character of the value, or a part of one that is not
a blank; never a line break. -/
theorem scanQuoted_cons {m : Mode} {c : Char} {cs s rest : List Char} (h : scanQuoted m (c :: cs) = some (s, rest)) :
    (c = '"' ∧ s = [] ∧ rest = cs) ∨
      (∃ d s', scanQuoted .text cs = some (s', rest) ∧ s = d :: s' ∧ (c = ' ' → d = ' ') ∧ c ≠ '\n') ∨
      (∃ m', scanQuoted m' cs = some (s, rest) ∧ c ≠ ' ' ∧ c ≠ '\n') := by
  have hlast {d : Char} (hd : c = ' ' → d = ' ') (hc : c ≠ '\n') (h : push d (scanQuoted .text cs) = some (s, rest)) :
      ∃ d s', scanQuoted .text cs = some (s', rest) ∧ s = d :: s' ∧ (c = ' ' → d = ' ') ∧ c ≠ '\n' := by
    obtain ⟨s', hr, hs⟩ := push_eq_some h
    exact ⟨d, s', hr, hs, hd, hc⟩
  have hdigit {d : Nat} (hd : hexDigit c = some d) : c ≠ ' ' ∧ c ≠ '\n' := by
    constructor
    all_goals
      rintro rfl
      cases hd
  unfold scanQuoted at h
  cases m with
  | text =>
    simp only at h
    split at h
    · rename_i hc
      obtain ⟨rfl, rfl⟩ := Prod.mk.inj (Option.some.inj h)
      exact .inl ⟨hc, rfl, rfl⟩
    · split at h
      · rename_i hc
        exact .inr (.inr ⟨_, h, by rw [hc]; decide⟩)
      · split at h
        · rename_i hline
          refine .inr (.inl (hlast id ?_ h))
          rintro rfl
          cases hline
        · cases h
  | escape =>
    simp only at h
    split at h
    · rename_i d hd
      refine .inr (.inl (hlast (fun hc => ?_) ?_ h))
      · subst hc
        exact (Option.some.inj hd).symm
      · rintro rfl
        cases hd
    · rename_i left he hl
      refine .inr (.inr ⟨_, h, ?_, ?_⟩)
      all_goals
        rintro rfl
        cases hl
    · cases h
  | code left value =>
    cases left with
    | zero =>
      simp only at h
      split at h
      · rename_i d hd
        split at h
        · exact .inr (.inl (hlast (fun hc => absurd hc (hdigit hd).1) (hdigit hd).2 h))
        · cases h
      · cases h
    | succ left =>
      simp only at h
      split at h
      · rename_i d hd
        exact .inr (.inr ⟨_, h, hdigit hd⟩)
      · cases h

theorem scanQuoted_length {m : Mode} {cs s rest : List Char} (h : scanQuoted m cs = some (s, rest)) :
    s.length + rest.length < cs.length := by
  induction cs generalizing m s with
  | nil => cases m <;> cases h
  | cons c cs ih =>
    rw [List.length_cons]
    rcases scanQuoted_cons h with ⟨-, rfl, rfl⟩ | ⟨d, s', hs, rfl, -, -⟩ | ⟨m', hs, -, -⟩
    · simp
    · have := ih hs
      rw [List.length_cons]
      omega
    · have := ih hs
      omega

theorem scanQuoted_blanks {m : Mode} {cs s rest : List Char} (h : scanQuoted m cs = some (s, rest)) :
    cs.count ' ' ≤ s.count ' ' + rest.count ' ' := by
  induction cs generalizing m s with
  | nil => cases m <;> cases h
  | cons c cs ih =>
    rcases scanQuoted_cons h with ⟨rfl, rfl, rfl⟩ | ⟨d, s', hs, rfl, hd, -⟩ | ⟨m', hs, hc, -⟩
    · simp
    · have hle := ih hs
      by_cases hc : c = ' '
      · rw [hc, hd hc, List.count_cons_self, List.count_cons_self]
        omega
      · rw [List.count_cons_of_ne hc, List.count_cons]
        omega
    · rw [List.count_cons_of_ne hc]
      exact ih hs

theorem scanQuoted_no_newline {m : Mode} {cs s rest : List Char} (h : scanQuoted m cs = some (s, rest))
    (hrest : '\n' ∉ rest) : '\n' ∉ cs := by
  induction cs generalizing m s with
  | nil => cases m <;> cases h
  | cons c cs ih =>
    rw [List.mem_cons, not_or]
    rcases scanQuoted_cons h with ⟨rfl, rfl, rfl⟩ | ⟨d, s', hs, rfl, -, hc⟩ | ⟨m', hs, -, hc⟩
    · exact ⟨by decide, hrest⟩
    · exact ⟨hc.symm, ih hs⟩
    · exact ⟨hc.symm, ih hs⟩

theorem hexDigit_digitChar : ∀ d < 16, hexDigit (Nat.digitChar d) = some d := by decide

theorem scanQuoted_hex (left value v : Nat) (cs : List Char)
    (hv : (value * 16 ^ (left + 1) + v % 16 ^ (left + 1)).isValidChar) :
    scanQuoted (.code left value) (hex (left + 1) v ++ cs) =
      push (Char.ofNat (value * 16 ^ (left + 1) + v % 16 ^ (left + 1))) (scanQuoted .text cs) := by
  induction left generalizing value with
  | zero =>
    have hdigit := hexDigit_digitChar (v / 16 ^ 0 % 16) (Nat.mod_lt _ (by decide))
    have hval : 16 * value + v / 16 ^ 0 % 16 = value * 16 ^ (0 + 1) + v % 16 ^ (0 + 1) := by
      rw [Nat.pow_zero, Nat.div_one, Nat.zero_add, Nat.pow_one, Nat.mul_comm]
    rw [hex, List.cons_append, scanQuoted, hdigit]
    simp only [hval, hv, if_true]
    rfl
  | succ left ih =>
    have hdigit := hexDigit_digitChar (v / 16 ^ (left + 1) % 16) (Nat.mod_lt _ (by decide))
    have hmod : v % 16 ^ (left + 1 + 1) = v / 16 ^ (left + 1) % 16 * 16 ^ (left + 1) + v % 16 ^ (left + 1) := by
      rw [Nat.pow_succ, Nat.mod_mul, Nat.mul_comm, Nat.add_comm]
    have hval : (16 * value + v / 16 ^ (left + 1) % 16) * 16 ^ (left + 1) + v % 16 ^ (left + 1) =
        value * 16 ^ (left + 1 + 1) + v % 16 ^ (left + 1 + 1) := by
      rw [hmod, Nat.pow_succ 16 (left + 1), Nat.add_mul, Nat.mul_comm 16 value, Nat.mul_assoc,
        Nat.mul_comm 16 (16 ^ (left + 1)), Nat.add_assoc]
    rw [hex, List.cons_append, scanQuoted, hdigit]
    simp only
    rw [ih _ (hval ▸ hv), hval]

/-- A code that is wide enough for a character gives it back. -/
theorem scanQuoted_code (left : Nat) {c : Char} (hc : c.toNat < 16 ^ (left + 1)) (cs : List Char) :
    scanQuoted (.code left 0) (hex (left + 1) c.toNat ++ cs) = push c (scanQuoted .text cs) := by
  have hval : 0 * 16 ^ (left + 1) + c.toNat % 16 ^ (left + 1) = c.toNat := by
    rw [Nat.zero_mul, Nat.zero_add, Nat.mod_eq_of_lt hc]
  have h := scanQuoted_hex left 0 c.toNat cs (by rw [hval]; exact c.valid)
  rw [h, hval, Char.ofNat_toNat]

/-- Reading undoes the escapes of `strconv.Quote`. -/
theorem scanQuoted_escape (t : PrintTable) (c : Char) (cs : List Char) :
    scanQuoted .text (escapeRune t c ++ cs) = push c (scanQuoted .text cs) := by
  have hletter {l : Char} (hl : escaped l = some c) :
      scanQuoted .text (['\\', l] ++ cs) = push c (scanQuoted .text cs) := by
    show scanQuoted .escape (l :: cs) = _
    rw [scanQuoted, hl]
  unfold escapeRune
  by_cases hq : c = '"' ∨ c = '\\'
  · rw [if_pos hq]
    rcases hq with rfl | rfl <;> exact hletter rfl
  rw [if_neg hq]
  rw [not_or] at hq
  by_cases hp : t.isPrint c = true
  · rw [if_pos hp, List.singleton_append, scanQuoted, if_neg hq.1, if_neg hq.2, if_pos (inLine_of_isPrint t hp)]
  rw [if_neg hp]
  have hofNat : c = Char.ofNat c.toNat := (Char.ofNat_toNat c).symm
  split
  all_goals try (rename_i hn; rw [hn] at hofNat; exact hletter (hofNat ▸ rfl))
  split
  · rename_i hn
    exact scanQuoted_code 1 (by omega) cs
  · split
    · exact scanQuoted_code 3 (by omega) cs
    · have hc : c.toNat < 0x110000 := by
        have hvalid : c.toNat.isValidChar := c.valid
        rcases hvalid with h | h <;> omega
      exact scanQuoted_code 7 (by omega) cs

/-! ## Plain scalars -/

/-- The characters that cannot begin a plain scalar. -/
def indicators : List Char := ",[]\x7b\x7d#&*!|>'\"%@`".toList

/-- The characters that can, before a character that is not a blank. -/
def blockIndicators : List Char := "-?:".toList

/-- Whether a plain scalar can begin here. -/
def startsPlain : List Char → Bool
  | [] => false
  | c :: cs =>
    if blockIndicators.contains c then
      match cs with
      | d :: _ => !isBlank d
      | [] => false
    else !isBlank c && !indicators.contains c

/-- Neighbours in a plain scalar: no colon before a blank, no `#` after one. -/
def PlainPair (c d : Char) : Prop := ¬ (c = ':' ∧ isBlank d = true) ∧ ¬ (isBlank c = true ∧ d = '#')

instance (c d : Char) : Decidable (PlainPair c d) := inferInstanceAs (Decidable (_ ∧ _))

/-- The plain scalars that stand for null. -/
def nullTexts : List (List Char) := ["~", "null", "Null", "NULL"].map String.toList

def plainText (cs : List Char) : Bool :=
  cs.all inLine && decide (cs.IsChain PlainPair) && cs.getLast?.all (!isBlank ·) && !nullTexts.contains cs

/-- A plain scalar that ends with the line stands for this text. -/
def plainValue (cs : List Char) : Bool := startsPlain cs && plainText cs && cs.getLast? ≠ some ':'

/-- A plain scalar before the colon of a mapping entry stands for this text. Such a key has at most 1024 characters, and
`<<` would merge the value into the mapping. -/
def plainKey (cs : List Char) : Bool :=
  startsPlain (cs ++ [':']) && plainText cs && cs ≠ "<<".toList && decide (cs.length ≤ 1024)

/-! ## One scalar -/

def readScalar : List Char → Option GoString
  | [] => none
  | c :: cs =>
    if c = '"' then
      match scanQuoted .text cs with
      | some (s, []) => some (GoString.ofChars s)
      | _ => none
    else if plainValue (c :: cs) then some (GoString.ofChars (c :: cs))
    else none

theorem scanQuoted_quote (t : PrintTable) (cs rest : List Char) :
    scanQuoted .text ((GoString.ofChars cs).flatMap (escape t) ++ '"' :: rest) = some (cs, rest) := by
  induction cs with
  | nil => rfl
  | cons c cs ih =>
    show scanQuoted .text ((escapeRune t c ++ (GoString.ofChars cs).flatMap (escape t)) ++ '"' :: rest) = _
    rw [List.append_assoc, scanQuoted_escape, ih]
    rfl

theorem toList_quote (t : PrintTable) (s : GoString) : (quote t s).toList = '"' :: (s.flatMap (escape t) ++ ['"']) :=
  String.toList_ofList

theorem readScalar_quote (t : PrintTable) {s : GoString} (hs : s.Valid) : readScalar (quote t s).toList = some s := by
  obtain ⟨cs, rfl⟩ := hs
  rw [toList_quote, readScalar, if_pos rfl, scanQuoted_quote]

/-- Nothing may follow it. -/
theorem readScalar_quote_append (t : PrintTable) {s : GoString} (hs : s.Valid) {rest : List Char} (hrest : rest ≠ []) :
    readScalar ((quote t s).toList ++ rest) = none := by
  obtain ⟨cs, rfl⟩ := hs
  obtain ⟨c, rest, rfl⟩ := List.exists_cons_of_ne_nil hrest
  rw [toList_quote, List.cons_append, readScalar, if_pos rfl, List.append_assoc, List.singleton_append,
    scanQuoted_quote]

theorem readScalar_plain {cs : List Char} (h : plainValue cs = true) : readScalar cs = some (GoString.ofChars cs) := by
  cases cs with
  | nil => cases h
  | cons c cs =>
    have hc : c ≠ '"' := by
      rintro rfl
      cases h
    rw [readScalar, if_neg hc, if_pos h]

/-- A scalar that was read is a plain one as it stands, or is shorter than its text and has every blank of it. -/
theorem readScalar_inv {cs : List Char} {s : GoString} (h : readScalar cs = some s) :
    ∃ ds, s = GoString.ofChars ds ∧
      ((ds = cs ∧ plainValue ds = true) ∨ (ds.length < cs.length ∧ cs.count ' ' ≤ ds.count ' ')) := by
  cases cs with
  | nil => cases h
  | cons c cs =>
    rw [readScalar] at h
    split at h
    · rename_i hc
      split at h
      · rename_i ds hs
        obtain rfl := Option.some.inj h
        have hlen := scanQuoted_length hs
        have hblank := scanQuoted_blanks hs
        refine ⟨ds, rfl, .inr ⟨?_, ?_⟩⟩
        · rw [List.length_cons]
          omega
        · rw [List.count_cons_of_ne (by rw [hc]; decide)]
          exact hblank
      · cases h
    · split at h
      · rename_i hp
        exact ⟨_, (Option.some.inj h).symm, .inl ⟨rfl, hp⟩⟩
      · cases h

theorem plainText_inLine {cs : List Char} (h : plainText cs = true) : ∀ c ∈ cs, inLine c = true := by
  simp only [plainText, Bool.and_eq_true] at h
  exact List.all_eq_true.mp h.1.1.1

theorem plainValue_no_newline {cs : List Char} (h : plainValue cs = true) : '\n' ∉ cs := by
  simp only [plainValue, Bool.and_eq_true] at h
  intro hn
  have := plainText_inLine h.1.2 '\n' hn
  cases this

theorem plainKey_no_newline {cs : List Char} (h : plainKey cs = true) : '\n' ∉ cs := by
  simp only [plainKey, Bool.and_eq_true] at h
  intro hn
  have := plainText_inLine h.1.1.2 '\n' hn
  cases this

theorem readScalar_no_newline {cs : List Char} {s : GoString} (h : readScalar cs = some s) : '\n' ∉ cs := by
  cases cs with
  | nil => simp
  | cons c cs =>
    rw [readScalar] at h
    split at h
    · rename_i hc
      split at h
      · rename_i ds hs
        rw [List.mem_cons, not_or]
        exact ⟨by rw [hc]; decide, scanQuoted_no_newline hs (by simp)⟩
      · cases h
    · split at h
      · rename_i hp
        exact plainValue_no_newline hp
      · cases h

/-! ## Numbers -/

theorem isNumeric_cases {c : Char} (h : isNumeric c = true) :
    inLine c = true ∧ isBlank c = false ∧ c ≠ ':' ∧ c ≠ '#' := by
  simp only [isNumeric, Bool.or_eq_true] at h
  rcases h with h | h
  · have hrange : 48 ≤ c.toNat ∧ c.toNat ≤ 57 := by
      simp only [Char.isDigit, Bool.and_eq_true, decide_eq_true_eq] at h
      exact h
    have hne {d : Char} (hd : d.toNat < 48 ∨ 57 < d.toNat) : c ≠ d := by
      rintro rfl
      omega
    refine ⟨?_, ?_, hne (by decide), hne (by decide)⟩
    · simp only [inLine, isPrintable, isBreak, Bool.and_eq_true, Bool.or_eq_true, decide_eq_true_eq,
        Bool.not_eq_true', Bool.or_eq_false_iff, decide_eq_false_iff_not]
      omega
    · simp [isBlank, hne (d := ' ') (by decide), hne (d := '\t') (by decide)]
  · have hall : ∀ c ∈ "hmnsµ.".toList, inLine c = true ∧ isBlank c = false ∧ c ≠ ':' ∧ c ≠ '#' :=
      List.all_iff_forall_prop.mp (by decide)
    exact hall c (List.contains_iff_mem.mp h)

/-- A number or a duration is a plain value. -/
theorem plainValue_numeral {sign cs : List Char} (hsign : sign = [] ∨ sign = ['-']) (h : Numeral cs) :
    plainValue (sign ++ cs) = true := by
  have hnum := h.isNumeric
  obtain ⟨d, cs, rfl, hd, -⟩ := h
  have hchar : ∀ c ∈ sign ++ d :: cs, inLine c = true ∧ isBlank c = false ∧ c ≠ ':' ∧ c ≠ '#' := by
    intro c hc
    rcases List.mem_append.mp hc with hc | hc
    · rcases hsign with rfl | rfl
      · cases hc
      · obtain rfl := List.mem_singleton.mp hc
        decide
    · exact isNumeric_cases (hnum c hc)
  have hstart : startsPlain (sign ++ d :: cs) = true := by
    have hblank : isBlank d = false := (isNumeric_cases (digit_isNumeric hd)).2.1
    have hnot {l : List Char} (hl : ∀ c ∈ l, c.isDigit = false) : l.contains d = false := by
      rw [Bool.eq_false_iff]
      intro h
      rw [hl d (List.contains_iff_mem.mp h)] at hd
      cases hd
    rcases hsign with rfl | rfl
    · have hsoft : blockIndicators.contains d = false := hnot (List.all_iff_forall_prop.mp (by decide))
      have hhard : indicators.contains d = false := hnot (List.all_iff_forall_prop.mp (by decide))
      simp only [List.nil_append, startsPlain, hsoft, hhard, hblank]
      rfl
    · have hdash : blockIndicators.contains '-' = true := by decide
      simp only [List.singleton_append, startsPlain, hdash, hblank]
      rfl
  have hchain : (sign ++ d :: cs).IsChain PlainPair :=
    (List.pairwise_of_forall_mem_list fun a ha b hb =>
      ⟨fun h => (hchar a ha).2.2.1 h.1, fun h => (hchar b hb).2.2.2 h.2⟩).isChain
  have hnull : nullTexts.contains (sign ++ d :: cs) = false := by
    have hheads : ∀ t ∈ nullTexts, (t.head?.all fun c => !c.isDigit && c ≠ '-') = true := by decide
    rw [Bool.eq_false_iff]
    intro h
    have hmem := hheads _ (List.contains_iff_mem.mp h)
    rcases hsign with rfl | rfl
    · change (!d.isDigit && decide (d ≠ '-')) = true at hmem
      rw [hd] at hmem
      cases hmem
    · change (!Char.isDigit '-' && decide ('-' ≠ '-')) = true at hmem
      exact absurd hmem (by decide)
  have hlast : ∀ c, (sign ++ d :: cs).getLast? = some c → isBlank c = false ∧ c ≠ ':' := fun c hc =>
    ⟨(hchar c (List.mem_of_getLast? hc)).2.1, (hchar c (List.mem_of_getLast? hc)).2.2.1⟩
  simp only [plainValue, plainText, hstart, hnull, Bool.and_eq_true, Bool.not_false, and_true, true_and]
  refine ⟨⟨⟨List.all_eq_true.mpr fun c hc => (hchar c hc).1, decide_eq_true hchain⟩, ?_⟩, ?_⟩
  · cases hl : (sign ++ d :: cs).getLast? with
    | none => rfl
    | some c => simp [(hlast c hl).1]
  · exact decide_eq_true fun h => (hlast ':' h).2 rfl

theorem plainValue_number (n : Int) : plainValue (toString n).toList = true := by
  obtain ⟨sign, cs, hcs, hsign, hnum⟩ := number_shape n
  rw [hcs]
  exact plainValue_numeral hsign hnum

theorem plainValue_duration (d : Int) : plainValue (GoDuration.string d).toList = true := by
  obtain ⟨sign, cs, hcs, hsign, hnum⟩ := string_shape d
  rw [hcs]
  exact plainValue_numeral hsign hnum

end TemporalOperator.Lib.Yaml
