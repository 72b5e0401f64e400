import TemporalOperator.Lib.GoText

/-!
# Go's `flag` package

`FlagSet.Parse` with flags of three kinds, and `strconv.ParseInt` with base 0, by which the numbers among them are read.

* `parseInt` : `ParseInt(s, 0, 64)`; `parseInt_toString` : a printed number is read back;
* `parse` : the arguments in order; a flag that is not a switch takes the next argument as its value, whatever it is;
* `parse_settings`, `parse_switch` : flags with values, and a switch, are read as they are meant.
-/

namespace TemporalOperator.Lib.GoFlag

/-! ## Numbers -/

inductive NumError
  | syntaxError
  | rangeError
  deriving DecidableEq, Repr

def digitValue (c : Char) : Option Nat :=
  if '0' ≤ c && c ≤ '9' then some (c.toNat - '0'.toNat)
  else if 'a' ≤ c && c ≤ 'z' then some (c.toNat - 'a'.toNat + 10)
  else if 'A' ≤ c && c ≤ 'Z' then some (c.toNat - 'A'.toNat + 10)
  else none

/-- The loop of `ParseUint`: the number, and whether there were underscores. -/
def readDigits (base : Nat) : List Char → Nat → Bool → Except NumError (Nat × Bool)
  | [], n, underscores => .ok (n, underscores)
  | c :: cs, n, underscores =>
    if c = '_' then readDigits base cs n true
    else
      match digitValue c with
      | none => .error .syntaxError
      | some d =>
        if base ≤ d then .error .syntaxError
        else if 2 ^ 64 ≤ n * base + d then .error .rangeError
        else readDigits base cs (n * base + d) underscores

/-- The base a text of digits stands in, and the digits. -/
def splitBase : List Char → Nat × List Char
  | '0' :: c :: d :: ds =>
    if c = 'b' ∨ c = 'B' then (2, d :: ds)
    else if c = 'o' ∨ c = 'O' then (8, d :: ds)
    else if c = 'x' ∨ c = 'X' then (16, d :: ds)
    else (8, c :: d :: ds)
  | '0' :: ds => (8, ds)
  | ds => (10, ds)

/-- What `underscoreOK` saw last. -/
inductive Saw
  | start
  | digit
  | underscore
  | other
  deriving DecidableEq, Repr

def underscoresBetween (hex : Bool) : Saw → List Char → Bool
  | saw, [] => saw ≠ .underscore
  | saw, c :: cs =>
    if ('0' ≤ c && c ≤ '9') || (hex && (('a' ≤ c && c ≤ 'f') || ('A' ≤ c && c ≤ 'F'))) then
      underscoresBetween hex .digit cs
    else if c = '_' then saw = .digit && underscoresBetween hex .underscore cs
    else saw ≠ .underscore && underscoresBetween hex .other cs

/-- Underscores stand between digits only; the prefix of a base counts as one. -/
def underscoreOK : List Char → Bool
  | '0' :: c :: cs =>
    if c ∈ ['b', 'B', 'o', 'O', 'x', 'X'] then underscoresBetween (c = 'x' ∨ c = 'X') .digit cs
    else underscoresBetween false .start ('0' :: c :: cs)
  | cs => underscoresBetween false .start cs

/-- `ParseUint(s, 0, 64)`. -/
def parseUint (cs : List Char) : Except NumError Nat :=
  if cs = [] then .error .syntaxError
  else
    match readDigits (splitBase cs).1 (splitBase cs).2 0 false with
    | .error e => .error e
    | .ok (n, underscores) => if underscores && !underscoreOK cs then .error .syntaxError else .ok n

/-- `ParseInt(s, 0, 64)`. -/
def parseInt (s : String) : Except NumError Int :=
  let signed (cs : List Char) (limit : Nat) (value : Nat → Int) : Except NumError Int :=
    match parseUint cs with
    | .error e => .error e
    | .ok n => if n ≤ limit then .ok (value n) else .error .rangeError
  match s.toList with
  | '-' :: cs => signed cs (2 ^ 63) fun n => -n
  | '+' :: cs => signed cs (2 ^ 63 - 1) fun n => n
  | cs => signed cs (2 ^ 63 - 1) fun n => n

example : parseInt "5432" = .ok 5432 ∧ parseInt "-0x1F" = .ok (-31) ∧ parseInt "1_000" = .ok 1000 ∧
    parseInt "1__0" = .error .syntaxError ∧ parseInt "09" = .error .syntaxError ∧
    parseInt "9223372036854775808" = .error .rangeError := by decide

theorem digitValue_of_isDigit {c : Char} (h : c.isDigit = true) :
    c ≠ '_' ∧ digitValue c = some (c.toNat - '0'.toNat) ∧ c.toNat - '0'.toNat < 10 := by
  have hrange := Char.isDigit_iff_toNat.mp h
  have hzero : '0'.toNat = 48 := rfl
  have hnine : '9'.toNat = 57 := rfl
  refine ⟨fun hc => ?_, ?_, by omega⟩
  · rw [hc] at h
    cases h
  · have hdigit : ('0' ≤ c && c ≤ '9') = true := h
    rw [digitValue, if_pos hdigit]

theorem le_foldl_digits (cs : List Char) (n : Nat) : n ≤ cs.foldl (fun n c => 10 * n + (c.toNat - '0'.toNat)) n := by
  induction cs generalizing n with
  | nil => exact Nat.le_refl n
  | cons c cs ih =>
    have hstep := ih (10 * n + (c.toNat - '0'.toNat))
    rw [List.foldl_cons]
    omega

theorem readDigits_foldl {cs : List Char} (hcs : ∀ c ∈ cs, c.isDigit = true) (n : Nat)
    (h : cs.foldl (fun n c => 10 * n + (c.toNat - '0'.toNat)) n < 2 ^ 64) :
    readDigits 10 cs n false = .ok (cs.foldl (fun n c => 10 * n + (c.toNat - '0'.toNat)) n, false) := by
  induction cs generalizing n with
  | nil => rfl
  | cons c cs ih =>
    obtain ⟨hc, hvalue, hlt⟩ := digitValue_of_isDigit (hcs c (by simp))
    rw [List.foldl_cons] at h ⊢
    have hle := le_foldl_digits cs (10 * n + (c.toNat - '0'.toNat))
    rw [readDigits, if_neg hc, hvalue]
    dsimp only
    rw [if_neg (by omega), if_neg (by omega), Nat.mul_comm]
    exact ih (fun d hd => hcs d (by simp [hd])) _ h

theorem readDigits_of_digits {cs : List Char} {n : Nat} (h : GoText.digits cs = some n) (hn : n < 2 ^ 64) :
    readDigits 10 cs 0 false = .ok (n, false) := by
  unfold GoText.digits at h
  split at h
  · cases h
  · rename_i hall
    obtain rfl := Option.some.inj h
    rw [not_or, not_not] at hall
    exact readDigits_foldl (List.all_eq_true.mp hall.2) 0 hn

theorem head?_toDigits {n : Nat} (hn : n ≠ 0) : (Nat.toDigits 10 n).head? ≠ some '0' := by
  induction n using Nat.strongRecOn with
  | ind n ih =>
    rw [Nat.toDigits_eq_if (by decide)]
    split
    · rename_i hlt
      have hdigits : ∀ d < 10, d ≠ 0 → Nat.digitChar d ≠ '0' := by decide
      simpa using hdigits n hlt hn
    · have hhead := ih (n / 10) (by omega) (by omega)
      rw [List.head?_append]
      cases hd : (Nat.toDigits 10 (n / 10)).head? with
      | none => exact absurd (List.head?_eq_none_iff.mp hd) Nat.toDigits_ne_nil
      | some c =>
        rw [hd] at hhead
        exact hhead

theorem splitBase_of_head {cs : List Char} (h : cs.head? ≠ some '0') : splitBase cs = (10, cs) := by
  unfold splitBase
  split
  · exact absurd rfl h
  · exact absurd rfl h
  · rfl

/-- Printed numbers have neither a prefix for a base nor underscores. -/
theorem parseUint_toDigits {n : Nat} (hn : n < 2 ^ 64) : parseUint (Nat.toDigits 10 n) = .ok n := by
  by_cases hzero : n = 0
  · rw [hzero]
    rfl
  · rw [parseUint, if_neg Nat.toDigits_ne_nil, splitBase_of_head (head?_toDigits hzero),
      readDigits_of_digits (GoText.digits_toDigits n) hn]
    rfl

theorem parseInt_unsigned {s : String} {n : Nat} (hdigits : s.toList = Nat.toDigits 10 n) (hn : n < 2 ^ 63) :
    parseInt s = .ok n := by
  have hnum := parseUint_toDigits (show n < 2 ^ 64 by omega)
  have hisDigit : ∀ c ∈ s.toList, c.isDigit = true := by
    rw [hdigits]
    exact fun c hc => Nat.isDigit_of_mem_toDigits (by decide) (by decide) hc
  unfold parseInt
  dsimp only
  split
  · rename_i cs hs
    exact absurd (hisDigit '-' (by simp [hs])) (by decide)
  · rename_i cs hs
    exact absurd (hisDigit '+' (by simp [hs])) (by decide)
  · rw [hdigits, hnum]
    exact if_pos (by omega)

/-- **A printed 64-bit number is read back.** -/
theorem parseInt_toString {n : Int} (lo : -2 ^ 63 ≤ n) (hi : n < 2 ^ 63) : parseInt (toString n) = .ok n := by
  cases n with
  | ofNat n =>
    have hbound : (n : Int) < 2 ^ 63 := hi
    exact parseInt_unsigned (GoText.toList_toString_ofNat n) (by omega)
  | negSucc n =>
    have hnum := parseUint_toDigits (show n + 1 < 2 ^ 64 by omega)
    simp only [parseInt, GoText.toList_toString_negSucc, hnum]
    rw [if_pos (by omega)]
    rfl

/-! ## Flags -/

inductive Value
  | string (s : String)
  | int (n : Int)
  | bool (b : Bool)
  deriving DecidableEq, Repr

abbrev FlagSet := List (String × Value)

inductive ParseError
  | badSyntax (arg : String)
  | help
  | undefined (name : String)
  | needsArgument (name : String)
  | invalidValue (value name : String)
  deriving DecidableEq, Repr

def parseBool (s : String) : Option Bool :=
  if s ∈ ["1", "t", "T", "true", "TRUE", "True"] then some true
  else if s ∈ ["0", "f", "F", "false", "FALSE", "False"] then some false
  else none

/-- `Value.Set`. -/
def Value.set : Value → String → Option Value
  | .string _, s => some (.string s)
  | .int _, s => (parseInt s).toOption.map .int
  | .bool _, s => (parseBool s).map .bool

def Value.isBool : Value → Bool
  | .bool _ => true
  | _ => false

/-- What an argument is to `parseOne`. -/
inductive Arg
  | operand
  | terminator
  | bad
  /-- A flag, with the text after `=` if there is one. -/
  | flag (name : String) (value : Option String)
  deriving DecidableEq, Repr

/-- A name is cut at the first `=` that is not its first character. -/
def cutName (name : List Char) : Arg :=
  match name with
  | [] => .bad
  | c :: cs =>
    if c = '-' ∨ c = '=' then .bad
    else .flag (String.ofList (c :: cs.takeWhile (· ≠ '=')))
      (match cs.dropWhile (· ≠ '=') with
        | [] => none
        | _ :: value => some (String.ofList value))

def classify (arg : String) : Arg :=
  match arg.toList with
  | '-' :: '-' :: [] => .terminator
  | '-' :: '-' :: name => cutName name
  | '-' :: c :: name => cutName (c :: name)
  | _ => .operand

def assign (fs : FlagSet) (name : String) (v : Value) : FlagSet :=
  fs.map fun f => if f.1 = name then (name, v) else f

/-- `FlagSet.Parse`: the flags with their values, and the arguments that are left. -/
def parse (fs : FlagSet) : List String → Except ParseError (FlagSet × List String)
  | [] => .ok (fs, [])
  | arg :: args =>
    match classify arg with
    | .operand => .ok (fs, arg :: args)
    | .terminator => .ok (fs, args)
    | .bad => .error (.badSyntax arg)
    | .flag name value? =>
      match fs.lookup name with
      | none => .error (if name = "help" ∨ name = "h" then .help else .undefined name)
      | some old =>
        if old.isBool then
          match old.set (value?.getD "true") with
          | none => .error (.invalidValue (value?.getD "true") name)
          | some v => parse (assign fs name v) args
        else
          match value?, args with
          | some value, args =>
            match old.set value with
            | none => .error (.invalidValue value name)
            | some v => parse (assign fs name v) args
          | none, [] => .error (.needsArgument name)
          | none, value :: args =>
            match old.set value with
            | none => .error (.invalidValue value name)
            | some v => parse (assign fs name v) args

theorem lookup_assign_self {fs : FlagSet} {name : String} {old : Value} (h : fs.lookup name = some old) (v : Value) :
    (assign fs name v).lookup name = some v := by
  unfold assign
  induction fs with
  | nil => cases h
  | cons f fs ih =>
    obtain ⟨key, value⟩ := f
    rw [List.map_cons]
    by_cases hkey : key = name
    · rw [if_pos hkey, List.lookup_cons_self]
    · have hne : (name == key) = false := beq_eq_false_iff_ne.mpr (Ne.symm hkey)
      rw [List.lookup_cons, hne] at h
      rw [if_neg hkey, List.lookup_cons, hne]
      exact ih h

theorem lookup_assign_ne {name other : String} (h : other ≠ name) (fs : FlagSet) (v : Value) :
    (assign fs name v).lookup other = fs.lookup other := by
  unfold assign
  induction fs with
  | nil => rfl
  | cons f fs ih =>
    obtain ⟨key, value⟩ := f
    rw [List.map_cons]
    by_cases hkey : key = name
    · have hne : (other == name) = false := beq_eq_false_iff_ne.mpr h
      rw [if_pos hkey, List.lookup_cons, List.lookup_cons, hkey, hne]
      exact ih
    · rw [if_neg hkey, List.lookup_cons, List.lookup_cons, ih]

theorem Value.set_kind {old v : Value} {text : String} (h : old.set text = some v) :
    v.isBool = old.isBool ∧ ∀ text, v.set text = old.set text := by
  cases old with
  | string s =>
    obtain rfl := Option.some.inj h
    exact ⟨rfl, fun _ => rfl⟩
  | int n =>
    obtain ⟨m, -, rfl⟩ := Option.map_eq_some_iff.mp h
    exact ⟨rfl, fun _ => rfl⟩
  | bool b =>
    obtain ⟨m, -, rfl⟩ := Option.map_eq_some_iff.mp h
    exact ⟨rfl, fun _ => rfl⟩

/-! ## Settings -/

/-- A flag that is not a switch, with its value in the next argument. -/
structure Setting where
  arg : String
  name : String
  text : String
  value : Value
  deriving DecidableEq, Repr

def Setting.args (s : Setting) : List String := [s.arg, s.text]

/-- The flags define the setting's flag, and its text is read as its value. -/
structure Setting.Fits (s : Setting) (fs : FlagSet) : Prop where
  arg : classify s.arg = .flag s.name none
  text : ∃ old, fs.lookup s.name = some old ∧ old.isBool = false ∧ old.set s.text = some s.value

theorem Setting.Fits.assign {fs : FlagSet} {s t : Setting} (hs : s.Fits fs) (ht : t.Fits fs) :
    s.Fits (assign fs t.name t.value) := by
  obtain ⟨old, hold, hkind, hset⟩ := hs.text
  obtain ⟨old', hold', hkind', hset'⟩ := ht.text
  refine ⟨hs.arg, ?_⟩
  by_cases hname : s.name = t.name
  · rw [hname, hold'] at hold
    obtain rfl := Option.some.inj hold
    obtain ⟨hbool, htexts⟩ := Value.set_kind hset'
    rw [hname]
    exact ⟨t.value, lookup_assign_self hold' _, hbool.trans hkind', (htexts _).trans hset⟩
  · exact ⟨old, by rw [lookup_assign_ne hname, hold], hkind, hset⟩

/-- One setting: the next argument is the value, also one that is empty or begins with a dash. -/
theorem parse_setting {fs : FlagSet} {s : Setting} (h : s.Fits fs) (args : List String) :
    parse fs (s.args ++ args) = parse (assign fs s.name s.value) args := by
  obtain ⟨old, hold, hkind, hset⟩ := h.text
  change parse fs (s.arg :: s.text :: args) = _
  rw [parse, h.arg]
  simp only [hold, hkind, Bool.false_eq_true, if_false, hset]

/-- **Settings that fit are read in order.** -/
theorem parse_settings {fs : FlagSet} {settings : List Setting} (h : ∀ s ∈ settings, s.Fits fs) (args : List String) :
    parse fs (settings.flatMap Setting.args ++ args) =
      parse (settings.foldl (fun fs s => assign fs s.name s.value) fs) args := by
  induction settings generalizing fs with
  | nil => rfl
  | cons s settings ih =>
    have hs := h s (by simp)
    rw [List.flatMap_cons, List.append_assoc, parse_setting hs, List.foldl_cons]
    exact ih fun t ht => (h t (by simp [ht])).assign hs

theorem parse_switch {fs : FlagSet} {arg name : String} {b : Bool} (harg : classify arg = .flag name none)
    (hold : fs.lookup name = some (.bool b)) (args : List String) :
    parse fs (arg :: args) = parse (assign fs name (.bool true)) args := by
  have hset : (Value.bool b).set "true" = some (.bool true) := rfl
  rw [parse, harg]
  simp only [hold, Value.isBool, if_true, Option.getD_none, hset]

end TemporalOperator.Lib.GoFlag
