import TemporalOperator.Lib.Json.Scan
import TemporalOperator.Lib.Literal
import TemporalOperator.Lib.Result

/-!
# The values of JSON texts

`encoding/json` reads numbers as binary64 numbers and strings as UTF-8, with U+FFFD for what is not, and writes the
shortest decimals.

* `Value` : exact values; objects are compared by their fields; `Json.value` : the value of a text;
* `decode` : `json.Unmarshal` into an empty interface; `marshal` : the value of the text that `json.Marshal` writes;
* `Kept` : the texts whose numbers are short and whose strings are well formed; `marshal_decode_iff` : they are those
  that reading and writing keeps.
-/

namespace TemporalOperator.Lib.Json

/-! ## Strings -/

/-- An element of a string: a character, an escaped surrogate without its other half, or a byte that is part of no
character. -/
inductive TextUnit
  | char (c : Char)
  | surrogate (code : Nat)
  | byte (b : Nat)
  deriving DecidableEq, Repr

/-- A part of a literal: a character, four hexadecimal digits, or a byte that is not ASCII. -/
inductive Piece
  | char (c : Char)
  | code (n : Nat)
  | byte (b : Nat)
  deriving DecidableEq, Repr

def hexDigit (c : Char) : Nat :=
  if c.isDigit then c.toNat - '0'.toNat else c.toLower.toNat - 'a'.toNat + 10

def escaped : Char → Char
  | 'b' => '\x08'
  | 'f' => '\x0c'
  | 'n' => '\n'
  | 'r' => '\r'
  | 't' => '\t'
  | c => c

def pieces : List Char → List Piece
  | [] => []
  | '\\' :: 'u' :: a :: b :: c :: d :: cs =>
    .code (((hexDigit a * 16 + hexDigit b) * 16 + hexDigit c) * 16 + hexDigit d) :: pieces cs
  | '\\' :: c :: cs => .char (escaped c) :: pieces cs
  | c :: cs => (if c.toNat < 0x80 then .char c else .byte c.toNat) :: pieces cs

def isHighSurrogate (n : Nat) : Bool := 0xd800 ≤ n && n < 0xdc00

def isLowSurrogate (n : Nat) : Bool := 0xdc00 ≤ n && n < 0xe000

def isContinuation (b : Nat) : Bool := 0x80 ≤ b && b < 0xc0

/-- The second byte of three or four: no overlong forms, no surrogates, nothing above U+10FFFF. -/
def isSecond (b b₁ : Nat) : Bool :=
  isContinuation b₁ &&
    match b with
    | 0xe0 => 0xa0 ≤ b₁
    | 0xed => b₁ < 0xa0
    | 0xf0 => 0x90 ≤ b₁
    | 0xf4 => b₁ < 0x90
    | _ => true

/-- Surrogates are paired and UTF-8 is decoded. -/
def units : List Piece → List TextUnit
  | [] => []
  | .char c :: ps => .char c :: units ps
  | .code n :: ps =>
    if isHighSurrogate n then
      match ps with
      | .code m :: rest =>
        if isLowSurrogate m then .char (Char.ofNat ((n - 0xd800) * 0x400 + (m - 0xdc00) + 0x10000)) :: units rest
        else .surrogate n :: units (.code m :: rest)
      | ps => .surrogate n :: units ps
    else if isLowSurrogate n then .surrogate n :: units ps
    else .char (Char.ofNat n) :: units ps
  | .byte b :: ps =>
    if 0xc2 ≤ b && b < 0xe0 then
      match ps with
      | .byte b₁ :: rest =>
        if isContinuation b₁ then .char (Char.ofNat (b % 0x20 * 0x40 + b₁ % 0x40)) :: units rest
        else .byte b :: units (.byte b₁ :: rest)
      | ps => .byte b :: units ps
    else if 0xe0 ≤ b && b < 0xf0 then
      match ps with
      | .byte b₁ :: .byte b₂ :: rest =>
        if isSecond b b₁ && isContinuation b₂ then
          .char (Char.ofNat ((b % 0x10 * 0x40 + b₁ % 0x40) * 0x40 + b₂ % 0x40)) :: units rest
        else .byte b :: units (.byte b₁ :: .byte b₂ :: rest)
      | ps => .byte b :: units ps
    else if 0xf0 ≤ b && b < 0xf5 then
      match ps with
      | .byte b₁ :: .byte b₂ :: .byte b₃ :: rest =>
        if isSecond b b₁ && isContinuation b₂ && isContinuation b₃ then
          .char (Char.ofNat (((b % 0x08 * 0x40 + b₁ % 0x40) * 0x40 + b₂ % 0x40) * 0x40 + b₃ % 0x40)) :: units rest
        else .byte b :: units (.byte b₁ :: .byte b₂ :: .byte b₃ :: rest)
      | ps => .byte b :: units ps
    else .byte b :: units ps

def text (literal : List Char) : List TextUnit := units (pieces literal)

example : text (chars "a\\u00e9\\ud83d\\ude00\\ud800x".toUTF8.toList) =
    [.char 'a', .char 'é', .char '😀', .surrogate 0xd800, .char 'x'] := by
  decide +kernel

example : text (chars ("é😀".toUTF8.toList ++ [0xe2, 0x82])) = [.char 'é', .char '😀', .byte 0xe2, .byte 0x82] := by
  decide +kernel

/-- Go's decoder has U+FFFD in the place of what is not a character. -/
def TextUnit.rune : TextUnit → Char
  | .char c => c
  | _ => '\ufffd'

def unquote (literal : List Char) : List Char := (text literal).map TextUnit.rune

/-- The characters of a Go string that is UTF-8. -/
def textOf (s : List Char) : List TextUnit := s.map .char

/-- No lone surrogates, and UTF-8. -/
def WellFormed (literal : List Char) : Prop := text literal = textOf (unquote literal)

theorem textOf_injective : Function.Injective textOf := List.map_injective_iff.mpr fun _ _ h => TextUnit.char.inj h

theorem wellFormed_iff (literal : List Char) : WellFormed literal ↔ ∃ s, text literal = textOf s := by
  refine ⟨fun h => ⟨_, h⟩, ?_⟩
  rintro ⟨s, hs⟩
  unfold WellFormed unquote
  rw [hs, textOf, List.map_map]
  exact (congrArg textOf (List.map_id s)).symm

/-! ## Exact values -/

inductive Value
  | null
  | bool (b : Bool)
  | number (q : ℚ)
  | string (s : List TextUnit)
  | array (elems : List Value)
  | object (field : List TextUnit → Option Value)

section Fields

variable {κ α : Type} [DecidableEq κ]

/-- The value of a key. The last one counts. -/
def fieldOf : List (κ × α) → κ → Option α
  | [], _ => none
  | (k, v) :: rest, key => (fieldOf rest key).or (if k = key then some v else none)

theorem fieldOf_cons (k : κ) (v : α) (rest : List (κ × α)) (key : κ) :
    fieldOf ((k, v) :: rest) key = (fieldOf rest key).or (if k = key then some v else none) := rfl

theorem fieldOf_eq_none {fields : List (κ × α)} {key : κ} : fieldOf fields key = none ↔ ∀ f ∈ fields, f.1 ≠ key := by
  induction fields with
  | nil => exact ⟨fun _ _ h => (List.not_mem_nil h).elim, fun _ => rfl⟩
  | cons f fields ih =>
    rw [fieldOf_cons, Option.or_eq_none_iff, ih, List.forall_mem_cons, and_comm]
    simp

theorem fieldOf_cons_of_mem {fields : List (κ × α)} {k : κ} {v : α} (h : ∃ f ∈ fields, f.1 = k) :
    fieldOf ((k, v) :: fields) = fieldOf fields := by
  funext key
  rw [fieldOf_cons]
  by_cases hkey : k = key
  · subst hkey
    obtain ⟨w, hw⟩ := Option.ne_none_iff_exists'.mp fun hnone =>
      let ⟨f, hf, hfk⟩ := h
      fieldOf_eq_none.mp hnone f hf hfk
    rw [hw, Option.some_or]
  · rw [if_neg hkey, Option.or_none]

theorem fieldOf_cons_eq_iff {fields fields' : List (κ × α)} {k : κ} {v v' : α} (h : ∀ f ∈ fields, f.1 ≠ k)
    (h' : ∀ f ∈ fields', f.1 ≠ k) :
    fieldOf ((k, v) :: fields) = fieldOf ((k, v') :: fields') ↔ v = v' ∧ fieldOf fields = fieldOf fields' := by
  have hnone := fieldOf_eq_none.mpr h
  have hnone' := fieldOf_eq_none.mpr h'
  constructor
  · intro heq
    have hat := congrFun heq k
    rw [fieldOf_cons, fieldOf_cons, hnone, hnone', Option.none_or, Option.none_or, if_pos rfl, if_pos rfl] at hat
    refine ⟨Option.some.inj hat, funext fun key => ?_⟩
    by_cases hkey : k = key
    · rw [← hkey, hnone, hnone']
    · have hother := congrFun heq key
      rwa [fieldOf_cons, fieldOf_cons, if_neg hkey, if_neg hkey, Option.or_none, Option.or_none] at hother
  · rintro ⟨rfl, heq⟩
    funext key
    rw [fieldOf_cons, fieldOf_cons, heq]

theorem fieldOf_map {β : Type} (f : α → β) (fields : List (κ × α)) (key : κ) :
    fieldOf (fields.map fun p => (p.1, f p.2)) key = (fieldOf fields key).map f := by
  induction fields with
  | nil => rfl
  | cons p fields ih =>
    rw [List.map_cons, fieldOf_cons, ih, fieldOf_cons, Option.map_or]
    split <;> rfl

end Fields

mutual

/-- The exact value of a text. -/
def value : Json → Value
  | .null => .null
  | .bool b => .bool b
  | .number literal => .number (Float64.exact literal)
  | .string literal => .string (text literal)
  | .array elems => .array (values elems)
  | .object fields => .object (fieldOf (fieldValues fields))

def values : List Json → List Value
  | [] => []
  | j :: js => value j :: values js

def fieldValues : List (List Char × Json) → List (List TextUnit × Value)
  | [] => []
  | f :: fs => fieldValue f :: fieldValues fs

def fieldValue : List Char × Json → List TextUnit × Value
  | (key, j) => (text key, value j)

end

/-! ## Reading into an empty interface -/

/-- What an empty interface can hold. The keys of a map are distinct. -/
inductive GoValue
  | null
  | bool (b : Bool)
  | float (f : Float64)
  | string (s : List Char)
  | slice (elems : List GoValue)
  | map (entries : List (List Char × GoValue))

inductive GoValue.AllText (P : List Char → Prop) : GoValue → Prop
  | null : AllText P .null
  | bool (b : Bool) : AllText P (.bool b)
  | float (f : Float64) : AllText P (.float f)
  | string {s : List Char} (h : P s) : AllText P (.string s)
  | slice {elems : List GoValue} (h : ∀ g ∈ elems, AllText P g) : AllText P (.slice elems)
  | map {entries : List (List Char × GoValue)} (hkeys : ∀ e ∈ entries, P e.1) (h : ∀ e ∈ entries, AllText P e.2) :
      AllText P (.map entries)

def convertNumber (literal : List Char) : Except String GoValue :=
  match Float64.parseFloat (String.ofList literal) with
  | .ok f => .ok (.float f)
  | .error _ =>
    .error ("json: cannot unmarshal number " ++ String.ofList literal ++ " into Go value of type float64")

/-- An assignment before others. It stands unless one of them is to the same key. -/
def assign (e : List Char × GoValue) (later : List (List Char × GoValue)) : List (List Char × GoValue) :=
  if e.1 ∈ later.map Prod.fst then later else e :: later

mutual

/-- `valueInterface`, with the first error. -/
def decode : Json → Except String GoValue
  | .null => .ok .null
  | .bool b => .ok (.bool b)
  | .number literal => convertNumber literal
  | .string literal => .ok (.string (unquote literal))
  | .array elems => do return .slice (← decodeAll elems)
  | .object fields => do return .map (← decodeFields fields)

def decodeAll : List Json → Except String (List GoValue)
  | [] => .ok []
  | j :: js => do
    let g ← decode j
    let gs ← decodeAll js
    return g :: gs

def decodeFields : List (List Char × Json) → Except String (List (List Char × GoValue))
  | [] => .ok []
  | f :: fs => do
    let e ← decodeField f
    let es ← decodeFields fs
    return assign e es

def decodeField : List Char × Json → Except String (List Char × GoValue)
  | (key, j) => do return (unquote key, ← decode j)

end

/-- `json.Unmarshal` into an empty interface. -/
def unmarshal (raw : List UInt8) : Except String GoValue := do decode (← parse raw)

/-! ## Writing -/

/-- The text of `strconv.FormatFloat` for what is not finite. -/
def formatSpecial : Float64 → String
  | .inf true => "-Inf"
  | .inf false => "+Inf"
  | _ => "NaN"

/-- `floatEncoder`. -/
def marshalFloat (f : Float64) : Except String Value :=
  match f.written with
  | some q => .ok (.number q)
  | none => .error ("json: unsupported value: " ++ formatSpecial f)

mutual

/-- The value of what `json.Marshal` writes. -/
def marshal : GoValue → Except String Value
  | .null => .ok .null
  | .bool b => .ok (.bool b)
  | .float f => marshalFloat f
  | .string s => .ok (.string (textOf s))
  | .slice elems => do return .array (← marshalAll elems)
  | .map entries => do return .object (fieldOf (← marshalEntries entries))

def marshalAll : List GoValue → Except String (List Value)
  | [] => .ok []
  | g :: gs => do
    let v ← marshal g
    let vs ← marshalAll gs
    return v :: vs

def marshalEntries : List (List Char × GoValue) → Except String (List (List TextUnit × Value))
  | [] => .ok []
  | e :: es => do
    let f ← marshalEntry e
    let fs ← marshalEntries es
    return f :: fs

def marshalEntry : List Char × GoValue → Except String (List TextUnit × Value)
  | (key, g) => do return (textOf key, ← marshal g)

end

/-! ## What is kept -/

/-- Zero, or the shortest decimal of its binary64 number, with an exponent that is not cut short. -/
def ShortNumber (literal : List Char) : Prop :=
  Float64.exact literal = 0 ∨ Float64.exponentSize literal < 100000 ∧ Float64.FloatDecimal (Float64.exact literal)

mutual

/-- Short numbers and well-formed strings; a field that a later one replaces need only have a well-formed key. -/
def Kept : Json → Prop
  | .null => True
  | .bool _ => True
  | .number literal => ShortNumber literal
  | .string literal => WellFormed literal
  | .array elems => KeptAll elems
  | .object fields => (∀ f ∈ fields, WellFormed f.1) ∧ KeptFields fields

def KeptAll : List Json → Prop
  | [] => True
  | j :: js => Kept j ∧ KeptAll js

def KeptFields : List (List Char × Json) → Prop
  | [] => True
  | f :: fs => ((∀ g ∈ fs, text g.1 ≠ text f.1) → KeptField f) ∧ KeptFields fs

def KeptField : List Char × Json → Prop
  | (_, j) => Kept j

end

/-! ## Reading and writing -/

/-- Induction over texts, through the elements of arrays and the fields of objects. -/
@[elab_as_elim]
theorem induction {motive : Json → Prop} (null : motive .null) (bool : ∀ b, motive (.bool b))
    (number : ∀ literal, motive (.number literal)) (string : ∀ literal, motive (.string literal))
    (array : ∀ elems, (∀ j ∈ elems, motive j) → motive (.array elems))
    (object : ∀ fields, (∀ f ∈ fields, motive f.2) → motive (.object fields)) (j : Json) : motive j :=
  @Json.rec motive (fun js => ∀ j ∈ js, motive j) (fun fs => ∀ f ∈ fs, motive f.2) (fun f => motive f.2)
    null bool number string array object
    (fun _ h => (List.not_mem_nil h).elim) (fun _ _ hj hjs => List.forall_mem_cons.mpr ⟨hj, hjs⟩)
    (fun _ h => (List.not_mem_nil h).elim) (fun _ _ hf hfs => List.forall_mem_cons.mpr ⟨hf, hfs⟩)
    (fun _ _ hj => hj) j

/-- What reading and writing gives is the value of the text just when it is kept. -/
def Faithful (j : Json) : Prop := ∀ g v, decode j = .ok g → marshal g = .ok v → (v = value j ↔ Kept j)

/-- The number that is written for a literal. -/
theorem shortNumber_iff {literal : List Char} {q : ℚ}
    (h : (Float64.parseFloat (String.ofList literal)).toOption.bind Float64.written = some q) :
    q = Float64.exact literal ↔ ShortNumber literal := by
  obtain ⟨f, hf, hq⟩ := Option.bind_eq_some_iff.mp h
  have hparse : Float64.parseFloat (String.ofList literal) = .ok f := by
    cases hread : Float64.parseFloat (String.ofList literal) with
    | error e =>
      rw [hread] at hf
      exact nomatch hf
    | ok f' =>
      rw [hread] at hf
      exact congrArg _ (Option.some.inj hf)
  have hfinite : f.isFinite = true := by
    cases f with
    | finite neg mag => rfl
    | nan => exact nomatch hq
    | inf neg => exact nomatch hq
  unfold ShortNumber
  rw [← Float64.written_parseFloat_iff hparse hfinite, hq, Option.some.injEq]

theorem faithful_number (literal : List Char) : Faithful (.number literal) := by
  intro g v hg hv
  unfold decode convertNumber at hg
  split at hg
  · rename_i f hparse
    obtain rfl := Except.ok.inj hg
    unfold marshal marshalFloat at hv
    split at hv
    · rename_i q hq
      obtain rfl := Except.ok.inj hv
      unfold value Kept
      rw [Value.number.injEq]
      refine shortNumber_iff ?_
      rw [hparse]
      exact hq
    · exact nomatch hv
  · exact nomatch hg

theorem faithful_string (literal : List Char) : Faithful (.string literal) := by
  intro g v hg hv
  unfold decode at hg
  obtain rfl := Except.ok.inj hg
  unfold marshal at hv
  obtain rfl := Except.ok.inj hv
  unfold value Kept WellFormed
  rw [Value.string.injEq, eq_comm]

theorem faithful_all {elems : List Json} (h : ∀ j ∈ elems, Faithful j) {gs : List GoValue} {vs : List Value}
    (hgs : decodeAll elems = .ok gs) (hvs : marshalAll gs = .ok vs) : vs = values elems ↔ KeptAll elems := by
  induction elems generalizing gs vs with
  | nil =>
    unfold decodeAll at hgs
    obtain rfl := Except.ok.inj hgs
    unfold marshalAll at hvs
    obtain rfl := Except.ok.inj hvs
    unfold values KeptAll
    exact iff_true_intro rfl
  | cons j js ih =>
    obtain ⟨hj, hjs⟩ := List.forall_mem_cons.mp h
    unfold decodeAll at hgs
    obtain ⟨g, hg, hrest⟩ := bind_eq_ok.mp hgs
    obtain ⟨gs, hgs', hcons⟩ := bind_eq_ok.mp hrest
    obtain rfl := Except.ok.inj hcons
    unfold marshalAll at hvs
    obtain ⟨v, hv, hrest⟩ := bind_eq_ok.mp hvs
    obtain ⟨vs, hvs', hcons⟩ := bind_eq_ok.mp hrest
    obtain rfl := Except.ok.inj hcons
    unfold values KeptAll
    rw [List.cons.injEq, hj g v hg hv, ih hjs hgs' hvs']

theorem fieldValues_eq_map (fields : List (List Char × Json)) :
    fieldValues fields = fields.map fun f => (text f.1, value f.2) := by
  induction fields with
  | nil => rfl
  | cons f fields ih => rw [fieldValues, ih, List.map_cons, fieldValue]

theorem decodeFields_cons {f : List Char × Json} {fields : List (List Char × Json)}
    {es : List (List Char × GoValue)} (h : decodeFields (f :: fields) = .ok es) :
    ∃ g later, decode f.2 = .ok g ∧ decodeFields fields = .ok later ∧ es = assign (unquote f.1, g) later := by
  unfold decodeFields decodeField at h
  obtain ⟨e, he, hrest⟩ := bind_eq_ok.mp h
  obtain ⟨later, hlater, hassign⟩ := bind_eq_ok.mp hrest
  obtain ⟨g, hg, hentry⟩ := bind_eq_ok.mp he
  obtain rfl := Except.ok.inj hentry
  exact ⟨g, later, hg, hlater, (Except.ok.inj hassign).symm⟩

theorem marshalEntries_cons {e : List Char × GoValue} {es : List (List Char × GoValue)}
    {ms : List (List TextUnit × Value)} (h : marshalEntries (e :: es) = .ok ms) :
    ∃ v rest, marshal e.2 = .ok v ∧ marshalEntries es = .ok rest ∧ ms = (textOf e.1, v) :: rest := by
  unfold marshalEntries marshalEntry at h
  obtain ⟨m, hm, hrest⟩ := bind_eq_ok.mp h
  obtain ⟨rest, hms, hcons⟩ := bind_eq_ok.mp hrest
  obtain ⟨v, hv, hentry⟩ := bind_eq_ok.mp hm
  obtain rfl := Except.ok.inj hentry
  exact ⟨v, rest, hv, hms, (Except.ok.inj hcons).symm⟩

theorem decodeFields_keys {fields : List (List Char × Json)} {es : List (List Char × GoValue)}
    (h : decodeFields fields = .ok es) (s : List Char) :
    s ∈ es.map Prod.fst ↔ ∃ f ∈ fields, unquote f.1 = s := by
  induction fields generalizing es with
  | nil =>
    unfold decodeFields at h
    obtain rfl := Except.ok.inj h
    simp
  | cons f fields ih =>
    obtain ⟨g, later, -, hlater, rfl⟩ := decodeFields_cons h
    rw [List.exists_mem_cons_iff, ← ih hlater]
    unfold assign
    split
    · rename_i hmem
      exact ⟨.inr, fun hor => hor.elim (fun heq => heq ▸ hmem) id⟩
    · rw [List.map_cons, List.mem_cons, eq_comm]

theorem marshalEntries_keys {es : List (List Char × GoValue)} {ms : List (List TextUnit × Value)}
    (h : marshalEntries es = .ok ms) : ms.map Prod.fst = (es.map Prod.fst).map textOf := by
  induction es generalizing ms with
  | nil =>
    unfold marshalEntries at h
    obtain rfl := Except.ok.inj h
    rfl
  | cons e es ih =>
    obtain ⟨v, rest, -, hrest, rfl⟩ := marshalEntries_cons h
    rw [List.map_cons, List.map_cons, List.map_cons, ih hrest]

/-- The keys that are written are those of the text, with U+FFFD in them. -/
theorem marshalled_key {fields : List (List Char × Json)} {es : List (List Char × GoValue)}
    {ms : List (List TextUnit × Value)} (hes : decodeFields fields = .ok es) (hms : marshalEntries es = .ok ms)
    {k : List TextUnit} : (∃ m ∈ ms, m.1 = k) ↔ ∃ f ∈ fields, textOf (unquote f.1) = k := by
  have hmem : (∃ m ∈ ms, m.1 = k) ↔ k ∈ (es.map Prod.fst).map textOf := by
    rw [← marshalEntries_keys hms]
    exact List.mem_map.symm
  rw [hmem, List.mem_map]
  constructor
  · rintro ⟨s, hs, rfl⟩
    obtain ⟨f, hf, rfl⟩ := (decodeFields_keys hes s).mp hs
    exact ⟨f, hf, rfl⟩
  · rintro ⟨f, hf, rfl⟩
    exact ⟨_, (decodeFields_keys hes _).mpr ⟨f, hf, rfl⟩, rfl⟩

/-- Fields with well-formed keys. -/
theorem faithful_fields {fields : List (List Char × Json)} (h : ∀ f ∈ fields, Faithful f.2)
    (hkeys : ∀ f ∈ fields, WellFormed f.1) {es : List (List Char × GoValue)} {ms : List (List TextUnit × Value)}
    (hes : decodeFields fields = .ok es) (hms : marshalEntries es = .ok ms) :
    fieldOf ms = fieldOf (fieldValues fields) ↔ KeptFields fields := by
  induction fields generalizing es ms with
  | nil =>
    unfold decodeFields at hes
    obtain rfl := Except.ok.inj hes
    unfold marshalEntries at hms
    obtain rfl := Except.ok.inj hms
    unfold KeptFields
    exact iff_true_intro rfl
  | cons f fields ih =>
    obtain ⟨hf, hfs⟩ := List.forall_mem_cons.mp h
    obtain ⟨hkey, hkeys⟩ := List.forall_mem_cons.mp hkeys
    obtain ⟨g, later, hg, hlater, rfl⟩ := decodeFields_cons hes
    unfold KeptFields KeptField fieldValues fieldValue
    by_cases hmem : ∃ f' ∈ fields, text f'.1 = text f.1
    · -- a later field has the key
      have hassign : assign (unquote f.1, g) later = later := by
        obtain ⟨f', hf', heq⟩ := hmem
        refine if_pos ((decodeFields_keys hlater _).mpr ⟨f', hf', ?_⟩)
        exact congrArg (List.map TextUnit.rune) heq
      rw [hassign] at hms
      rw [fieldOf_cons_of_mem, ih hfs hkeys hlater hms]
      · refine ⟨fun hrest => ⟨fun hnone => ?_, hrest⟩, And.right⟩
        obtain ⟨f', hf', heq⟩ := hmem
        exact absurd heq (hnone f' hf')
      · rw [fieldValues_eq_map]
        obtain ⟨f', hf', heq⟩ := hmem
        exact ⟨_, List.mem_map_of_mem hf', heq⟩
    · push Not at hmem
      have hassign : assign (unquote f.1, g) later = (unquote f.1, g) :: later := by
        refine if_neg fun hin => ?_
        obtain ⟨f', hf', heq⟩ := (decodeFields_keys hlater _).mp hin
        refine hmem f' hf' ?_
        rw [hkeys f' hf', hkey, heq]
      rw [hassign] at hms
      obtain ⟨v, rest, hv, hrest, rfl⟩ := marshalEntries_cons hms
      rw [show textOf (unquote f.1) = text f.1 from hkey.symm, fieldOf_cons_eq_iff, hf g v hg hv,
        ih hfs hkeys hlater hrest]
      · exact and_congr_left fun _ => ⟨fun hkept _ => hkept, fun himp => himp hmem⟩
      · intro m hm heq
        obtain ⟨f', hf', heq'⟩ := (marshalled_key hlater hrest).mp ⟨m, hm, heq⟩
        refine hmem f' hf' ?_
        rw [← heq', ← hkeys f' hf']
      · rw [fieldValues_eq_map]
        intro m hm heq
        obtain ⟨f', hf', rfl⟩ := List.mem_map.mp hm
        exact hmem f' hf' heq

theorem faithful_object {fields : List (List Char × Json)} (h : ∀ f ∈ fields, Faithful f.2) :
    Faithful (.object fields) := by
  intro g v hg hv
  unfold decode at hg
  obtain ⟨es, hes, hmap⟩ := bind_eq_ok.mp hg
  obtain rfl := Except.ok.inj hmap
  unfold marshal at hv
  obtain ⟨ms, hms, hobject⟩ := bind_eq_ok.mp hv
  obtain rfl := Except.ok.inj hobject
  unfold value Kept
  rw [Value.object.injEq]
  constructor
  · intro heq
    have hkeys : ∀ f ∈ fields, WellFormed f.1 := by
      intro f hf
      have hsome : fieldOf ms (text f.1) ≠ none := by
        rw [heq, fieldValues_eq_map, Ne, fieldOf_eq_none]
        exact fun hnone => hnone _ (List.mem_map_of_mem hf) rfl
      rw [Ne, fieldOf_eq_none] at hsome
      push Not at hsome
      obtain ⟨f', -, hf'⟩ := (marshalled_key hes hms).mp hsome
      exact (wellFormed_iff f.1).mpr ⟨_, hf'.symm⟩
    exact ⟨hkeys, (faithful_fields h hkeys hes hms).mp heq⟩
  · rintro ⟨hkeys, hkept⟩
    exact (faithful_fields h hkeys hes hms).mpr hkept

/-- A text without numbers and strings. -/
theorem faithful_of_kept {j : Json} {g : GoValue} (hdecode : decode j = .ok g) (hmarshal : marshal g = .ok (value j))
    (hkept : Kept j) : Faithful j := by
  intro g' v hg hv
  obtain rfl := Except.ok.inj (hdecode.symm.trans hg)
  obtain rfl := Except.ok.inj (hmarshal.symm.trans hv)
  exact ⟨fun _ => hkept, fun _ => rfl⟩

/-- **Reading and writing a text gives its value just when its numbers are short and its strings well formed.** -/
theorem marshal_decode_iff (j : Json) : Faithful j := by
  induction j using induction with
  | null => exact faithful_of_kept decode.eq_1 (by rw [marshal, value]) (by rw [Kept]; trivial)
  | bool b => exact faithful_of_kept (decode.eq_2 b) (by rw [marshal, value]) (by rw [Kept]; trivial)
  | number literal => exact faithful_number literal
  | string literal => exact faithful_string literal
  | array elems ih =>
    intro g v hg hv
    unfold decode at hg
    obtain ⟨gs, hgs, hslice⟩ := bind_eq_ok.mp hg
    obtain rfl := Except.ok.inj hslice
    unfold marshal at hv
    obtain ⟨vs, hvs, harray⟩ := bind_eq_ok.mp hv
    obtain rfl := Except.ok.inj harray
    unfold value Kept
    rw [Value.array.injEq]
    exact faithful_all ih hgs hvs
  | object fields ih => exact faithful_object ih

end TemporalOperator.Lib.Json
