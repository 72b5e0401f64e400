import TemporalOperator.Lib.GoQuote

/-!
# Scanning JSON

The scanner of Go's `encoding/json`: a state machine over the bytes of a text, with a stack of the arrays and objects
that are open. Here the stack also holds what has been read, so that a text that is accepted gives a tree. Literals stay
as they are written.

* `Json` : a text that is valid; `Step`, `Frame`, `Scanner` : the states;
* `next` : one byte; `parse` : a whole text, or the text of the syntax error; `valid` : `json.Valid`.

Bytes are characters below 256.
-/

namespace TemporalOperator.Lib

/-- A JSON text. The literals of strings are without their quotes. -/
inductive Json
  | null
  | bool (b : Bool)
  | number (literal : List Char)
  | string (literal : List Char)
  | array (elems : List Json)
  | object (fields : List (List Char × Json))
  deriving Repr

namespace Json

/-! ## States -/

/-- What is expected next. -/
inductive Step
  | beginValueOrEmpty
  | beginValue
  | beginStringOrEmpty
  | beginString
  | endValue
  | endTop
  | inString
  | inStringEsc
  /-- After `\u`, with so many digits to come. -/
  | inStringEscU (left : Nat)
  | neg
  /-- In the integer part of a number; after a leading zero it is at its end. -/
  | one
  | zero
  | dot
  | dot0
  | exp
  | expSign
  | exp0
  /-- In `true`, `false` or `null`, with these characters to come. -/
  | word (name : String) (rest : List Char)
  deriving DecidableEq, Repr

/-- An open array or object, with its elements so far, the newest first. An object is at a key, or at the value of
one. -/
inductive Frame
  | array (elems : List Json)
  | objectKey (fields : List (List Char × Json)) (key : List Char)
  | objectValue (fields : List (List Char × Json)) (key : List Char)
  deriving Repr

structure Scanner where
  step : Step := .beginValue
  /-- The innermost first. -/
  frames : List Frame := []
  /-- The literal so far, the newest character first. -/
  literal : List Char := []
  /-- The whole value, once it is there. -/
  top : Json := .null
  deriving Repr

def maxNestingDepth : Nat := 10000

def isSpace (c : Char) : Bool := c = ' ' || c = '\t' || c = '\r' || c = '\n'

theorem printable_ascii {n : Nat} (h : n < 0xa1) :
    (0x20 ≤ n && n < 0x7f || 0xa1 ≤ n && n ≤ 0xff && n ≠ 0xad) = (0x20 ≤ n && n < 0x7f : Bool) := by
  have hlow : decide (0xa1 ≤ n) = false := decide_eq_false (by omega)
  rw [hlow, Bool.false_and, Bool.false_and, Bool.or_false]

theorem not_printable_of_gt {n : Nat} (h : 0xff < n) :
    (0x20 ≤ n && n < 0x7f || 0xa1 ≤ n && n ≤ 0xff && n ≠ 0xad) = false := by
  simp only [Bool.or_eq_false_iff, Bool.and_eq_false_iff, decide_eq_false_iff_not]
  omega

theorem separator_gt {n : Nat} (h : n = 0x2028 ∨ n = 0x2029) : 0xff < n := by omega

theorem noncharacter_gt {n : Nat} (h : n = 0xfeff ∨ n = 0xfffe ∨ n = 0xffff) : 0xff < n := by omega

/-- `strconv.IsPrint` of the first 256 characters. -/
def latin1 : PrintTable where
  isPrint c := 0x20 ≤ c.toNat && c.toNat < 0x7f || 0xa1 ≤ c.toNat && c.toNat ≤ 0xff && c.toNat ≠ 0xad
  ascii _ h := printable_ascii h
  separator _ h := not_printable_of_gt (separator_gt h)
  noncharacter _ h := not_printable_of_gt (noncharacter_gt h)

def quoteChar (c : Char) : String :=
  if c = '\'' then "'\\''"
  else if c = '"' then "'\"'"
  else "'" ++ String.ofList (GoQuote.escapeRune latin1 c) ++ "'"

def syntaxError (c : Char) (context : String) : Except String Scanner :=
  .error ("invalid character " ++ quoteChar c ++ " " ++ context)

/-! ## Values -/

namespace Scanner

def push (s : Scanner) (c : Char) (step : Step) (frame : Frame) : Except String Scanner :=
  if s.frames.length < maxNestingDepth then .ok { s with step, frames := frame :: s.frames }
  else syntaxError c "exceeded max depth"

def put (s : Scanner) (v : Json) : Scanner :=
  match s.frames with
  | [] => { s with step := .endValue, top := v }
  | .array elems :: fs => { s with step := .endValue, frames := .array (v :: elems) :: fs }
  | .objectValue fields key :: fs => { s with step := .endValue, frames := .objectValue ((key, v) :: fields) key :: fs }
  | .objectKey fields key :: fs =>
    match v with
    | .string literal => { s with step := .endValue, frames := .objectKey fields literal :: fs }
    | _ => { s with step := .endValue, frames := .objectKey fields key :: fs }

/-- Close the innermost array or object, whose value is `v`. -/
def pop (s : Scanner) (v : Json) (fs : List Frame) : Scanner :=
  match fs with
  | [] => { s with step := .endTop, frames := [], top := v }
  | f :: fs => { s with frames := f :: fs }.put v

def literally (s : Scanner) (step : Step) (literal : List Char) : Except String Scanner := .ok { s with step, literal }

def push1 (s : Scanner) (step : Step) (c : Char) : Except String Scanner :=
  .ok { s with step, literal := c :: s.literal }

end Scanner

/-! ## Steps -/

def stateEndTop (s : Scanner) (c : Char) : Except String Scanner :=
  if isSpace c then .ok { s with step := .endTop } else syntaxError c "after top-level value"

def stateEndValue (s : Scanner) (c : Char) : Except String Scanner :=
  match s.frames with
  | [] => stateEndTop s c
  | f :: fs =>
    if isSpace c then .ok { s with step := .endValue }
    else
      match f with
      | .objectKey fields key =>
        if c = ':' then .ok { s with step := .beginValue, frames := .objectValue fields key :: fs }
        else syntaxError c "after object key"
      | .objectValue fields _ =>
        if c = ',' then .ok { s with step := .beginString, frames := .objectKey fields [] :: fs }
        else if c = '}' then .ok (s.pop (.object fields.reverse) fs)
        else syntaxError c "after object key:value pair"
      | .array elems =>
        if c = ',' then .ok { s with step := .beginValue }
        else if c = ']' then .ok (s.pop (.array elems.reverse) fs)
        else syntaxError c "after array element"

def stateBeginValue (s : Scanner) (c : Char) : Except String Scanner :=
  if isSpace c then .ok s
  else if c = '{' then s.push c .beginStringOrEmpty (.objectKey [] [])
  else if c = '[' then s.push c .beginValueOrEmpty (.array [])
  else if c = '"' then s.literally .inString []
  else if c = '-' then s.literally .neg [c]
  else if c = '0' then s.literally .zero [c]
  else if c = 't' then s.literally (.word "true" ['r', 'u', 'e']) []
  else if c = 'f' then s.literally (.word "false" ['a', 'l', 's', 'e']) []
  else if c = 'n' then s.literally (.word "null" ['u', 'l', 'l']) []
  else if c.isDigit then s.literally .one [c]
  else syntaxError c "looking for beginning of value"

def stateBeginString (s : Scanner) (c : Char) : Except String Scanner :=
  if isSpace c then .ok s
  else if c = '"' then s.literally .inString []
  else syntaxError c "looking for beginning of object key string"

/-- The object that has just been opened is empty, or has a key. -/
def stateBeginStringOrEmpty (s : Scanner) (c : Char) : Except String Scanner :=
  if c = '}' then
    match s.frames with
    | .objectKey fields key :: fs => stateEndValue { s with frames := .objectValue fields key :: fs } c
    | _ => stateEndValue s c
  else stateBeginString s c

def stateInString (s : Scanner) (c : Char) : Except String Scanner :=
  if c = '"' then .ok (s.put (.string s.literal.reverse))
  else if c = '\\' then s.push1 .inStringEsc c
  else if c.toNat < 0x20 then syntaxError c "in string literal"
  else s.push1 .inString c

def stateInStringEsc (s : Scanner) (c : Char) : Except String Scanner :=
  if c ∈ ['b', 'f', 'n', 'r', 't', '\\', '/', '"'] then s.push1 .inString c
  else if c = 'u' then s.push1 (.inStringEscU 4) c
  else syntaxError c "in string escape code"

def isHex (c : Char) : Bool := c.isDigit || 'a' ≤ c && c ≤ 'f' || 'A' ≤ c && c ≤ 'F'

def stateInStringEscU (s : Scanner) (left : Nat) (c : Char) : Except String Scanner :=
  if isHex c then s.push1 (if left ≤ 1 then .inString else .inStringEscU (left - 1)) c
  else syntaxError c "in \\u hexadecimal character escape"

/-- A number has ended before the character. -/
def endNumber (s : Scanner) (c : Char) : Except String Scanner := stateEndValue (s.put (.number s.literal.reverse)) c

def stateNeg (s : Scanner) (c : Char) : Except String Scanner :=
  if c = '0' then s.push1 .zero c
  else if c.isDigit then s.push1 .one c
  else syntaxError c "in numeric literal"

def state0 (s : Scanner) (c : Char) : Except String Scanner :=
  if c = '.' then s.push1 .dot c
  else if c = 'e' ∨ c = 'E' then s.push1 .exp c
  else endNumber s c

def state1 (s : Scanner) (c : Char) : Except String Scanner := if c.isDigit then s.push1 .one c else state0 s c

def stateDot (s : Scanner) (c : Char) : Except String Scanner :=
  if c.isDigit then s.push1 .dot0 c else syntaxError c "after decimal point in numeric literal"

def stateDot0 (s : Scanner) (c : Char) : Except String Scanner :=
  if c.isDigit then s.push1 .dot0 c
  else if c = 'e' ∨ c = 'E' then s.push1 .exp c
  else endNumber s c

def stateESign (s : Scanner) (c : Char) : Except String Scanner :=
  if c.isDigit then s.push1 .exp0 c else syntaxError c "in exponent of numeric literal"

def stateE (s : Scanner) (c : Char) : Except String Scanner :=
  if c = '+' ∨ c = '-' then s.push1 .expSign c else stateESign s c

def stateE0 (s : Scanner) (c : Char) : Except String Scanner := if c.isDigit then s.push1 .exp0 c else endNumber s c

/-- The value of a word. -/
def wordValue (name : String) : Json :=
  if name = "true" then .bool true else if name = "false" then .bool false else .null

def stateWord (s : Scanner) (name : String) (rest : List Char) (c : Char) : Except String Scanner :=
  match rest with
  | [] => stateEndValue s c
  | expected :: rest =>
    if c ≠ expected then
      syntaxError c ("in literal " ++ name ++ " (expecting '" ++ String.singleton expected ++ "')")
    else if rest = [] then .ok (s.put (wordValue name))
    else .ok { s with step := .word name rest }

def next (s : Scanner) (c : Char) : Except String Scanner :=
  match s.step with
  | .beginValueOrEmpty => if c = ']' then stateEndValue s c else stateBeginValue s c
  | .beginValue => stateBeginValue s c
  | .beginStringOrEmpty => stateBeginStringOrEmpty s c
  | .beginString => stateBeginString s c
  | .endValue => stateEndValue s c
  | .endTop => stateEndTop s c
  | .inString => stateInString s c
  | .inStringEsc => stateInStringEsc s c
  | .inStringEscU left => stateInStringEscU s left c
  | .neg => stateNeg s c
  | .one => state1 s c
  | .zero => state0 s c
  | .dot => stateDot s c
  | .dot0 => stateDot0 s c
  | .exp => stateE s c
  | .expSign => stateESign s c
  | .exp0 => stateE0 s c
  | .word name rest => stateWord s name rest c

/-- The end of the text: a number is ended by a space. -/
def eof (s : Scanner) : Except String Json :=
  if s.step = .endTop then .ok s.top
  else do
    let s ← next s ' '
    if s.step = .endTop then return s.top else throw "unexpected end of JSON input"

/-- The bytes of a text as characters. -/
def chars (raw : List UInt8) : List Char := raw.map fun b => Char.ofNat b.toNat

/-- `checkValid`, with the value. -/
def parse (raw : List UInt8) : Except String Json := do
  eof (← (chars raw).foldlM next {})

def valid (raw : List UInt8) : Bool := (parse raw).isOk

end Json

end TemporalOperator.Lib
