import TemporalOperator.Lib.GoText

/-!
# Go strings and `strconv.Quote`

A Go string is a sequence of bytes that need not be UTF-8. Decoded, it is a sequence of runes and of bytes that are
part of no rune.

* `GoString` : a decoded Go string; `GoString.Valid` : it is UTF-8;
* `PrintTable` : `strconv.IsPrint`, with what holds of it in every version of Unicode;
* `quote` : `strconv.Quote`, the verb `%q` of a string.
-/

namespace TemporalOperator.Lib

/-- An element of a decoded Go string: a rune, or a byte that is part of none. -/
inductive GoChar
  | rune (c : Char)
  | byte (b : UInt8)
  deriving DecidableEq, Repr

abbrev GoString := List GoChar

namespace GoString

def ofChars (cs : List Char) : GoString := cs.map .rune

def ofString (s : String) : GoString := ofChars s.toList

def Valid (s : GoString) : Prop := ∃ cs, s = ofChars cs

theorem valid_ofChars (cs : List Char) : (ofChars cs).Valid := ⟨cs, rfl⟩

theorem valid_ofString (s : String) : (ofString s).Valid := ⟨s.toList, rfl⟩

/-- The text after a JSON encoding, which has U+FFFD for a byte that is part of no rune. -/
def text (s : GoString) : String :=
  String.ofList (s.map fun
    | .rune c => c
    | .byte _ => '\uFFFD')

theorem ofChars_inj {cs ds : List Char} : ofChars cs = ofChars ds ↔ cs = ds :=
  List.map_inj_right fun _ _ h => GoChar.rune.inj h

end GoString

/-- `strconv.IsPrint`: letters, marks, numbers, punctuation, symbols and the ASCII space. The tables grow with Unicode;
control characters, separators, the byte order mark and noncharacters never enter them. -/
structure PrintTable where
  isPrint : Char → Bool
  ascii : ∀ c, c.toNat < 0xa1 → isPrint c = (0x20 ≤ c.toNat && c.toNat < 0x7f)
  separator : ∀ c, c.toNat = 0x2028 ∨ c.toNat = 0x2029 → isPrint c = false
  noncharacter : ∀ c, c.toNat = 0xfeff ∨ c.toNat = 0xfffe ∨ c.toNat = 0xffff → isPrint c = false

def PrintTable.asciiOnly : PrintTable where
  isPrint c := 0x20 ≤ c.toNat && c.toNat < 0x7f
  ascii _ _ := rfl
  separator c h := by simp only [Bool.and_eq_false_iff, decide_eq_false_iff_not]; omega
  noncharacter c h := by simp only [Bool.and_eq_false_iff, decide_eq_false_iff_not]; omega

namespace GoQuote

/-- The last `n` hexadecimal digits of `v`. -/
def hex : Nat → Nat → List Char
  | 0, _ => []
  | n + 1, v => Nat.digitChar (v / 16 ^ n % 16) :: hex n v

/-- `appendEscapedRune` between double quotes. -/
def escapeRune (t : PrintTable) (c : Char) : List Char :=
  if c = '"' ∨ c = '\\' then ['\\', c]
  else if t.isPrint c then [c]
  else
    match c.toNat with
    | 7 => ['\\', 'a']
    | 8 => ['\\', 'b']
    | 12 => ['\\', 'f']
    | 10 => ['\\', 'n']
    | 13 => ['\\', 'r']
    | 9 => ['\\', 't']
    | 11 => ['\\', 'v']
    | r =>
      if r < 0x20 ∨ r = 0x7f then '\\' :: 'x' :: hex 2 r
      else if r < 0x10000 then '\\' :: 'u' :: hex 4 r
      else '\\' :: 'U' :: hex 8 r

def escape (t : PrintTable) : GoChar → List Char
  | .rune c => escapeRune t c
  | .byte b => '\\' :: 'x' :: hex 2 b.toNat

/-- `strconv.Quote`. -/
def quote (t : PrintTable) (s : GoString) : String :=
  String.ofList ('"' :: (s.flatMap (escape t) ++ ['"']))

example : quote .asciiOnly (GoString.ofString "a\"b\n" ++ [.byte 255]) = "\"a\\\"b\\n\\xff\"" := by decide +kernel

end GoQuote

end TemporalOperator.Lib
