import TemporalOperator.Lib.GoQuote

/-!
# Go's `net/url`

Percent-encoding, byte by byte, and the text of a URL that has a scheme and user information.

* `escape` : `escape(s, mode)`; which bytes stand for themselves depends on the part of the URL;
* `urlString` : `URL.String`; `urlString_inj_query` : URLs that differ in the query only have different texts.
-/

namespace TemporalOperator.Lib

def GoString.bytes (s : GoString) : List UInt8 :=
  s.flatMap fun
    | .rune c => String.utf8EncodeChar c
    | .byte b => [b]

namespace GoUrl

inductive Encoding
  | host
  | userPassword
  | path
  | queryComponent
  deriving DecidableEq, Repr

/-- A byte is given by the character of its number, which is the byte itself for ASCII. -/
def shouldEscape (mode : Encoding) (c : Char) : Bool :=
  if c.isAlphanum then false
  else if mode = .host ∧ c ∈ ['!', '$', '&', '\'', '(', ')', '*', '+', ',', ';', '=', ':', '[', ']', '<', '>', '"'] then
    false
  else if c ∈ ['-', '_', '.', '~'] then false
  else if c ∈ ['$', '&', '+', ',', '/', ':', ';', '=', '?', '@'] then
    match mode with
    | .path => c = '?'
    | .userPassword => c ∈ ['@', '/', '?', ':']
    | .queryComponent | .host => true
  else true

def upperHex (n : Nat) : Char := (Nat.digitChar n).toUpper

def escapeByte (mode : Encoding) (b : UInt8) : List Char :=
  let c := Char.ofNat b.toNat
  if !shouldEscape mode c then [c]
  else if c = ' ' ∧ mode = .queryComponent then ['+']
  else ['%', upperHex (b.toNat / 16), upperHex (b.toNat % 16)]

def escape (mode : Encoding) (s : GoString) : String := String.ofList (s.bytes.flatMap (escapeByte mode))

/-- `Values.Encode` of one value. -/
def encodeQuery (key value : String) : String :=
  escape .queryComponent (.ofString key) ++ "=" ++ escape .queryComponent (.ofString value)

/-- `Userinfo.String` of `UserPassword(username, password)`. -/
def userinfo (username password : GoString) : String :=
  if username ≠ [] ∨ password ≠ [] then escape .userPassword username ++ ":" ++ escape .userPassword password else ""

def escapedPath (path : GoString) : String := if path = .ofString "*" then "*" else escape .path path

/-- `URL.String` of a URL with a scheme and with user information. -/
def urlString (scheme : String) (username password host path : GoString) (rawQuery : String) : String :=
  scheme ++ "://" ++ userinfo username password ++ "@" ++ escape .host host ++
    (if path ≠ [] ∧ path.head? ≠ some (.rune '/') ∧ host ≠ [] then "/" else "") ++
    escapedPath path ++ if rawQuery ≠ "" then "?" ++ rawQuery else ""

theorem urlString_inj_query {scheme : String} {username password host path : GoString} {q q' : String} :
    urlString scheme username password host path q = urlString scheme username password host path q' ↔ q = q' := by
  refine ⟨fun h => ?_, fun h => h ▸ rfl⟩
  have hquery := (String.append_right_inj _).mp h
  by_cases hq : q = ""
  · by_cases hq' : q' = ""
    · rw [hq, hq']
    · rw [if_neg (not_not.mpr hq), if_pos hq'] at hquery
      exact absurd hquery.symm (by simp [String.append_eq_empty_iff])
  · by_cases hq' : q' = ""
    · rw [if_pos hq, if_neg (not_not.mpr hq')] at hquery
      exact absurd hquery (by simp [String.append_eq_empty_iff])
    · rw [if_pos hq, if_pos hq'] at hquery
      exact (String.append_right_inj _).mp hquery

example : urlString "postgres" (.ofString "a@b") (.ofString "p:w d") (.ofString "db:5432") (.ofString "/té")
    "sslmode=require" = "postgres://a%40b:p%3Aw%20d@db:5432/t%C3%A9?sslmode=require" := by decide

end GoUrl
end TemporalOperator.Lib
