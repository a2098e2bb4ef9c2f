import Mathlib.Data.String.Basic
import Swarmlite.Lib.Table
import Swarmlite.Lib.Text

/-!
# HTTP headers — `caddy-storage/cache_handler.go`, `net/http`

The header map of a request or a response, and what the cache handler reads from it: whether a
response may be stored, on which request headers it depends, and what of it is kept.

Mirroring notes:
- A Go string is a sequence of bytes, not always UTF-8; the characters of a `String` stand for
  them, so `len` is the length and `strings.TrimSpace` looks for the encodings of white space.
- Lookups use the canonical form of a name (`http.CanonicalHeaderKey`); a name that is not a
  token is its own canonical form.
- `sort.Strings` after collecting a set of names is the order of `Keys`.
-/

namespace Swarmlite

open Ordered

/-- `http.Header`: values by canonical name. -/
abbrev HttpHeader := Map String (List String)

/-- The bytes `validHTTPHeaderName` lets through, which are those of a token in `net/textproto`. -/
def isTokenChar (c : Char) : Bool :=
  ('a' ≤ c && c ≤ 'z') || ('A' ≤ c && c ≤ 'Z') || ('0' ≤ c && c ≤ '9')
    || "!#$%&'*+-.^_`|~".toList.contains c

def validHTTPHeaderName (name : String) : Bool :=
  !name.isEmpty && name.toList.all isTokenChar

/-- Upper case at the start and after a hyphen, lower case elsewhere. -/
def canonicalChars : Bool → List Char → List Char
  | _, [] => []
  | upper, c :: rest =>
    (if upper then c.toUpper else c.toLower) :: canonicalChars (c = '-') rest

def canonicalHeaderKey (name : String) : String :=
  if name.toList.all isTokenChar then String.ofList (canonicalChars true name.toList) else name

namespace HttpHeader

def values (header : HttpHeader) (name : String) : List String :=
  (header.lookup (canonicalHeaderKey name)).getD []

/-- `Header.Get`: the first value. -/
def first (header : HttpHeader) (name : String) : String := (header.values name).headD ""

def set (header : HttpHeader) (name value : String) : HttpHeader :=
  header.put (canonicalHeaderKey name) [value]

def del (header : HttpHeader) (name : String) : HttpHeader :=
  header.erase (canonicalHeaderKey name)

end HttpHeader

/-- The UTF-8 encodings of the characters of `unicode.IsSpace`. -/
def spaces : List (List Char) :=
  let codes : List (List Nat) :=
    [[9], [10], [11], [12], [13], [32], [0xC2, 0x85], [0xC2, 0xA0], [0xE1, 0x9A, 0x80],
      [0xE2, 0x80, 0xA8], [0xE2, 0x80, 0xA9], [0xE2, 0x80, 0xAF], [0xE2, 0x81, 0x9F],
      [0xE3, 0x80, 0x80]] ++ (List.range 11).map fun i => [0xE2, 0x80, 0x80 + i]
  codes.map fun bytes => bytes.map Char.ofNat

/-- Drops leading members of `encodings`, at most `fuel` of them. -/
def dropEncodings (encodings : List (List Char)) : Nat → List Char → List Char
  | 0, chars => chars
  | fuel + 1, chars =>
    match encodings.find? (·.isPrefixOf chars) with
    | some encoding => dropEncodings encodings fuel (chars.drop encoding.length)
    | none => chars

/-- `strings.TrimSpace` -/
def trimSpace (value : String) : String :=
  let front := dropEncodings spaces value.length value.toList
  String.ofList
    (dropEncodings (spaces.map List.reverse) front.length front.reverse).reverse

/-- `strings.Split(value, ",")`, each piece trimmed. -/
def commaSeparated (value : String) : List String :=
  (value.toList.splitOn ',').map fun field => trimSpace (String.ofList field)

/-- The names a `Vary` header lists, in canonical form; none if it lists one that is no name. -/
def varyFields (value : String) : Option (List String) :=
  ((commaSeparated value).filter (· ≠ "")).mapM fun field =>
    if field = "*" || !validHTTPHeaderName field then none else some (canonicalHeaderKey field)

def responseVaryHeaders (header : HttpHeader) (configured : List String) :
    Option (List String) := do
  let listed ← (header.values "Vary").mapM varyFields
  return (Keys.ofElems (configured.map canonicalHeaderKey ++ listed.flatten)).rows

def responseMayBeStored (statusCodes : List Int) (status : Int) (header : HttpHeader) : Bool :=
  statusCodes.contains status && header.first "Set-Cookie" = "" && header.first "Content-Range" = ""

/-- The fields a stored response never has. -/
def uncachedFields : List String :=
  ["Age", "Cache-Status", "Connection", "Keep-Alive", "Proxy-Authenticate", "Proxy-Authorization",
    "Proxy-Connection", "Te", "Trailer", "Transfer-Encoding", "Upgrade"]

def sanitizedCacheHeader (header : HttpHeader) : HttpHeader :=
  uncachedFields.foldl HttpHeader.del
    (((header.values "Connection").flatMap commaSeparated).foldl HttpHeader.del header)

/-- `strconv.ParseInt(value, 10, 64)` -/
def parseInt64 (value : String) : Option Int :=
  match value.toList with
  | '-' :: digits =>
    if digits.headD '+' = '+' then none
    else (Text.parseUnsigned 9223372036854775808 (String.ofList digits)).map fun n => -(n : Int)
  | _ => (Text.parseUnsigned 9223372036854775807 value).map fun n => (n : Int)

example : canonicalHeaderKey "x-forwarded-HOST" = "X-Forwarded-Host" := by decide +kernel

-- a lone byte 0xA0 is no character, so it stays where the encoding of U+00A0 goes
example : (trimSpace "\t a\xa0").length = 2 ∧ trimSpace " a\xc2\xa0 " = "a" := by decide +kernel

example : parseInt64 "-12" = some (-12) ∧ parseInt64 "-+1" = none := by decide +kernel

end Swarmlite
