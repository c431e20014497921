import Cislunar.Runtime.Basic

/-! `uuid.UUID` as CPython defines it: the canonical text, the version and the lenient parser. -/

namespace Cislunar

/-- A universally unique identifier as its 128-bit value. -/
abbrev UUID := BitVec 128

namespace UUID

/-- `str(uuid)`: thirty-two lower-case digits grouped 8-4-4-4-12. -/
def toText (id : UUID) : List Char :=
  let digits := formatLowerHex 32 id.toNat
  digits.take 8 ++ '-' :: ((digits.drop 8).take 4 ++ '-' :: ((digits.drop 12).take 4 ++
    '-' :: ((digits.drop 16).take 4 ++ '-' :: digits.drop 20)))

/-- `str(uuid)` as a string. -/
def str (id : UUID) : String := String.ofList id.toText

/-- `uuid.version`, defined for the RFC 4122 variant only. -/
def version (id : UUID) : Option Nat :=
  if id.toNat &&& (0x8000 <<< 48) = 0 then none
  else if id.toNat &&& (0x4000 <<< 48) = 0 then some ((id.toNat >>> 76) &&& 0xF)
  else none

end UUID

/-- First code points of the runs of ten Unicode 15 decimal digits. -/
def decimalZeros : List Nat :=
  [0x30, 0x660, 0x6F0, 0x7C0, 0x966, 0x9E6, 0xA66, 0xAE6, 0xB66, 0xBE6,
    0xC66, 0xCE6, 0xD66, 0xDE6, 0xE50, 0xED0, 0xF20, 0x1040, 0x1090, 0x17E0,
    0x1810, 0x1946, 0x19D0, 0x1A80, 0x1A90, 0x1B50, 0x1BB0, 0x1C40, 0x1C50, 0xA620,
    0xA8D0, 0xA900, 0xA9D0, 0xA9F0, 0xAA50, 0xABF0, 0xFF10, 0x104A0, 0x10D30, 0x11066,
    0x110F0, 0x11136, 0x111D0, 0x112F0, 0x11450, 0x114D0, 0x11650, 0x116C0, 0x11730, 0x118E0,
    0x11950, 0x11C50, 0x11D50, 0x11DA0, 0x11F50, 0x16A60, 0x16AC0, 0x16B50, 0x1D7CE, 0x1D7D8,
    0x1D7E2, 0x1D7EC, 0x1D7F6, 0x1E140, 0x1E2F0, 0x1E4F0, 0x1E950, 0x1FBF0]

/-- `unicodedata.decimal(char)`. -/
def unicodeDecimal (char : Char) : Option Nat :=
  (decimalZeros.find? fun start => start ≤ char.toNat ∧ char.toNat < start + 10).map
    (char.toNat - ·)

/-- `str.isspace` of one character. -/
def unicodeSpace (char : Char) : Bool :=
  (0x09 ≤ char.toNat && char.toNat ≤ 0x0D) || (0x1C ≤ char.toNat && char.toNat ≤ 0x20) ||
    (0x2000 ≤ char.toNat && char.toNat ≤ 0x200A) ||
    [0x85, 0xA0, 0x1680, 0x2028, 0x2029, 0x202F, 0x205F, 0x3000].contains char.toNat

/-- Other decimal digits and spaces become their ASCII forms before an integer is read. -/
def transformToAscii (char : Char) : Char :=
  if char.toNat < 127 then char
  else if unicodeSpace char then ' '
  else match unicodeDecimal char with
    | some digit => lowerHexDigit digit
    | none => '?'

/-- `Py_ISSPACE`. -/
def asciiSpace (char : Char) : Bool :=
  char == ' ' || (0x09 ≤ char.toNat && char.toNat ≤ 0x0D)

/-- The value of an ASCII hexadecimal digit. -/
def hexDigit? (char : Char) : Option Nat :=
  if '0' ≤ char ∧ char ≤ '9' then some (char.toNat - '0'.toNat)
  else if 'a' ≤ char ∧ char ≤ 'f' then some (char.toNat - 'a'.toNat + 10)
  else if 'A' ≤ char ∧ char ≤ 'F' then some (char.toNat - 'A'.toNat + 10)
  else none

/-- Digits with single underscores between them, accumulated from the left. -/
def readHexDigits (total : Nat) (afterDigit : Bool) : List Char → Option Nat
  | [] => if afterDigit then some total else none
  | '_' :: rest => if afterDigit then readHexDigits total false rest else none
  | char :: rest => match hexDigit? char with
    | some digit => readHexDigits (16 * total + digit) true rest
    | none => none

/-- The unsigned part of a base-16 literal: an optional `0x` and at most one underscore after it. -/
def readHexUnsigned : List Char → Option Nat
  | '0' :: 'x' :: '_' :: rest => readHexDigits 0 false rest
  | '0' :: 'X' :: '_' :: rest => readHexDigits 0 false rest
  | '0' :: 'x' :: rest => readHexDigits 0 false rest
  | '0' :: 'X' :: rest => readHexDigits 0 false rest
  | text => readHexDigits 0 false text

/-- An integer literal in any script: surrounding spaces and a sign around its unsigned part. -/
def readSigned (readUnsigned : List Char → Option Nat) (text : List Char) : Option Int :=
  let trimmed := ((text.map transformToAscii).dropWhile asciiSpace).reverse.dropWhile asciiSpace
  match trimmed.reverse with
  | '+' :: rest => (readUnsigned rest).map Int.ofNat
  | '-' :: rest => (readUnsigned rest).map fun value => -(value : Int)
  | rest => (readUnsigned rest).map Int.ofNat

/-- `int(text, 16)`. -/
def intBase16 (text : List Char) : Option Int :=
  readSigned readHexUnsigned text

/-- Decimal digits with single underscores between them, accumulated from the left. -/
def readDecimalDigits (total : Nat) (afterDigit : Bool) : List Char → Option Nat
  | [] => if afterDigit then some total else none
  | '_' :: rest => if afterDigit then readDecimalDigits total false rest else none
  | char :: rest =>
    if '0' ≤ char ∧ char ≤ '9' then
      readDecimalDigits (10 * total + (char.toNat - '0'.toNat)) true rest
    else none

/-- `int(text)`, which refuses more than 4300 digits. -/
def intBase10 (text : List Char) : Option Int :=
  readSigned (fun digits =>
    if 4300 < (digits.filter Char.isDigit).length then none
    else readDecimalDigits 0 false digits) text

/-- `text.replace(pattern, "")`; the fuel is the length of the text. -/
def deleteAll (pattern : List Char) : Nat → List Char → List Char
  | 0, text => text
  | _ + 1, [] => []
  | fuel + 1, char :: rest =>
    if pattern.isPrefixOf (char :: rest) then
      deleteAll pattern fuel ((char :: rest).drop pattern.length)
    else char :: deleteAll pattern fuel rest

/-- `text.strip("\x7b\x7d")`: braces removed from both ends. -/
def stripBraces (text : List Char) : List Char :=
  let brace := fun char : Char => char.toNat == 0x7B || char.toNat == 0x7D
  ((text.dropWhile brace).reverse.dropWhile brace).reverse

/-- `uuid.UUID(text)`, absent where it raises `ValueError`. -/
def parseUuid (text : List Char) : Option UUID :=
  let withoutUrn := deleteAll "urn:".toList text.length text
  let withoutUuid := deleteAll "uuid:".toList withoutUrn.length withoutUrn
  let hex := (stripBraces withoutUuid).filter (· != '-')
  if hex.length ≠ 32 then none
  else match intBase16 hex with
    | none => none
    | some value => if 0 ≤ value ∧ value < 2 ^ 128 then some (BitVec.ofNat 128 value.toNat) else none

end Cislunar
