import Cislunar.Runtime.Uuid

/-!
`json.loads` and `json.dumps` as CPython defines them: the encodings, the scanner and the printer.

Text is a list of characters. A lone surrogate, which Python text can hold and no identifier contains,
stands as the replacement character.
-/

namespace Cislunar

/-- A value as `json.loads` returns it. -/
inductive Json where
  | null
  | bool (value : Bool)
  /-- A number or one of the constants, by its text. -/
  | number (literal : List Char)
  | string (text : List Char)
  | array (items : List Json)
  | object (members : List (List Char × Json))

/-- What `json.loads` raises. -/
inductive JsonError where
  /-- `JSONDecodeError`. -/
  | decode
  /-- `UnicodeDecodeError`. -/
  | unicode
  /-- `RecursionError`. -/
  | recursion
  /-- The `ValueError` of an over-long integer literal. -/
  | digits
  deriving DecidableEq, Repr

/-- The character of a code point. -/
def characterOf (codePoint : Nat) : Char :=
  if codePoint.isValidChar then Char.ofNat codePoint else Char.ofNat 0xFFFD

/-- Whether a code unit opens a surrogate pair. -/
def isHighSurrogate (unit : Nat) : Bool := 0xD800 ≤ unit && unit ≤ 0xDBFF

/-- Whether a code unit closes a surrogate pair. -/
def isLowSurrogate (unit : Nat) : Bool := 0xDC00 ≤ unit && unit ≤ 0xDFFF

/-- The code point of a surrogate pair. -/
def joinPair (high low : Nat) : Nat := 0x10000 + (high - 0xD800) * 0x400 + (low - 0xDC00)

/-- The code points of code units, with lone surrogates passed. -/
def joinSurrogates : List Nat → List Nat
  | [] => []
  | [unit] => [unit]
  | high :: low :: rest =>
    if isHighSurrogate high && isLowSurrogate low then joinPair high low :: joinSurrogates rest
    else high :: joinSurrogates (low :: rest)

/-- The low six bits of a continuation byte. -/
def continuation? (byte : UInt8) : Option Nat :=
  if 0x80 ≤ byte ∧ byte ≤ 0xBF then some (byte.toNat - 0x80) else none

/-- `bytes.decode("utf-8", "surrogatepass")`. -/
def decodeUtf8 : Bytes → Option (List Nat)
  | [] => some []
  | first :: rest =>
    if first < 0x80 then (decodeUtf8 rest).map (first.toNat :: ·)
    else match rest with
      | [] => none
      | second :: rest => (continuation? second).bind fun two =>
        if 0xC2 ≤ first ∧ first ≤ 0xDF then
          (decodeUtf8 rest).map (((first.toNat - 0xC0) * 64 + two) :: ·)
        else match rest with
          | [] => none
          | third :: rest => (continuation? third).bind fun three =>
            if 0xE0 ≤ first ∧ first ≤ 0xEF then
              let codePoint := ((first.toNat - 0xE0) * 64 + two) * 64 + three
              if 0x800 ≤ codePoint then (decodeUtf8 rest).map (codePoint :: ·) else none
            else match rest with
              | [] => none
              | fourth :: rest => (continuation? fourth).bind fun four =>
                let codePoint := (((first.toNat - 0xF0) * 64 + two) * 64 + three) * 64 + four
                if 0xF0 ≤ first ∧ first ≤ 0xF4 ∧ 0x10000 ≤ codePoint ∧ codePoint ≤ 0x10FFFF then
                  (decodeUtf8 rest).map (codePoint :: ·)
                else none

/-- The code units of UTF-16 in either byte order. -/
def unitsUtf16 (bigEndian : Bool) : Bytes → Option (List Nat)
  | [] => some []
  | [_] => none
  | first :: second :: rest =>
    let unit := if bigEndian then first.toNat * 256 + second.toNat
      else second.toNat * 256 + first.toNat
    (unitsUtf16 bigEndian rest).map (unit :: ·)

/-- `bytes.decode("utf-32", "surrogatepass")` in either byte order. -/
def decodeUtf32 (bigEndian : Bool) : Bytes → Option (List Nat)
  | [] => some []
  | first :: second :: third :: fourth :: rest =>
    let digits := [first, second, third, fourth].map UInt8.toNat
    let codePoint := Nat.ofDigits 256 (if bigEndian then digits.reverse else digits)
    if codePoint ≤ 0x10FFFF then (decodeUtf32 bigEndian rest).map (codePoint :: ·) else none
  | _ => none

/-- The encodings that JSON text is read in. -/
inductive JsonEncoding where
  | utf8
  | utf16 (bigEndian : Bool)
  | utf32 (bigEndian : Bool)
  deriving DecidableEq, Repr

/-- `detect_encoding`, with the number of bytes that a byte order mark takes. -/
def detectEncoding (raw : Bytes) : JsonEncoding × Nat :=
  if [0x00, 0x00, 0xFE, 0xFF].isPrefixOf raw then (.utf32 true, 4)
  else if [0xFF, 0xFE, 0x00, 0x00].isPrefixOf raw then (.utf32 false, 4)
  else if [0xFE, 0xFF].isPrefixOf raw then (.utf16 true, 2)
  else if [0xFF, 0xFE].isPrefixOf raw then (.utf16 false, 2)
  else if [0xEF, 0xBB, 0xBF].isPrefixOf raw then (.utf8, 3)
  else match raw with
    | [first, second] =>
      if first = 0 then (.utf16 true, 0) else if second = 0 then (.utf16 false, 0) else (.utf8, 0)
    | first :: second :: third :: fourth :: _ =>
      if first = 0 then if second = 0 then (.utf32 true, 0) else (.utf16 true, 0)
      else if second = 0 then
        if third = 0 ∧ fourth = 0 then (.utf32 false, 0) else (.utf16 false, 0)
      else (.utf8, 0)
    | _ => (.utf8, 0)

/-- The text of encoded bytes, absent where they do not decode. -/
def decodeText (raw : Bytes) : Option (List Char) :=
  let (encoding, mark) := detectEncoding raw
  let codePoints := match encoding with
    | .utf8 => decodeUtf8 (raw.drop mark)
    | .utf16 bigEndian => (unitsUtf16 bigEndian (raw.drop mark)).map joinSurrogates
    | .utf32 bigEndian => decodeUtf32 bigEndian (raw.drop mark)
  codePoints.map (·.map characterOf)

/-- Insignificant whitespace. -/
def isJsonSpace (char : Char) : Bool :=
  char = ' ' || char = '\t' || char = '\n' || char = '\r'

/-- A text without its leading whitespace. -/
def skipSpace (text : List Char) : List Char := text.dropWhile isJsonSpace

/-- A character of a string literal, or the code unit of an escape. -/
inductive StringUnit where
  | plain (char : Char)
  | escaped (unit : Nat)

/-- What a backslash makes of the character after it. -/
def simpleEscape? : Char → Option Char
  | '"' => some '"'
  | '\\' => some '\\'
  | '/' => some '/'
  | 'b' => some '\x08'
  | 'f' => some '\x0C'
  | 'n' => some '\n'
  | 'r' => some '\r'
  | 't' => some '\t'
  | _ => none

/-- The value of four hexadecimal digits. -/
def unitOfHex? (first second third fourth : Char) : Option Nat := do
  let a ← hexDigit? first
  let b ← hexDigit? second
  let c ← hexDigit? third
  let d ← hexDigit? fourth
  return ((a * 16 + b) * 16 + c) * 16 + d

/-- The units of a string literal up to its closing quote, and the rest of the text. -/
def scanUnits : List Char → Except JsonError (List StringUnit × List Char)
  | '"' :: rest => .ok ([], rest)
  | '\\' :: 'u' :: a :: b :: c :: d :: rest =>
    match unitOfHex? a b c d with
    | some unit => (scanUnits rest).map fun (units, rest) => (.escaped unit :: units, rest)
    | none => .error .decode
  | '\\' :: char :: rest =>
    match simpleEscape? char with
    | some plain => (scanUnits rest).map fun (units, rest) => (.plain plain :: units, rest)
    | none => .error .decode
  | char :: rest =>
    -- Control characters have to be escaped, and a last backslash escapes nothing.
    if char.toNat ≤ 0x1F ∨ char = '\\' then .error .decode
    else (scanUnits rest).map fun (units, rest) => (.plain char :: units, rest)
  | [] => .error .decode

/-- The characters of units; two escapes can make one character. -/
def joinUnits : List StringUnit → List Char
  | [] => []
  | .plain char :: rest => char :: joinUnits rest
  | .escaped high :: .escaped low :: rest =>
    if isHighSurrogate high && isLowSurrogate low then
      characterOf (joinPair high low) :: joinUnits rest
    else characterOf high :: joinUnits (.escaped low :: rest)
  | .escaped unit :: rest => characterOf unit :: joinUnits rest

/-- `scanstring`, behind the opening quote. -/
def scanString (text : List Char) : Except JsonError (List Char × List Char) :=
  (scanUnits text).map fun (units, rest) => (joinUnits units, rest)

/-- Whether a character is an ASCII decimal digit. -/
def isJsonDigit (char : Char) : Bool := '0' ≤ char && char ≤ '9'

/-- The fraction of a number, empty where no digit follows the point. -/
def fractionOf : List Char → List Char
  | '.' :: rest =>
    let digits := rest.takeWhile isJsonDigit
    if digits.isEmpty then [] else '.' :: digits
  | _ => []

/-- The exponent of a number, empty where it has no digit. -/
def exponentOf : List Char → List Char
  | mark :: rest =>
    if mark = 'e' ∨ mark = 'E' then
      let sign := rest.take 1 |>.filter fun char => char = '+' || char = '-'
      let digits := (rest.drop sign.length).takeWhile isJsonDigit
      if digits.isEmpty then [] else mark :: sign ++ digits
    else []
  | [] => []

/-- `_match_number`. -/
def scanNumber (text : List Char) : Except JsonError (Json × List Char) :=
  let sign := if text.head? = some '-' then ['-'] else []
  let unsigned := text.drop sign.length
  let whole := match unsigned with
    | '0' :: _ => ['0']
    | _ => unsigned.takeWhile isJsonDigit
  if whole.isEmpty then .error .decode
  else
    let rest := unsigned.drop whole.length
    let fraction := fractionOf rest
    let exponent := exponentOf (rest.drop fraction.length)
    -- Only integers are converted digit by digit.
    if (fraction ++ exponent).isEmpty ∧ 4300 < whole.length then .error .digits
    else .ok (.number (sign ++ whole ++ fraction ++ exponent),
      rest.drop (fraction.length + exponent.length))

/-- The named constants with their values. -/
def jsonConstants : List (List Char × Json) :=
  [("null".toList, .null), ("true".toList, .bool true), ("false".toList, .bool false),
    ("NaN".toList, .number "NaN".toList), ("Infinity".toList, .number "Infinity".toList),
    ("-Infinity".toList, .number "-Infinity".toList)]

/-- A named constant or a number. -/
def scanAtom (text : List Char) : Except JsonError (Json × List Char) :=
  match jsonConstants.find? fun constant => constant.1.isPrefixOf text with
  | some (name, value) => .ok (value, text.drop name.length)
  | none => scanNumber text

/-- `dict[key] = value`: a repeated key keeps its place and takes the new value. -/
def setItem (key : List Char) (value : Json) :
    List (List Char × Json) → List (List Char × Json)
  | [] => [(key, value)]
  | (name, old) :: rest =>
    if name = key then (key, value) :: rest else (name, old) :: setItem key value rest

section Containers
variable (value : List Char → Except JsonError (Json × List Char))

/-- The loop of `_parse_array`; every item takes a character, so the length of the text is fuel. -/
def scanItems : Nat → List Json → List Char → Except JsonError (List Json × List Char)
  | 0, _, _ => .error .decode
  | fuel + 1, items, text => do
    let (item, rest) ← value text
    match skipSpace rest with
    | ']' :: rest => return (items ++ [item], rest)
    | ',' :: rest => scanItems fuel (items ++ [item]) (skipSpace rest)
    | _ => .error .decode

/-- The loop of `_parse_object`. -/
def scanMembers : Nat → List (List Char × Json) → List Char →
    Except JsonError (List (List Char × Json) × List Char)
  | 0, _, _ => .error .decode
  | fuel + 1, members, '"' :: rest => do
    let (key, rest) ← scanString rest
    match skipSpace rest with
    | ':' :: rest =>
      let (item, rest) ← value (skipSpace rest)
      match skipSpace rest with
      | '}' :: rest => return (setItem key item members, rest)
      | ',' :: rest => scanMembers fuel (setItem key item members) (skipSpace rest)
      | _ => .error .decode
    | _ => .error .decode
  | _ + 1, _, _ => .error .decode

/-- `_parse_array`, behind the bracket. -/
def scanArray (text : List Char) : Except JsonError (Json × List Char) :=
  match skipSpace text with
  | ']' :: rest => .ok (.array [], rest)
  | text => (scanItems value (text.length + 1) [] text).map fun (items, rest) => (.array items, rest)

/-- `_parse_object`, behind the brace. -/
def scanObject (text : List Char) : Except JsonError (Json × List Char) :=
  match skipSpace text with
  | '}' :: rest => .ok (.object [], rest)
  | text =>
    (scanMembers value (text.length + 1) [] text).map fun (members, rest) => (.object members, rest)

end Containers

/-- `scan_once`, with the levels of nesting that the interpreter still allows. -/
def scanOnce : Nat → List Char → Except JsonError (Json × List Char)
  | _, '"' :: rest => (scanString rest).map fun (text, rest) => (.string text, rest)
  | 0, '{' :: _ => .error .recursion
  | levels + 1, '{' :: rest => scanObject (scanOnce levels) rest
  | 0, '[' :: _ => .error .recursion
  | levels + 1, '[' :: rest => scanArray (scanOnce levels) rest
  | _, text => scanAtom text

/-- `json.loads`; the interpreter has room for one level of nesting and some more. -/
def jsonLoads (spareLevels : Nat) (raw : Bytes) : Except JsonError Json :=
  match decodeText raw with
  | none => .error .unicode
  | some text => do
    let (value, rest) ← scanOnce (spareLevels + 1) (skipSpace text)
    if (skipSpace rest).isEmpty then return value else .error .decode

/-- `\uXXXX` for one code unit. -/
def unicodeEscape (unit : Nat) : List Char := '\\' :: 'u' :: formatLowerHex 4 unit

/-- One character in an ASCII string literal. -/
def escapeChar (char : Char) : List Char :=
  if char = '"' then ['\\', '"']
  else if char = '\\' then ['\\', '\\']
  else if ' ' ≤ char ∧ char ≤ '~' then [char]
  else if char = '\x08' then ['\\', 'b']
  else if char = '\x0C' then ['\\', 'f']
  else if char = '\n' then ['\\', 'n']
  else if char = '\r' then ['\\', 'r']
  else if char = '\t' then ['\\', 't']
  else if char.toNat < 0x10000 then unicodeEscape char.toNat
  else
    let offset := char.toNat - 0x10000
    unicodeEscape (0xD800 + offset / 0x400) ++ unicodeEscape (0xDC00 + offset % 0x400)

/-- `encode_basestring_ascii`. -/
def encodeString (text : List Char) : List Char := '"' :: text.flatMap escapeChar ++ ['"']

/-- `json.dumps` of a flat object of strings, keys in order and no whitespace. -/
def dumpsStrings (members : List (List Char × List Char)) : List Char :=
  let items := members.map fun member => encodeString member.1 ++ ':' :: encodeString member.2
  '{' :: List.intercalate [','] items ++ ['}']

/-- `text.encode("ascii")` of ASCII text. -/
def encodeAscii (text : List Char) : Bytes := text.map fun char => UInt8.ofNat char.toNat

end Cislunar
