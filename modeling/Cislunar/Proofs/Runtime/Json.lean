import Cislunar.Runtime.Json

/-! Strings that `json.dumps` has written are read back by `json.loads`. -/

namespace Cislunar

open Foundation

/-- Lower-case hexadecimal digits are told apart by their values. -/
theorem lowerHexAlphabet : Digits.Alphabet 16 lowerHexDigit hexDigitValue :=
  ⟨by decide, by decide, by decide⟩

/-- A printed hexadecimal digit is read as its value. -/
theorem hexDigit?_lowerHexDigit {digit : Nat} (small : digit < 16) :
    hexDigit? (lowerHexDigit digit) = some digit := by
  -- All sixteen digits are tried.
  revert small digit
  decide

/-- A code unit is printed as four digits. -/
theorem formatLowerHex_four {unit : Nat} (small : unit < 0x10000) :
    formatLowerHex 4 unit = [lowerHexDigit (unit / 16 / 16 / 16 % 16),
      lowerHexDigit (unit / 16 / 16 % 16), lowerHexDigit (unit / 16 % 16),
      lowerHexDigit (unit % 16)] := by
  -- Four digits are split off, and nothing is left of a unit below their number.
  have empty : Digits.zeroPad 0 (Digits.spell 16 lowerHexDigit (unit / 16 / 16 / 16 / 16)) = [] := by
    rw [show unit / 16 / 16 / 16 / 16 = 0 by omega]
    rfl
  rw [formatLowerHex, formatInt, if_neg (by omega), Int.natAbs_natCast]
  simp only [Digits.zeroPad_spell_succ lowerHexAlphabet, empty, List.nil_append, List.cons_append]

/-- The digits of a code unit are read as the unit. -/
theorem unitOfHex?_digits {unit : Nat} (small : unit < 0x10000) :
    unitOfHex? (lowerHexDigit (unit / 16 / 16 / 16 % 16)) (lowerHexDigit (unit / 16 / 16 % 16))
      (lowerHexDigit (unit / 16 % 16)) (lowerHexDigit (unit % 16)) = some unit := by
  -- Each digit reads back as itself, and the four make up the unit again.
  simp only [unitOfHex?, hexDigit?_lowerHexDigit (Nat.mod_lt _ (by decide : 0 < 16)),
    Option.bind_eq_bind, Option.bind_some, Option.pure_def]
  congr 1
  omega

/-- An escape is scanned as its unit. -/
theorem scanUnits_unicodeEscape {unit : Nat} (small : unit < 0x10000) (text : List Char) :
    scanUnits (unicodeEscape unit ++ text) =
      (scanUnits text).map fun (units, rest) => (.escaped unit :: units, rest) := by
  -- The escape has four digits, which read back as the unit.
  rw [unicodeEscape, formatLowerHex_four small]
  simp only [List.cons_append, List.nil_append]
  rw [scanUnits, unitOfHex?_digits small]

/-- A character that needs no escape is scanned as itself. -/
theorem scanUnits_plain {char : Char} (quote : char ≠ '"') (backslash : char ≠ '\\')
    (printable : 0x1F < char.toNat) (text : List Char) :
    scanUnits (char :: text) =
      (scanUnits text).map fun (units, rest) => (.plain char :: units, rest) := by
  -- The special branches of the scanner need a quote or a backslash, or an empty text.
  rw [scanUnits.eq_def]
  split
  · next same => exact absurd (List.cons.inj same).1 quote
  · next same => exact absurd (List.cons.inj same).1 backslash
  · next same => exact absurd (List.cons.inj same).1 backslash
  · next same =>
    obtain ⟨rfl, rfl⟩ := List.cons.inj same
    rw [if_neg (not_or.mpr ⟨by omega, backslash⟩)]
  · next same => cases same

/-- What the scanner makes of an escaped character. -/
def escapeUnits (char : Char) : List StringUnit :=
  if char = '"' ∨ char = '\\' ∨ (' ' ≤ char ∧ char ≤ '~') ∨ char = '\x08' ∨ char = '\x0C' ∨
      char = '\n' ∨ char = '\r' ∨ char = '\t' then [.plain char]
  else if char.toNat < 0x10000 then [.escaped char.toNat]
  else [.escaped (0xD800 + (char.toNat - 0x10000) / 0x400),
    .escaped (0xDC00 + (char.toNat - 0x10000) % 0x400)]

/-- A code point is less than seventeen planes. -/
theorem char_toNat_lt (char : Char) : char.toNat < 0x110000 := by
  -- The bound is part of what makes a scalar value valid.
  have valid := char.valid
  simp only [UInt32.isValidChar, Nat.isValidChar] at valid
  show char.val.toNat < 0x110000
  omega

/-- An escaped character is scanned as its units. -/
theorem scanUnits_escapeChar (char : Char) (text : List Char) :
    scanUnits (escapeChar char ++ text) =
      (scanUnits text).map fun (units, rest) => (escapeUnits char ++ units, rest) := by
  -- One case per branch of the writer; outside the plane of four digits there are two units.
  have bound := char_toNat_lt char
  unfold escapeChar escapeUnits
  by_cases quote : char = '"'
  · subst quote
    rfl
  by_cases backslash : char = '\\'
  · subst backslash
    rfl
  by_cases printable : ' ' ≤ char ∧ char ≤ '~'
  · have low : 0x20 ≤ char.toNat := printable.1
    rw [if_neg quote, if_neg backslash, if_pos printable, if_pos (by simp [printable])]
    exact scanUnits_plain quote backslash (by omega) text
  by_cases backspace : char = '\x08'
  · subst backspace
    rfl
  by_cases feed : char = '\x0C'
  · subst feed
    rfl
  by_cases line : char = '\n'
  · subst line
    rfl
  by_cases carriage : char = '\r'
  · subst carriage
    rfl
  by_cases tab : char = '\t'
  · subst tab
    rfl
  have escaped : ¬(char = '"' ∨ char = '\\' ∨ (' ' ≤ char ∧ char ≤ '~') ∨ char = '\x08' ∨
      char = '\x0C' ∨ char = '\n' ∨ char = '\r' ∨ char = '\t') := by
    simp only [not_or]
    exact ⟨quote, backslash, printable, backspace, feed, line, carriage, tab⟩
  rw [if_neg quote, if_neg backslash, if_neg printable, if_neg backspace, if_neg feed, if_neg line,
    if_neg carriage, if_neg tab, if_neg escaped]
  by_cases small : char.toNat < 0x10000
  · rw [if_pos small, if_pos small]
    exact scanUnits_unicodeEscape small text
  · rw [if_neg small, if_neg small]
    dsimp only
    rw [List.append_assoc, scanUnits_unicodeEscape (by omega), scanUnits_unicodeEscape (by omega)]
    cases scanUnits text <;> rfl

/-- A code point is read as its character. -/
theorem characterOf_toNat (char : Char) : characterOf char.toNat = char := by
  -- The number of a character is a valid scalar value.
  have valid : char.toNat.isValidChar := char.valid
  rw [characterOf, if_pos valid, Char.ofNat_toNat]

/-- The units of a character are joined to the character. -/
theorem joinUnits_escapeUnits (char : Char) (units : List StringUnit) :
    joinUnits (escapeUnits char ++ units) = char :: joinUnits units := by
  have bound := char_toNat_lt char
  unfold escapeUnits
  by_cases plain : char = '"' ∨ char = '\\' ∨ (' ' ≤ char ∧ char ≤ '~') ∨ char = '\x08' ∨
      char = '\x0C' ∨ char = '\n' ∨ char = '\r' ∨ char = '\t'
  · rw [if_pos plain]
    rfl
  rw [if_neg plain]
  by_cases small : char.toNat < 0x10000
  · rw [if_pos small]
    -- A character is no half of a pair.
    have single : isHighSurrogate char.toNat = false := by
      have valid : char.toNat.isValidChar := char.valid
      simp only [Nat.isValidChar] at valid
      simp only [isHighSurrogate, Bool.and_eq_false_iff, decide_eq_false_iff_not]
      omega
    have read := characterOf_toNat char
    cases units with
    | nil => simp [joinUnits, read]
    | cons unit rest => cases unit <;> simp [joinUnits, single, read]
  · rw [if_neg small]
    generalize offset : char.toNat - 0x10000 = value
    have high : isHighSurrogate (0xD800 + value / 0x400) = true := by
      simp only [isHighSurrogate, Bool.and_eq_true, decide_eq_true_eq]
      omega
    have low : isLowSurrogate (0xDC00 + value % 0x400) = true := by
      simp only [isLowSurrogate, Bool.and_eq_true, decide_eq_true_eq]
      omega
    have joined : joinPair (0xD800 + value / 0x400) (0xDC00 + value % 0x400) = char.toNat := by
      unfold joinPair
      omega
    simp [joinUnits, high, low, joined, characterOf_toNat]

/-- An encoded string is scanned as its text. -/
theorem scanString_flatMap (text rest : List Char) :
    scanString (text.flatMap escapeChar ++ '"' :: rest) = .ok (text, rest) := by
  -- The units are read by induction on the text and joined at the end.
  have scanned : ∃ units, scanUnits (text.flatMap escapeChar ++ '"' :: rest) = .ok (units, rest) ∧
      joinUnits units = text := by
    induction text with
    | nil => exact ⟨[], rfl, rfl⟩
    | cons char text ih =>
      obtain ⟨units, read, joined⟩ := ih
      refine ⟨escapeUnits char ++ units, ?_, ?_⟩
      · rw [List.flatMap_cons, List.append_assoc, scanUnits_escapeChar, read]
        rfl
      · rw [joinUnits_escapeUnits, joined]
  obtain ⟨units, read, joined⟩ := scanned
  rw [scanString, read, ← joined]
  rfl

/-- An encoded string is scanned as a value. -/
theorem scanOnce_encodeString (levels : Nat) (text rest : List Char) :
    scanOnce levels (encodeString text ++ rest) = .ok (.string text, rest) := by
  have scanned := scanString_flatMap text rest
  have shape : encodeString text ++ rest = '"' :: (text.flatMap escapeChar ++ '"' :: rest) := by
    simp [encodeString]
  rw [shape]
  -- The opening quote selects the string branch of the scanner at every depth.
  cases levels <;> rw [scanOnce, scanned] <;> rfl

/-- An encoded string starts with its quote. -/
theorem skipSpace_encodeString (text rest : List Char) :
    skipSpace (encodeString text ++ rest) = encodeString text ++ rest := rfl

/-- One member of a written object. -/
theorem scanMembers_encodeString (levels fuel : Nat) (members : List (List Char × Json))
    (key text rest : List Char) :
    scanMembers (scanOnce levels) (fuel + 1) members
        (encodeString key ++ ':' :: (encodeString text ++ rest)) =
      match skipSpace rest with
      | '}' :: rest => .ok (setItem key (.string text) members, rest)
      | ',' :: rest =>
        scanMembers (scanOnce levels) fuel (setItem key (.string text) members) (skipSpace rest)
      | _ => .error .decode := by
  -- The opening quote and the colon are read here, the two strings by their own lemmas.
  have shape : encodeString key ++ ':' :: (encodeString text ++ rest) =
      '"' :: (key.flatMap escapeChar ++ '"' :: ':' :: (encodeString text ++ rest)) := by
    simp [encodeString]
  have colon : ∀ after, skipSpace (':' :: after) = ':' :: after := fun _ => rfl
  rw [shape, scanMembers, scanString_flatMap]
  simp only [bind, Except.bind, colon]
  rw [skipSpace_encodeString, scanOnce_encodeString]
  rfl

/-- A written object of two strings is scanned as the object. -/
theorem scanOnce_dumpsStrings (levels : Nat) {first second : List Char} (different : first ≠ second)
    (left right : List Char) :
    scanOnce (levels + 1) (dumpsStrings [(first, left), (second, right)]) =
      .ok (.object [(first, .string left), (second, .string right)], []) := by
  have shape : dumpsStrings [(first, left), (second, right)] =
      '{' :: (encodeString first ++ ':' :: (encodeString left ++ ',' ::
        (encodeString second ++ ':' :: (encodeString right ++ ['}'])))) := by
    simp [dumpsStrings, List.intercalate]
  -- The first quote tells an object with members from an empty one.
  have opened : ∀ after, scanObject (scanOnce levels) (encodeString first ++ after) =
      (scanMembers (scanOnce levels) ((encodeString first ++ after).length + 1) []
        (encodeString first ++ after)).map fun read => (.object read.1, read.2) :=
    fun _ => rfl
  rw [shape, scanOnce, opened]
  obtain ⟨fuel, enough⟩ : ∃ fuel, (encodeString first ++ ':' :: (encodeString left ++ ',' ::
      (encodeString second ++ ':' :: (encodeString right ++ ['}'])))).length = fuel + 1 :=
    ⟨_, rfl⟩
  have more : ∀ after, skipSpace (',' :: (encodeString second ++ after)) =
      ',' :: (encodeString second ++ after) := fun _ => rfl
  have closed : skipSpace ['}'] = ['}'] := rfl
  have last : scanMembers (scanOnce levels) (fuel + 1) (setItem first (.string left) [])
      (encodeString second ++ ':' :: (encodeString right ++ ['}'])) =
      .ok ([(first, .string left), (second, .string right)], []) := by
    rw [scanMembers_encodeString, closed]
    simp [setItem, different]
  rw [enough, scanMembers_encodeString, more]
  exact congrArg (Except.map _) last

/-- An escape is written in ASCII. -/
theorem unicodeEscape_ascii {unit : Nat} (small : unit < 0x10000) :
    ∀ char ∈ unicodeEscape unit, char.toNat < 128 := by
  -- A backslash, the letter and four digits.
  have digits : ∀ digit < 16, (lowerHexDigit digit).toNat < 128 := by decide
  rw [unicodeEscape, formatLowerHex_four small]
  intro char member
  simp only [List.mem_cons, List.not_mem_nil, or_false] at member
  rcases member with rfl | rfl | rfl | rfl | rfl | rfl
  · decide
  · decide
  all_goals exact digits _ (Nat.mod_lt _ (by decide))

/-- Every character is written in ASCII. -/
theorem escapeChar_ascii (char : Char) : ∀ written ∈ escapeChar char, written.toNat < 128 := by
  -- One case per branch of the writer, in its order.
  have bound := char_toNat_lt char
  have escaped : ∀ letter : Char, letter.toNat < 128 →
      ∀ written ∈ ['\\', letter], written.toNat < 128 := by
    intro letter small written member
    rcases List.mem_cons.mp member with rfl | last
    · decide
    · rwa [List.mem_singleton.mp last]
  unfold escapeChar
  split_ifs with quote backslash printable backspace feed line carriage tab small
  · exact escaped _ (by decide)
  · exact escaped _ (by decide)
  · have high : char.toNat ≤ 0x7E := printable.2
    intro written member
    rw [List.mem_singleton.mp member]
    omega
  · exact escaped _ (by decide)
  · exact escaped _ (by decide)
  · exact escaped _ (by decide)
  · exact escaped _ (by decide)
  · exact escaped _ (by decide)
  · exact unicodeEscape_ascii small
  · intro written member
    rcases List.mem_append.mp member with first | second
    · exact unicodeEscape_ascii (by omega) written first
    · exact unicodeEscape_ascii (by omega) written second

/-- A written string is ASCII text. -/
theorem encodeString_ascii (text : List Char) : ∀ char ∈ encodeString text, char.toNat < 128 := by
  -- A character of the text is a quote or comes from the escape of one character.
  intro char member
  simp only [encodeString, List.cons_append, List.mem_cons, List.mem_append, List.mem_flatMap,
    List.not_mem_nil, or_false] at member
  rcases member with rfl | ⟨source, -, written⟩ | rfl
  · decide
  · exact escapeChar_ascii source char written
  · decide

/-- ASCII bytes are read as their text. -/
theorem decodeUtf8_encodeAscii {text : List Char} (ascii : ∀ char ∈ text, char.toNat < 128) :
    decodeUtf8 (encodeAscii text) = some (text.map Char.toNat) := by
  -- By induction on the text: every byte takes the branch of one byte.
  induction text with
  | nil => rfl
  | cons char rest ih =>
    have small := ascii char List.mem_cons_self
    have byte : (UInt8.ofNat char.toNat).toNat = char.toNat :=
      UInt8.toNat_ofNat_of_lt' (show char.toNat < 256 by omega)
    have below : UInt8.ofNat char.toNat < 0x80 := by
      rw [UInt8.lt_iff_toNat_lt, byte]
      exact small
    show decodeUtf8 (UInt8.ofNat char.toNat :: encodeAscii rest) = _
    rw [decodeUtf8.eq_def]
    dsimp only
    rw [if_pos below, ih fun other member => ascii other (List.mem_cons_of_mem _ member), byte]
    rfl

/-- A written object starts without a byte order mark and without zero bytes. -/
theorem detectEncoding_object (rest : Bytes) :
    detectEncoding (0x7B :: 0x22 :: rest) = (.utf8, 0) := by
  -- The first two bytes are a brace and a quote, which rules out every other encoding.
  unfold detectEncoding
  cases rest with
  | nil => rfl
  | cons third rest =>
    cases rest with
    | nil => rfl
    | cons fourth rest => rfl

/-- A written object is read as the object. -/
theorem jsonLoads_dumpsStrings (spareLevels : Nat) {first second : List Char}
    (different : first ≠ second) (left right : List Char) :
    jsonLoads spareLevels (encodeAscii (dumpsStrings [(first, left), (second, right)])) =
      .ok (.object [(first, .string left), (second, .string right)]) := by
  -- The bytes are text, the text starts with the object, and the object ends the text.
  have ascii : ∀ char ∈ dumpsStrings [(first, left), (second, right)], char.toNat < 128 := by
    intro char member
    simp only [dumpsStrings, List.intercalate, List.map_cons, List.map_nil, List.intersperse,
      List.flatten_cons, List.flatten_nil, List.cons_append, List.append_assoc, List.nil_append,
      List.append_nil, List.mem_cons, List.mem_append, List.not_mem_nil, or_false] at member
    rcases member with rfl | key | rfl | text | rfl | key | rfl | text | rfl
    · decide
    · exact encodeString_ascii _ _ key
    · decide
    · exact encodeString_ascii _ _ text
    · decide
    · exact encodeString_ascii _ _ key
    · decide
    · exact encodeString_ascii _ _ text
    · decide
  have text : decodeText (encodeAscii (dumpsStrings [(first, left), (second, right)])) =
      some (dumpsStrings [(first, left), (second, right)]) := by
    have encoding : detectEncoding (encodeAscii (dumpsStrings [(first, left), (second, right)])) =
        (.utf8, 0) := detectEncoding_object _
    rw [decodeText, encoding]
    dsimp only
    rw [List.drop_zero, decodeUtf8_encodeAscii ascii, Option.map_some, List.map_map]
    congr 1
    conv_rhs => rw [← List.map_id (dumpsStrings [(first, left), (second, right)])]
    exact List.map_congr_left fun char _ => characterOf_toNat char
  have opened : skipSpace (dumpsStrings [(first, left), (second, right)]) =
      dumpsStrings [(first, left), (second, right)] := rfl
  rw [jsonLoads, text]
  dsimp only
  rw [opened, scanOnce_dumpsStrings spareLevels different]
  rfl

end Cislunar
