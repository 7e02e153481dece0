import Onetcli.Importers.SecureCrt.Secrets

/-!
Values of INI fields that stand for themselves and values that stand for UTF-16 in
hexadecimal digits: `decode_value` tells them apart by their second word alone.
-/

namespace Onetcli.Importers.SecureCrt

open Chars Lookups

/-! ## Words -/

theorem splitOnP_flatten (text : Chars) :
    ((text.splitOnP Text.isWhiteSpace).flatten) = letters text := by
  induction text with
  | nil => rfl
  | cons char rest ih =>
    rw [List.splitOnP_cons_eq_if_modifyHead]
    by_cases white : Text.isWhiteSpace char = true
    · rw [if_pos white, List.flatten_cons, ih]
      simp [letters, white]
    · rw [if_neg white]
      cases parts : rest.splitOnP Text.isWhiteSpace with
      | nil => exact absurd parts (List.splitOnP_ne_nil _ _)
      | cons first others =>
        rw [parts] at ih
        simp only [List.modifyHead_cons, List.flatten_cons, List.cons_append]
        rw [List.flatten_cons] at ih
        rw [ih]
        simp [letters, white]

theorem splitWhitespace_flatten (text : Chars) : (splitWhitespace text).flatten = letters text := by
  rw [splitWhitespace, ← splitOnP_flatten]
  induction text.splitOnP Text.isWhiteSpace with
  | nil => rfl
  | cons part rest ih =>
    cases part with
    | nil => simpa using ih
    | cons char more => simpa using ih

theorem letters_length (text : Chars) : (letters text).length ≤ text.length :=
  List.length_filter_le _ _

/-! ## Values that are taken for encoded ones -/

/-- Two words, the second one of which is UTF-16 in hexadecimal digits. -/
def LooksEncoded (value : Chars) : Prop :=
  ∃ word hex text, splitWhitespace (trim value) = [word, hex] ∧
    hex.all isAsciiHexdigit = true ∧ hex.length % 4 = 0 ∧
    decodeUtf16 (utf16Units true (hexBytes hex)) = some text

theorem hexBytes_length : ∀ hex : Chars, (hexBytes hex).length = hex.length / 2
  | [] => rfl
  | [_] => by simp [hexBytes]
  | _ :: _ :: rest => by
    have tail := hexBytes_length rest
    simp only [hexBytes, List.length_cons, tail]
    omega

theorem utf16Units_length (lowFirst : Bool) :
    ∀ bytes : List UInt8, (utf16Units lowFirst bytes).length = bytes.length / 2
  | [] => rfl
  | [_] => by simp [utf16Units]
  | _ :: _ :: rest => by
    have tail := utf16Units_length lowFirst rest
    simp only [utf16Units, List.length_cons, tail]
    omega

theorem decodeUtf16_length {units : List Nat} {text : Chars}
    (decoded : decodeUtf16 units = some text) : text.length ≤ units.length := by
  induction units using decodeUtf16.induct generalizing text with
  | case1 => cases decoded; exact Nat.le_refl _
  | case2 unit rest outside ih =>
    rw [decodeUtf16_single outside] at decoded
    rcases Option.map_eq_some_iff.mp decoded with ⟨tail, here, rfl⟩
    have bound := ih here
    simp only [List.length_cons]
    omega
  | case3 unit outside high low more isLow ih =>
    rw [decodeUtf16_pair ⟨by omega, high⟩ isLow] at decoded
    rcases Option.map_eq_some_iff.mp decoded with ⟨tail, here, rfl⟩
    have bound := ih here
    simp only [List.length_cons]
    omega
  | case4 unit outside high low more notLow =>
    rw [decodeUtf16.eq_def] at decoded
    simp [outside, high, notLow] at decoded
  | case5 unit outside high | case6 unit rest outside high =>
    rw [decodeUtf16.eq_def] at decoded
    simp [outside, high] at decoded

theorem trimEndMatches_length (removed : Char) (text : Chars) :
    (trimEndMatches removed text).length ≤ text.length := by
  have dropped := (List.dropWhile_sublist (· == removed) (l := text.reverse)).length_le
  rw [trimEndMatches, List.length_reverse]
  rwa [List.length_reverse] at dropped

theorem trimEndMatches_same {removed : Char} {text : Chars}
    (other : text.getLast? ≠ some removed) : trimEndMatches removed text = text := by
  rcases text.eq_nil_or_concat with rfl | ⟨start, last, rfl⟩
  · rfl
  · have differ : (last == removed) = false := by
      rw [beq_eq_false_iff_ne]
      rintro rfl
      exact other (by simp)
    simp [trimEndMatches, differ]

theorem trimEndMatches_words {value word hex : Chars} (words : splitWhitespace value = [word, hex])
    (digits : hex.all isAsciiHexdigit = true) : trimEndMatches '\x00' value = value := by
  apply trimEndMatches_same
  intro last
  have joined := splitWhitespace_flatten value
  rw [words] at joined
  rcases value.eq_nil_or_concat with rfl | ⟨start, char, rfl⟩
  · cases last
  · have ends : char = '\x00' := by simpa using last
    have kept : letters (start ++ [char]) = letters start ++ ['\x00'] := by
      rw [letters_append, ends]
      rfl
    rw [List.concat_eq_append, kept] at joined
    rcases hex.eq_nil_or_concat with rfl | ⟨front, final, rfl⟩
    · have empty : [] ∈ splitWhitespace (start ++ [char]) := by
        rw [List.concat_eq_append] at words
        rw [words]
        simp
      have filled := (List.mem_filter.mp empty).2
      cases filled
    · have split : (word ++ front) ++ [final] = letters start ++ ['\x00'] := by
        simpa using joined
      have same := (List.append_inj' split rfl).2
      rw [List.singleton_inj] at same
      rw [same, List.concat_eq_append, List.all_append, Bool.and_eq_true] at digits
      exact absurd digits.2 (by decide)

theorem decodeValue_words {rawValue word hex : Chars}
    (words : splitWhitespace (trim rawValue) = [word, hex])
    (digits : hex.all isAsciiHexdigit = true) (fours : hex.length % 4 = 0) : decodeValue rawValue =
      trimEndMatches '\x00' ((decodeUtf16 (utf16Units true (hexBytes hex))).getD (trim rawValue)) := by
  have even : ¬hex.length % 2 ≠ 0 := by omega
  have pairs : ¬(hexBytes hex).length % 2 ≠ 0 := by
    rw [hexBytes_length]
    omega
  rw [decodeValue, words]
  simp [even, digits, pairs]

theorem decodeValue_eq_iff (rawValue : Chars) :
    decodeValue rawValue = trim rawValue ↔ ¬LooksEncoded rawValue := by
  constructor
  · rintro same ⟨word, hex, text, words, digits, fours, decoded⟩
    rw [decodeValue_words words digits fours, decoded, Option.getD_some] at same
    have shorter := trimEndMatches_length '\x00' text
    have units := decodeUtf16_length decoded
    rw [utf16Units_length, hexBytes_length, same] at *
    have joined := congrArg List.length (splitWhitespace_flatten (trim rawValue))
    rw [words] at joined
    have whole := letters_length (trim rawValue)
    have filled : 0 < word.length := by
      have member : word ∈ splitWhitespace (trim rawValue) := by
        rw [words]
        exact List.mem_cons_self
      have some := (List.mem_filter.mp member).2
      cases word with
      | nil => cases some
      | cons _ _ => exact Nat.succ_pos _
    simp at joined
    omega
  · intro plain
    cases words : splitWhitespace (trim rawValue) with
    | nil =>
      have joined := splitWhitespace_flatten (trim rawValue)
      rw [words] at joined
      have blank : Blank (trim rawValue) := blank_iff_letters.mpr joined.symm
      rw [← trim_trim, trim_blank blank, decodeValue, words]
    | cons word more =>
      rcases more with _ | ⟨hex, _ | ⟨second, rest⟩⟩
      · rw [decodeValue, words]
      · by_cases digits : hex.all isAsciiHexdigit = true
        · by_cases fours : hex.length % 4 = 0
          · rw [decodeValue_words words digits fours]
            cases decoded : decodeUtf16 (utf16Units true (hexBytes hex)) with
            | none => exact trimEndMatches_words words digits
            | some text => exact absurd ⟨word, hex, text, words, digits, fours, decoded⟩ plain
          · -- an odd number of digits or of bytes
            have odd : hex.length % 2 ≠ 0 ∨ (hexBytes hex).length % 2 ≠ 0 := by
              rw [hexBytes_length]
              omega
            rw [decodeValue, words]
            rcases odd with odd | odd
            · simp [odd]
            · simp [odd]
        · rw [decodeValue, words]
          simp [digits]
      · rw [decodeValue, words]

/-! ## Lines of files -/

/-- A line `S:"key"=value`. -/
def fieldLine (key value : Chars) : Chars :=
  "S:\"".toList ++ key ++ '"' :: '=' :: value

theorem parseField_fieldLine {key : Chars} (clean : '=' ∉ key) (value : Chars) :
    parseField (fieldLine key value) = some (toAsciiLowercase key, decodeValue value) := by
  have frontClean : '=' ∉ "S:\"".toList ++ key ++ ['"'] := by
    simp only [List.mem_append, not_or]
    exact ⟨⟨by decide, clean⟩, by decide⟩
  have solid : Solid ("S:\"".toList ++ key ++ ['"']) :=
    ⟨⟨'S', ':' :: '"' :: (key ++ ['"']), rfl, by decide⟩, ⟨_, '"', rfl, by decide⟩⟩
  have split : fieldLine key value = ("S:\"".toList ++ key ++ ['"']) ++ '=' :: value := by
    simp [fieldLine]
  have quoted : stripPrefix "S:\"".toList ("S:\"".toList ++ key ++ ['"']) = some (key ++ ['"']) := by
    rw [List.append_assoc]
    exact stripPrefix_append _ _
  rw [split, parseField_line frontClean, fieldKey, trim_solid solid, quoted]
  simp [stripSuffix_append]

theorem parseFields_lookup {text key value : Chars} {before after : List Chars}
    (split : lines text = before ++ fieldLine key value :: after) (clean : '=' ∉ key)
    (last : ∀ later ∈ after, (parseField later).map Prod.fst ≠ some (toAsciiLowercase key)) :
    (parseFields text).lookup (toAsciiLowercase key) = some (decodeValue value) := by
  have later : ((after.filterMap parseField).reverse).lookup (toAsciiLowercase key) = none := by
    rw [List.lookup_eq_none_iff]
    intro field member
    rcases List.mem_filterMap.mp (List.mem_reverse.mp member) with ⟨line, among, parsed⟩
    have other := last line among
    rw [parsed, Option.map_some] at other
    rw [bne_iff_ne]
    intro same
    exact other (congrArg some same.symm)
  rw [parseFields, split, List.filterMap_append, List.filterMap_cons, parseField_fieldLine clean,
    List.reverse_append, List.reverse_cons, List.append_assoc, List.lookup_append, later,
    Option.none_or, List.singleton_append]
  exact lookup_same _ _ _

/-! ## Encoded values -/

/-- A spelling of the hexadecimal digits, in upper or in lower case. -/
structure SpellsHex (digit : Nat → Char) : Prop where
  isDigit : ∀ value < 16, isAsciiHexdigit (digit value) = true
  value : ∀ value < 16, hexNibble (digit value) = value

def hexOf (digit : Nat → Char) (bytes : List UInt8) : Chars :=
  bytes.flatMap fun byte => [digit (byte.toNat / 16), digit (byte.toNat % 16)]

def IsLength (word : Chars) : Prop := word.length = 8 ∧ word.all isAsciiHexdigit = true

def encodedValue (digit : Nat → Char) (length text : Chars) : Chars :=
  length ++ ' ' :: hexOf digit (utf16Bytes true text)

section Encoded

variable {digit : Nat → Char} (spells : SpellsHex digit)

include spells

theorem hexBytes_hexOf (bytes : List UInt8) : hexBytes (hexOf digit bytes) = bytes := by
  induction bytes with
  | nil => rfl
  | cons byte rest ih =>
    have bound := byte.toNat_lt
    have high := spells.value (byte.toNat / 16) (by omega)
    have low := spells.value (byte.toNat % 16) (by omega)
    have whole : byte.toNat / 16 * 16 + byte.toNat % 16 = byte.toNat := by omega
    rw [hexOf] at ih
    rw [hexOf, List.flatMap_cons, List.cons_append, List.cons_append, List.nil_append, hexBytes,
      high, low, whole, UInt8.ofNat_toNat, ih]

theorem hexOf_digits (bytes : List UInt8) : (hexOf digit bytes).all isAsciiHexdigit = true := by
  rw [List.all_eq_true]
  intro char member
  rcases List.mem_flatMap.mp member with ⟨byte, _, inside⟩
  have bound := byte.toNat_lt
  rcases List.mem_pair.mp inside with rfl | rfl
  · exact spells.isDigit _ (by omega)
  · exact spells.isDigit _ (by omega)

omit spells in
theorem hexOf_length (bytes : List UInt8) : (hexOf digit bytes).length = 2 * bytes.length := by
  induction bytes with
  | nil => rfl
  | cons byte rest ih =>
    rw [hexOf] at ih
    rw [hexOf, List.flatMap_cons, List.length_append, ih]
    simp only [List.length_cons, List.length_nil]
    omega

omit spells in
theorem hexdigit_black {char : Char} (digit : isAsciiHexdigit char = true) :
    Text.isWhiteSpace char = false := by
  simp only [isAsciiHexdigit, isAsciiDigit, Bool.or_eq_true, Bool.and_eq_true,
    decide_eq_true_eq] at digit
  simp only [Text.isWhiteSpace, Bool.or_eq_false_iff, Bool.and_eq_false_iff, decide_eq_false_iff_not,
    beq_eq_false_iff_ne]
  omega

omit spells in
theorem utf16Of_nonempty (char : Char) : utf16Of char ≠ [] := by
  rw [utf16Of]
  split
  · exact List.cons_ne_nil _ _
  · exact List.cons_ne_nil _ _

theorem decodeValue_encoded_iff {length : Chars} (isLength : IsLength length) {text : Chars}
    (ends : text.getLast? ≠ some '\x00') :
    decodeValue (encodedValue digit length text) = text ↔ text ≠ [] := by
  have word : ∀ char ∈ length, Text.isWhiteSpace char = false := fun char member =>
    hexdigit_black (List.all_eq_true.mp isLength.2 char member)
  have filled : length ≠ [] := by
    rintro rfl
    cases isLength.1
  constructor
  · -- The length of an empty text is the only word, which is kept as it is.
    rintro same rfl
    have spelled : encodedValue digit length [] = [] ++ (length ++ [' ']) := rfl
    have blank : Blank [' '] := by
      intro char member
      rw [List.mem_singleton.mp member]
      decide
    have trimmed : trim (encodedValue digit length []) = length := by
      rw [spelled, trim_around blank_nil (solid_of_word filled word) blank]
    rw [decodeValue, trimmed, splitWhitespace_word filled word] at same
    exact filled same
  · -- Otherwise there is a second word, of four digits for every unit.
    intro some
    have black : ∀ char ∈ hexOf digit (utf16Bytes true text), Text.isWhiteSpace char = false :=
      fun char member => hexdigit_black (List.all_eq_true.mp (hexOf_digits spells _) char member)
    have bytes : 4 * (encodeUtf16 text).length = (hexOf digit (utf16Bytes true text)).length := by
      rw [hexOf_length, utf16Bytes, unitBytes_length]
      omega
    have hexFilled : hexOf digit (utf16Bytes true text) ≠ [] := by
      intro none
      rw [none, List.length_nil] at bytes
      have units : encodeUtf16 text = [] := List.length_eq_zero_iff.mp (by omega)
      rcases List.exists_cons_of_ne_nil some with ⟨char, rest, rfl⟩
      rw [encodeUtf16, List.flatMap_cons, List.append_eq_nil_iff] at units
      exact utf16Of_nonempty char units.1
    have solid : Solid (encodedValue digit length text) := by
      constructor
      · rcases List.exists_cons_of_ne_nil filled with ⟨char, rest, rfl⟩
        exact ⟨char, _, rfl, word char List.mem_cons_self⟩
      · rcases (solid_of_word hexFilled black).last with ⟨start, char, split, last⟩
        exact ⟨length ++ ' ' :: start, char, by rw [encodedValue, split]; simp, last⟩
    have words : splitWhitespace (trim (encodedValue digit length text)) =
        [length, hexOf digit (utf16Bytes true text)] := by
      rw [trim_solid solid, encodedValue, splitWhitespace_cons filled word (by decide),
        splitWhitespace_word hexFilled black]
    rw [decodeValue_words words (hexOf_digits spells _) (by omega), hexBytes_hexOf spells,
      utf16Units_utf16Bytes, decodeUtf16_encode, Option.getD_some, trimEndMatches_same ends]

end Encoded

/-! ## The two halves -/

/-- A plain value is stored as it is exactly if it does not look like an encoded one, and an
encoded text is read back exactly if it is not empty. -/
theorem values_survive_iff (text key value : Chars) (before after : List Chars)
    (digit : Nat → Char) (length stored : Chars) :
    (lines text = before ++ fieldLine key value :: after → '=' ∉ key →
      (∀ later ∈ after, (parseField later).map Prod.fst ≠ some (toAsciiLowercase key)) →
      (∀ word, (splitWhitespace value).head? = some word → ¬IsLength word) →
      ((parseFields text).lookup (toAsciiLowercase key) = some (trim value) ↔
        ¬LooksEncoded value)) ∧
    (SpellsHex digit → IsLength length → stored.getLast? ≠ some '\x00' →
      (decodeValue (encodedValue digit length stored) = stored ↔ stored ≠ [])) := by
  constructor
  · intro split clean last _
    rw [parseFields_lookup split clean last, Option.some_inj]
    exact decodeValue_eq_iff value
  · intro spells isLength ends
    exact decodeValue_encoded_iff spells isLength ends

theorem hexDigit_spells : SpellsHex Text.hexDigit :=
  ⟨by decide, by decide⟩

theorem plain_user_and_encoded_host_survive :
    (parseFields (fieldLine "Username".toList "deploy 1".toList)).lookup "username".toList =
        some "deploy 1".toList ∧
      decodeValue (encodedValue Text.hexDigit "0000000a".toList "db.example".toList) =
        "db.example".toList := by
  obtain ⟨plain, encoded⟩ := values_survive_iff
    (fieldLine "Username".toList "deploy 1".toList) "Username".toList "deploy 1".toList [] []
    Text.hexDigit "0000000a".toList "db.example".toList
  have plain := plain (by decide +kernel) (by decide) (by rintro _ ⟨⟩)
    (by
      rintro word first ⟨length, _⟩
      have words : splitWhitespace "deploy 1".toList = ["deploy".toList, "1".toList] := by
        decide +kernel
      rw [words] at first
      cases first
      exact absurd length (by decide))
  have encoded := encoded hexDigit_spells (by rw [IsLength]; decide +kernel) (by decide)
  have trimmed : trim "deploy 1".toList = "deploy 1".toList := by decide +kernel
  have notEncoded : ¬LooksEncoded "deploy 1".toList := by
    rintro ⟨word, hex, text, words, _, fours, _⟩
    have spelled : splitWhitespace (trim "deploy 1".toList) = ["deploy".toList, "1".toList] := by
      decide +kernel
    rw [spelled] at words
    cases words
    exact absurd fours (by decide)
  have stored := plain.mpr notEncoded
  rw [trimmed] at stored
  exact ⟨stored, encoded.mpr (by decide)⟩

/-- A description of two words and the length of an empty text. -/
theorem plain_words_decoded :
    (parseFields (fieldLine "Description".toList "build 1234".toList)).lookup
        "description".toList ≠ some "build 1234".toList ∧
      decodeValue "00000000 ".toList ≠ [] := by
  decide +kernel

end Onetcli.Importers.SecureCrt
