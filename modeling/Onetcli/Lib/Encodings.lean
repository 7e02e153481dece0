import Onetcli.Lib.Chars

/-!
Texts as bytes in UTF-8 and UTF-16, read back by the functions of the library of texts.
-/

namespace Onetcli.Chars

/-! ## UTF-16 -/

/-- The units of a character: one, or a high and a low surrogate. -/
def utf16Of (char : Char) : List Nat :=
  if char.toNat < 0x10000 then [char.toNat]
  else [0xD800 + (char.toNat - 0x10000) / 0x400, 0xDC00 + (char.toNat - 0x10000) % 0x400]

def encodeUtf16 (text : Chars) : List Nat := text.flatMap utf16Of

def unitBytes (lowFirst : Bool) (unit : Nat) : List UInt8 :=
  if lowFirst then [UInt8.ofNat unit, UInt8.ofNat (unit / 256)]
  else [UInt8.ofNat (unit / 256), UInt8.ofNat unit]

def utf16Bytes (lowFirst : Bool) (text : Chars) : List UInt8 :=
  (encodeUtf16 text).flatMap (unitBytes lowFirst)

theorem char_ranges (char : Char) :
    char.toNat < 0xD800 ∨ (0xE000 ≤ char.toNat ∧ char.toNat < 0x110000) := by
  rcases char.valid with low | ⟨above, below⟩
  · exact Or.inl low
  · exact Or.inr ⟨above, below⟩

theorem decodeUtf16_single {unit : Nat} (outside : unit < 0xD800 ∨ 0xE000 ≤ unit)
    (rest : List Nat) :
    decodeUtf16 (unit :: rest) = (decodeUtf16 rest).map (Char.ofNat unit :: ·) := by
  rw [decodeUtf16.eq_def]
  exact if_pos outside

theorem decodeUtf16_pair {high low : Nat} (isHigh : 0xD800 ≤ high ∧ high < 0xDC00)
    (isLow : 0xDC00 ≤ low ∧ low < 0xE000) (rest : List Nat) :
    decodeUtf16 (high :: low :: rest) = (decodeUtf16 rest).map
      (Char.ofNat (0x10000 + (high - 0xD800) * 0x400 + (low - 0xDC00)) :: ·) := by
  have inside : ¬(high < 0xD800 ∨ 0xE000 ≤ high) := by omega
  rw [decodeUtf16.eq_def]
  simp only [if_neg inside, if_pos isHigh.2, if_pos isLow]

theorem decodeUtf16_encode (text : Chars) : decodeUtf16 (encodeUtf16 text) = some text := by
  induction text with
  | nil => rfl
  | cons char rest ih =>
    have ranges := char_ranges char
    rw [encodeUtf16] at ih
    rw [encodeUtf16, List.flatMap_cons, utf16Of]
    split
    · have outside : char.toNat < 0xD800 ∨ 0xE000 ≤ char.toNat := by omega
      rw [List.singleton_append, decodeUtf16_single outside, ih, Option.map_some,
        Char.ofNat_toNat]
    · rename_i large
      -- The two surrogates carry the upper and the lower ten bits.
      have isHigh : 0xD800 ≤ 0xD800 + (char.toNat - 0x10000) / 0x400 ∧
          0xD800 + (char.toNat - 0x10000) / 0x400 < 0xDC00 := by omega
      have isLow : 0xDC00 ≤ 0xDC00 + (char.toNat - 0x10000) % 0x400 ∧
          0xDC00 + (char.toNat - 0x10000) % 0x400 < 0xE000 := by omega
      have value : 0x10000 + (0xD800 + (char.toNat - 0x10000) / 0x400 - 0xD800) * 0x400 +
          (0xDC00 + (char.toNat - 0x10000) % 0x400 - 0xDC00) = char.toNat := by omega
      rw [List.cons_append, List.singleton_append, decodeUtf16_pair isHigh isLow, ih,
        Option.map_some, value, Char.ofNat_toNat]

theorem utf16Of_lt (char : Char) : ∀ unit ∈ utf16Of char, unit < 65536 := by
  have ranges := char_ranges char
  intro unit member
  rw [utf16Of] at member
  split at member
  · rw [List.mem_singleton.mp member]
    omega
  · rcases List.mem_pair.mp member with same | same
    · rw [same]
      omega
    · rw [same]
      omega

theorem utf16Units_bytes (lowFirst : Bool) {units : List Nat}
    (small : ∀ unit ∈ units, unit < 65536) :
    utf16Units lowFirst (units.flatMap (unitBytes lowFirst)) = units := by
  induction units with
  | nil => rfl
  | cons unit rest ih =>
    have bound := small unit List.mem_cons_self
    have tail := ih fun other member => small other (List.mem_cons_of_mem _ member)
    have value : unit / 256 % 256 * 256 + unit % 256 = unit := by omega
    rw [List.flatMap_cons, unitBytes]
    cases lowFirst with
    | true => simpa [utf16Units, value] using tail
    | false => simpa [utf16Units, value] using tail

theorem unitBytes_length (lowFirst : Bool) (units : List Nat) :
    (units.flatMap (unitBytes lowFirst)).length = 2 * units.length := by
  induction units with
  | nil => rfl
  | cons unit rest ih =>
    have two : (unitBytes lowFirst unit).length = 2 := by
      rw [unitBytes]
      split
      · rfl
      · rfl
    rw [List.flatMap_cons, List.length_append, ih, two, List.length_cons]
    omega

theorem utf16Units_utf16Bytes (lowFirst : Bool) (text : Chars) :
    utf16Units lowFirst (utf16Bytes lowFirst text) = encodeUtf16 text := by
  apply utf16Units_bytes
  intro unit member
  rcases List.mem_flatMap.mp member with ⟨char, _, among⟩
  exact utf16Of_lt char unit among

/-! ## UTF-8 -/

theorem toUtf8_eq (text : Chars) : toUtf8 text = text.flatMap String.utf8EncodeChar := by
  rw [toUtf8, String.toUTF8_eq_toByteArray, String.toByteArray_ofList, List.utf8Encode]
  exact List.toList_data_toByteArray

theorem toUtf8_ascii {text : Chars} (ascii : ∀ char ∈ text, char.toNat < 128) :
    toUtf8 text = text.map fun char => UInt8.ofNat char.toNat := by
  rw [toUtf8_eq]
  induction text with
  | nil => rfl
  | cons char rest ih =>
    have small : char.val.toNat < 128 := ascii char List.mem_cons_self
    have single : String.utf8EncodeChar char = [UInt8.ofNat char.toNat] := by
      rw [String.utf8EncodeChar, if_pos (by omega)]
      rfl
    rw [List.flatMap_cons, List.map_cons, single,
      ih fun other member => ascii other (List.mem_cons_of_mem _ member)]
    rfl

theorem char_eq_of_toNat {first second : Char} (same : first.toNat = second.toNat) :
    first = second := by
  rw [← Char.ofNat_toNat first, same, Char.ofNat_toNat]

-- No byte is above those that start the longest characters, and a zero byte is that of the
-- zero character.
theorem utf8EncodeChar_byte (char : Char) : ∀ byte ∈ String.utf8EncodeChar char,
    byte.toNat < 0xF8 ∧ (byte.toNat = 0 → char = '\x00') := by
  have ranges := char_ranges char
  have number : char.val.toNat = char.toNat := rfl
  intro byte member
  simp only [String.utf8EncodeChar, number] at member
  split at member
  · rw [List.mem_singleton.mp member, UInt8.toNat_ofNat']
    constructor
    · omega
    · intro zero
      apply char_eq_of_toNat
      have value : ('\x00' : Char).toNat = 0 := rfl
      omega
  · split at member
    · rcases List.mem_pair.mp member with same | same <;>
        rw [same, UInt8.toNat_ofNat'] <;> omega
    · split at member
      · simp only [List.mem_cons, List.not_mem_nil, or_false] at member
        rcases member with same | same | same <;> rw [same, UInt8.toNat_ofNat'] <;> omega
      · simp only [List.mem_cons, List.not_mem_nil, or_false] at member
        rcases member with same | same | same | same <;>
          rw [same, UInt8.toNat_ofNat'] <;> omega

theorem first_byte {code : Nat} {tail rest : List UInt8}
    (start : UInt8.ofNat code :: tail = 0xef :: rest) : code % 256 = 0xef := by
  have first := congrArg UInt8.toNat (List.cons.inj start).1
  rwa [UInt8.toNat_ofNat'] at first

theorem utf8EncodeChar_mark {char : Char} {rest others : List UInt8}
    (start : String.utf8EncodeChar char ++ others = 0xef :: 0xbb :: 0xbf :: rest) :
    char = '\ufeff' := by
  have number : char.val.toNat = char.toNat := rfl
  simp only [String.utf8EncodeChar, number] at start
  split at start
  · have first := first_byte start
    omega
  · split at start
    · have first := first_byte start
      omega
    · split at start
      · rcases List.cons.inj start with ⟨first, start⟩
        rcases List.cons.inj start with ⟨second, start⟩
        have third := (List.cons.inj start).1
        have first := congrArg UInt8.toNat first
        have second := congrArg UInt8.toNat second
        have third := congrArg UInt8.toNat third
        rw [UInt8.toNat_ofNat'] at first second third
        have values : (0xef : UInt8).toNat = 0xef ∧ (0xbb : UInt8).toNat = 0xbb ∧
          (0xbf : UInt8).toNat = 0xbf := ⟨rfl, rfl, rfl⟩
        apply char_eq_of_toNat
        have mark : ('\ufeff' : Char).toNat = 0xfeff := rfl
        omega
      · have first := first_byte start
        omega

theorem toUtf8_byte {text : Chars} : ∀ byte ∈ toUtf8 text,
    byte.toNat < 0xF8 ∧ (byte.toNat = 0 → '\x00' ∈ text) := by
  intro byte member
  rw [toUtf8_eq] at member
  rcases List.mem_flatMap.mp member with ⟨char, among, inside⟩
  rcases utf8EncodeChar_byte char byte inside with ⟨small, zero⟩
  exact ⟨small, fun isZero => zero isZero ▸ among⟩

theorem toUtf8_small {text : Chars} {byte : UInt8} (member : byte ∈ toUtf8 text)
    (small : byte.toNat < 128) : ∃ char ∈ text, char.toNat = byte.toNat := by
  rw [toUtf8_eq] at member
  obtain ⟨char, among, inside⟩ := List.mem_flatMap.mp member
  refine ⟨char, among, ?_⟩
  have number : char.val.toNat = char.toNat := rfl
  simp only [String.utf8EncodeChar, number] at inside
  split at inside
  · rw [List.mem_singleton] at inside
    rw [inside, UInt8.toNat_ofNat']
    omega
  · -- A longer character has no byte below 128.
    split at inside
    · rcases List.mem_pair.mp inside with same | same <;>
        rw [same, UInt8.toNat_ofNat'] at small <;> omega
    · split at inside
      · simp only [List.mem_cons, List.not_mem_nil, or_false] at inside
        rcases inside with same | same | same <;> rw [same, UInt8.toNat_ofNat'] at small <;> omega
      · simp only [List.mem_cons, List.not_mem_nil, or_false] at inside
        rcases inside with same | same | same | same <;>
          rw [same, UInt8.toNat_ofNat'] at small <;> omega

theorem toUtf8_mark {text : Chars} {rest : List UInt8}
    (start : toUtf8 text = 0xef :: 0xbb :: 0xbf :: rest) : text.head? = some '\ufeff' := by
  rw [toUtf8_eq] at start
  cases text with
  | nil => cases start
  | cons char others =>
    rw [List.flatMap_cons] at start
    rw [List.head?_cons, utf8EncodeChar_mark start]

end Onetcli.Chars
