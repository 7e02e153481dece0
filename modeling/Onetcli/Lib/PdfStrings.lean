import Onetcli.Lib.Encodings

/-!
The texts that the content of a page shows: a reader that goes through the content once,
reads literal and hexadecimal strings by the rules of the format, and takes the string in
front of the operator Tj. A hexadecimal string is in UTF-16 with the high byte first.
-/

namespace Onetcli.PdfStrings

open Chars Text

/-! ## The reader -/

inductive Mode where
  | plain
  | literal (depth : Nat) (text : Chars)
  | escaped (depth : Nat) (text : Chars)
  | octal (depth : Nat) (text : Chars) (value count : Nat)
  | hex (digits : List Nat)
  /-- Behind a string, in the word of its operator. -/
  | operand (text word : Chars)

structure Reader where
  mode : Mode := .plain
  shown : Chars := []

/-- In a literal string brackets nest. -/
def inLiteral (depth : Nat) (text : Chars) (char : Char) : Mode :=
  if char = '\\' then .escaped depth text
  else if char = '(' then .literal (depth + 1) (text ++ [char])
  else if char = ')' then
    if depth = 0 then .operand text [] else .literal (depth - 1) (text ++ [char])
  else .literal depth (text ++ [char])

def octalDigit (char : Char) : Option Nat :=
  if 48 ≤ char.toNat ∧ char.toNat ≤ 55 then some (char.toNat - 48) else none

def unescaped (char : Char) : Char :=
  if char = 'n' then '\n'
  else if char = 'r' then '\r'
  else if char = 't' then '\t'
  else if char = 'b' then Char.ofNat 8
  else if char = 'f' then Char.ofNat 12
  else char

/-- Behind a backslash; one at the end of a line continues the string. -/
def inEscape (depth : Nat) (text : Chars) (char : Char) : Mode :=
  match octalDigit char with
  | some digit => .octal depth text digit 1
  | none =>
    if char = '\n' then .literal depth text else .literal depth (text ++ [unescaped char])

/-- Up to three octal digits are the number of a character. -/
def inOctal (depth : Nat) (text : Chars) (value count : Nat) (char : Char) : Mode :=
  match octalDigit char with
  | some digit =>
    if count < 3 then .octal depth text (value * 8 + digit) (count + 1)
    else inLiteral depth (text ++ [Char.ofNat (value % 256)]) char
  | none => inLiteral depth (text ++ [Char.ofNat (value % 256)]) char

def hexValue (char : Char) : Option Nat :=
  if 48 ≤ char.toNat ∧ char.toNat ≤ 57 then some (char.toNat - 48)
  else if 65 ≤ char.toNat ∧ char.toNat ≤ 70 then some (char.toNat - 55)
  else if 97 ≤ char.toNat ∧ char.toNat ≤ 102 then some (char.toNat - 87)
  else none

/-- Pairs of digits; a single last one has a zero behind it. -/
def bytesOf : List Nat → List UInt8
  | high :: low :: rest => UInt8.ofNat (high * 16 + low) :: bytesOf rest
  | [high] => [UInt8.ofNat (high * 16)]
  | [] => []

def hexText (digits : List Nat) : Chars :=
  (decodeUtf16 (utf16Units false (bytesOf digits))).getD []

def inHex (digits : List Nat) (char : Char) : Mode :=
  if char = '>' then .operand (hexText digits) []
  else
    match hexValue char with
    | some digit => .hex (digits ++ [digit])
    | none => .hex digits

def inPlain (char : Char) : Mode :=
  if char = '(' then .literal 0 [] else if char = '<' then .hex [] else .plain

def inOperand (shown text word : Chars) (char : Char) : Reader :=
  if char = '(' ∨ char = '<' then ⟨inPlain char, shown⟩
  else if isWhiteSpace char then
    if word.isEmpty then ⟨.operand text [], shown⟩
    else if word = "Tj".toList then ⟨.plain, shown ++ text⟩
    else ⟨.plain, shown⟩
  else ⟨.operand text (word ++ [char]), shown⟩

def Reader.step (reader : Reader) (char : Char) : Reader :=
  match reader.mode with
  | .plain => ⟨inPlain char, reader.shown⟩
  | .literal depth text => ⟨inLiteral depth text char, reader.shown⟩
  | .escaped depth text => ⟨inEscape depth text char, reader.shown⟩
  | .octal depth text value count => ⟨inOctal depth text value count char, reader.shown⟩
  | .hex digits => ⟨inHex digits char, reader.shown⟩
  | .operand text word => inOperand reader.shown text word char

def Reader.read (reader : Reader) (content : Chars) : Reader := content.foldl Reader.step reader

def shownText (content : Chars) : Chars := (Reader.read {} content).shown

theorem Reader.read_append (reader : Reader) (first second : Chars) :
    reader.read (first ++ second) = (reader.read first).read second :=
  List.foldl_append

theorem Reader.read_cons (reader : Reader) (char : Char) (rest : Chars) :
    reader.read (char :: rest) = (reader.step char).read rest := rfl

/-! ## Content -/

/-- Content without strings. -/
def Quiet (content : Chars) : Prop := ∀ char ∈ content, char ≠ '(' ∧ char ≠ '<'

theorem Quiet.cons {char : Char} {rest : Chars} (noLiteral : char ≠ '(') (noHex : char ≠ '<')
    (quiet : Quiet rest) : Quiet (char :: rest) := by
  intro other member
  rcases List.mem_cons.mp member with rfl | later
  · exact ⟨noLiteral, noHex⟩
  · exact quiet other later

theorem quiet_of_all {content : Chars}
    (quiet : (content.all fun char => !(char == '(') && !(char == '<')) = true) :
    Quiet content := by
  intro char member
  have both := List.all_eq_true.mp quiet char member
  rw [Bool.and_eq_true, Bool.not_eq_true', Bool.not_eq_true', beq_eq_false_iff_ne,
    beq_eq_false_iff_ne] at both
  exact both

theorem Quiet.append {first second : Chars} (one : Quiet first) (two : Quiet second) :
    Quiet (first ++ second) := by
  intro char member
  rcases List.mem_append.mp member with early | late
  · exact one char early
  · exact two char late

theorem read_quiet (shown : Chars) {content : Chars} (quiet : Quiet content) :
    Reader.read ⟨.plain, shown⟩ content = ⟨.plain, shown⟩ := by
  induction content with
  | nil => rfl
  | cons char rest ih =>
    obtain ⟨noLiteral, noHex⟩ := quiet char List.mem_cons_self
    have step : Reader.step ⟨.plain, shown⟩ char = ⟨.plain, shown⟩ := by
      rw [Reader.step, inPlain, if_neg noLiteral, if_neg noHex]
    rw [Reader.read_cons, step]
    exact ih fun other member => quiet other (List.mem_cons_of_mem _ member)

theorem read_operator (shown text : Chars) {rest : Chars} (quiet : Quiet rest) :
    Reader.read ⟨.operand text [], shown⟩ (' ' :: 'T' :: 'j' :: ' ' :: rest) =
      ⟨.plain, shown ++ text⟩ := by
  have steps : Reader.read ⟨.operand text [], shown⟩ (' ' :: 'T' :: 'j' :: ' ' :: rest) =
      Reader.read ⟨.plain, shown ++ text⟩ rest := rfl
  rw [steps]
  exact read_quiet _ quiet

/-! ### Literal strings -/

/-- The characters of a text with a backslash in front of brackets and backslashes. -/
def escapeLiteral (text : Chars) : Chars :=
  text.flatMap fun char =>
    if char = '(' ∨ char = ')' ∨ char = '\\' then ['\\', char] else [char]

theorem read_escaped (shown sofar text : Chars) :
    Reader.read ⟨.literal 0 sofar, shown⟩ (escapeLiteral text) =
      ⟨.literal 0 (sofar ++ text), shown⟩ := by
  induction text generalizing sofar with
  | nil =>
    rw [List.append_nil]
    rfl
  | cons char rest ih =>
    rw [escapeLiteral, List.flatMap_cons, Reader.read_append]
    have single : Reader.read ⟨.literal 0 sofar, shown⟩
        (if char = '(' ∨ char = ')' ∨ char = '\\' then ['\\', char] else [char]) =
          ⟨.literal 0 (sofar ++ [char]), shown⟩ := by
      -- A bracket with a backslash in front of it does not nest.
      split
      · rename_i special
        rcases special with rfl | rfl | rfl
        · rfl
        · rfl
        · rfl
      · rename_i plain
        rw [not_or, not_or] at plain
        rw [Reader.read_cons, Reader.step]
        dsimp only
        rw [inLiteral, if_neg plain.2.2, if_neg plain.1, if_neg plain.2.1]
        rfl
    have later := ih (sofar ++ [char])
    rw [List.append_assoc] at later
    rw [single]
    exact later

/-! ### Hexadecimal strings -/

def hexUpper (value : Nat) : Char :=
  if value < 10 then Char.ofNat (48 + value) else Char.ofNat (55 + value)

/-- The four digits of a unit. -/
def nibbles (unit : Nat) : List Nat :=
  [unit / 4096 % 16, unit / 256 % 16, unit / 16 % 16, unit % 16]

def hexUnits (units : List Nat) : Chars := units.flatMap fun unit => (nibbles unit).map hexUpper

theorem hexValue_upper : ∀ value < 16, hexValue (hexUpper value) = some value ∧
    hexUpper value ≠ '>' := by
  decide

theorem read_digits (shown : Chars) (sofar digits : List Nat)
    (small : ∀ digit ∈ digits, digit < 16) :
    Reader.read ⟨.hex sofar, shown⟩ (digits.map hexUpper) = ⟨.hex (sofar ++ digits), shown⟩ := by
  induction digits generalizing sofar with
  | nil =>
    rw [List.append_nil]
    rfl
  | cons digit rest ih =>
    obtain ⟨value, open_⟩ := hexValue_upper digit (small digit List.mem_cons_self)
    have step : Reader.step ⟨.hex sofar, shown⟩ (hexUpper digit) =
        ⟨.hex (sofar ++ [digit]), shown⟩ := by
      rw [Reader.step]
      dsimp only
      rw [inHex, if_neg open_, value]
    have later := ih (sofar ++ [digit]) fun other member =>
      small other (List.mem_cons_of_mem _ member)
    rw [List.append_assoc] at later
    rw [List.map_cons, Reader.read_cons, step]
    exact later

theorem nibbles_bytes {unit : Nat} (small : unit < 65536) (rest : List Nat) :
    bytesOf (nibbles unit ++ rest) = unitBytes false unit ++ bytesOf rest := by
  -- Two digits are the high byte and two the low one.
  have high : unit / 4096 % 16 * 16 + unit / 256 % 16 = unit / 256 := by omega
  have low : UInt8.ofNat (unit / 16 % 16 * 16 + unit % 16) = UInt8.ofNat unit := by
    apply UInt8.toNat.inj
    rw [UInt8.toNat_ofNat', UInt8.toNat_ofNat']
    omega
  change UInt8.ofNat (unit / 4096 % 16 * 16 + unit / 256 % 16) ::
    UInt8.ofNat (unit / 16 % 16 * 16 + unit % 16) :: bytesOf rest = _
  rw [high, low]
  rfl

theorem hexText_units (text : Chars) : hexText ((encodeUtf16 text).flatMap nibbles) = text := by
  have bytes (units : List Nat) (small : ∀ unit ∈ units, unit < 65536) :
      bytesOf (units.flatMap nibbles) = units.flatMap (unitBytes false) := by
    induction units with
    | nil => rfl
    | cons unit rest ih =>
      rw [List.flatMap_cons, List.flatMap_cons, nibbles_bytes (small unit List.mem_cons_self),
        ih fun other member => small other (List.mem_cons_of_mem _ member)]
  have small : ∀ unit ∈ encodeUtf16 text, unit < 65536 := by
    intro unit member
    rcases List.mem_flatMap.mp member with ⟨char, _, among⟩
    exact utf16Of_lt char unit among
  rw [hexText, bytes _ small, utf16Units_bytes false small, decodeUtf16_encode]
  rfl

theorem nibbles_small (units : List Nat) : ∀ digit ∈ units.flatMap nibbles, digit < 16 := by
  intro digit member
  rcases List.mem_flatMap.mp member with ⟨unit, _, among⟩
  simp only [nibbles, List.mem_cons, List.not_mem_nil, or_false] at among
  rcases among with rfl | rfl | rfl | rfl <;> omega

/-! ## What content shows -/

def Shows (content text : Chars) : Prop :=
  ∀ shown, Reader.read ⟨.plain, shown⟩ content = ⟨.plain, shown ++ text⟩

theorem Shows.append {first second one two : Chars} (early : Shows first one)
    (late : Shows second two) : Shows (first ++ second) (one ++ two) := by
  intro shown
  rw [Reader.read_append, early shown, late (shown ++ one), List.append_assoc]

theorem Quiet.shows {content : Chars} (quiet : Quiet content) : Shows content [] := by
  intro shown
  rw [read_quiet shown quiet, List.append_nil]

theorem Shows.text {content text : Chars} (shows : Shows content text) :
    shownText content = text := by
  have whole : Reader.read {} content = ⟨.plain, [] ++ text⟩ := shows []
  rw [shownText, whole]
  rfl

theorem literal_shows (text : Chars) {before after : Chars} (quietBefore : Quiet before)
    (quietAfter : Quiet after) :
    Shows (before ++ '(' :: (escapeLiteral text ++ ')' :: ' ' :: 'T' :: 'j' :: ' ' :: after))
      text := by
  intro shown
  rw [Reader.read_append, read_quiet shown quietBefore, Reader.read_cons]
  change Reader.read ⟨.literal 0 [], shown⟩ _ = _
  rw [Reader.read_append, read_escaped, List.nil_append, Reader.read_cons]
  exact read_operator shown text quietAfter

theorem hex_shows (text : Chars) {before after : Chars} (quietBefore : Quiet before)
    (quietAfter : Quiet after) : Shows (before ++ '<' ::
      (hexUnits (encodeUtf16 text) ++ '>' :: ' ' :: 'T' :: 'j' :: ' ' :: after)) text := by
  intro shown
  have digits : hexUnits (encodeUtf16 text) =
      ((encodeUtf16 text).flatMap nibbles).map hexUpper := by
    rw [hexUnits, List.map_flatMap]
  have closed : Reader.step ⟨.hex ([] ++ (encodeUtf16 text).flatMap nibbles), shown⟩ '>' =
      ⟨.operand text [], shown⟩ := by
    rw [List.nil_append, Reader.step]
    dsimp only
    rw [inHex, if_pos rfl, hexText_units]
  rw [Reader.read_append, read_quiet shown quietBefore, Reader.read_cons]
  change Reader.read ⟨.hex [], shown⟩ _ = _
  rw [digits, Reader.read_append, read_digits shown [] _ (nibbles_small _), Reader.read_cons, closed]
  exact read_operator shown text quietAfter

end Onetcli.PdfStrings
