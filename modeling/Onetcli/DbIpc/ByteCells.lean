import Onetcli.DbIpc.IntegerParams
import Onetcli.Lib.ByteCodes
import Onetcli.Lib.Runes

/-!
`toCellForKind` of internal/dbipc/query.go for a scanned `[]byte`, byte by byte: Go's strings are
any bytes, so a cell could hold one that `encoding/json` would not write as it is.
-/

namespace Onetcli.DbIpc.ByteCells

open Text Runes Checks

abbrev Bytes := List UInt8

def bytesOf (text : String) : Bytes := utf8 text.toList

/-! ## encoding/json -/

/-- A document as the scanner of `encoding/json` finds it, with the bytes of its literals: those of
a string are the ones between its quotes. -/
inductive JsonSyntax where
  | null
  | bool (value : Bool)
  | number (literal : Bytes)
  | string (quoted : Bytes)
  | array (items : List JsonSyntax)
  | object (members : List (Bytes × JsonSyntax))

/-- The interface values inside a cell of bytes. -/
inductive Value where
  | nil
  | bool (value : Bool)
  | int64 (value : Int64)
  | float64 (value : Double)
  | text (bytes : Bytes)
  | list (items : List Value)
  | map (entries : List (Bytes × Value))

/-- Number parsing and the grammar of JSON. -/
structure ByteLibrary where
  parseFloat : Bytes → Except String Double
  scanJson : Bytes → Except String JsonSyntax

def hexValue (char : Char) : Option Nat :=
  if '0' ≤ char ∧ char ≤ '9' then some (char.toNat - '0'.toNat)
  else if 'a' ≤ char ∧ char ≤ 'f' then some (char.toNat - 'a'.toNat + 10)
  else if 'A' ≤ char ∧ char ≤ 'F' then some (char.toNat - 'A'.toNat + 10)
  else none

/-- `getu4` after a backslash and a `u`: the number and the characters after it. -/
def fourDigits : List Char → Option (Nat × List Char)
  | a :: b :: c :: d :: rest => do
    let a ← hexValue a
    let b ← hexValue b
    let c ← hexValue c
    let d ← hexValue d
    some (((a * 16 + b) * 16 + c) * 16 + d, rest)
  | _ => none

/-- `utf16.DecodeRune`: the character of a pair of surrogates. -/
def surrogatePair (high low : Nat) : Option Char :=
  if 0xd800 ≤ high ∧ high < 0xdc00 ∧ 0xdc00 ≤ low ∧ low < 0xe000 then
    some (Char.ofNat ((high - 0xd800) * 0x400 + (low - 0xdc00) + 0x10000))
  else none

def escapeChar : Char → Option Char
  | '"' => some '"'
  | '\\' => some '\\'
  | '/' => some '/'
  | '\'' => some '\''
  | 'b' => some '\x08'
  | 'f' => some '\x0c'
  | 'n' => some '\n'
  | 'r' => some '\r'
  | 't' => some '\t'
  | _ => none

/-- The loop of `unquoteBytes` over the characters between the quotes, a round for each. A
surrogate without its other half counts as U+FFFD. -/
def unescape : Nat → List Char → Option (List Char)
  | 0, _ => some []
  | _, [] => some []
  | rounds + 1, '\\' :: 'u' :: rest => do
    let (unit, after) ← fourDigits rest
    if 0xd800 ≤ unit ∧ unit < 0xe000 then
      let second := match after with
        | '\\' :: 'u' :: rest => fourDigits rest
        | _ => none
      match second.bind fun (low, rest) => (surrogatePair unit low).map (·, rest) with
      | some (char, rest) => return char :: (← unescape rounds rest)
      | none => return '\ufffd' :: (← unescape rounds after)
    else return Char.ofNat unit :: (← unescape rounds after)
  | rounds + 1, '\\' :: char :: rest => do
    let char ← escapeChar char
    return char :: (← unescape rounds rest)
  | rounds + 1, char :: rest => do
    if char = '\\' ∨ char = '"' ∨ char < ' ' then none
    return char :: (← unescape rounds rest)

/-- `unquoteBytes`: bytes that begin no character count as U+FFFD here too. -/
def unquote (quoted : Bytes) : Option Bytes :=
  (unescape quoted.length (runes quoted)).map utf8

variable (go : ByteLibrary)

def phasePanic : String := "JSON decoder out of sync - data changing underfoot?"

def literalText (quoted : Bytes) : Except String Bytes :=
  match unquote quoted with
  | some bytes => .ok bytes
  | none => .error phasePanic

mutual

def decodeJson : JsonSyntax → Except String Value
  | .null => .ok .nil
  | .bool value => .ok (.bool value)
  | .number literal => (go.parseFloat literal).map .float64
  | .string quoted => (literalText quoted).map .text
  | .array items => (decodeItems items).map .list
  | .object members => (decodeMembers members).map .map

def decodeItems : List JsonSyntax → Except String (List Value)
  | [] => .ok []
  | item :: rest => do
    let value ← decodeJson item
    let tail ← decodeItems rest
    .ok (value :: tail)

/-- Of two members with one key the later is kept. -/
def decodeMembers : List (Bytes × JsonSyntax) → Except String (List (Bytes × Value))
  | [] => .ok []
  | (key, json) :: rest => do
    let key ← literalText key
    let value ← decodeJson json
    let tail ← decodeMembers rest
    .ok (if tail.any (fun entry => entry.1 == key) then tail else (key, value) :: tail)

end

def unmarshalJson (raw : Bytes) : Except String Value := go.scanJson raw >>= decodeJson go

/-! ## toCellForKind -/

/-- `strings.TrimSpace`; a byte that begins no character is no space. -/
def trimBytes (raw : Bytes) : Bytes :=
  let isSpace (piece : Char × Bytes) : Bool := isWhiteSpace piece.1
  ((((pieces raw).dropWhile isSpace).reverse.dropWhile isSpace).reverse).flatMap Prod.snd

/-- The number in the bytes; one that begins no character is no digit. -/
def parsed {Number : Type} (parse : String → Except String Number) (raw : Bytes) : Option Number :=
  (parse (String.ofList (runes raw))).toOption

structure ByteCell where
  type : String
  value : Value

def bytesCell (raw : Bytes) : ByteCell := ⟨"bytes", .text (utf8 (Base64.encode raw))⟩

def textCell (raw : Bytes) : ByteCell :=
  if isValid raw then ⟨"text", .text raw⟩ else bytesCell raw

def falseWords : List String := ["0", "false", "FALSE"]

def trueWords : List String := ["1", "true", "TRUE"]

def toCellForKind (raw : Bytes) (kind : String) : ByteCell :=
  if kind = "text" then textCell raw
  else if kind = "i64" then
    match parsed parseInt raw with
    | some n => ⟨"i64", .int64 n⟩
    | none => textCell raw
  else if kind = "u64" then
    match parsed parseUint raw with
    | some n => ⟨"u64", .text (bytesOf (formatUint n))⟩
    | none => textCell raw
  else if kind = "f64" then
    match go.parseFloat (trimBytes raw) with
    | .ok f => ⟨"f64", .float64 f⟩
    | .error _ => textCell raw
  else if kind = "bool" then
    if isValid raw then
      if trimBytes raw ∈ falseWords.map bytesOf then ⟨"bool", .bool false⟩
      else if trimBytes raw ∈ trueWords.map bytesOf then ⟨"bool", .bool true⟩
      else bytesCell raw
    else bytesCell raw
  else if kind = "decimal" then
    if isValid raw then ⟨"decimal", .text raw⟩ else bytesCell raw
  else if kind = "date" ∨ kind = "time" ∨ kind = "datetime" then
    if isValid raw then ⟨kind, .text raw⟩ else bytesCell raw
  else if kind = "json" then
    match unmarshalJson go raw with
    | .ok value => ⟨"json", value⟩
    | .error _ => textCell raw
  else bytesCell raw

def recovered (cell : ByteCell) : Option Bytes :=
  match cell.value with
  | .text bytes =>
    if cell.type = "bytes" then Base64.decode (runes bytes)
    else if cell.type ∈ ["text", "decimal", "date", "time", "datetime"] then some bytes
    else none
  | _ => none

theorem recovered_bytesCell (raw : Bytes) : recovered (bytesCell raw) = some raw := by
  simp only [recovered, bytesCell, if_true, runes_utf8]
  exact Base64.decode_encode raw

theorem recovered_textCell (raw : Bytes) : recovered (textCell raw) = some raw := by
  rw [textCell]
  split
  · rfl
  · exact recovered_bytesCell raw

/-! ## Valid text -/

mutual

def Value.Valid : Value → Prop
  | .text bytes => Runes.Valid bytes
  | .list items => allValid items
  | .map entries => entriesValid entries
  | _ => True

def allValid : List Value → Prop
  | [] => True
  | item :: rest => item.Valid ∧ allValid rest

def entriesValid : List (Bytes × Value) → Prop
  | [] => True
  | (key, value) :: rest => Runes.Valid key ∧ value.Valid ∧ entriesValid rest

end

theorem literalText_valid {quoted bytes : Bytes} (read : literalText quoted = .ok bytes) :
    Runes.Valid bytes := by
  rw [literalText, unquote] at read
  cases unescaped : unescape quoted.length (runes quoted) with
  | none => simp [unescaped] at read
  | some chars =>
    simp only [unescaped, Option.map_some] at read
    cases read
    exact valid_utf8 chars

variable {go}

mutual

theorem decodeJson_valid (json : JsonSyntax) (value : Value)
    (decoded : decodeJson go json = .ok value) : value.Valid := by
  cases json with
  | null =>
    cases decoded
    trivial
  | bool flag =>
    cases decoded
    trivial
  | number literal =>
    rw [decodeJson] at decoded
    obtain ⟨double, _, rfl⟩ := map_eq_ok.1 decoded
    trivial
  | string quoted =>
    rw [decodeJson] at decoded
    obtain ⟨bytes, read, rfl⟩ := map_eq_ok.1 decoded
    exact literalText_valid read
  | array items =>
    rw [decodeJson] at decoded
    obtain ⟨values, read, rfl⟩ := map_eq_ok.1 decoded
    exact decodeItems_valid items values read
  | object members =>
    rw [decodeJson] at decoded
    obtain ⟨entries, read, rfl⟩ := map_eq_ok.1 decoded
    exact decodeMembers_valid members entries read

theorem decodeItems_valid (items : List JsonSyntax) (values : List Value)
    (decoded : decodeItems go items = .ok values) : allValid values := by
  cases items with
  | nil =>
    cases decoded
    trivial
  | cons item rest =>
    rw [decodeItems] at decoded
    obtain ⟨value, here, decoded⟩ := bind_eq_ok.1 decoded
    obtain ⟨tail, later, decoded⟩ := bind_eq_ok.1 decoded
    cases decoded
    exact ⟨decodeJson_valid item value here, decodeItems_valid rest tail later⟩

theorem decodeMembers_valid (members : List (Bytes × JsonSyntax)) (entries : List (Bytes × Value))
    (decoded : decodeMembers go members = .ok entries) : entriesValid entries := by
  cases members with
  | nil =>
    cases decoded
    trivial
  | cons member rest =>
    obtain ⟨key, json⟩ := member
    rw [decodeMembers] at decoded
    obtain ⟨name, named, decoded⟩ := bind_eq_ok.1 decoded
    obtain ⟨value, here, decoded⟩ := bind_eq_ok.1 decoded
    obtain ⟨tail, later, decoded⟩ := bind_eq_ok.1 decoded
    cases decoded
    have others := decodeMembers_valid rest tail later
    split
    · exact others
    · exact ⟨literalText_valid named, decodeJson_valid json value here, others⟩

end

variable (go) (raw : Bytes)

theorem bytesCell_valid : (bytesCell raw).value.Valid := valid_utf8 _

theorem textCell_valid : (textCell raw).value.Valid := by
  rw [textCell]
  split
  · next valid => exact (isValid_iff raw).1 valid
  · exact bytesCell_valid raw

theorem guarded_valid (kind : String) :
    (if isValid raw then (⟨kind, .text raw⟩ : ByteCell) else bytesCell raw).value.Valid := by
  split
  · next valid => exact (isValid_iff raw).1 valid
  · exact bytesCell_valid raw

theorem toCellForKind_valid (kind : String) : (toCellForKind go raw kind).value.Valid := by
  unfold toCellForKind
  split
  · exact textCell_valid raw
  split
  · cases parsed parseInt raw with
    | some n => trivial
    | none => exact textCell_valid raw
  split
  · cases parsed parseUint raw with
    | some n => exact valid_utf8 _
    | none => exact textCell_valid raw
  split
  · cases go.parseFloat (trimBytes raw) with
    | ok f => trivial
    | error err => exact textCell_valid raw
  split
  · split
    · split
      · trivial
      · split
        · trivial
        · exact bytesCell_valid raw
    · exact bytesCell_valid raw
  split
  · exact guarded_valid raw "decimal"
  split
  · exact guarded_valid raw kind
  split
  · cases decoded : unmarshalJson go raw with
    | ok value =>
      obtain ⟨json, _, read⟩ := bind_eq_ok.1 decoded
      exact decodeJson_valid json value read
    | error err => exact textCell_valid raw
  · exact bytesCell_valid raw

/-! ## What a cell tells -/

theorem trimBytes_utf8 (text : String) : trimBytes (bytesOf text) = bytesOf (trimSpace text) := by
  have onPieces (chars : List Char) :
      (chars.map fun char => (char, String.utf8EncodeChar char)).dropWhile
          (fun piece => isWhiteSpace piece.1) =
        (chars.dropWhile isWhiteSpace).map fun char => (char, String.utf8EncodeChar char) := by
    rw [List.dropWhile_map]
    rfl
  simp only [trimBytes, bytesOf, pieces_utf8, onPieces, ← List.map_reverse, trimSpace,
    String.toList_ofList, List.flatMap_map]
  rfl

theorem bytesOf_injective : Function.Injective bytesOf := by
  intro first second same
  exact String.toList_inj.1 (utf8_injective same)

/-- The kinds whose cells hold no text of the bytes themselves. -/
def convertedKinds : List String := ["i64", "u64", "f64", "bool", "json"]

theorem recovered_of_text {kind : String} (text : kind ∉ convertedKinds) :
    recovered (toCellForKind go raw kind) = some raw := by
  simp only [convertedKinds, List.mem_cons, List.not_mem_nil, or_false, not_or] at text
  obtain ⟨signed, unsigned, float, flag, json⟩ := text
  rw [toCellForKind, if_neg signed, if_neg unsigned, if_neg float, if_neg flag, if_neg json]
  split
  · exact recovered_textCell raw
  split
  · split
    · rfl
    · exact recovered_bytesCell raw
  split
  · next dated =>
      split
      · rcases dated with rfl | rfl | rfl <;> rfl
      · exact recovered_bytesCell raw
  · exact recovered_bytesCell raw

theorem parsed_some {Number : Type} {parse : String → Except String Number} {n : Number}
    (found : parsed parse raw = some n) : parse (String.ofList (runes raw)) = .ok n := by
  rw [parsed] at found
  cases outcome : parse (String.ofList (runes raw)) with
  | error err => simp [outcome, Except.toOption] at found
  | ok other =>
    rw [outcome] at found
    cases found
    rfl

theorem signed_cases : (∃ n : Int64, toCellForKind go raw "i64" = ⟨"i64", .int64 n⟩ ∧
      integerText (runes raw) = some n.toInt) ∨
    recovered (toCellForKind go raw "i64") = some raw := by
  have way : toCellForKind go raw "i64" =
      match parsed parseInt raw with
      | some n => ⟨"i64", .int64 n⟩
      | none => textCell raw := rfl
  rw [way]
  cases found : parsed parseInt raw with
  | none => exact Or.inr (recovered_textCell raw)
  | some n =>
    have value := (parseInt_value (parsed_some raw found)).1
    rw [String.toList_ofList] at value
    exact Or.inl ⟨n, rfl, value⟩

theorem unsigned_cases :
    (∃ n : UInt64, toCellForKind go raw "u64" = ⟨"u64", .text (bytesOf (formatUint n))⟩ ∧
      integerText (formatUint n).toList = some (n.toNat : Int) ∧
      integerText (runes raw) = some (n.toNat : Int)) ∨
    recovered (toCellForKind go raw "u64") = some raw := by
  have way : toCellForKind go raw "u64" =
      match parsed parseUint raw with
      | some n => ⟨"u64", .text (bytesOf (formatUint n))⟩
      | none => textCell raw := rfl
  rw [way]
  cases found : parsed parseUint raw with
  | none => exact Or.inr (recovered_textCell raw)
  | some n =>
    have value := (parseUint_value (parsed_some raw found)).1
    rw [String.toList_ofList] at value
    exact Or.inl ⟨n, rfl, (parseUint_value (parseUint_formatUint n)).1, value⟩

def boolWords (flag : Bool) : List String := if flag then trueWords else falseWords

theorem bool_cases :
    (∃ flag text, toCellForKind go raw "bool" = ⟨"bool", .bool flag⟩ ∧ raw = bytesOf text ∧
      trimSpace text ∈ boolWords flag) ∨ recovered (toCellForKind go raw "bool") = some raw := by
  have way : toCellForKind go raw "bool" =
      if isValid raw then
        if trimBytes raw ∈ falseWords.map bytesOf then ⟨"bool", .bool false⟩
        else if trimBytes raw ∈ trueWords.map bytesOf then ⟨"bool", .bool true⟩
        else bytesCell raw
      else bytesCell raw := rfl
  rw [way]
  split
  · next valid =>
      obtain ⟨chars, rfl⟩ := (isValid_iff raw).1 valid
      have text : utf8 chars = bytesOf (String.ofList chars) := by
        rw [bytesOf, String.toList_ofList]
      rw [text, trimBytes_utf8]
      split
      · next no =>
          exact Or.inl ⟨false, _, rfl, rfl, (List.mem_map_of_injective bytesOf_injective).1 no⟩
      split
      · next yes =>
          exact Or.inl ⟨true, _, rfl, rfl, (List.mem_map_of_injective bytesOf_injective).1 yes⟩
      · exact Or.inr (recovered_bytesCell _)
  · exact Or.inr (recovered_bytesCell raw)

structure Tells : Prop where
  texts : ∀ kind ∉ convertedKinds, recovered (toCellForKind go raw kind) = some raw
  signed : (∃ n : Int64, toCellForKind go raw "i64" = ⟨"i64", .int64 n⟩ ∧
      integerText (runes raw) = some n.toInt) ∨
    recovered (toCellForKind go raw "i64") = some raw
  unsigned : (∃ n : UInt64, toCellForKind go raw "u64" = ⟨"u64", .text (bytesOf (formatUint n))⟩ ∧
      integerText (formatUint n).toList = some (n.toNat : Int) ∧
      integerText (runes raw) = some (n.toNat : Int)) ∨
    recovered (toCellForKind go raw "u64") = some raw
  flag : (∃ flag text, toCellForKind go raw "bool" = ⟨"bool", .bool flag⟩ ∧ raw = bytesOf text ∧
      trimSpace text ∈ boolWords flag) ∨
    recovered (toCellForKind go raw "bool") = some raw
  valid : ∀ kind, (toCellForKind go raw kind).value.Valid

/-- Whatever the bytes are, their cell tells them or the value that they are, in valid text. -/
theorem bytes_told : Tells go raw where
  texts _ text := recovered_of_text go raw text
  signed := signed_cases go raw
  unsigned := unsigned_cases go raw
  flag := bool_cases go raw
  valid := toCellForKind_valid go raw

end Onetcli.DbIpc.ByteCells
