import Onetcli.Lib.Checks
import Onetcli.Lib.Rounding
import Onetcli.Lib.Text

/-!
Cells of internal/dbipc/query.go, from a scanned value to the wire and from the
wire to a bound parameter. `encoding/json` writes an integer with all its digits
and reads every number of an interface value as a double, so an integer cell
passes through 53 significant bits.
-/

namespace Onetcli.DbIpc

open Checks Rounding

/-! ## Values -/

/-- A double. One that is no integer is known by the text it prints as. -/
inductive Double where
  | whole (value : Int)
  | fraction (text : String)
  | nan
  | infinite (negative : Bool)
  deriving DecidableEq

/-- What a driver scans; the integers of every width are widened. A time is the text
of its UTC form, a value of any other type what `fmt.Sprint` makes of it. -/
inductive Scanned where
  | nil
  | bool (value : Bool)
  | signed (value : Int64)
  | unsigned (value : UInt64)
  | float (value : Double)
  | bytes (raw : ByteArray)
  | text (value : String)
  | time (formatted : String)
  | other (printed : String)

/-- The interface values inside a cell. -/
inductive Any where
  | nil
  | bool (value : Bool)
  | int64 (value : Int64)
  | uint64 (value : UInt64)
  | float64 (value : Double)
  | text (value : String)
  | list (items : List Any)
  | map (entries : List (String × Any))

/-- The entries of the Go map. -/
abbrev CellValue := List (String × Any)

inductive Param where
  | value (value : Any)
  | bytes (raw : ByteArray)

inductive Json where
  | null
  | bool (value : Bool)
  | integer (value : Int)
  | decimal (literal : String)
  | string (value : String)
  | array (items : List Json)
  | object (entries : List (String × Json))

/-- The parts of Go and its library that the integer paths do not depend on. A double
outside the range of an integer type is converted as the implementation pleases. -/
structure GoLibrary where
  sprint : Any → String
  formatFloat : Double → String
  parseFloat : String → Except String Double
  encodeBase64 : ByteArray → String
  decodeBase64 : String → Except String ByteArray
  printJson : Json → String
  parseJson : ByteArray → Except String Json
  int64OutOfRange : Double → Int64
  uint64OutOfRange : Double → UInt64

variable (go : GoLibrary)

/-! ## encoding/json -/

def doublePrecision : Nat := 53
def doubleExponent : Nat := 1024

def marshalFloat : Double → Except String Json
  | .whole value =>
    if value.natAbs < 10 ^ 21 then .ok (.integer value)
    else .ok (.decimal (go.formatFloat (.whole value)))
  | .fraction text => .ok (.decimal text)
  | double => .error ("json: unsupported value: " ++ go.formatFloat double)

mutual

@[grind =]
def marshal : Any → Except String Json
  | .nil => .ok .null
  | .bool value => .ok (.bool value)
  | .int64 value => .ok (.integer value.toInt)
  | .uint64 value => .ok (.integer value.toNat)
  | .float64 value => marshalFloat go value
  | .text value => .ok (.string value)
  | .list items => (marshalItems items).map .array
  | .map entries => (marshalEntries entries).map .object

def marshalItems : List Any → Except String (List Json)
  | [] => .ok []
  | item :: rest => do
    let json ← marshal item
    let tail ← marshalItems rest
    .ok (json :: tail)

def marshalEntries : List (String × Any) → Except String (List (String × Json))
  | [] => .ok []
  | (key, value) :: rest => do
    let json ← marshal value
    let tail ← marshalEntries rest
    .ok ((key, json) :: tail)

end

/-- A number literal as a double, to the nearest and ties to even. -/
def unmarshalInteger (value : Int) : Except String Any :=
  let rounded := roundInt doublePrecision value
  if rounded.natAbs < 2 ^ doubleExponent then .ok (.float64 (.whole rounded))
  else .error ("json: cannot unmarshal number " ++ toString value ++
    " into Go value of type float64")

mutual

@[grind =]
def unmarshal : Json → Except String Any
  | .null => .ok .nil
  | .bool value => .ok (.bool value)
  | .integer value => unmarshalInteger value
  | .decimal literal => (go.parseFloat literal).map .float64
  | .string value => .ok (.text value)
  | .array items => (unmarshalItems items).map .list
  | .object entries => (unmarshalEntries entries).map .map

def unmarshalItems : List Json → Except String (List Any)
  | [] => .ok []
  | item :: rest => do
    let value ← unmarshal item
    let tail ← unmarshalItems rest
    .ok (value :: tail)

/-- Of two entries with one key the later is kept. -/
def unmarshalEntries : List (String × Json) → Except String (List (String × Any))
  | [] => .ok []
  | (key, json) :: rest => do
    let value ← unmarshal json
    let tail ← unmarshalEntries rest
    .ok (if tail.any (fun entry => entry.1 == key) then tail else (key, value) :: tail)

end

def overWire (cell : CellValue) : Except String CellValue := do
  let entries ← marshalEntries go cell
  unmarshalEntries go entries

/-! ## strconv -/

def syntaxError (function text : String) : String :=
  "strconv." ++ function ++ ": parsing " ++ Text.quoted text ++ ": invalid syntax"

def rangeError (function text : String) : String :=
  "strconv." ++ function ++ ": parsing " ++ Text.quoted text ++ ": value out of range"

inductive NumError where
  | invalid
  | range
  deriving DecidableEq

def NumError.message (function text : String) : NumError → String
  | .invalid => syntaxError function text
  | .range => rangeError function text

/-- The loop over the digits; the first that is none, or that makes the number too
large, ends it. -/
def parseDigits : Nat → List Char → Except NumError Nat
  | n, [] => .ok n
  | n, char :: rest =>
    if !char.isDigit then .error .invalid
    else
      let n := 10 * n + (char.toNat - '0'.toNat)
      if 2 ^ 64 ≤ n then .error .range else parseDigits n rest

def parseMagnitude (digits : List Char) : Except NumError Nat :=
  if digits = [] then .error .invalid else parseDigits 0 digits

def parseUint (text : String) : Except String UInt64 :=
  match parseMagnitude text.toList with
  | .ok n => .ok (UInt64.ofNat n)
  | .error err => .error (err.message "ParseUint" text)

def splitSign : List Char → Bool × List Char
  | '-' :: digits => (true, digits)
  | '+' :: digits => (false, digits)
  | digits => (false, digits)

def parseInt (text : String) : Except String Int64 :=
  let (negative, digits) := splitSign text.toList
  match parseMagnitude digits with
  | .error err => .error (err.message "ParseInt" text)
  | .ok n =>
    if !negative && 2 ^ 63 ≤ n then .error (rangeError "ParseInt" text)
    else if negative && 2 ^ 63 < n then .error (rangeError "ParseInt" text)
    else .ok (Int64.ofInt (if negative then -n else n))

def formatUint (n : UInt64) : String := toString n.toNat

def parseBool (text : String) : Except String Bool :=
  if text ∈ ["1", "t", "T", "TRUE", "true", "True"] then .ok true
  else if text ∈ ["0", "f", "F", "FALSE", "false", "False"] then .ok false
  else .error (syntaxError "ParseBool" text)

/-! ## To the wire -/

def cell (kind : String) (value : Any) : CellValue := [("type", .text kind), ("value", value)]

def bytesCell (raw : ByteArray) : CellValue := cell "bytes" (.text (go.encodeBase64 raw))

def toCell : Scanned → CellValue
  | .nil => [("type", .text "null")]
  | .bool value => cell "bool" (.bool value)
  | .signed value => cell "i64" (.int64 value)
  | .unsigned value => cell "u64" (.uint64 value)
  | .float value => cell "f64" (.float64 value)
  | .bytes raw => bytesCell go raw
  | .text value => cell "text" (.text value)
  | .time formatted => cell "datetime" (.text formatted)
  | .other printed => cell "text" (.text printed)

/-- `utf8.Valid(raw)` together with `string(raw)`. -/
def validText (raw : ByteArray) : Option String := String.fromUTF8? raw

def textCell (raw : ByteArray) : CellValue :=
  match validText raw with
  | some text => cell "text" (.text text)
  | none => bytesCell go raw

def parseBytes {Number : Type} (parse : String → Except String Number) (raw : ByteArray) :
    Option Number :=
  (validText raw).bind fun text => (parse text).toOption

def toCellForKind (value : Scanned) (kind : String) : CellValue :=
  match value with
  | .bytes raw =>
    if kind = "text" then textCell go raw
    else if kind = "i64" then
      match parseBytes parseInt raw with
      | some n => cell "i64" (.int64 n)
      | none => textCell go raw
    else if kind = "u64" then
      match parseBytes parseUint raw with
      | some n => cell "u64" (.text (formatUint n))
      | none => textCell go raw
    else if kind = "f64" then
      match parseBytes (fun text => go.parseFloat (Text.trimSpace text)) raw with
      | some f => cell "f64" (.float64 f)
      | none => textCell go raw
    else if kind = "bool" then
      match (validText raw).map Text.trimSpace with
      | some text =>
        if text ∈ ["0", "false", "FALSE"] then cell "bool" (.bool false)
        else if text ∈ ["1", "true", "TRUE"] then cell "bool" (.bool true)
        else bytesCell go raw
      | none => bytesCell go raw
    else if kind ∈ ["decimal", "date", "time", "datetime"] then
      match validText raw with
      | some text => cell kind (.text text)
      | none => bytesCell go raw
    else if kind = "json" then
      match go.parseJson raw >>= unmarshal go with
      | .ok value => cell "json" value
      | .error _ => textCell go raw
    else bytesCell go raw
  | value => toCell go value

/-! ## From the wire -/

def asBool : Any → Except String Bool
  | .bool value => .ok value
  | .text value => parseBool value
  | value => parseBool (go.sprint value)

/-- `int64(v)` of an integer that is a double. -/
def int64OfFloat (value : Int) : Int64 :=
  if -2 ^ 63 ≤ value ∧ value < 2 ^ 63 then Int64.ofInt value
  else go.int64OutOfRange (.whole value)

def asInt64 : Any → Except String Int64
  | .int64 value => .ok value
  | .float64 (.whole value) => .ok (int64OfFloat go value)
  | .float64 (.infinite negative) => .ok (go.int64OutOfRange (.infinite negative))
  | .float64 double =>
    .error ("i64 parameter has non-integer value " ++ go.formatFloat double)
  | .text value => parseInt value
  | value => parseInt (go.sprint value)

/-- `uint64(v)` of an integer that is a double. -/
def uint64OfFloat (value : Int) : UInt64 :=
  if 0 ≤ value ∧ value < 2 ^ 64 then UInt64.ofNat value.toNat
  else go.uint64OutOfRange (.whole value)

def uint64Of : Any → Except String UInt64
  | .uint64 value => .ok value
  | .float64 (.whole value) => .ok (uint64OfFloat go value)
  | .float64 (.infinite negative) => .ok (go.uint64OutOfRange (.infinite negative))
  | .float64 double =>
    .error ("u64 parameter has non-integer value " ++ go.formatFloat double)
  | .text value => parseUint value
  | value => parseUint (go.sprint value)

/-- A value above `math.MaxInt64` is bound as its digits. -/
def uint64Param (n : UInt64) : Any :=
  if n.toNat < 2 ^ 63 then .int64 (Int64.ofInt n.toNat) else .text (formatUint n)

def asUint64Param (value : Any) : Except String Any := (uint64Of go value).map uint64Param

def asFloat64 : Any → Except String Double
  | .float64 value => .ok value
  | .text value => go.parseFloat value
  | value => go.parseFloat (go.sprint value)

def asString : Any → String
  | .nil => ""
  | .text value => value
  | value => go.sprint value

def entry (param : CellValue) (key : String) : Any := (param.lookup key).getD .nil

def paramFromWire (param : CellValue) : Except String Param :=
  let kind := match entry param "type" with
    | .text kind => Text.toLower kind
    | _ => ""
  let value := entry param "value"
  if kind = "" then .error "missing required cell value type"
  else if kind = "null" then .ok (.value .nil)
  else if kind = "bool" then (asBool go value).map fun value => .value (.bool value)
  else if kind = "i64" then (asInt64 go value).map fun value => .value (.int64 value)
  else if kind = "u64" then (asUint64Param go value).map .value
  else if kind = "f64" then (asFloat64 go value).map fun value => .value (.float64 value)
  else if kind ∈ ["decimal", "text", "uuid", "date", "time", "datetime", "duration", "geo",
      "custom"] then
    .ok (.value (.text (asString go value)))
  else if kind = "bytes" then
    match go.decodeBase64 (asString go value) with
    | .ok raw => .ok (.bytes raw)
    | .error err => .error ("invalid base64 bytes parameter: " ++ err)
  else if kind = "json" ∨ kind = "array" ∨ kind = "map" then
    (marshal go value).map fun json => .value (.text (go.printJson json))
  else .ok (.value value)

def received (cell : CellValue) : Except String Param := do
  let param ← overWire go cell
  paramFromWire go param

/-! ## Integers over the wire -/

section Numbers

theorem parseDigits_eq_ok {chars : List Char} (digits : ∀ char ∈ chars, char.isDigit) {n : Nat}
    (bounded : Nat.ofDigitChars 10 chars n < 2 ^ 64) :
    parseDigits n chars = .ok (Nat.ofDigitChars 10 chars n) := by
  induction chars generalizing n with
  | nil => simp [parseDigits]
  | cons char rest ih =>
    rw [Nat.ofDigitChars_cons] at bounded ⊢
    have small : 10 * n + (char.toNat - '0'.toNat) < 2 ^ 64 := by
      have grows : Nat.ofDigitChars 10 rest (10 * n + (char.toNat - '0'.toNat)) =
          10 ^ rest.length * (10 * n + (char.toNat - '0'.toNat)) +
            Nat.ofDigitChars 10 rest 0 :=
        Nat.ofDigitChars_eq_ofDigitChars_zero
      have scaled := Nat.le_mul_of_pos_left (10 * n + (char.toNat - '0'.toNat))
        (Nat.pow_pos (n := rest.length) (show 0 < 10 by decide))
      omega
    rw [parseDigits, digits char List.mem_cons_self, if_neg (by decide),
      if_neg (Nat.not_le.mpr small)]
    exact ih (fun other member => digits other (List.mem_cons_of_mem _ member)) bounded

theorem parseUint_formatUint (n : UInt64) : parseUint (formatUint n) = .ok n := by
  have digits : (formatUint n).toList = Nat.toDigits 10 n.toNat := Nat.toList_repr
  have parsed := parseDigits_eq_ok (n := 0)
    (fun char member => Nat.isDigit_of_mem_toDigits (b := 10) (n := n.toNat) (by decide)
      (by decide) member)
    (by rw [Nat.ofDigitChars_ten_toDigits]; exact n.toNat_lt)
  rw [parseUint, parseMagnitude, digits, if_neg Nat.toDigits_ne_nil, parsed,
    Nat.ofDigitChars_ten_toDigits]
  exact congrArg Except.ok (UInt64.ofNat_toNat)

theorem formatUint_injective : Function.Injective formatUint := by
  intro first second same
  exact UInt64.toNat_inj.mp (Text.digits_injective same)

theorem uint64Param_injective : Function.Injective uint64Param := by
  intro first second same
  rw [uint64Param, uint64Param] at same
  split at same <;> split at same
  · rename_i small₁ small₂
    have values := congrArg Int64.toInt (Any.int64.inj same)
    rw [Int64.toInt_ofInt_of_le (by omega) (by omega),
      Int64.toInt_ofInt_of_le (by omega) (by omega)] at values
    exact UInt64.toNat_inj.mp (by omega)
  · cases same
  · cases same
  · exact formatUint_injective (Any.text.inj same)

end Numbers

variable (v : Int64) (u : UInt64)

theorem roundInt_int64_range :
    -2 ^ 63 ≤ roundInt doublePrecision v.toInt ∧ roundInt doublePrecision v.toInt ≤ 2 ^ 63 :=
  roundInt_mem_range (by decide) v.le_toInt v.toInt_lt

theorem roundNat_uint64_le : roundNat doublePrecision u.toNat ≤ 2 ^ 64 :=
  roundNat_le_pow_of_lt u.toNat_lt

theorem received_cell {kind : String} {value result : Any} {json : Json}
    (written : marshal go value = .ok json) (read : unmarshal go json = .ok result) :
    received go (cell kind value) = paramFromWire go (cell kind result) := by
  simp [received, overWire, cell, marshalEntries, marshal, unmarshalEntries, unmarshal, written,
    read, bind, Except.bind]

theorem paramFromWire_i64 (value : Any) : paramFromWire go (cell "i64" value) =
      (asInt64 go value).map fun value => .value (.int64 value) := by
  rfl

theorem paramFromWire_u64 (value : Any) :
    paramFromWire go (cell "u64" value) = (asUint64Param go value).map .value := by
  rfl

theorem unmarshalInteger_of_le (value : Int)
    (bounded : (roundInt doublePrecision value).natAbs ≤ 2 ^ 64) :
    unmarshalInteger value = .ok (.float64 (.whole (roundInt doublePrecision value))) := by
  have finite : (roundInt doublePrecision value).natAbs < 2 ^ doubleExponent :=
    Nat.lt_of_le_of_lt bounded (Nat.pow_lt_pow_right (by decide) (by decide))
  rw [unmarshalInteger, if_pos finite]

theorem received_i64 : received go (cell "i64" (.int64 v)) =
      .ok (.value (.int64 (int64OfFloat go (roundInt doublePrecision v.toInt)))) := by
  have range := roundInt_int64_range v
  have read := unmarshalInteger_of_le v.toInt (by omega)
  rw [received_cell go (by rw [marshal]) (by rw [unmarshal]; exact read), paramFromWire_i64]
  rfl

theorem received_u64_number : received go (cell "u64" (.uint64 u)) =
      .ok (.value (uint64Param (uint64OfFloat go (roundNat doublePrecision u.toNat)))) := by
  have bounded := roundNat_uint64_le u
  have rounded : roundInt doublePrecision u.toNat = roundNat doublePrecision u.toNat :=
    roundInt_natCast u.toNat
  have read := unmarshalInteger_of_le u.toNat (by omega)
  rw [rounded] at read
  rw [received_cell go (by rw [marshal]) (by rw [unmarshal]; exact read), paramFromWire_u64]
  rfl

theorem received_u64_text :
    received go (cell "u64" (.text (formatUint u))) = .ok (.value (uint64Param u)) := by
  rw [received_cell go (by rw [marshal]) (by rw [unmarshal]), paramFromWire_u64, asUint64Param,
    uint64Of, parseUint_formatUint]
  rfl

/-- The double nearest to an integer is the integer itself, or one past the range that
the implementation happens to turn back into it. -/
def SurvivesSigned : Prop :=
  Exact doublePrecision v.toInt.natAbs ∨
    roundInt doublePrecision v.toInt = 2 ^ 63 ∧ go.int64OutOfRange (.whole (2 ^ 63)) = v

def SurvivesUnsigned : Prop :=
  Exact doublePrecision u.toNat ∨
    roundNat doublePrecision u.toNat = 2 ^ 64 ∧ go.uint64OutOfRange (.whole (2 ^ 64)) = u

theorem int64OfFloat_round_iff :
    int64OfFloat go (roundInt doublePrecision v.toInt) = v ↔ SurvivesSigned go v := by
  have range := roundInt_int64_range v
  have inside := v.toInt_lt
  rw [SurvivesSigned, ← roundInt_eq_self_iff, int64OfFloat]
  generalize roundInt doublePrecision v.toInt = rounded at range ⊢
  split
  · rename_i fits
    rw [← Int64.toInt_inj, Int64.toInt_ofInt_of_le (by omega) (by omega)]
    omega
  · rename_i outside
    have top : rounded = 2 ^ 63 := by omega
    subst top
    constructor
    · intro same
      exact Or.inr ⟨rfl, same⟩
    · rintro (same | ⟨_, same⟩)
      · omega
      · exact same

theorem uint64OfFloat_round_iff :
    uint64OfFloat go (roundNat doublePrecision u.toNat) = u ↔ SurvivesUnsigned go u := by
  have bounded := roundNat_uint64_le u
  have inside := u.toNat_lt
  rw [SurvivesUnsigned, ← roundNat_eq_self_iff, uint64OfFloat]
  generalize roundNat doublePrecision u.toNat = rounded at bounded ⊢
  split
  · rename_i fits
    rw [← UInt64.toNat_inj, Int.toNat_natCast, UInt64.toNat_ofNat_of_lt' ?_]
    · omega
    · show rounded < 2 ^ 64
      omega
  · rename_i outside
    have top : rounded = 2 ^ 64 := by omega
    subst top
    constructor
    · intro same
      exact Or.inr ⟨rfl, same⟩
    · rintro (same | ⟨_, same⟩)
      · omega
      · exact same

theorem toCellForKind_i64 {raw : ByteArray} {v : Int64} (parsed : parseBytes parseInt raw = some v) :
    toCellForKind go (.bytes raw) "i64" = cell "i64" (.int64 v) := by
  simp [toCellForKind, parsed]

theorem toCellForKind_u64 {raw : ByteArray} {u : UInt64}
    (parsed : parseBytes parseUint raw = some u) :
    toCellForKind go (.bytes raw) "u64" = cell "u64" (.text (formatUint u)) := by
  simp [toCellForKind, parsed]

theorem received_i64_iff :
    received go (cell "i64" (.int64 v)) = .ok (.value (.int64 v)) ↔ SurvivesSigned go v := by
  rw [received_i64, ← int64OfFloat_round_iff]
  simp

theorem received_u64_number_iff :
    received go (cell "u64" (.uint64 u)) = .ok (.value (uint64Param u)) ↔
      SurvivesUnsigned go u := by
  rw [received_u64_number, ← uint64OfFloat_round_iff, ← uint64Param_injective.eq_iff]
  simp

/-- A scanned integer is bound again exactly when a double holds it; only a `u64`
column of a text protocol, which travels as its digits, is safe for every value. -/
theorem integer_cells_survive_iff :
    (∀ v, received go (toCell go (.signed v)) = .ok (.value (.int64 v)) ↔
        SurvivesSigned go v) ∧
      (∀ v raw, parseBytes parseInt raw = some v →
        (received go (toCellForKind go (.bytes raw) "i64") = .ok (.value (.int64 v)) ↔
          SurvivesSigned go v)) ∧
      (∀ u, received go (toCell go (.unsigned u)) = .ok (.value (uint64Param u)) ↔
        SurvivesUnsigned go u) ∧
      (∀ u raw, parseBytes parseUint raw = some u →
        received go (toCellForKind go (.bytes raw) "u64") = .ok (.value (uint64Param u))) := by
  refine ⟨received_i64_iff go, ?_, received_u64_number_iff go, ?_⟩
  · intro v raw parsed
    rw [toCellForKind_i64 go parsed]
    exact received_i64_iff go v
  · intro u raw parsed
    rw [toCellForKind_u64 go parsed]
    exact received_u64_text go u

/-- Conversions as on amd64; the other functions are not reached by integers. -/
def amd64 : GoLibrary where
  sprint _ := ""
  formatFloat _ := ""
  parseFloat text := .error (syntaxError "ParseFloat" text)
  encodeBase64 _ := ""
  decodeBase64 _ := .error "illegal base64 data at input byte 0"
  printJson _ := ""
  parseJson _ := .error "unexpected end of JSON input"
  int64OutOfRange _ := Int64.minValue
  uint64OutOfRange _ := 2 ^ 63

theorem small_decimal_survives :
    received amd64 (toCellForKind amd64 (.bytes "-42".toUTF8) "i64") =
      .ok (.value (.int64 (-42))) := by
  refine ((integer_cells_survive_iff amd64).2.1 (-42) "-42".toUTF8 ?_).mpr (Or.inl ?_)
  · rfl
  · decide

-- The first integer that no double holds: 2^53 + 1 comes back as 2^53.
theorem odd_integer_beyond_double_is_lost :
    received amd64 (toCell amd64 (.signed 9007199254740993)) =
        .ok (.value (.int64 9007199254740992)) ∧
      received amd64 (toCell amd64 (.signed 9007199254740993)) ≠
        .ok (.value (.int64 9007199254740993)) ∧
      received amd64 (toCellForKind amd64 (.bytes "9007199254740993".toUTF8) "i64") =
        .ok (.value (.int64 9007199254740992)) ∧
      received amd64 (toCell amd64 (.unsigned 9007199254740993)) =
        .ok (.value (.int64 9007199254740992)) := by
  have signed : received amd64 (cell "i64" (.int64 9007199254740993)) =
      .ok (.value (.int64 9007199254740992)) := by
    have rounded : int64OfFloat amd64
        (roundInt doublePrecision (9007199254740993 : Int64).toInt) = 9007199254740992 := by
      decide
    rw [received_i64, rounded]
  have unsigned : received amd64 (cell "u64" (.uint64 9007199254740993)) =
      .ok (.value (.int64 9007199254740992)) := by
    have rounded : uint64OfFloat amd64
        (roundNat doublePrecision (9007199254740993 : UInt64).toNat) = 9007199254740992 := by
      decide
    rw [received_u64_number, rounded]
    rfl
  refine ⟨signed, ?_, ?_, unsigned⟩
  · intro same
    have equal := Except.ok.inj (signed.symm.trans same)
    exact absurd (Any.int64.inj (Param.value.inj equal)) (by decide)
  · rw [toCellForKind_i64 amd64 (v := 9007199254740993) rfl]
    exact signed

end Onetcli.DbIpc
