import Onetcli.DbIpc.Cells

/-!
The integers that internal/dbipc/query.go binds for the numbers and strings of a request. A string
is parsed with its range, a double is only asked whether it is an integer before it is converted.
-/

namespace Onetcli.DbIpc

variable (go : GoLibrary)

/-! ## The number that was given -/

def natText (digits : List Char) : Option Nat :=
  if digits ≠ [] ∧ digits.all Char.isDigit then some (Nat.ofDigitChars 10 digits 0) else none

def signed (negative : Bool) (n : Nat) : Int := if negative then -n else n

def integerText (text : List Char) : Option Int :=
  (natText (splitSign text).2).map (signed (splitSign text).1)

def literalValue (literal : String) : Option Rat :=
  let number := splitSign literal.toList
  let parts := number.2.span fun char => char ≠ 'e' && char ≠ 'E'
  let mantissa := parts.1.span fun char => char ≠ '.'
  let fraction := mantissa.2.drop 1
  let exponent := if parts.2 = [] then some 0 else integerText (parts.2.drop 1)
  match natText mantissa.1, natText (mantissa.1 ++ fraction), exponent with
  | some _, some digits, some exponent =>
    some (signed number.1 digits * (10 : Rat) ^ (exponent - fraction.length))
  | _, _, _ => none

example : literalValue "-12.50e1" = some (-125) := by decide +kernel

/-- A JSON number or string. -/
inductive Given where
  | integer (value : Int)
  | decimal (literal : String)
  | string (text : String)

def Given.json : Given → Json
  | .integer value => .integer value
  | .decimal literal => .decimal literal
  | .string text => .string text

def Given.number : Given → Option Rat
  | .integer value => some value
  | .decimal literal => literalValue literal
  | .string text => (integerText text.toList).map fun value => value

def decodedInteger : Any → Option Int
  | .float64 (.whole value) => some value
  | .text text => integerText text.toList
  | _ => none

/-- The integer that is bound; one above `math.MaxInt64` is bound as its digits. -/
def boundInteger : Param → Option Int
  | .value (.int64 value) => some value.toInt
  | .value (.text digits) => integerText digits.toList
  | _ => none

/-! ## What is asked of a parameter -/

structure Within (low high value : Int) : Prop where
  low : low ≤ value
  high : value < high

def IntegerWithin (low high : Int) (given : Given) : Prop :=
  ∃ value : Int, given.number = some (value : Rat) ∧ Within low high value

structure Bound (low high : Int) (given : Given) (value : Any) (result : Param) : Prop where
  decoded : ∃ integer, decodedInteger value = some integer ∧ boundInteger result = some integer ∧
    Within low high integer
  given : IntegerWithin low high given

def Checked (kind : String) (low high : Int) (given : Given) : Prop :=
  ∀ value result, unmarshal go given.json = .ok value →
    paramFromWire go (cell kind value) = .ok result → Bound low high given value result

/-- `math.Trunc(v) == v`. -/
def Double.integral : Double → Bool
  | .whole _ | .infinite _ => true
  | _ => false

/-- A number that is decoded to an integral double is an integer of the type, and so is the
double. -/
def Decodes (low high : Int) (given : Given) : Prop :=
  ∀ double, unmarshal go given.json = .ok (.float64 double) → double.integral = true →
    (∃ integer, double = .whole integer ∧ Within low high integer) ∧ IntegerWithin low high given

/-! ## Texts -/

theorem parseDigits_value {n value : Nat} {digits : List Char} (bounded : n < 2 ^ 64)
    (parsed : parseDigits n digits = .ok value) :
    digits.all Char.isDigit = true ∧ value = Nat.ofDigitChars 10 digits n ∧ value < 2 ^ 64 := by
  induction digits generalizing n with
  | nil =>
    cases parsed
    exact ⟨rfl, rfl, bounded⟩
  | cons char rest ih =>
    rw [parseDigits] at parsed
    by_cases digit : char.isDigit = true
    · dsimp only at parsed
      rw [digit, Bool.not_true, if_neg Bool.false_ne_true] at parsed
      split at parsed
      · cases parsed
      · next small =>
          obtain ⟨others, same, fits⟩ := ih (Nat.lt_of_not_le small) parsed
          refine ⟨?_, ?_, fits⟩
          · rw [List.all_cons, digit, others]
            rfl
          · rw [Nat.ofDigitChars_cons]
            exact same
    · simp [digit] at parsed

theorem parseMagnitude_value {value : Nat} {digits : List Char}
    (parsed : parseMagnitude digits = .ok value) :
    natText digits = some value ∧ value < 2 ^ 64 := by
  rw [parseMagnitude] at parsed
  split at parsed
  · cases parsed
  · next some =>
      obtain ⟨all, same, fits⟩ := parseDigits_value (by decide) parsed
      exact ⟨by rw [natText, if_pos ⟨some, all⟩, same], fits⟩

theorem splitSign_of_natText {digits : List Char} {value : Nat}
    (number : natText digits = some value) : splitSign digits = (false, digits) := by
  unfold splitSign
  split
  · simp [natText] at number
  · simp [natText] at number
  · rfl

theorem parseInt_value {text : String} {value : Int64} (parsed : parseInt text = .ok value) :
    integerText text.toList = some value.toInt ∧ Within (-2 ^ 63) (2 ^ 63) value.toInt := by
  refine ⟨?_, value.le_toInt, value.toInt_lt⟩
  unfold parseInt at parsed
  cases sign : splitSign text.toList with
  | mk negative digits =>
    cases magnitude : parseMagnitude digits with
    | error err => simp [sign, magnitude] at parsed
    | ok n =>
      have number := (parseMagnitude_value magnitude).1
      cases negative with
      | false =>
        simp only [sign, magnitude, Bool.not_false, Bool.true_and, Bool.false_and,
          Bool.false_eq_true, if_false, decide_eq_true_eq] at parsed
        split at parsed
        · cases parsed
        · next small =>
            cases parsed
            rw [integerText, sign, number, Int64.toInt_ofInt_of_le (by omega) (by omega)]
            rfl
      | true =>
        simp only [sign, magnitude, Bool.not_true, Bool.true_and, Bool.false_and,
          Bool.false_eq_true, if_false, if_true, decide_eq_true_eq] at parsed
        split at parsed
        · cases parsed
        · next small =>
            cases parsed
            rw [integerText, sign, number, Int64.toInt_ofInt_of_le (by omega) (by omega)]
            rfl

theorem parseUint_value {text : String} {value : UInt64} (parsed : parseUint text = .ok value) :
    integerText text.toList = some (value.toNat : Int) ∧ Within 0 (2 ^ 64) value.toNat := by
  have small := value.toNat_lt
  refine ⟨?_, by omega, by omega⟩
  unfold parseUint at parsed
  cases magnitude : parseMagnitude text.toList with
  | error err => simp [magnitude] at parsed
  | ok n =>
    simp only [magnitude] at parsed
    cases parsed
    obtain ⟨number, fits⟩ := parseMagnitude_value magnitude
    rw [integerText, splitSign_of_natText number, number, UInt64.toNat_ofNat_of_lt' fits]
    rfl

theorem boundInteger_uint64Param (value : UInt64) :
    boundInteger (.value (uint64Param value)) = some (value.toNat : Int) := by
  have small := value.toNat_lt
  unfold uint64Param
  split
  · rw [boundInteger, Int64.toInt_ofInt_of_le (by omega) (by omega)]
  · exact (parseUint_value (parseUint_formatUint value)).1

/-! ## Both types -/

/-- What the two integer types have in common: every integral double is converted, rightly when it
is of the type, no other double is, and a text is parsed with its range. -/
structure IntegerKind (kind : String) (low high : Int) : Prop where
  converts : ∀ double, double.integral = true →
    ∃ result, paramFromWire go (cell kind (.float64 double)) = .ok result
  rejects : ∀ double result, paramFromWire go (cell kind (.float64 double)) = .ok result →
    double.integral = true
  exact : ∀ value result, Within low high value →
    paramFromWire go (cell kind (.float64 (.whole value))) = .ok result →
      boundInteger result = some value
  parses : ∀ text result, paramFromWire go (cell kind (.text text)) = .ok result →
    ∃ value, integerText text.toList = some value ∧ boundInteger result = some value ∧
      Within low high value

theorem i64_kind : IntegerKind go "i64" (-2 ^ 63) (2 ^ 63) where
  converts double integral := by
    rw [paramFromWire_i64]
    cases double with
    | whole value => exact ⟨_, rfl⟩
    | infinite negative => exact ⟨_, rfl⟩
    | fraction text => cases integral
    | nan => cases integral
  rejects double result bound := by
    rw [paramFromWire_i64] at bound
    cases double with
    | whole value => rfl
    | infinite negative => rfl
    | fraction text => cases bound
    | nan => cases bound
  exact value result within bound := by
    have low := within.low
    have high := within.high
    rw [paramFromWire_i64] at bound
    cases bound
    rw [boundInteger, int64OfFloat, if_pos ⟨low, high⟩,
      Int64.toInt_ofInt_of_le (by omega) (by omega)]
  parses text result bound := by
    rw [paramFromWire_i64] at bound
    cases parsed : parseInt text with
    | error err => simp [asInt64, parsed, Except.map] at bound
    | ok value =>
      simp only [asInt64, parsed, Except.map] at bound
      cases bound
      exact ⟨_, (parseInt_value parsed).1, rfl, (parseInt_value parsed).2⟩

theorem u64_kind : IntegerKind go "u64" 0 (2 ^ 64) where
  converts double integral := by
    rw [paramFromWire_u64]
    cases double with
    | whole value => exact ⟨_, rfl⟩
    | infinite negative => exact ⟨_, rfl⟩
    | fraction text => cases integral
    | nan => cases integral
  rejects double result bound := by
    rw [paramFromWire_u64] at bound
    cases double with
    | whole value => rfl
    | infinite negative => rfl
    | fraction text => cases bound
    | nan => cases bound
  exact value result within bound := by
    have low := within.low
    have high := within.high
    rw [paramFromWire_u64] at bound
    cases bound
    rw [boundInteger_uint64Param, uint64OfFloat, if_pos ⟨low, high⟩,
      UInt64.toNat_ofNat_of_lt' (by simp [UInt64.size]; omega), Int.toNat_of_nonneg low]
  parses text result bound := by
    rw [paramFromWire_u64] at bound
    cases parsed : parseUint text with
    | error err => simp [asUint64Param, uint64Of, parsed, Except.map] at bound
    | ok value =>
      simp only [asUint64Param, uint64Of, parsed, Except.map] at bound
      cases bound
      exact ⟨_, (parseUint_value parsed).1, boundInteger_uint64Param value,
        (parseUint_value parsed).2⟩

theorem unmarshal_given {given : Given} {value : Any} (read : unmarshal go given.json = .ok value) :
    (∃ double, value = .float64 double) ∨ ∃ text, given = .string text ∧ value = .text text := by
  cases given with
  | integer number =>
    simp only [Given.json, unmarshal, unmarshalInteger] at read
    split at read
    · cases read
      exact Or.inl ⟨_, rfl⟩
    · cases read
  | decimal literal =>
    simp only [Given.json, unmarshal] at read
    cases parsed : go.parseFloat literal with
    | error err => simp [parsed, Except.map] at read
    | ok double =>
      simp only [parsed, Except.map] at read
      cases read
      exact Or.inl ⟨_, rfl⟩
  | string text =>
    simp only [Given.json, unmarshal] at read
    cases read
    exact Or.inr ⟨text, rfl, rfl⟩

variable {go}

theorem IntegerKind.checked_iff {kind : String} {low high : Int}
    (integers : IntegerKind go kind low high) (given : Given) :
    Checked go kind low high given ↔ Decodes go low high given := by
  constructor
  · intro checked double read integral
    obtain ⟨result, bound⟩ := integers.converts double integral
    obtain ⟨⟨integer, decoded, _, within⟩, written⟩ := checked _ _ read bound
    refine ⟨⟨integer, ?_, within⟩, written⟩
    cases double with
    | whole value =>
      cases decoded
      rfl
    | _ => cases decoded
  · intro decodes value result read bound
    rcases unmarshal_given go read with ⟨double, rfl⟩ | ⟨text, rfl, rfl⟩
    · obtain ⟨⟨integer, rfl, within⟩, written⟩ :=
        decodes double read (integers.rejects double result bound)
      exact ⟨⟨integer, rfl, integers.exact integer result within bound, within⟩, written⟩
    · obtain ⟨integer, denoted, same, within⟩ := integers.parses text result bound
      refine ⟨⟨integer, denoted, same, within⟩, integer, ?_, within⟩
      rw [Given.number, denoted]
      rfl

variable (go)

/-- An integer parameter is bound only to the number that was given, exactly when an integral
double is an integer of the type that was given as one. -/
theorem integers_checked_iff (given : Given) :
    (Checked go "i64" (-2 ^ 63) (2 ^ 63) given ↔ Decodes go (-2 ^ 63) (2 ^ 63) given) ∧
      (Checked go "u64" 0 (2 ^ 64) given ↔ Decodes go 0 (2 ^ 64) given) :=
  ⟨(i64_kind go).checked_iff given, (u64_kind go).checked_iff given⟩

/-- The integer after the last `i64` is bound as the first, and -1 as some `u64`. -/
theorem integers_beyond_wrapped :
    unmarshal amd64 (Given.integer (2 ^ 63)).json = .ok (.float64 (.whole (2 ^ 63))) ∧
      paramFromWire amd64 (cell "i64" (.float64 (.whole (2 ^ 63)))) =
        .ok (.value (.int64 (-9223372036854775808))) ∧
      ¬Checked amd64 "i64" (-2 ^ 63) (2 ^ 63) (.integer (2 ^ 63)) ∧
      ¬Checked amd64 "u64" 0 (2 ^ 64) (.integer (-1)) := by
  have large : unmarshal amd64 (Given.integer (2 ^ 63)).json = .ok (.float64 (.whole (2 ^ 63))) := by
    rw [Given.json, unmarshal, unmarshalInteger_of_le (2 ^ 63) (by decide +kernel)]
    rfl
  have negative : unmarshal amd64 (Given.integer (-1)).json = .ok (.float64 (.whole (-1))) := by
    rw [Given.json, unmarshal, unmarshalInteger_of_le (-1) (by decide +kernel)]
    rfl
  refine ⟨large, rfl, fun checked => ?_, fun checked => ?_⟩
  · obtain ⟨⟨integer, same, within⟩, _⟩ := ((i64_kind amd64).checked_iff _).1 checked _ large rfl
    cases same
    exact absurd within.high (by decide)
  · obtain ⟨⟨integer, same, within⟩, _⟩ := ((u64_kind amd64).checked_iff _).1 checked _ negative rfl
    cases same
    exact absurd within.low (by decide)

end Onetcli.DbIpc
