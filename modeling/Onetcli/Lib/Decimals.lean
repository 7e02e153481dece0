import Mathlib

/-!
Decimal digits: a number padded with zeros to a width, the value of a text of digits, and the
fraction behind a decimal point, where zeros at the end change nothing.
-/

namespace Onetcli.Decimals

def digitValue (c : Char) : Nat := c.toNat - 48

def value (text : List Char) : Nat := text.foldl (fun n c => 10 * n + digitValue c) 0

def digitOf (n : Nat) : Char := Char.ofNat (48 + n % 10)

/-- The last `width` digits of a number. -/
def padded : Nat → Nat → List Char
  | 0, _ => []
  | width + 1, n => padded width (n / 10) ++ [digitOf n]

def fraction (text : List Char) : ℚ := value text / 10 ^ text.length

def readFraction : List Char → Option ℚ
  | [] => some 0
  | '.' :: digits => if digits ≠ [] ∧ digits.all Char.isDigit then some (fraction digits) else none
  | _ => none

theorem value_append_singleton (text : List Char) (c : Char) :
    value (text ++ [c]) = 10 * value text + digitValue c := by
  rw [value, List.foldl_append]
  rfl

theorem digitOf_spec : ∀ n < 10, (digitOf n).isDigit ∧ digitValue (digitOf n) = n := by decide

theorem digitOf_mod (n : Nat) : digitOf (n % 10) = digitOf n := by
  rw [digitOf, Nat.mod_mod, digitOf]

theorem digitOf_isDigit (n : Nat) : (digitOf n).isDigit := by
  rw [← digitOf_mod]
  exact (digitOf_spec _ (Nat.mod_lt n (by decide))).1

theorem digitValue_digitOf (n : Nat) : digitValue (digitOf n) = n % 10 := by
  rw [← digitOf_mod]
  exact (digitOf_spec _ (Nat.mod_lt n (by decide))).2

theorem padded_length (width n : Nat) : (padded width n).length = width := by
  induction width generalizing n with
  | zero => rfl
  | succ width ih => rw [padded, List.length_append, ih, List.length_singleton]

theorem padded_isDigit (width n : Nat) : ∀ c ∈ padded width n, c.isDigit := by
  induction width generalizing n with
  | zero =>
    intro c among
    cases among
  | succ width ih =>
    intro c among
    rcases List.mem_append.mp among with front | last
    · exact ih _ c front
    · rw [List.mem_singleton.mp last]
      exact digitOf_isDigit n

theorem value_padded (width n : Nat) : value (padded width n) = n % 10 ^ width := by
  induction width generalizing n with
  | zero => exact (Nat.mod_one n).symm
  | succ width ih =>
    rw [padded, value_append_singleton, ih, digitValue_digitOf, Nat.pow_succ', Nat.mod_mul]
    exact Nat.add_comm _ _

/-! ## Fractions -/

theorem fraction_padded {width n : Nat} (fits : n < 10 ^ width) :
    fraction (padded width n) = n / 10 ^ width := by
  rw [fraction, value_padded, Nat.mod_eq_of_lt fits, padded_length]

theorem fraction_zero (text : List Char) : fraction (text ++ ['0']) = fraction text := by
  have zero : digitValue '0' = 0 := rfl
  rw [fraction, fraction, value_append_singleton, zero, Nat.add_zero, List.length_append,
    List.length_singleton, pow_succ', Nat.cast_mul, Nat.cast_ofNat]
  exact mul_div_mul_left _ _ (by norm_num)

theorem fraction_trimmed (text : List Char) :
    fraction (text.rdropWhile (· == '0')) = fraction text := by
  induction text using List.reverseRecOn with
  | nil => rfl
  | append_singleton text c ih =>
    by_cases zero : c = '0'
    · subst zero
      rw [List.rdropWhile_concat_pos (· == '0') text '0' rfl, ih, fraction_zero]
    · rw [List.rdropWhile_concat_neg _ _ _ (by simpa using zero)]

theorem readFraction_digits {digits : List Char} (some : digits ≠ [])
    (all : ∀ c ∈ digits, c.isDigit) : readFraction ('.' :: digits) = .some (fraction digits) :=
  if_pos ⟨some, List.all_eq_true.mpr all⟩

theorem readFraction_start {text : List Char} {part : ℚ} (read : readFraction text = some part) :
    text = [] ∨ ∃ digits, text = '.' :: digits := by
  unfold readFraction at read
  split at read
  · exact Or.inl rfl
  · exact Or.inr ⟨_, rfl⟩
  · cases read

end Onetcli.Decimals
