import Mathlib

/-!
Integers rounded to a number of significant bits: to the nearest value that has no
more of them, and to the even one of two that are equally near.
-/

namespace Onetcli.Rounding

variable (precision : Nat)

/-- The distance of neighbours among the values near `n` that have `precision` bits. -/
def spacing (n : Nat) : Nat := 2 ^ (n.size - precision)

def roundNat (n : Nat) : Nat :=
  let unit := spacing precision n
  let below := n / unit
  let rest := n % unit
  if 2 * rest < unit ∨ (2 * rest = unit ∧ below % 2 = 0) then below * unit
  else (below + 1) * unit

def roundInt (n : Int) : Int :=
  if n < 0 then -(roundNat precision n.natAbs : Int) else (roundNat precision n.natAbs : Int)

/-- The value has no more significant bits than the precision. -/
def Exact (n : Nat) : Prop := spacing precision n ∣ n

instance (n : Nat) : Decidable (Exact precision n) :=
  inferInstanceAs (Decidable (spacing precision n ∣ n))

variable {precision}

theorem spacing_pos (precision n : Nat) : 0 < spacing precision n := Nat.two_pow_pos _

theorem spacing_dvd_roundNat (precision n : Nat) : spacing precision n ∣ roundNat precision n := by
  rw [roundNat]
  split
  · exact Nat.dvd_mul_left _ _
  · exact Nat.dvd_mul_left _ _

theorem roundNat_eq_self_iff (n : Nat) : roundNat precision n = n ↔ Exact precision n := by
  constructor
  · intro same
    have multiple := spacing_dvd_roundNat precision n
    rwa [same] at multiple
  · intro exactly
    have rest : n % spacing precision n = 0 := Nat.mod_eq_zero_of_dvd exactly
    have down : 2 * 0 < spacing precision n := by
      have positive := spacing_pos precision n
      omega
    rw [roundNat, rest, if_pos (Or.inl down)]
    exact Nat.div_mul_cancel exactly

theorem roundNat_of_size_le {n : Nat} (short : n.size ≤ precision) : roundNat precision n = n := by
  rw [roundNat_eq_self_iff, Exact, spacing, Nat.sub_eq_zero_of_le short, Nat.pow_zero]
  exact Nat.one_dvd n

theorem roundNat_le_pow_of_lt {n w : Nat} (below : n < 2 ^ w) : roundNat precision n ≤ 2 ^ w := by
  by_cases short : n.size ≤ precision
  · rw [roundNat_of_size_le short]
    exact Nat.le_of_lt below
  · have cut : n.size - precision + precision = n.size := by omega
    have split : 2 ^ n.size = 2 ^ precision * spacing precision n := by
      rw [spacing, ← Nat.pow_add, Nat.add_comm, cut]
    have quotient : n / spacing precision n < 2 ^ precision := by
      rw [Nat.div_lt_iff_lt_mul (spacing_pos precision n), ← split]
      exact Nat.lt_size_self n
    have upper : (n / spacing precision n + 1) * spacing precision n ≤ 2 ^ n.size := by
      rw [split]
      exact Nat.mul_le_mul_right _ quotient
    have size_le : 2 ^ n.size ≤ 2 ^ w :=
      Nat.pow_le_pow_right (by decide) (Nat.size_le.mpr below)
    have lower : n / spacing precision n * spacing precision n ≤
        (n / spacing precision n + 1) * spacing precision n :=
      Nat.mul_le_mul_right _ (Nat.le_succ _)
    rw [roundNat]
    split
    · omega
    · omega

theorem exact_two_pow (positive : 0 < precision) (w : Nat) : Exact precision (2 ^ w) := by
  rw [Exact, spacing, Nat.size_pow]
  exact Nat.pow_dvd_pow 2 (by omega)

theorem roundNat_le_pow (positive : 0 < precision) {n w : Nat} (bounded : n ≤ 2 ^ w) :
    roundNat precision n ≤ 2 ^ w := by
  rcases Nat.lt_or_eq_of_le bounded with below | rfl
  · exact roundNat_le_pow_of_lt below
  · exact Nat.le_of_eq ((roundNat_eq_self_iff _).mpr (exact_two_pow positive w))

theorem roundInt_eq_self_iff (n : Int) : roundInt precision n = n ↔ Exact precision n.natAbs := by
  rw [← roundNat_eq_self_iff, roundInt]
  split
  · omega
  · omega

theorem roundInt_natCast (n : Nat) : roundInt precision n = roundNat precision n := by
  rw [roundInt, if_neg (by omega), Int.natAbs_natCast]

theorem roundInt_mem_range (positive : 0 < precision) {n : Int} {w : Nat}
    (lower : -2 ^ w ≤ n) (upper : n < 2 ^ w) :
    -2 ^ w ≤ roundInt precision n ∧ roundInt precision n ≤ 2 ^ w := by
  have power : (2 : Int) ^ w = (2 ^ w : Nat) := (Int.natCast_pow 2 w).symm
  rw [power] at lower upper ⊢
  have rounded := roundNat_le_pow positive (show n.natAbs ≤ 2 ^ w by omega)
  rw [roundInt]
  split
  · omega
  · omega

end Onetcli.Rounding
