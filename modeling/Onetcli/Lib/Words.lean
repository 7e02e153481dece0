import Mathlib.Algebra.Group.Nat.Defs
import Mathlib.Data.List.Basic

/-!
Unsigned words of 32 or 64 bits, as the sizes and indices of a program are, with what a
conversion to them and a saturating sum give. Vectors no longer than a word counts, and the
slices of them: reading a range that is not inside is a fault.
-/

namespace Onetcli.Words

inductive Word where
  | bits32
  | bits64
  deriving DecidableEq

def Word.bits : Word → Nat
  | .bits32 => 32
  | .bits64 => 64

def Word.max (word : Word) : Nat := 2 ^ word.bits - 1

/-- What a conversion of a larger number keeps. -/
def Word.cast (word : Word) (value : Nat) : Nat := value % 2 ^ word.bits

def Word.saturatingAdd (word : Word) (first second : Nat) : Nat := min (first + second) word.max

def clamp (value low high : Nat) : Nat := min (max value low) high

structure Vec (word : Word) (Item : Type) where
  items : List Item
  fits : items.length ≤ word.max

variable {Item : Type} {word : Word}

def slice (items : List Item) (start stop : Nat) : Option (List Item) :=
  if start ≤ stop ∧ stop ≤ items.length then some ((items.drop start).take (stop - start)) else none

theorem slice_inside {items : List Item} {start stop : Nat} (order : start ≤ stop)
    (inside : stop ≤ items.length) :
    slice items start stop = some ((items.drop start).take (stop - start)) :=
  if_pos ⟨order, inside⟩

theorem Word.max_pos (word : Word) : 0 < word.max := by
  cases word <;> decide

theorem Word.cast_le (word : Word) (value : Nat) : word.cast value ≤ value :=
  Nat.mod_le _ _

theorem Word.cast_of_le {value : Nat} (fits : value ≤ word.max) : word.cast value = value := by
  apply Nat.mod_eq_of_lt
  have positive := Nat.two_pow_pos word.bits
  unfold Word.max at fits
  omega

theorem Word.cast_sub (word : Word) {value part : Nat} (small : part ≤ word.cast value) :
    word.cast (value - part) = word.cast value - part := by
  have positive := Nat.two_pow_pos word.bits
  have whole : 2 ^ word.bits * (value / 2 ^ word.bits) + word.cast value = value :=
    Nat.div_add_mod _ _
  have bounded : word.cast value < 2 ^ word.bits := Nat.mod_lt _ positive
  have difference : value - part =
      word.cast value - part + 2 ^ word.bits * (value / 2 ^ word.bits) := by omega
  rw [difference]
  unfold Word.cast at bounded ⊢
  rw [Nat.add_mul_mod_self_left]
  exact Nat.mod_eq_of_lt (by omega)

theorem Word.saturatingAdd_le_add (word : Word) (first second : Nat) :
    word.saturatingAdd first second ≤ first + second :=
  Nat.min_le_left _ _

theorem Word.le_saturatingAdd {first : Nat} (fits : first ≤ word.max) (second : Nat) :
    first ≤ word.saturatingAdd first second :=
  Nat.le_min.mpr ⟨Nat.le_add_right _ _, fits⟩

theorem clamp_pos (value low high : Nat) (positive : 0 < low) (order : low ≤ high) :
    0 < clamp value low high := by
  unfold clamp
  omega

end Onetcli.Words
