import Mathlib.Data.List.Basic

/-!
Bytes written with fewer characters: Base64 and percent encoding, and how both are read back.
-/

/-!
Base64 with the standard alphabet and padding: three bytes at a time as four digits of six
bits. What was encoded is decoded again.
-/

namespace Onetcli.Base64

def digitChar (digit : Nat) : Char :=
  if digit < 26 then Char.ofNat (65 + digit)
  else if digit < 52 then Char.ofNat (71 + digit)
  else if digit < 62 then Char.ofNat (digit - 4)
  else if digit = 62 then '+'
  else '/'

def digitValue (char : Char) : Option Nat :=
  let code := char.toNat
  if 65 ≤ code ∧ code ≤ 90 then some (code - 65)
  else if 97 ≤ code ∧ code ≤ 122 then some (code - 71)
  else if 48 ≤ code ∧ code ≤ 57 then some (code + 4)
  else if char = '+' then some 62
  else if char = '/' then some 63
  else none

theorem digitValue_digitChar : ∀ digit < 64, digitValue (digitChar digit) = some digit := by
  decide

theorem digitChar_ne_pad : ∀ digit < 64, digitChar digit ≠ '=' := by decide

def encode : List UInt8 → List Char
  | [] => []
  | [a] => [digitChar (a.toNat / 4), digitChar (a.toNat % 4 * 16), '=', '=']
  | [a, b] =>
    [digitChar (a.toNat / 4), digitChar (a.toNat % 4 * 16 + b.toNat / 16),
      digitChar (b.toNat % 16 * 4), '=']
  | a :: b :: c :: rest =>
    digitChar (a.toNat / 4) :: digitChar (a.toNat % 4 * 16 + b.toNat / 16) ::
      digitChar (b.toNat % 16 * 4 + c.toNat / 64) :: digitChar (c.toNat % 64) :: encode rest

/-- The byte that two neighbouring digits share. -/
def firstByte (w x : Nat) : UInt8 := UInt8.ofNat (w * 4 + x / 16)
def secondByte (x y : Nat) : UInt8 := UInt8.ofNat (x % 16 * 16 + y / 4)
def thirdByte (y z : Nat) : UInt8 := UInt8.ofNat (y % 4 * 64 + z)

/-- Padding only ends a text; the bits that it leaves over are not looked at. -/
def decode : List Char → Option (List UInt8)
  | [] => some []
  | w :: x :: y :: z :: rest => do
    let w ← digitValue w
    let x ← digitValue x
    if y = '=' then
      if z = '=' ∧ rest = [] then some [firstByte w x] else none
    else
      let y ← digitValue y
      if z = '=' then
        if rest = [] then some [firstByte w x, secondByte x y] else none
      else
        let z ← digitValue z
        let tail ← decode rest
        some (firstByte w x :: secondByte x y :: thirdByte y z :: tail)
  | _ => none

section Digits

variable (a b c : UInt8)

theorem firstByte_of (low : Nat) (small : low < 16) :
    firstByte (a.toNat / 4) (a.toNat % 4 * 16 + low) = a := by
  have value : a.toNat / 4 * 4 + (a.toNat % 4 * 16 + low) / 16 = a.toNat := by omega
  rw [firstByte, value, UInt8.ofNat_toNat]

theorem secondByte_of (high low : Nat) (small : low < 4) :
    secondByte (high * 16 + b.toNat / 16) (b.toNat % 16 * 4 + low) = b := by
  have bounded := b.toNat_lt
  have value : (high * 16 + b.toNat / 16) % 16 * 16 + (b.toNat % 16 * 4 + low) / 4 = b.toNat := by
    omega
  rw [secondByte, value, UInt8.ofNat_toNat]

theorem thirdByte_of (high : Nat) : thirdByte (high * 4 + c.toNat / 64) (c.toNat % 64) = c := by
  have bounded := c.toNat_lt
  have value : (high * 4 + c.toNat / 64) % 4 * 64 + c.toNat % 64 = c.toNat := by omega
  rw [thirdByte, value, UInt8.ofNat_toNat]

end Digits

theorem decode_encode (bytes : List UInt8) : decode (encode bytes) = some bytes := by
  induction bytes using encode.induct with
  | case1 => rfl
  | case2 a =>
    have first := a.toNat_lt
    rw [encode, decode, digitValue_digitChar _ (by omega), digitValue_digitChar _ (by omega)]
    simpa using firstByte_of a 0 (by decide)
  | case3 a b =>
    have first := a.toNat_lt
    have second := b.toNat_lt
    rw [encode, decode, digitValue_digitChar _ (by omega), digitValue_digitChar _ (by omega),
      digitValue_digitChar _ (by omega)]
    have third := digitChar_ne_pad (b.toNat % 16 * 4) (by omega)
    have left := firstByte_of a (b.toNat / 16) (by omega)
    have right := secondByte_of b (a.toNat % 4) 0 (by decide)
    simp only [Nat.add_zero] at right
    simp [third, left, right]
  | case4 a b c rest ih =>
    have first := a.toNat_lt
    have second := b.toNat_lt
    have third := c.toNat_lt
    rw [encode, decode, digitValue_digitChar _ (by omega), digitValue_digitChar _ (by omega),
      digitValue_digitChar _ (by omega), digitValue_digitChar _ (by omega), ih]
    have noPad := digitChar_ne_pad (b.toNat % 16 * 4 + c.toNat / 64) (by omega)
    have noEnd := digitChar_ne_pad (c.toNat % 64) (by omega)
    have left := firstByte_of a (b.toNat / 16) (by omega)
    have middle := secondByte_of b (a.toNat % 4) (c.toNat / 64) (by omega)
    have right := thirdByte_of c (b.toNat % 16)
    simp [noPad, noEnd, left, middle, right]

end Onetcli.Base64

/-!
Percent encoding over any kind of bytes: a mark with two digits behind it stands for one
byte. What is written with digits for every byte that is not safe is read back, as long as
the mark is not safe.
-/

namespace Onetcli.Percent

variable {Byte : Type} [DecidableEq Byte] (mark : Byte)

/-- The byte that the digits behind a mark stand for. -/
def escaped (pair : Byte → Byte → Option Byte) (byte : Byte) : List Byte → Option Byte
  | high :: low :: _ => if byte = mark then pair high low else none
  | _ => none

/-- A mark without two digits behind it stands for itself. -/
def decode (pair : Byte → Byte → Option Byte) : List Byte → List Byte
  | [] => []
  | byte :: rest =>
    match escaped mark pair byte rest with
    | some read => read :: decode pair (rest.drop 2)
    | none => byte :: decode pair rest
termination_by bytes => bytes.length
decreasing_by all_goals simp; try omega

/-- How one byte is written. -/
def spell (safe : Byte → Bool) (digits : Byte → Byte × Byte) (byte : Byte) : List Byte :=
  if safe byte then [byte] else [mark, (digits byte).1, (digits byte).2]

def encode (safe : Byte → Bool) (digits : Byte → Byte × Byte) (bytes : List Byte) : List Byte :=
  bytes.flatMap (spell mark safe digits)

variable {mark} {pair : Byte → Byte → Option Byte}

theorem decode_plain {byte : Byte} (other : byte ≠ mark) (rest : List Byte) :
    decode mark pair (byte :: rest) = byte :: decode mark pair rest := by
  have unescaped : escaped mark pair byte rest = none := by
    fun_cases escaped mark pair byte rest with
    | case1 => contradiction
    | case2 => rfl
    | case3 => rfl
  rw [decode, unescaped]

theorem decode_digits {high low read : Byte} (digits : pair high low = some read)
    (rest : List Byte) :
    decode mark pair (mark :: high :: low :: rest) = read :: decode mark pair rest := by
  have found : escaped mark pair mark (high :: low :: rest) = some read := by
    rw [escaped, if_pos rfl, digits]
  rw [decode, found]
  rfl

/-- A byte is read back from its spelling if a safe one is not the mark and the digits of
any other stand for it. -/
def Readable (mark : Byte) (pair : Byte → Byte → Option Byte) (safe : Byte → Bool)
    (digits : Byte → Byte × Byte) (byte : Byte) : Prop :=
  if safe byte then byte ≠ mark else pair (digits byte).1 (digits byte).2 = some byte

theorem decode_spell {safe : Byte → Bool} {digits : Byte → Byte × Byte} {byte : Byte}
    (readable : Readable mark pair safe digits byte) (rest : List Byte) :
    decode mark pair (spell mark safe digits byte ++ rest) = byte :: decode mark pair rest := by
  rw [Readable] at readable
  rw [spell]
  split
  · rename_i kept
    rw [if_pos kept] at readable
    exact decode_plain readable rest
  · rename_i other
    rw [if_neg other] at readable
    exact decode_digits readable rest

theorem decode_encode {safe : Byte → Bool} {digits : Byte → Byte × Byte} {bytes : List Byte}
    (readable : ∀ byte ∈ bytes, Readable mark pair safe digits byte) :
    decode mark pair (encode mark safe digits bytes) = bytes := by
  induction bytes with
  | nil =>
    rw [encode, List.flatMap_nil, decode]
  | cons byte rest ih =>
    have tail := ih fun other member => readable other (List.mem_cons_of_mem _ member)
    rw [encode] at tail
    rw [encode, List.flatMap_cons, decode_spell (readable byte List.mem_cons_self), tail]

end Onetcli.Percent
