import Mathlib.Data.List.Basic

/-!
Strings that are any bytes, read character by character: a byte that begins no character counts
as U+FFFD. Encoded text is read as itself.
-/

namespace Onetcli.Runes

def utf8 (text : List Char) : List UInt8 := text.flatMap String.utf8EncodeChar

/-- The character that the bytes begin with. -/
def first (bytes : List UInt8) : Option Char := ByteArray.utf8DecodeChar? bytes.toByteArray 0

def runesIn : Nat → List UInt8 → List Char
  | 0, _ => []
  | _, [] => []
  | rounds + 1, byte :: rest =>
    match first (byte :: rest) with
    | some char => char :: runesIn rounds ((byte :: rest).drop char.utf8Size)
    | none => '\ufffd' :: runesIn rounds rest

def runes (bytes : List UInt8) : List Char := runesIn bytes.length bytes

theorem first_encoded (char : Char) (rest : List UInt8) :
    first (String.utf8EncodeChar char ++ rest) = some char := by
  rw [first, List.toByteArray_append]
  exact ByteArray.utf8DecodeChar?_utf8EncodeChar_append

/-- The characters, each with the bytes that it was read from. -/
def piecesIn : Nat → List UInt8 → List (Char × List UInt8)
  | 0, _ => []
  | _, [] => []
  | rounds + 1, byte :: rest =>
    match first (byte :: rest) with
    | some char =>
      (char, (byte :: rest).take char.utf8Size) ::
        piecesIn rounds ((byte :: rest).drop char.utf8Size)
    | none => ('\ufffd', [byte]) :: piecesIn rounds rest

def pieces (bytes : List UInt8) : List (Char × List UInt8) := piecesIn bytes.length bytes

theorem runesIn_eq (rounds : Nat) (bytes : List UInt8) :
    runesIn rounds bytes = (piecesIn rounds bytes).map Prod.fst := by
  induction rounds generalizing bytes with
  | zero => rfl
  | succ rounds ih =>
    cases bytes with
    | nil => rfl
    | cons byte rest =>
      rw [runesIn, piecesIn]
      cases first (byte :: rest) with
      | some char => exact congrArg _ (ih _)
      | none => exact congrArg _ (ih _)

theorem piecesIn_utf8 (rounds : Nat) (text : List Char) (enough : (utf8 text).length ≤ rounds) :
    piecesIn rounds (utf8 text) = text.map fun char => (char, String.utf8EncodeChar char) := by
  induction text generalizing rounds with
  | nil =>
    cases rounds <;> rfl
  | cons char rest ih =>
    have whole : utf8 (char :: rest) = String.utf8EncodeChar char ++ utf8 rest := List.flatMap_cons
    have size : (String.utf8EncodeChar char).length = char.utf8Size :=
      String.length_utf8EncodeChar char
    have positive := char.utf8Size_pos
    have begins := first_encoded char (utf8 rest)
    rw [whole, List.length_append] at enough
    rw [whole]
    have here : (String.utf8EncodeChar char ++ utf8 rest).take char.utf8Size =
        String.utf8EncodeChar char := by
      rw [← size, List.take_left]
    have next : (String.utf8EncodeChar char ++ utf8 rest).drop char.utf8Size = utf8 rest := by
      rw [← size, List.drop_left]
    cases bytes : String.utf8EncodeChar char ++ utf8 rest with
    | nil =>
      have none := congrArg List.length bytes
      rw [List.length_append, List.length_nil] at none
      omega
    | cons byte tail =>
      cases rounds with
      | zero => omega
      | succ rounds =>
        rw [bytes] at begins next here
        rw [piecesIn, begins]
        dsimp only
        rw [here, next, ih rounds (by omega)]
        rfl

theorem pieces_utf8 (text : List Char) :
    pieces (utf8 text) = text.map fun char => (char, String.utf8EncodeChar char) :=
  piecesIn_utf8 _ text (Nat.le_refl _)

theorem runes_utf8 (text : List Char) : runes (utf8 text) = text := by
  have read := pieces_utf8 text
  rw [runes, runesIn_eq, ← pieces, read, List.map_map]
  exact List.map_id _

theorem utf8_injective : Function.Injective utf8 := by
  intro first second same
  have read := congrArg runes same
  rw [runes_utf8, runes_utf8] at read
  exact read

/-! ## Valid bytes -/

def Valid (bytes : List UInt8) : Prop := ∃ text, utf8 text = bytes

def isValid (bytes : List UInt8) : Bool := utf8 (runes bytes) == bytes

theorem valid_utf8 (text : List Char) : Valid (utf8 text) := ⟨text, rfl⟩

theorem isValid_iff (bytes : List UInt8) : isValid bytes = true ↔ Valid bytes := by
  rw [isValid, beq_iff_eq]
  constructor
  · intro same
    exact ⟨runes bytes, same⟩
  · rintro ⟨text, rfl⟩
    rw [runes_utf8]

end Onetcli.Runes
