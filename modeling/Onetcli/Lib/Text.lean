import Mathlib.Data.String.Basic

/-!
The string functions that both Go's `strings` package and Rust's `str` offer,
on Lean strings. White space is the Unicode `White_Space` property, which
`strings.TrimSpace` and `str::trim` share; the ASCII notion of `Char` is smaller.
-/

namespace Onetcli.Text

/-- Named, so that every module decides membership among texts by this instance. -/
instance lawfulBEqChars : LawfulBEq (List Char) := inferInstance

def isWhiteSpace (c : Char) : Bool :=
  (9 ≤ c.toNat && c.toNat ≤ 13) || c.toNat == 0x20 || c.toNat == 0x85 || c.toNat == 0xA0 ||
    c.toNat == 0x1680 || (0x2000 ≤ c.toNat && c.toNat ≤ 0x200A) || c.toNat == 0x2028 ||
    c.toNat == 0x2029 || c.toNat == 0x202F || c.toNat == 0x205F || c.toNat == 0x3000

def trimSpace (text : String) : String :=
  String.ofList
    ((text.toList.dropWhile isWhiteSpace).reverse.dropWhile isWhiteSpace).reverse

/-- `strings.TrimSpace(text) == ""` and `text.trim().is_empty()`. -/
def isBlank (text : String) : Bool := trimSpace text == ""

/-- Replace from the left; `skip` characters belong to a match already replaced. -/
def replaceFrom (old new : List Char) : Nat → List Char → List Char
  | _, [] => []
  | skip + 1, _ :: rest => replaceFrom old new skip rest
  | 0, c :: rest =>
    if old.isPrefixOf (c :: rest) then new ++ replaceFrom old new (old.length - 1) rest
    else c :: replaceFrom old new 0 rest

/-- `strings.ReplaceAll` and `str::replace` for a non-empty `old`. -/
def replaceAll (text old new : String) : String :=
  String.ofList (replaceFrom old.toList new.toList 0 text.toList)

/-- The text between two `quote`s, with those inside doubled. -/
def enclose (quote text : String) : String :=
  quote ++ replaceAll text quote (quote ++ quote) ++ quote

theorem toList_foldl_append {Item : Type} (render : Item → String) (items : List Item)
    (out : String) : (items.foldl (fun out item => out ++ render item) out).toList =
      out.toList ++ (items.map fun item => (render item).toList).flatten := by
  induction items generalizing out with
  | nil => rw [List.foldl_nil, List.map_nil, List.flatten_nil, List.append_nil]
  | cons item rest ih =>
    rw [List.foldl_cons, ih, String.toList_append, List.map_cons, List.flatten_cons,
      List.append_assoc]

theorem fromUTF8_toByteArray (text : String) : String.fromUTF8? text.toByteArray = some text := by
  unfold String.fromUTF8?
  rw [dif_pos text.isValidUTF8]
  rfl

/-- The simple case mappings on ASCII letters and on the letters outside ASCII
that map into it, so that a mapped text equals an ASCII word exactly when the
full mapping gives that word. -/
def upperRune (c : Char) : Char :=
  if c = 'ſ' then 'S' else if c = 'ı' then 'I' else c.toUpper

def lowerRune (c : Char) : Char :=
  if c = '\u212a' then 'k' else if c = 'İ' then 'i' else c.toLower

def toUpper (text : String) : String := String.ofList (text.toList.map upperRune)

def toLower (text : String) : String := String.ofList (text.toList.map lowerRune)

def hexDigit (n : Nat) : Char := if n < 10 then Char.ofNat (48 + n) else Char.ofNat (87 + n)

def quoteRune (c : Char) : List Char :=
  if c = '"' then ['\\', '"']
  else if c = '\\' then ['\\', '\\']
  else if c.toNat = 7 then ['\\', 'a']
  else if c.toNat = 8 then ['\\', 'b']
  else if c.toNat = 9 then ['\\', 't']
  else if c.toNat = 10 then ['\\', 'n']
  else if c.toNat = 11 then ['\\', 'v']
  else if c.toNat = 12 then ['\\', 'f']
  else if c.toNat = 13 then ['\\', 'r']
  else if c.toNat < 32 ∨ c.toNat = 127 then
    ['\\', 'x', hexDigit (c.toNat / 16), hexDigit (c.toNat % 16)]
  else [c]

/-- Go's `%q`, for texts whose characters beyond ASCII are printable. -/
def quoted (text : String) : String :=
  String.ofList ('"' :: text.toList.flatMap quoteRune ++ ['"'])

theorem digits_injective : Function.Injective fun number : Nat => toString number := by
  intro first second same
  have sameDigits : Nat.toDigits 10 first = Nat.toDigits 10 second := by
    rw [← Nat.toList_repr, ← Nat.toList_repr]
    exact congrArg String.toList same
  calc
    first = Nat.ofDigitChars 10 (Nat.toDigits 10 first) 0 := Nat.ofDigitChars_ten_toDigits.symm
    _ = Nat.ofDigitChars 10 (Nat.toDigits 10 second) 0 := by rw [sameDigits]
    _ = second := Nat.ofDigitChars_ten_toDigits

end Onetcli.Text
