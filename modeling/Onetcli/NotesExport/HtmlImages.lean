import Onetcli.Lib.ByteCodes
import Onetcli.Lib.Encodings
import Onetcli.Lib.Parts
import Onetcli.Lib.QueryStrings
import Onetcli.NotesExport.Docx

/-!
The images of an HTML export: `inline_html_images` of notes-document-export-core writes the
data of an asset in place of each `src` value that is its path. A value is compared as it
stands and with its ampersands and percent escapes read; an escaped apostrophe is not read.
-/

namespace Onetcli.NotesExport

open Text Chars Base64

/-! ## Base64 -/

def alphabet : Chars := "ABCDEFGHIJKLMNOPQRSTUVWXYZabcdefghijklmnopqrstuvwxyz0123456789+/".toList

/-- One character of the alphabet, for the low six bits of a number. -/
def sextet (bits : Nat) : Char := alphabet.getD (bits &&& 0x3f) '='

/-- A chunk of up to three bytes. -/
def chunkText (chunk : List UInt8) : Chars :=
  let first := (chunk.getD 0 0).toNat
  let second := (chunk.getD 1 0).toNat
  let third := (chunk.getD 2 0).toNat
  [sextet (first >>> 2), sextet (first <<< 4 ||| second >>> 4),
    if 1 < chunk.length then sextet (second <<< 2 ||| third >>> 6) else '=',
    if 2 < chunk.length then sextet third else '=']

def appendBase64 : List UInt8 → Chars
  | [] => []
  | first :: second :: third :: rest => chunkText [first, second, third] ++ appendBase64 rest
  | chunk => chunkText chunk

theorem alphabet_digits : ∀ digit < 64, alphabet.getD digit '=' = digitChar digit := by
  decide +kernel

theorem sextet_digit (bits : Nat) : sextet bits = digitChar (bits % 64) := by
  have low : bits &&& 0x3f = bits % 64 := Nat.and_two_pow_sub_one_eq_mod bits 6
  rw [sextet, low, alphabet_digits _ (Nat.mod_lt _ (by decide))]

theorem shift_or (high width : Nat) {low : Nat} (small : low < 2 ^ width) :
    high <<< width ||| low = high * 2 ^ width + low := by
  rw [← Nat.shiftLeft_add_eq_or_of_lt small, Nat.shiftLeft_eq]

theorem appendBase64_encode (bytes : List UInt8) : appendBase64 bytes = encode bytes := by
  have joined (first second : UInt8) :
      sextet (first.toNat <<< 4 ||| second.toNat >>> 4) =
        digitChar (first.toNat % 4 * 16 + second.toNat / 16) := by
    have bound := second.toNat_lt
    rw [Nat.shiftRight_eq_div_pow, shift_or _ 4 (by omega), sextet_digit]
    congr 1
    omega
  have last (second third : UInt8) :
      sextet (second.toNat <<< 2 ||| third.toNat >>> 6) =
        digitChar (second.toNat % 16 * 4 + third.toNat / 64) := by
    have bound := third.toNat_lt
    rw [Nat.shiftRight_eq_div_pow, shift_or _ 2 (by omega), sextet_digit]
    congr 1
    omega
  have first (byte : UInt8) : sextet (byte.toNat >>> 2) = digitChar (byte.toNat / 4) := by
    have bound := byte.toNat_lt
    rw [Nat.shiftRight_eq_div_pow, sextet_digit]
    congr 1
    omega
  have third (byte : UInt8) : sextet byte.toNat = digitChar (byte.toNat % 64) :=
    sextet_digit byte.toNat
  induction bytes using encode.induct with
  | case1 => rfl
  | case2 a =>
    have single := joined a 0
    rw [show (0 : UInt8).toNat = 0 from rfl, Nat.zero_div, Nat.add_zero] at single
    change chunkText [a] = _
    rw [encode, ← first, ← single]
    rfl
  | case3 a b =>
    have single := last b 0
    rw [show (0 : UInt8).toNat = 0 from rfl, Nat.zero_div, Nat.add_zero] at single
    change chunkText [a, b] = _
    rw [encode, ← first, ← joined, ← single]
    rfl
  | case4 a b c rest ih =>
    rw [appendBase64, encode, ih, ← first, ← joined, ← last, ← third]
    rfl

/-! ## Percent escapes -/

def hexDigit (byte : UInt8) : Option UInt8 :=
  if 48 ≤ byte ∧ byte ≤ 57 then some (byte - 48)
  else if 97 ≤ byte ∧ byte ≤ 102 then some (byte - 97 + 10)
  else if 65 ≤ byte ∧ byte ≤ 70 then some (byte - 65 + 10)
  else none

def hexPair (high low : UInt8) : Option UInt8 :=
  match hexDigit high, hexDigit low with
  | some high, some low => some (high <<< 4 ||| low)
  | _, _ => none

/-- The value itself, where the bytes are no text. -/
def percentDecode (value : Chars) : Chars :=
  (fromUtf8 (Percent.decode 37 hexPair (toUtf8 value))).getD value

/-! ## Values -/

def normalized (source : Chars) : Chars :=
  percentDecode (replaceFrom "&amp;".toList ['&'] 0 source)

def dataUri (mediaType base64 : Chars) : Chars :=
  "data:".toList ++ mediaType ++ ";base64,".toList ++ base64

def inlinedValue (assets : List ExportAsset) (source : Chars) : Chars :=
  match assets.find? fun asset => asset.path == source || asset.path == normalized source with
  | some asset => dataUri asset.mediaType (appendBase64 asset.bytes)
  | none => source

def inlineHtmlImages (assets : List ExportAsset) (remaining : Chars) : Chars :=
  match opened : splitOnceText "src=\"".toList remaining with
  | none => remaining
  | some (before, after) =>
    match closed : splitOnce (· == '"') after with
    | none => before ++ "src=\"".toList ++ after
    | some (source, rest) =>
      before ++ "src=\"".toList ++ inlinedValue assets source ++
        inlineHtmlImages assets ('"' :: rest)
termination_by remaining.length
decreasing_by
  have first := splitOnceText_length opened
  have second := splitOnce_length closed
  have pattern : "src=\"".toList.length = 5 := rfl
  simp only [List.length_cons]
  omega

/-! ## The values of a body -/

/-- The `src` values of a body, each with the text in front of it, and the text behind. -/
def srcValues (body : Chars) : List (Chars × Chars) × Chars :=
  match opened : splitOnceText "src=\"".toList body with
  | none => ([], body)
  | some (before, after) =>
    match closed : splitOnce (· == '"') after with
    | none => ([], body)
    | some (source, rest) =>
      let others := srcValues ('"' :: rest)
      ((before ++ "src=\"".toList, source) :: others.1, others.2)
termination_by body.length
decreasing_by
  have first := splitOnceText_length opened
  have second := splitOnce_length closed
  have pattern : "src=\"".toList.length = 5 := rfl
  simp only [List.length_cons]
  omega

/-- A body with these texts and values. -/
def weave (pieces : List (Chars × Chars)) (tail : Chars) : Chars :=
  (pieces.flatMap fun piece => piece.1 ++ piece.2) ++ tail

theorem inlineHtmlImages_weave (assets : List ExportAsset) (body : Chars) :
    inlineHtmlImages assets body =
      weave ((srcValues body).1.map fun piece => (piece.1, inlinedValue assets piece.2))
        (srcValues body).2 := by
  fun_induction srcValues body with
  | case1 body none =>
    rw [inlineHtmlImages]
    split
    · rfl
    · rename_i opened
      rw [none] at opened
      cases opened
  | case2 body before after opened open_ =>
    rw [inlineHtmlImages]
    split
    · rfl
    · rename_i found
      rw [opened] at found
      cases found
      split
      · have whole : body = before ++ ("src=\"".toList ++ after) := splitOnceText_split opened
        rw [whole, List.append_assoc]
        rfl
      · rename_i closed
        rw [open_] at closed
        cases closed
  -- Both loops find the same value; behind it they go on alike.
  | case3 body before after opened source rest closed others ih =>
    rw [inlineHtmlImages]
    split
    · rename_i none
      rw [opened] at none
      cases none
    · rename_i found
      rw [opened] at found
      cases found
      split
      · rename_i none
        rw [closed] at none
        cases none
      · rename_i ended
        rw [closed] at ended
        cases ended
        rw [ih, weave, weave, List.map_cons, List.flatMap_cons, List.append_assoc]
        simp only [List.append_assoc]
        rfl

/-! ## How a renderer writes a path -/

def byteChar (byte : UInt8) : Char := Char.ofNat byte.toNat

/-- The bytes that a renderer writes as they are, and its hexadecimal digits. An ampersand
and an apostrophe are escaped as in any text. -/
structure Renderer where
  safe : UInt8 → Bool
  safe_ascii : ∀ byte, safe byte = true → byte.toNat < 128
  digits : UInt8 → UInt8 × UInt8
  digits_read : ∀ byte, hexPair (digits byte).1 (digits byte).2 = some byte

def Renderer.spellByte (renderer : Renderer) (byte : UInt8) : Chars :=
  if byte = 38 then "&amp;".toList
  else if byte = 39 then "&#x27;".toList
  else (Percent.spell 37 renderer.safe renderer.digits byte).map byteChar

/-- The value that is written for an image at a path. -/
def Renderer.spell (renderer : Renderer) (path : Chars) : Chars :=
  (toUtf8 path).flatMap renderer.spellByte

theorem byteChar_ne {byte other : UInt8} (differ : byte ≠ other) : byteChar byte ≠ byteChar other := by
  intro same
  have numbers := congrArg Char.toNat same
  rw [byteChar, byteChar, QueryStrings.toNat_ofByte, QueryStrings.toNat_ofByte] at numbers
  exact differ (UInt8.toNat_inj.mp numbers)

theorem hexDigit_ascii {byte value : UInt8} (read : hexDigit byte = some value) :
    byte.toNat < 128 ∧ byte ≠ 38 := by
  constructor
  · by_contra large
    have none (low high : UInt8) (below : high.toNat < 128) : ¬(low ≤ byte ∧ byte ≤ high) := by
      rintro ⟨_, bounded⟩
      rw [UInt8.le_iff_toNat_le] at bounded
      omega
    rw [hexDigit, if_neg (none 48 57 (by decide)), if_neg (none 97 102 (by decide)),
      if_neg (none 65 70 (by decide))] at read
    cases read
  · rintro rfl
    have unread : hexDigit 38 = none := by decide
    rw [unread] at read
    cases read

section Spelling

variable (renderer : Renderer)

theorem Renderer.digits_ascii (byte : UInt8) :
    ((renderer.digits byte).1.toNat < 128 ∧ (renderer.digits byte).1 ≠ 38) ∧
      ((renderer.digits byte).2.toNat < 128 ∧ (renderer.digits byte).2 ≠ 38) := by
  have read := renderer.digits_read byte
  rw [hexPair] at read
  split at read
  · rename_i high low
    exact ⟨hexDigit_ascii high, hexDigit_ascii low⟩
  · cases read

/-- The bytes that are as they were once the ampersands are read. -/
def Renderer.kept (byte : UInt8) : Bool := byte == 38 || renderer.safe byte

theorem replaceFrom_other {char : Char} (other : char ≠ '&') (rest : Chars) :
    replaceFrom "&amp;".toList ['&'] 0 (char :: rest) =
      char :: replaceFrom "&amp;".toList ['&'] 0 rest := by
  have unmatched : "&amp;".toList.isPrefixOf (char :: rest) = false := by
    change ('&' == char && _) = false
    rw [beq_eq_false_iff_ne.mpr (Ne.symm other), Bool.false_and]
  rw [replaceFrom, unmatched]
  rfl

theorem Renderer.replace_spell {bytes : List UInt8} (plain : 39 ∉ bytes) :
    replaceFrom "&amp;".toList ['&'] 0 (bytes.flatMap renderer.spellByte) =
      (Percent.encode 37 renderer.kept renderer.digits bytes).map byteChar := by
  induction bytes with
  | nil => rfl
  | cons byte rest ih =>
    rw [List.mem_cons, not_or] at plain
    have later := ih plain.2
    rw [Percent.encode, List.flatMap_cons, List.flatMap_cons, List.map_append, spellByte]
    rw [Percent.encode] at later
    by_cases ampersand : byte = 38
    · subst ampersand
      have single : Percent.spell 37 renderer.kept renderer.digits 38 = [38] := by
        rw [Percent.spell, kept]
        rfl
      rw [if_pos rfl, single, ← later]
      rfl
    · -- No other byte is written with an ampersand, so the replacement passes over it.
      rw [if_neg ampersand, if_neg (Ne.symm plain.1)]
      have same : Percent.spell 37 renderer.kept renderer.digits byte =
          Percent.spell 37 renderer.safe renderer.digits byte := by
        rw [Percent.spell, Percent.spell, kept, beq_eq_false_iff_ne.mpr ampersand, Bool.false_or]
      rw [same, ← later, Percent.spell]
      have solid {other : UInt8} (differ : other ≠ 38) (tail : Chars) :=
        replaceFrom_other (byteChar_ne differ) tail
      split
      · exact solid ampersand _
      · have digits := renderer.digits_ascii byte
        change replaceFrom _ _ 0 (byteChar 37 :: byteChar (renderer.digits byte).1 ::
          byteChar (renderer.digits byte).2 :: rest.flatMap renderer.spellByte) = _
        rw [solid (by decide), solid digits.1.2, solid digits.2.2]
        rfl

theorem Renderer.toUtf8_encoded (bytes : List UInt8) :
    toUtf8 ((Percent.encode 37 renderer.kept renderer.digits bytes).map byteChar) =
      Percent.encode 37 renderer.kept renderer.digits bytes := by
  have ascii (byte : UInt8) (member : byte ∈ Percent.encode 37 renderer.kept renderer.digits bytes) :
      byte.toNat < 128 := by
    obtain ⟨source, _, spelled⟩ := List.mem_flatMap.mp member
    rw [Percent.spell] at spelled
    split at spelled
    · rename_i safe
      rw [List.mem_singleton.mp spelled]
      rw [kept, Bool.or_eq_true, beq_iff_eq] at safe
      rcases safe with rfl | safe
      · decide
      · exact renderer.safe_ascii source safe
    · have digits := renderer.digits_ascii source
      simp only [List.mem_cons, List.not_mem_nil, or_false] at spelled
      rcases spelled with rfl | rfl | rfl
      · decide
      · exact digits.1.1
      · exact digits.2.1
  -- What is encoded is in ASCII, where a character is its byte.
  generalize Percent.encode 37 renderer.kept renderer.digits bytes = encoded at ascii
  have text : ∀ char ∈ encoded.map byteChar, char.toNat < 128 := by
    intro char member
    obtain ⟨byte, among, rfl⟩ := List.mem_map.mp member
    rw [byteChar, QueryStrings.toNat_ofByte]
    exact ascii byte among
  rw [toUtf8_ascii text, List.map_map]
  have same : (fun char : Char => UInt8.ofNat char.toNat) ∘ byteChar = id := by
    funext byte
    change UInt8.ofNat (Char.ofNat byte.toNat).toNat = byte
    rw [QueryStrings.toNat_ofByte, UInt8.ofNat_toNat]
  rw [same, List.map_id]

theorem not_mem_toUtf8 (char : Char) (ascii : char.toNat < 128) {text : Chars}
    (absent : char ∉ text) : UInt8.ofNat char.toNat ∉ toUtf8 text := by
  intro member
  have value : (UInt8.ofNat char.toNat).toNat = char.toNat := by
    rw [UInt8.toNat_ofNat']
    omega
  obtain ⟨found, among, same⟩ := toUtf8_small member (by omega)
  rw [value] at same
  exact absent (char_eq_of_toNat same ▸ among)

theorem Renderer.normalized_spell {path : Chars} (noPercent : '%' ∉ path)
    (noApostrophe : '\'' ∉ path) : normalized (renderer.spell path) = path := by
  have percentFree : 37 ∉ toUtf8 path := not_mem_toUtf8 '%' (by decide) noPercent
  have apostropheFree : 39 ∉ toUtf8 path := not_mem_toUtf8 '\'' (by decide) noApostrophe
  have readable (byte : UInt8) (member : byte ∈ toUtf8 path) :
      Percent.Readable 37 hexPair renderer.kept renderer.digits byte := by
    rw [Percent.Readable]
    split
    · rintro rfl
      exact percentFree member
    · exact renderer.digits_read byte
  rw [normalized, spell, renderer.replace_spell apostropheFree, percentDecode,
    renderer.toUtf8_encoded, Percent.decode_encode readable, fromUtf8_toUtf8]
  rfl

end Spelling

/-! ## What is written for a value -/

def DataOf (asset : ExportAsset) (written : Chars) : Prop :=
  ∃ base64, written = dataUri asset.mediaType base64 ∧ Base64.decode base64 = some asset.bytes

def Names (value : Chars) (asset : ExportAsset) : Prop :=
  asset.path = value ∨ asset.path = normalized value

theorem inlinedValue_first {assets before after : List ExportAsset} {asset : ExportAsset}
    {value : Chars} (split : assets = before ++ asset :: after) (named : Names value asset)
    (first : ∀ other ∈ before, ¬Names value other) : DataOf asset (inlinedValue assets value) := by
  have found : assets.find? (fun asset => asset.path == value || asset.path == normalized value) =
      some asset := by
    rw [split, List.find?_append, List.find?_cons_of_pos, List.find?_eq_none.mpr]
    · rfl
    · intro other member hit
      rw [Bool.or_eq_true, beq_iff_eq, beq_iff_eq] at hit
      exact first other member hit
    · rw [Bool.or_eq_true, beq_iff_eq, beq_iff_eq]
      exact named
  rw [inlinedValue, found]
  refine ⟨appendBase64 asset.bytes, rfl, ?_⟩
  rw [appendBase64_encode, decode_encode]

theorem inlinedValue_none {assets : List ExportAsset} {value : Chars}
    (unnamed : ∀ asset ∈ assets, ¬Names value asset) : inlinedValue assets value = value := by
  have none : assets.find? (fun asset => asset.path == value || asset.path == normalized value) =
      none := by
    refine List.find?_eq_none.mpr fun asset member hit => ?_
    rw [Bool.or_eq_true, beq_iff_eq, beq_iff_eq] at hit
    exact unnamed asset member hit
  rw [inlinedValue, none]

/-- What becomes of a value. The value that is written for an asset's path is replaced by the
asset's data, unless an asset before it has that very value for its path; a value that is not
written for any asset is replaced by the data of the first asset that it names, if any. -/
structure Served (renderer : Renderer) (assets : List ExportAsset) (value written : Chars) :
    Prop where
  own : ∀ before asset after, assets = before ++ asset :: after →
    value = renderer.spell asset.path → '\'' ∉ asset.path →
    (∀ other ∈ before, other.path ≠ value) → DataOf asset written
  named : (∀ asset ∈ assets, value ≠ renderer.spell asset.path) →
    ∀ before asset after, assets = before ++ asset :: after → Names value asset →
    (∀ other ∈ before, ¬Names value other) → DataOf asset written
  unnamed : (∀ asset ∈ assets, value ≠ renderer.spell asset.path) →
    (∀ asset ∈ assets, ¬Names value asset) → written = value

theorem inlinedValue_served (renderer : Renderer) {assets : List ExportAsset}
    (distinct : (assets.map ExportAsset.path).Nodup) (plain : ∀ asset ∈ assets, '%' ∉ asset.path)
    (value : Chars) : Served renderer assets value (inlinedValue assets value) where
  own before asset after split written noApostrophe fresh := by
    have member : asset ∈ assets := by simp [split]
    have read : normalized value = asset.path := by
      rw [written, renderer.normalized_spell (plain asset member) noApostrophe]
    refine inlinedValue_first split (Or.inr read.symm) ?_
    intro other earlier named
    rcases named with literal | same
    · exact fresh other earlier literal
    · -- The paths differ, so no other asset has the one that is read.
      rw [split, List.map_append, List.map_cons, List.nodup_append] at distinct
      exact distinct.2.2 other.path (List.mem_map_of_mem earlier) asset.path
        List.mem_cons_self (same.trans read)
  named _ before asset after split named first := inlinedValue_first split named first
  unnamed _ none := inlinedValue_none none

/-- Nothing but the `src` values of a body is changed, and each as it is written. -/
def InlinedBy (served : Chars → Chars → Prop) (assets : List ExportAsset) (body : Chars) : Prop :=
  ∃ written : List Chars,
    List.Forall₂ (fun piece text => served piece.2 text) (srcValues body).1 written ∧
      inlineHtmlImages assets body =
        weave (((srcValues body).1.map Prod.fst).zip written) (srcValues body).2

theorem inlinedBy_values {served : Chars → Chars → Prop} {assets : List ExportAsset}
    (each : ∀ value, served value (inlinedValue assets value)) (body : Chars) :
    InlinedBy served assets body := by
  refine ⟨(srcValues body).1.map fun piece => inlinedValue assets piece.2, ?_, ?_⟩
  · rw [List.forall₂_map_right_iff]
    exact List.forall₂_same.mpr fun piece _ => each piece.2
  · rw [inlineHtmlImages_weave, List.zip_map']

/-- The images of a body are served from the assets. -/
theorem html_images_served (renderer : Renderer) {assets : List ExportAsset}
    (distinct : (assets.map ExportAsset.path).Nodup) (plain : ∀ asset ∈ assets, '%' ∉ asset.path)
    (body : Chars) : InlinedBy (Served renderer assets) assets body :=
  inlinedBy_values (inlinedValue_served renderer distinct plain) body

/-! ## Paths that are not escaped -/

def OnlyOwn (renderer : Renderer) (assets : List ExportAsset) (value written : Chars) : Prop :=
  (∀ asset ∈ assets, value = renderer.spell asset.path → DataOf asset written) ∧
    ((∀ asset ∈ assets, value ≠ renderer.spell asset.path) → written = value)

def hexUpper (value : Nat) : UInt8 :=
  if value < 10 then UInt8.ofNat (48 + value) else UInt8.ofNat (55 + value)

theorem hexDigit_upper : ∀ value < 16, hexDigit (hexUpper value) = some (UInt8.ofNat value) := by
  decide

theorem nibbles_joined : ∀ high < 16, ∀ low < 16,
    UInt8.ofNat high <<< 4 ||| UInt8.ofNat low = UInt8.ofNat (high * 16 + low) := by
  decide +kernel

theorem unreserved_ascii {char : Char} (unreserved : QueryStrings.unreserved char = true) :
    char.toNat < 128 := by
  simp only [QueryStrings.unreserved, isAsciiAlphanumeric, Bool.or_eq_true, Bool.and_eq_true,
    decide_eq_true_eq, beq_iff_eq] at unreserved
  rcases unreserved with (((letter | rfl) | rfl) | rfl) | rfl
  · omega
  all_goals decide

/-- Letters, digits and the marks of a relative path stand as they are. -/
def plainRenderer : Renderer where
  safe byte := QueryStrings.unreserved (byteChar byte) || byte == 47
  safe_ascii byte safe := by
    rw [Bool.or_eq_true, beq_iff_eq] at safe
    rcases safe with letter | rfl
    · have value : (byteChar byte).toNat = byte.toNat := QueryStrings.toNat_ofByte byte
      rw [← value]
      exact unreserved_ascii letter
    · decide
  digits byte := (hexUpper (byte.toNat / 16), hexUpper (byte.toNat % 16))
  digits_read byte := by
    have bound := byte.toNat_lt
    have high : hexDigit (hexUpper (byte.toNat / 16)) = _ := hexDigit_upper _ (by omega)
    have low : hexDigit (hexUpper (byte.toNat % 16)) = _ := hexDigit_upper _ (by omega)
    rw [hexPair, high, low]
    dsimp only
    rw [nibbles_joined _ (by omega) _ (by omega), Nat.div_add_mod', UInt8.ofNat_toNat]

def blankAsset : ExportAsset := ⟨"a b.png".toList, "image/png".toList, [1, 2, 3]⟩

theorem html_images_served_blank :
    InlinedBy (Served plainRenderer [blankAsset]) [blankAsset]
      "<img src=\"a%20b.png\">".toList :=
  html_images_served plainRenderer (by decide) (by decide +kernel) _

def apostropheAsset : ExportAsset := ⟨"it's.png".toList, "image/png".toList, [1, 2, 3]⟩

theorem inlinedBy_single {served : Chars → Chars → Prop} {assets : List ExportAsset}
    {body front value tail : Chars} (values : srcValues body = ([(front, value)], tail))
    (inlined : InlinedBy served assets body) : served value (inlinedValue assets value) := by
  obtain ⟨written, each, whole⟩ := inlined
  rw [inlineHtmlImages_weave, values] at whole
  rw [values] at each
  cases each with
  | cons here rest =>
    cases rest
    simp only [weave, List.map_cons, List.map_nil, List.zip_cons_cons, List.zip_nil_left,
      List.flatMap_cons, List.flatMap_nil, List.append_nil] at whole
    have same := List.append_cancel_left (List.append_cancel_right whole)
    rw [same]
    exact here

/-- A path that the body has as it stands is replaced too, and the path with an apostrophe is
not read. -/
theorem html_images_other :
    ¬InlinedBy (OnlyOwn plainRenderer [blankAsset]) [blankAsset] "<img src=\"a b.png\">".toList ∧
      ¬InlinedBy (OnlyOwn plainRenderer [apostropheAsset]) [apostropheAsset]
        "<img src=\"it&#x27;s.png\">".toList := by
  constructor
  · intro inlined
    have values : srcValues "<img src=\"a b.png\">".toList =
        ([("<img src=\"".toList, "a b.png".toList)], "\">".toList) := by
      decide +kernel
    have unchanged := (inlinedBy_single values inlined).2 (by decide +kernel)
    exact absurd unchanged (by decide +kernel)
  · intro inlined
    have values : srcValues "<img src=\"it&#x27;s.png\">".toList =
        ([("<img src=\"".toList, "it&#x27;s.png".toList)], "\">".toList) := by
      decide +kernel
    obtain ⟨base64, data, _⟩ := (inlinedBy_single values inlined).1 apostropheAsset
      List.mem_cons_self rfl
    have first : (inlinedValue [apostropheAsset] "it&#x27;s.png".toList).head? = some 'i' := by
      decide +kernel
    have start : (dataUri apostropheAsset.mediaType base64).head? = some 'd' := rfl
    rw [data, start] at first
    exact absurd first (by decide)

end Onetcli.NotesExport
