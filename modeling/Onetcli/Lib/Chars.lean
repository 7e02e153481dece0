import Mathlib.Data.List.TakeWhile
import Onetcli.Lib.Text

/-!
The functions of Rust's `str` on lists of characters, and how texts are read from bytes.
-/

namespace Onetcli.Chars

open Text

abbrev Chars := List Char

/-! ## Parts of a text -/

def trimStart (text : Chars) : Chars := text.dropWhile isWhiteSpace

def trimEnd (text : Chars) : Chars := (text.reverse.dropWhile isWhiteSpace).reverse

def trim (text : Chars) : Chars := trimEnd (trimStart text)

def trimMatches (matching : Char → Bool) (text : Chars) : Chars :=
  ((text.dropWhile matching).reverse.dropWhile matching).reverse

def stripCarriage (line : Chars) : Chars :=
  if line.getLast? = some '\r' then line.dropLast else line

/-- A line ends in a line feed, with or without a carriage return before it; the last one
may end with the text. -/
def lines (text : Chars) : List Chars :=
  let pieces := text.splitOn '\n'
  pieces.dropLast.map stripCarriage ++
    match pieces.getLast? with
    | some (char :: rest) => [char :: rest]
    | _ => []

/-- The text before and after the first separator. -/
def splitOnce (separates : Char → Bool) : Chars → Option (Chars × Chars)
  | [] => none
  | char :: rest =>
    if separates char then some ([], rest)
    else (splitOnce separates rest).map fun (before, after) => (char :: before, after)

def rsplitOnce (separates : Char → Bool) (text : Chars) : Option (Chars × Chars) :=
  (splitOnce separates text.reverse).map fun (after, before) => (before.reverse, after.reverse)

def lastPart (separates : Char → Bool) (text : Chars) : Chars :=
  match rsplitOnce separates text with
  | some (_, after) => after
  | none => text

def firstPart (separates : Char → Bool) (text : Chars) : Chars :=
  match splitOnce separates text with
  | some (before, _) => before
  | none => text

def splitOnceText (pattern : Chars) : Chars → Option (Chars × Chars)
  | [] => if pattern.isEmpty then some ([], []) else none
  | char :: rest =>
    if pattern.isPrefixOf (char :: rest) then some ([], (char :: rest).drop pattern.length)
    else (splitOnceText pattern rest).map fun (before, after) => (char :: before, after)

def stripPrefix (start text : Chars) : Option Chars :=
  if start.isPrefixOf text then some (text.drop start.length) else none

def stripSuffix (ending text : Chars) : Option Chars :=
  if ending.isSuffixOf text then some (text.take (text.length - ending.length)) else none

def splitWhitespace (text : Chars) : List Chars :=
  (text.splitOnP isWhiteSpace).filter fun part => !part.isEmpty

def replaceChar (old new : Char) (text : Chars) : Chars :=
  text.map fun char => if char = old then new else char

/-! ## Blanks around a text -/

def Blank (text : Chars) : Prop := ∀ char ∈ text, isWhiteSpace char = true

theorem blank_nil : Blank [] := by rintro _ ⟨⟩

/-- A text that does not start or end with a blank and is not empty. -/
structure Solid (text : Chars) : Prop where
  first : ∃ char rest, text = char :: rest ∧ isWhiteSpace char = false
  last : ∃ start char, text = start ++ [char] ∧ isWhiteSpace char = false

theorem Solid.nonempty {text : Chars} (solid : Solid text) : text ≠ [] := by
  rcases solid.first with ⟨char, rest, rfl, _⟩
  exact List.cons_ne_nil char rest

theorem solid_of_word {text : Chars} (filled : text ≠ [])
    (word : ∀ char ∈ text, isWhiteSpace char = false) : Solid text := by
  constructor
  · rcases List.exists_cons_of_ne_nil filled with ⟨char, rest, rfl⟩
    exact ⟨char, rest, rfl, word char List.mem_cons_self⟩
  · rcases text.eq_nil_or_concat with rfl | ⟨start, char, rfl⟩
    · exact absurd rfl filled
    · exact ⟨start, char, List.concat_eq_append, word char (by simp)⟩

theorem trimStart_blank {before : Chars} (blank : Blank before) (text : Chars) :
    trimStart (before ++ text) = trimStart text :=
  List.dropWhile_append_of_pos blank

theorem trimEnd_blank {after : Chars} (blank : Blank after) (text : Chars) :
    trimEnd (text ++ after) = trimEnd text := by
  have reversed : ∀ char ∈ after.reverse, isWhiteSpace char = true := by
    intro char member
    exact blank char (List.mem_reverse.mp member)
  rw [trimEnd, trimEnd, List.reverse_append, List.dropWhile_append_of_pos reversed]

theorem trim_blank {text : Chars} (blank : Blank text) : trim text = [] := by
  have nothing := trimStart_blank blank []
  rw [List.append_nil] at nothing
  rw [trim, nothing]
  rfl

theorem Solid.trimStart_append {text : Chars} (solid : Solid text) (after : Chars) :
    trimStart (text ++ after) = text ++ after := by
  rcases solid.first with ⟨char, rest, rfl, black⟩
  rw [trimStart, List.cons_append, List.dropWhile_cons, black]
  rfl

theorem trim_solid {text : Chars} (solid : Solid text) : trim text = text := by
  have start := solid.trimStart_append []
  rw [List.append_nil] at start
  rcases solid.last with ⟨before, char, split, black⟩
  rw [trim, start, trimEnd, split, List.reverse_append, List.reverse_singleton,
    List.singleton_append, List.dropWhile_cons, black]
  simp

theorem trim_around {before text after : Chars} (indent : Blank before) (solid : Solid text)
    (tail : Blank after) : trim (before ++ (text ++ after)) = text := by
  have start := solid.trimStart_append []
  rw [List.append_nil] at start
  have whole := trim_solid solid
  rw [trim, start] at whole
  rw [trim, trimStart_blank indent, solid.trimStart_append, trimEnd_blank tail, whole]

/-- The characters that are no blanks. -/
def letters (text : Chars) : Chars := text.filter fun char => !isWhiteSpace char

theorem letters_append (first second : Chars) :
    letters (first ++ second) = letters first ++ letters second :=
  List.filter_append first second

theorem blank_iff_letters {text : Chars} : Blank text ↔ letters text = [] := by
  simp [Blank, letters, List.filter_eq_nil_iff]

theorem letters_trimStart (text : Chars) : letters (trimStart text) = letters text := by
  induction text with
  | nil => rfl
  | cons char rest ih =>
    rw [trimStart, List.dropWhile_cons]
    split
    · rename_i white
      have skipped : letters (char :: rest) = letters rest := by simp [letters, white]
      rw [skipped]
      exact ih
    · rfl

theorem letters_trim (text : Chars) : letters (trim text) = letters text := by
  have reversed (other : Chars) : letters other.reverse = (letters other).reverse :=
    List.filter_reverse
  rw [trim, trimEnd, reversed]
  have start := letters_trimStart (trimStart text).reverse
  rw [trimStart, reversed, letters_trimStart] at start
  rw [start, List.reverse_reverse]

theorem trim_append_blank {before after : Chars} (blankBefore : Blank before)
    (blankAfter : Blank after) (text : Chars) : trim (before ++ (text ++ after)) = trim text := by
  rw [trim, trimStart_blank blankBefore, trim]
  by_cases blank : Blank text
  · have nothing := trim_blank blank
    rw [trim] at nothing
    rw [nothing, trimStart_blank blank]
    have rest := trim_blank blankAfter
    rwa [trim] at rest
  · have start : trimStart (text ++ after) = trimStart text ++ after := by
      rw [trimStart, List.dropWhile_append]
      have some : (text.dropWhile isWhiteSpace).isEmpty = false := by
        rw [List.isEmpty_eq_false_iff]
        intro empty
        apply blank
        rw [blank_iff_letters, ← letters_trimStart, trimStart, empty]
        rfl
      rw [some]
      rfl
    rw [start, trimEnd_blank blankAfter]

theorem trim_trimStart (text : Chars) : trim (trimStart text) = trim text := by
  have blank : Blank (text.takeWhile isWhiteSpace) := by
    intro char member
    exact List.mem_takeWhile_imp member
  have split : text.takeWhile isWhiteSpace ++ (trimStart text ++ []) = text := by
    rw [List.append_nil]
    exact List.takeWhile_append_dropWhile
  have same := trim_append_blank blank blank_nil (trimStart text)
  rw [split] at same
  exact same.symm

theorem trim_trimEnd (text : Chars) : trim (trimEnd text) = trim text := by
  have blank : Blank (text.reverse.takeWhile isWhiteSpace).reverse := by
    intro char member
    exact List.mem_takeWhile_imp (List.mem_reverse.mp member)
  have split : [] ++ (trimEnd text ++ (text.reverse.takeWhile isWhiteSpace).reverse) = text := by
    rw [List.nil_append, trimEnd, ← List.reverse_append, List.takeWhile_append_dropWhile,
      List.reverse_reverse]
  have same := trim_append_blank blank_nil blank (trimEnd text)
  rw [split] at same
  exact same.symm

theorem trim_trim (text : Chars) : trim (trim text) = trim text :=
  (trim_trimEnd (trimStart text)).trans (trim_trimStart text)

-- A separator that is no blank keeps the text before it from the end and the text behind it
-- from the start.
theorem trim_separated {separator : Char} (black : isWhiteSpace separator = false)
    (before after : Chars) :
    trim (before ++ separator :: after) = trimStart before ++ separator :: trimEnd after := by
  have start : trimStart (before ++ separator :: after) =
      trimStart before ++ separator :: after := by
    rw [trimStart, trimStart, List.dropWhile_append]
    split
    · rename_i empty
      rw [List.isEmpty_iff.mp empty, List.dropWhile_cons, black]
      rfl
    · rfl
  have stop : ((separator :: after).reverse ++ (trimStart before).reverse).dropWhile
      isWhiteSpace = after.reverse.dropWhile isWhiteSpace ++
        separator :: (trimStart before).reverse := by
    rw [List.reverse_cons, List.append_assoc, List.singleton_append, List.dropWhile_append]
    split
    · rename_i empty
      rw [List.isEmpty_iff.mp empty, List.dropWhile_cons, black]
      rfl
    · rfl
  rw [trim, start, trimEnd, List.reverse_append, stop, List.reverse_append, List.reverse_cons,
    List.reverse_reverse, List.append_assoc, List.singleton_append, trimEnd]

theorem trim_append_iff (before text after : Chars) :
    trim (before ++ (text ++ after)) = trim text ↔ Blank before ∧ Blank after := by
  constructor
  · intro same
    have kept := congrArg letters same
    rw [letters_trim, letters_trim, letters_append, letters_append] at kept
    have length := congrArg List.length kept
    simp only [List.length_append] at length
    constructor
    · exact blank_iff_letters.mpr (List.length_eq_zero_iff.mp (by omega))
    · exact blank_iff_letters.mpr (List.length_eq_zero_iff.mp (by omega))
  · rintro ⟨blankBefore, blankAfter⟩
    exact trim_append_blank blankBefore blankAfter text

theorem trim_eq_nil_iff {text : Chars} : trim text = [] ↔ Blank text := by
  constructor
  · intro nothing
    rw [blank_iff_letters, ← letters_trim, nothing]
    rfl
  · exact trim_blank

/-! ## Splitting -/

theorem splitOnce_length {separates : Char → Bool} {text before after : Chars}
    (found : splitOnce separates text = some (before, after)) :
    before.length + 1 + after.length = text.length := by
  induction text generalizing before with
  | nil => cases found
  | cons char rest ih =>
    rw [splitOnce] at found
    split at found
    · cases found
      simp [Nat.add_comm]
    · rcases Option.map_eq_some_iff.mp found with ⟨⟨front, back⟩, here, same⟩
      cases same
      have tail := ih here
      simp only [List.length_cons]
      omega

theorem splitOnceText_length {pattern text before after : Chars}
    (found : splitOnceText pattern text = some (before, after)) :
    before.length + pattern.length + after.length = text.length := by
  induction text generalizing before with
  | nil =>
    rw [splitOnceText] at found
    split at found
    · rename_i empty
      rw [List.isEmpty_iff.mp empty]
      cases found
      rfl
    · cases found
  | cons char rest ih =>
    rw [splitOnceText] at found
    split at found
    · rename_i start
      have bound := (List.isPrefixOf_iff_prefix.mp start).length_le
      cases found
      rw [List.length_drop, List.length_nil]
      omega
    · rcases Option.map_eq_some_iff.mp found with ⟨⟨front, back⟩, here, same⟩
      cases same
      have tail := ih here
      simp only [List.length_cons]
      omega

theorem splitOnce_append {separates : Char → Bool} {before : Chars} {separator : Char}
    (clean : ∀ char ∈ before, separates char = false) (hit : separates separator = true)
    (after : Chars) : splitOnce separates (before ++ separator :: after) = some (before, after) := by
  induction before with
  | nil => simp [splitOnce, hit]
  | cons char rest ih =>
    rw [List.cons_append, splitOnce, clean char List.mem_cons_self,
      ih fun other member => clean other (List.mem_cons_of_mem _ member)]
    rfl

-- The first separator is the one in front, if there is one in front of it.
theorem splitOnce_append_cons {separates : Char → Bool} {separator : Char}
    (hit : separates separator = true) (before after : Chars) :
    splitOnce separates (before ++ separator :: after) = some (match splitOnce separates before with
        | some (left, right) => (left, right ++ separator :: after)
        | none => (before, after)) := by
  induction before with
  | nil => simp [splitOnce, hit]
  | cons char rest ih =>
    rw [List.cons_append, splitOnce, splitOnce, ih]
    split
    · rfl
    · cases splitOnce separates rest <;> rfl

theorem rsplitOnce_append_cons {separates : Char → Bool} {separator : Char}
    (hit : separates separator = true) (before after : Chars) :
    rsplitOnce separates (before ++ separator :: after) =
      some (match rsplitOnce separates after with
        | some (left, right) => (before ++ separator :: left, right)
        | none => (before, after)) := by
  have spelled : (before ++ separator :: after).reverse =
      after.reverse ++ separator :: before.reverse := by simp
  rw [rsplitOnce, rsplitOnce, spelled, splitOnce_append_cons hit]
  cases splitOnce separates after.reverse with
  | none => simp
  | some parts => simp

theorem splitOnce_clean {separates : Char → Bool} {front : Chars}
    (clean : ∀ char ∈ front, separates char = false) (text : Chars) :
    splitOnce separates (front ++ text) =
      (splitOnce separates text).map fun (before, after) => (front ++ before, after) := by
  induction front with
  | nil => simp
  | cons char rest ih =>
    rw [List.cons_append, splitOnce, clean char List.mem_cons_self,
      ih fun other member => clean other (List.mem_cons_of_mem _ member)]
    cases splitOnce separates text <;> rfl

theorem unequal_of_absent {delimiter : Char} {text : Chars} (absent : delimiter ∉ text) :
    ∀ char ∈ text, (char == delimiter) = false := by
  intro char member
  rw [beq_eq_false_iff_ne]
  rintro rfl
  exact absent member

theorem splitOnce_absent {delimiter : Char} {text : Chars} (absent : delimiter ∉ text) :
    splitOnce (· == delimiter) text = none := by
  have cut := splitOnce_clean (unequal_of_absent absent) []
  rwa [List.append_nil] at cut

theorem firstPart_append_cons {separates : Char → Bool} {separator : Char}
    (hit : separates separator = true) (before after : Chars) :
    firstPart separates (before ++ separator :: after) = firstPart separates before := by
  rw [firstPart, firstPart, splitOnce_append_cons hit]
  cases splitOnce separates before <;> rfl

theorem firstPart_length (separates : Char → Bool) (text : Chars) :
    (firstPart separates text).length ≤ text.length := by
  rw [firstPart]
  split
  · rename_i found
    have whole := splitOnce_length found
    omega
  · exact Nat.le_refl _

theorem rsplitOnce_length {separates : Char → Bool} {text before after : Chars}
    (found : rsplitOnce separates text = some (before, after)) :
    before.length + 1 + after.length = text.length := by
  rcases Option.map_eq_some_iff.mp found with ⟨⟨back, front⟩, here, same⟩
  cases same
  have whole := splitOnce_length here
  rw [List.length_reverse] at whole
  rw [List.length_reverse, List.length_reverse]
  omega

theorem trim_length (text : Chars) : (trim text).length ≤ text.length := by
  have start : (trimStart text).length ≤ text.length :=
    (List.dropWhile_sublist isWhiteSpace).length_le
  have stop : (trim text).length ≤ (trimStart text).length := by
    have dropped := (List.dropWhile_sublist isWhiteSpace (l := (trimStart text).reverse)).length_le
    rw [List.length_reverse] at dropped
    rw [trim, trimEnd, List.length_reverse]
    exact dropped
  exact Nat.le_trans stop start

theorem lastPart_append {separates : Char → Bool} {after : Chars} {separator : Char}
    (separate : ∀ char ∈ after, separates char = false) (found : separates separator = true)
    (before : Chars) : lastPart separates (before ++ separator :: after) = after := by
  have reversed : ∀ char ∈ after.reverse, separates char = false := by
    intro char member
    exact separate char (List.mem_reverse.mp member)
  have spelled : (before ++ separator :: after).reverse =
      after.reverse ++ separator :: before.reverse := by simp
  rw [lastPart, rsplitOnce, spelled, splitOnce_append reversed found]
  exact List.reverse_reverse after

theorem splitOn_clean {separator : Char} {front : Chars} (clean : separator ∉ front)
    (text : Chars) :
    (front ++ text).splitOn separator = (text.splitOn separator).modifyHead (front ++ ·) := by
  induction front with
  | nil => cases parts : text.splitOn separator <;> simp [parts]
  | cons char rest ih =>
    simp only [List.mem_cons, not_or] at clean
    rw [List.cons_append, List.splitOn_cons_eq_if_modifyHead, ih clean.2,
      if_neg (by simpa using Ne.symm clean.1), List.modifyHead_modifyHead]
    rfl

theorem splitWhitespace_blank {before : Chars} (blank : Blank before) (text : Chars) :
    splitWhitespace (before ++ text) = splitWhitespace text := by
  induction before with
  | nil => rfl
  | cons char rest ih =>
    have tail := ih fun other member => blank other (List.mem_cons_of_mem _ member)
    rw [splitWhitespace] at tail ⊢
    rw [List.cons_append, List.splitOnP_cons_eq_if_modifyHead, if_pos (blank char List.mem_cons_self)]
    exact tail

theorem splitWhitespace_word {word : Chars} (filled : word ≠ [])
    (clean : ∀ char ∈ word, isWhiteSpace char = false) : splitWhitespace word = [word] := by
  rw [splitWhitespace, List.splitOnP_eq_singleton clean]
  simp [filled]

theorem splitWhitespace_cons {word : Chars} (filled : word ≠ [])
    (clean : ∀ char ∈ word, isWhiteSpace char = false) {separator : Char}
    (white : isWhiteSpace separator = true) (text : Chars) :
    splitWhitespace (word ++ separator :: text) = word :: splitWhitespace text := by
  rw [splitWhitespace, List.splitOnP_append_cons _ _ white, List.splitOnP_eq_singleton clean,
    List.singleton_append, List.filter_cons, if_pos (by simp [filled])]
  rfl

theorem stripPrefix_append (start text : Chars) : stripPrefix start (start ++ text) = some text := by
  rw [stripPrefix, if_pos (List.isPrefixOf_iff_prefix.mpr (List.prefix_append start text)),
    List.drop_left]

theorem stripSuffix_append (text ending : Chars) :
    stripSuffix ending (text ++ ending) = some text := by
  rw [stripSuffix, if_pos (List.isSuffixOf_iff_suffix.mpr (List.suffix_append text ending)),
    List.length_append, Nat.add_sub_cancel, List.take_left]

/-! ## ASCII -/

def toAsciiLowercase (text : Chars) : Chars := text.map Char.toLower

def eqIgnoreAsciiCase (first second : Chars) : Bool :=
  toAsciiLowercase first == toAsciiLowercase second

def isAsciiAlphanumeric (char : Char) : Bool :=
  (48 ≤ char.toNat && char.toNat ≤ 57) || (65 ≤ char.toNat && char.toNat ≤ 90) ||
    (97 ≤ char.toNat && char.toNat ≤ 122)

def isAsciiDigit (char : Char) : Bool :=
  48 ≤ char.toNat && char.toNat ≤ 57

/-- `parse::<u16>`: digits, with a plus sign in front or not. -/
def parseU16 (text : Chars) : Option Nat :=
  let digits := match text with
    | '+' :: rest => rest
    | _ => text
  if digits.isEmpty || !digits.all isAsciiDigit then none
  else
    let value := digits.foldl (fun value digit => value * 10 + (digit.toNat - 48)) 0
    if value < 65536 then some value else none

/-! ## Bytes -/

def toUtf8 (text : Chars) : List UInt8 := (String.ofList text).toUTF8.data.toList

def fromUtf8 (bytes : List UInt8) : Option Chars :=
  (String.fromUTF8? ⟨bytes.toArray⟩).map String.toList

theorem fromUtf8_toUtf8 (text : Chars) : fromUtf8 (toUtf8 text) = some text := by
  have bytes : (⟨(toUtf8 text).toArray⟩ : ByteArray) = (String.ofList text).toUTF8 := rfl
  have valid : (String.ofList text).toUTF8.IsValidUTF8 := (String.ofList text).isValidUTF8
  rw [fromUtf8, bytes, String.fromUTF8?, dif_pos valid]
  exact congrArg some String.toList_ofList

/-- The 16-bit units of a text, the low or the high byte first. -/
def utf16Units (lowFirst : Bool) : List UInt8 → List Nat
  | first :: second :: rest =>
    (if lowFirst then second.toNat * 256 + first.toNat else first.toNat * 256 + second.toNat) ::
      utf16Units lowFirst rest
  | _ => []

/-- A unit of the high surrogates stands for a character with the low one behind it. -/
def decodeUtf16 : List Nat → Option Chars
  | [] => some []
  | unit :: rest =>
    if unit < 0xD800 ∨ 0xE000 ≤ unit then (decodeUtf16 rest).map (Char.ofNat unit :: ·)
    else if unit < 0xDC00 then
      match rest with
      | low :: more =>
        if 0xDC00 ≤ low ∧ low < 0xE000 then
          (decodeUtf16 more).map
            (Char.ofNat (0x10000 + (unit - 0xD800) * 0x400 + (low - 0xDC00)) :: ·)
        else none
      | [] => none
    else none

theorem not_mem_literal {text : String} {chars : Chars} {char : Char}
    (spelled : text = String.ofList chars) (absent : chars.all (· != char) = true) :
    char ∉ text.toList := by
  rw [spelled, String.toList_ofList]
  intro member
  exact bne_iff_ne.mp (List.all_eq_true.mp absent char member) rfl

end Onetcli.Chars
