import Onetcli.Lib.Parts

/-!
Files in the format of PDF as a reader takes them: from the end to the table of offsets, and
from there to the objects; the references of a dictionary, its arrays of kids, and streams by
their lengths. A byte is the character with its number.
-/

namespace Onetcli.PdfFiles

open Chars Text

/-! ## Numbers -/

def digits (number : Nat) : Chars := (toString number).toList

def valueOf (text : Chars) : Nat := Nat.ofDigitChars 10 text 0

/-- A number with zeros in front. -/
def padded (width number : Nat) : Chars :=
  List.replicate (width - (digits number).length) '0' ++ digits number

theorem digits_eq (number : Nat) : digits number = Nat.toDigits 10 number := Nat.toList_repr

theorem digits_isDigit (number : Nat) : ∀ char ∈ digits number, char.isDigit = true := by
  intro char member
  rw [digits_eq] at member
  exact Nat.isDigit_of_mem_toDigits (by decide) (by decide) member

theorem digits_ne_nil (number : Nat) : digits number ≠ [] := by
  rw [digits_eq]
  exact Nat.toDigits_ne_nil

theorem valueOf_digits (number : Nat) : valueOf (digits number) = number := by
  rw [valueOf, digits_eq]
  exact Nat.ofDigitChars_ten_toDigits

theorem valueOf_padded (width number : Nat) : valueOf (padded width number) = number := by
  rw [valueOf, padded, Nat.ofDigitChars_append, Nat.ofDigitChars_replicate_zero, Nat.mul_zero]
  exact valueOf_digits number

theorem padded_isDigit (width number : Nat) : (padded width number).all Char.isDigit = true := by
  rw [padded, List.all_append, Bool.and_eq_true, List.all_eq_true, List.all_eq_true]
  refine ⟨?_, digits_isDigit number⟩
  intro char member
  rw [List.eq_of_mem_replicate member]
  rfl

theorem padded_length {width number : Nat} (some : 0 < width) (small : number < 10 ^ width) :
    (padded width number).length = width := by
  have short : (digits number).length ≤ width := by
    rw [digits_eq]
    exact (Nat.length_toDigits_le_iff (by decide) some).mpr small
  rw [padded, List.length_append, List.length_replicate]
  omega

theorem takeWhile_digits (number : Nat) {char : Char} (other : char.isDigit = false)
    (more : Chars) : (digits number ++ char :: more).takeWhile Char.isDigit = digits number ∧
      (digits number ++ char :: more).dropWhile Char.isDigit = char :: more := by
  have stop : ¬char.isDigit = true := by
    rw [other]
    exact Bool.false_ne_true
  rw [List.takeWhile_append_of_pos (digits_isDigit number),
    List.dropWhile_append_of_pos (digits_isDigit number), List.takeWhile_cons_of_neg stop,
    List.dropWhile_cons_of_neg stop, List.append_nil]
  exact ⟨rfl, rfl⟩

/-! ## Writing -/

def objectText (number : Nat) (object : Chars) : Chars :=
  digits number ++ (" 0 obj\n".toList ++ (object ++ "\nendobj\n".toList))

def bodyFrom (number : Nat) : List Chars → Chars
  | [] => []
  | object :: rest => objectText number object ++ bodyFrom (number + 1) rest

def offsetsFrom (start number : Nat) : List Chars → List Nat
  | [] => []
  | object :: rest =>
    start :: offsetsFrom (start + (objectText number object).length) (number + 1) rest

/-- The end of an entry of an object in use. -/
def inUse : Chars := " 00000 n \n".toList

def entryText (offset : Nat) : Chars := padded 10 offset ++ inUse

def tableStart : Chars := "xref\n0 ".toList

def freeEntry : Chars := '\n' :: "0000000000 65535 f \n".toList

def tableText (offsets : List Nat) : Chars :=
  tableStart ++ (digits (offsets.length + 1) ++ (freeEntry ++ offsets.flatMap entryText))

def startMark : Chars := "startxref\n".toList

def fileEnd : Chars := "\n%%EOF\n".toList

def trailerStart : Chars := "trailer\n".toList

/-- What stands behind the table. -/
def trailerText (dictionary : Chars) (start : Nat) : Chars :=
  trailerStart ++ (dictionary ++ '\n' :: (startMark ++ (digits start ++ fileEnd)))

def fileText (header : Chars) (objects : List Chars) (dictionary : Chars) : Chars :=
  let front := header ++ bodyFrom 1 objects
  front ++ (tableText (offsetsFrom header.length 1 objects) ++
    trailerText dictionary front.length)

/-! ## Reading -/

def startXref (file : Chars) : Option Nat :=
  (stripSuffix fileEnd file).bind fun front =>
    let number := (front.reverse.takeWhile Char.isDigit).reverse
    if !number.isEmpty && (startMark ++ number).isSuffixOf front then some (valueOf number)
    else none

def readEntries : Nat → Chars → Option (List Nat × Chars)
  | 0, text => some ([], text)
  | count + 1, text =>
    if (text.take 10).all Char.isDigit && (text.drop 10).take 10 == inUse then
      (readEntries count (text.drop 20)).map fun (offsets, rest) =>
        (valueOf (text.take 10) :: offsets, rest)
    else none

def readTable (text : Chars) : Option (List Nat × Chars) :=
  (stripPrefix tableStart text).bind fun counted =>
    (stripPrefix freeEntry (counted.dropWhile Char.isDigit)).bind
      (readEntries (valueOf (counted.takeWhile Char.isDigit) - 1))

/-! ### The table -/

theorem bodyFrom_length (start number : Nat) (objects : List Chars) {offset : Nat}
    (member : offset ∈ offsetsFrom start number objects) :
    offset ≤ start + (bodyFrom number objects).length := by
  induction objects generalizing start number with
  | nil => cases member
  | cons object rest ih =>
    rw [offsetsFrom] at member
    rw [bodyFrom, List.length_append]
    rcases List.mem_cons.mp member with rfl | later
    · omega
    · have bound := ih (start + (objectText number object).length) (number + 1) later
      omega

theorem offsetsFrom_length (start number : Nat) (objects : List Chars) :
    (offsetsFrom start number objects).length = objects.length := by
  induction objects generalizing start number with
  | nil => rfl
  | cons object rest ih => rw [offsetsFrom, List.length_cons, ih, List.length_cons]

theorem digits_length_le {number : Nat} (small : number < 10 ^ 10) :
    (digits number).length ≤ 10 := by
  rw [digits_eq]
  exact (Nat.length_toDigits_le_iff (by decide) (by decide)).mpr small

theorem bodyFrom_length_le {limit : Nat} (number : Nat) (objects : List Chars)
    (small : ∀ object ∈ objects, object.length ≤ limit) (few : number + objects.length ≤ 10 ^ 10) :
    (bodyFrom number objects).length ≤ objects.length * (limit + 26) := by
  induction objects generalizing number with
  | nil => exact Nat.zero_le _
  | cons object rest ih =>
    rw [List.length_cons] at few ⊢
    have first := small object List.mem_cons_self
    have later := ih (number + 1)
      (fun other member => small other (List.mem_cons_of_mem _ member)) (by omega)
    have name : (digits number).length ≤ 10 := digits_length_le (by omega)
    have marks : " 0 obj\n".toList.length = 7 ∧ "\nendobj\n".toList.length = 8 := ⟨rfl, rfl⟩
    rw [bodyFrom, objectText, List.length_append, List.length_append, List.length_append,
      List.length_append, marks.1, marks.2, Nat.succ_mul]
    omega

-- What follows the body is bounded as long as the body fits the entries of the table.
theorem fileText_length_le {header : Chars} {objects : List Chars} {dictionary : Chars}
    (small : (header ++ bodyFrom 1 objects).length < 10 ^ 10) (few : objects.length + 1 < 10 ^ 10) :
    (fileText header objects dictionary).length ≤
      (header ++ bodyFrom 1 objects).length + 20 * objects.length + dictionary.length + 74 := by
  have fits : ∀ offset ∈ offsetsFrom header.length 1 objects, (entryText offset).length = 20 := by
    intro offset member
    have bound := bodyFrom_length header.length 1 objects member
    rw [List.length_append] at small
    have width : (padded 10 offset).length = 10 := padded_length (by decide) (by omega)
    rw [entryText, List.length_append, width]
    rfl
  have entries : ((offsetsFrom header.length 1 objects).flatMap entryText).length =
      20 * objects.length := by
    rw [List.length_flatMap, List.map_congr_left fits, List.map_const', List.sum_replicate_nat,
      offsetsFrom_length, Nat.mul_comm]
  have start : (digits (header ++ bodyFrom 1 objects).length).length ≤ 10 :=
    digits_length_le small
  have count : (digits (objects.length + 1)).length ≤ 10 := digits_length_le few
  have marks : tableStart.length = 7 ∧ freeEntry.length = 21 ∧ trailerStart.length = 8 ∧
      startMark.length = 10 ∧ fileEnd.length = 7 := ⟨rfl, rfl, rfl, rfl, rfl⟩
  rw [fileText, tableText, trailerText, offsetsFrom_length]
  simp only [List.length_append, List.length_cons, entries] at start count ⊢
  omega

theorem offsetsFrom_object {front : Chars} (number : Nat) {objects : List Chars} (behind : Chars)
    {place offset : Nat} {object : Chars}
    (entry : (offsetsFrom front.length number objects)[place]? = some offset)
    (here : objects[place]? = some object) : objectText (number + place) object <+:
      (front ++ (bodyFrom number objects ++ behind)).drop offset := by
  induction objects generalizing front number place with
  | nil => cases here
  | cons first rest ih =>
    rw [offsetsFrom] at entry
    cases place with
    | zero =>
      rw [List.getElem?_cons_zero, Option.some.injEq] at entry here
      rw [← entry, ← here, List.drop_left, bodyFrom, List.append_assoc, Nat.add_zero]
      exact List.prefix_append _ _
    | succ place =>
      rw [List.getElem?_cons_succ] at entry here
      -- The next objects stand behind this one, which becomes a part of the front.
      have moved : front.length + (objectText number first).length =
          (front ++ objectText number first).length := List.length_append.symm
      rw [moved] at entry
      have later := ih (number + 1) entry here
      rw [bodyFrom, List.append_assoc (objectText number first), ← List.append_assoc front,
        show number + (place + 1) = number + 1 + place by omega]
      exact later

theorem readEntries_text {offsets : List Nat} (small : ∀ offset ∈ offsets, offset < 10 ^ 10)
    (rest : Chars) :
    readEntries offsets.length (offsets.flatMap entryText ++ rest) = some (offsets, rest) := by
  induction offsets with
  | nil => rfl
  | cons offset more ih =>
    have width : (padded 10 offset).length = 10 :=
      padded_length (by decide) (small offset List.mem_cons_self)
    have ending : inUse.length = 10 := rfl
    have later := ih fun other member => small other (List.mem_cons_of_mem _ member)
    rw [List.length_cons, List.flatMap_cons, entryText, List.append_assoc, List.append_assoc,
      readEntries]
    generalize more.flatMap entryText ++ rest = behind at later ⊢
    have number : (padded 10 offset ++ (inUse ++ behind)).take 10 = padded 10 offset :=
      List.take_left' width
    have kind : (padded 10 offset ++ (inUse ++ behind)).drop 10 = inUse ++ behind :=
      List.drop_left' width
    have next : (padded 10 offset ++ (inUse ++ behind)).drop 20 = behind := by
      rw [show 20 = 10 + 10 from rfl, ← List.drop_drop, kind]
      exact List.drop_left' ending
    have isEntry : (((padded 10 offset ++ (inUse ++ behind)).take 10).all Char.isDigit &&
        ((padded 10 offset ++ (inUse ++ behind)).drop 10).take 10 == inUse) = true := by
      rw [number, kind, List.take_left' ending, padded_isDigit, beq_self_eq_true]
      rfl
    rw [if_pos isEntry, number, next, later, Option.map_some, valueOf_padded]

theorem readTable_text {offsets : List Nat} (small : ∀ offset ∈ offsets, offset < 10 ^ 10)
    (rest : Chars) : readTable (tableText offsets ++ rest) = some (offsets, rest) := by
  have newline : '\n'.isDigit = false := rfl
  obtain ⟨number, behind⟩ := takeWhile_digits (offsets.length + 1) newline
    ("0000000000 65535 f \n".toList ++ (offsets.flatMap entryText ++ rest))
  have free : freeEntry ++ (offsets.flatMap entryText ++ rest) =
      '\n' :: ("0000000000 65535 f \n".toList ++ (offsets.flatMap entryText ++ rest)) := rfl
  rw [← free] at number behind
  have text : tableText offsets ++ rest = tableStart ++ (digits (offsets.length + 1) ++
      (freeEntry ++ (offsets.flatMap entryText ++ rest))) := by
    rw [tableText, List.append_assoc, List.append_assoc, List.append_assoc]
  rw [readTable, text, stripPrefix_append, Option.bind_some, number, behind, stripPrefix_append,
    Option.bind_some, valueOf_digits, Nat.add_sub_cancel]
  exact readEntries_text small rest

theorem startXref_text (front : Chars) (start : Nat) :
    startXref (front ++ '\n' :: (startMark ++ (digits start ++ fileEnd))) = some start := by
  have split : front ++ '\n' :: (startMark ++ (digits start ++ fileEnd)) =
      (front ++ '\n' :: (startMark ++ digits start)) ++ fileEnd := by
    rw [List.append_assoc, List.cons_append, List.append_assoc]
  have mark : startMark = "startxref".toList ++ ['\n'] := by decide
  have last : ((front ++ '\n' :: (startMark ++ digits start)).reverse.takeWhile
      Char.isDigit).reverse = digits start := by
    -- From the end on, the digits go up to the mark in front of them.
    have backwards : (front ++ '\n' :: (startMark ++ digits start)).reverse =
        (digits start).reverse ++ '\n' :: ("startxref".toList.reverse ++ '\n' :: front.reverse) := by
      rw [mark]
      simp
    rw [backwards, List.takeWhile_append_of_pos (fun char member =>
        digits_isDigit start char (List.mem_reverse.mp member)),
      List.takeWhile_cons_of_neg (by decide), List.append_nil, List.reverse_reverse]
  have ends : (startMark ++ digits start).isSuffixOf
      (front ++ '\n' :: (startMark ++ digits start)) = true := by
    rw [List.isSuffixOf_iff_suffix]
    exact (List.suffix_cons '\n' _).trans (List.suffix_append front _)
  have some : (!(digits start).isEmpty) = true := by
    rw [Bool.not_eq_true', List.isEmpty_eq_false_iff]
    exact digits_ne_nil start
  rw [split, startXref, stripSuffix_append, Option.bind_some]
  dsimp only
  rw [last, some, ends, Bool.and_self, if_pos rfl, valueOf_digits]

/-! ## Dictionaries -/

/-- Brackets stand for themselves. -/
def spaced (text : Chars) : Chars :=
  text.flatMap fun char => if char == '[' || char == ']' then [' ', char, ' '] else [char]

def tokens (text : Chars) : List Chars := splitWhitespace (spaced text)

def isNumber (token : Chars) : Bool := !token.isEmpty && token.all Char.isDigit

/-- The numbers of the objects that tokens refer to. -/
def references : List Chars → List Nat
  | number :: generation :: mark :: rest =>
    (if isNumber number && generation == ['0'] && mark == ['R'] then [valueOf number] else []) ++
      references (generation :: mark :: rest)
  | _ => []

def numberAfter (key : String) (tokens : List Chars) : Option Nat :=
  ((tokens.dropWhile fun token => !(token == key.toList)).tail.head?).map valueOf

def arrayAfter (key : String) (tokens : List Chars) : Option (List Chars) :=
  match (tokens.dropWhile fun token => !(token == key.toList)).tail with
  | [] => none
  | bracket :: rest =>
    if bracket == ['['] then some (rest.takeWhile fun token => !(token == [']'])) else none

def streamMark : Chars := '\n' :: "stream\n".toList

def dictionaryOf (object : Chars) : Chars :=
  match splitOnceText streamMark object with
  | some (dictionary, _) => dictionary
  | none => object

def isStream (object : Chars) : Bool := (splitOnceText streamMark object).isSome

def contentOf (object : Chars) : Option Chars :=
  (splitOnceText streamMark object).bind fun (_, rest) => stripSuffix "endstream".toList rest

/-- What a reader relies on in an object: references name objects, and the numbers of kids and
of bytes are those that the dictionary tells. -/
structure Sound (count : Nat) (object : Chars) : Prop where
  references : ∀ number ∈ references (tokens (dictionaryOf object)), 1 ≤ number ∧ number ≤ count
  kids : ∀ kids, arrayAfter "/Kids" (tokens (dictionaryOf object)) = some kids →
    numberAfter "/Count" (tokens (dictionaryOf object)) = some (PdfFiles.references kids).length
  stream : isStream object = true → ∃ content, contentOf object = some content ∧
    numberAfter "/Length" (tokens (dictionaryOf object)) = some content.length

structure WellFormed (file : Chars) (objects : List Chars) : Prop where
  table : ∃ start offsets trailer, startXref file = some start ∧
    readTable (file.drop start) = some (offsets, trailer) ∧ offsets.length = objects.length ∧
      (∀ (place offset : Nat) (object : Chars), offsets[place]? = some offset →
        objects[place]? = some object → objectText (place + 1) object <+: file.drop offset) ∧
      ∀ number ∈ references (tokens trailer), 1 ≤ number ∧ number ≤ objects.length
  objects : ∀ object ∈ objects, Sound objects.length object

/-! ### Tokens -/

theorem spaced_append (first second : Chars) :
    spaced (first ++ second) = spaced first ++ spaced second :=
  List.flatMap_append

theorem tokens_append (first : Chars) {separator : Char} (white : isWhiteSpace separator = true)
    (second : Chars) : tokens (first ++ separator :: second) = tokens first ++ tokens second := by
  have noBracket : ¬(separator == '[' || separator == ']') = true := by
    intro bracket
    rw [Bool.or_eq_true, beq_iff_eq, beq_iff_eq] at bracket
    rcases bracket with rfl | rfl
    · exact absurd white (by decide)
    · exact absurd white (by decide)
  have blank : spaced (separator :: second) = separator :: spaced second := by
    rw [spaced, List.flatMap_cons, if_neg noBracket]
    rfl
  rw [tokens, spaced_append, blank, splitWhitespace, List.splitOnP_append_cons _ _ white,
    List.filter_append]
  rfl

theorem tokens_bracket (first : Chars) {bracket : Char}
    (isBracket : (bracket == '[' || bracket == ']') = true) (second : Chars) :
    tokens (first ++ bracket :: second) = tokens first ++ [bracket] :: tokens second := by
  have alone : spaced (bracket :: second) = ' ' :: ([bracket] ++ ' ' :: spaced second) := by
    rw [spaced, List.flatMap_cons, if_pos isBracket]
    rfl
  have white : isWhiteSpace bracket = false := by
    rw [Bool.or_eq_true, beq_iff_eq, beq_iff_eq] at isBracket
    rcases isBracket with rfl | rfl
    · decide
    · decide
  have clean : ∀ char ∈ [bracket], isWhiteSpace char = false := by
    intro char member
    rw [List.mem_singleton.mp member]
    exact white
  have split : splitWhitespace (spaced first ++ ' ' :: ([bracket] ++ ' ' :: spaced second)) =
      splitWhitespace (spaced first) ++ splitWhitespace ([bracket] ++ ' ' :: spaced second) := by
    rw [splitWhitespace, List.splitOnP_append_cons _ _ (by decide), List.filter_append]
    rfl
  rw [tokens, spaced_append, alone, split,
    splitWhitespace_cons (List.cons_ne_nil _ _) clean (by decide)]
  rfl

theorem tokens_digits (number : Nat) : tokens (digits number) = [digits number] := by
  have plain : spaced (digits number) = digits number := by
    have single (text : Chars) (numeric : ∀ char ∈ text, char.isDigit = true) :
        spaced text = text := by
      induction text with
      | nil => rfl
      | cons char rest ih =>
        have digit := numeric char List.mem_cons_self
        have notOpen : ¬(char == '[' || char == ']') = true := by
          intro bracket
          rw [Bool.or_eq_true, beq_iff_eq, beq_iff_eq] at bracket
          rcases bracket with rfl | rfl
          · cases digit
          · cases digit
        have rest := ih fun other member => numeric other (List.mem_cons_of_mem _ member)
        rw [spaced, List.flatMap_cons, if_neg notOpen]
        exact congrArg (char :: ·) rest
    exact single _ (digits_isDigit number)
  rw [tokens, plain]
  exact splitWhitespace_word (digits_ne_nil number) fun char member =>
    digit_not_white (digits_isDigit number char member)

theorem tokens_number (front back : Chars) (number : Nat) :
    tokens (front ++ ' ' :: (digits number ++ ' ' :: back)) =
      tokens front ++ digits number :: tokens back := by
  have blank : isWhiteSpace ' ' = true := by decide
  rw [tokens_append _ blank, tokens_append _ blank, tokens_digits]
  rfl

theorem isNumber_digits (number : Nat) : isNumber (digits number) = true := by
  rw [isNumber, Bool.and_eq_true, Bool.not_eq_true', List.isEmpty_eq_false_iff, List.all_eq_true]
  exact ⟨digits_ne_nil number, digits_isDigit number⟩

theorem digits_ne {word : Chars} (plain : isNumber word = false) (number : Nat) :
    digits number ≠ word := by
  rintro rfl
  rw [isNumber_digits] at plain
  cases plain

theorem references_append {word : Chars} (plain : isNumber word = false) (noMark : word ≠ ['R'])
    (words rest : List Chars) :
    references (words ++ word :: rest) = references words ++ references rest := by
  have zero : (word == ['0']) = false := by
    rw [beq_eq_false_iff_ne]
    rintro rfl
    cases plain
  have mark : (word == ['R']) = false := beq_eq_false_iff_ne.mpr noMark
  have start : references (word :: rest) = references rest := by
    match rest with
    | [] => rfl
    | [_] => rfl
    | generation :: mark :: more =>
      rw [references, plain, Bool.false_and, Bool.false_and, if_neg Bool.false_ne_true]
      rfl
  -- The word may stand first, second or third of three tokens.
  have second (first : Chars) : references (first :: word :: rest) = references rest := by
    match rest with
    | [] => rfl
    | next :: more =>
      rw [references, zero, Bool.and_false, Bool.false_and, if_neg Bool.false_ne_true,
        List.nil_append]
      exact start
  induction words with
  | nil => exact start
  | cons first words ih =>
    match words with
    | [] => exact second first
    | [generation] =>
      change references (first :: generation :: word :: rest) = _
      rw [references, mark, Bool.and_false, if_neg Bool.false_ne_true, List.nil_append]
      exact second generation
    | generation :: third :: more =>
      change references (first :: generation :: third :: (more ++ word :: rest)) = _
      rw [references, references, List.append_assoc]
      exact congrArg _ ih

theorem references_word {word : Chars} (plain : isNumber word = false) (noMark : word ≠ ['R'])
    (rest : List Chars) : references (word :: rest) = references rest :=
  references_append plain noMark [] rest

theorem references_cons (number : Nat) (rest : List Chars) :
    references (digits number :: ['0'] :: ['R'] :: rest) = number :: references rest := by
  have mark : references (['R'] :: rest) = references rest := by
    match rest with
    | [] => rfl
    | [_] => rfl
    | _ :: _ :: _ => rfl
  have zero : references (['0'] :: ['R'] :: rest) = references rest := by
    match rest with
    | [] => rfl
    | next :: more =>
      have other : (isNumber ['0'] && ['R'] == ['0'] && next == ['R']) = false := rfl
      rw [references, other, if_neg Bool.false_ne_true, List.nil_append]
      exact mark
  rw [references, isNumber_digits, beq_self_eq_true, beq_self_eq_true, Bool.and_self,
    Bool.and_self, if_pos rfl, valueOf_digits, zero]
  rfl

theorem seek_key (key : String) {front : List Chars} (absent : key.toList ∉ front)
    (rest : List Chars) :
    (front ++ key.toList :: rest).dropWhile (fun token => !(token == key.toList)) =
      key.toList :: rest := by
  have skipped : ∀ token ∈ front, (!(token == key.toList)) = true := by
    intro token member
    rw [Bool.not_eq_true', beq_eq_false_iff_ne]
    rintro rfl
    exact absent member
  rw [List.dropWhile_append_of_pos skipped, List.dropWhile_cons, beq_self_eq_true]
  rfl

theorem numberAfter_key (key : String) {front : List Chars} (absent : key.toList ∉ front)
    (number : Nat) (rest : List Chars) :
    numberAfter key (front ++ key.toList :: digits number :: rest) = some number := by
  rw [numberAfter, seek_key key absent]
  exact congrArg some (valueOf_digits number)

theorem arrayAfter_absent (key : String) {tokens : List Chars} (absent : key.toList ∉ tokens) :
    arrayAfter key tokens = none := by
  have skipped : tokens.dropWhile (fun token => !(token == key.toList)) = [] := by
    rw [List.dropWhile_eq_nil_iff]
    intro token member
    rw [Bool.not_eq_true', beq_eq_false_iff_ne]
    rintro rfl
    exact absent member
  rw [arrayAfter, skipped]
  rfl

theorem arrayAfter_key (key : String) {front entries : List Chars} (absent : key.toList ∉ front)
    (inside : [']'] ∉ entries) (rest : List Chars) :
    arrayAfter key (front ++ key.toList :: ['['] :: (entries ++ [']'] :: rest)) = some entries := by
  have kept : ∀ token ∈ entries, (!(token == [']'])) = true := by
    intro token member
    rw [Bool.not_eq_true', beq_eq_false_iff_ne]
    rintro rfl
    exact inside member
  rw [arrayAfter, seek_key key absent]
  dsimp only [List.tail_cons]
  rw [beq_self_eq_true, if_pos rfl, List.takeWhile_append_of_pos kept, List.takeWhile_cons,
    beq_self_eq_true]
  exact congrArg some (List.append_nil entries)

/-! ### Arrays of references -/

/-- References to objects, with blanks between. -/
def referencesText (numbers : List Nat) : Chars :=
  [' '].intercalate (numbers.map fun number => digits number ++ " 0 R".toList)

def referenceTokens (numbers : List Nat) : List Chars :=
  numbers.flatMap fun number => [digits number, ['0'], ['R']]

theorem referencesText_tokens (numbers : List Nat) :
    tokens (referencesText numbers) = referenceTokens numbers := by
  have single (number : Nat) :
      tokens (digits number ++ " 0 R".toList) = [digits number, ['0'], ['R']] := by
    have blank : isWhiteSpace ' ' = true := by decide
    have split := tokens_append (digits number) blank "0 R".toList
    rw [tokens_digits] at split
    exact split
  induction numbers with
  | nil => rfl
  | cons number rest ih =>
    cases rest with
    | nil =>
      rw [referencesText, List.map_singleton, List.intercalate_singleton, single]
      rfl
    | cons next more =>
      have split : referencesText (number :: next :: more) =
          (digits number ++ " 0 R".toList) ++ ' ' :: referencesText (next :: more) := by
        rw [referencesText, List.map_cons, List.map_cons, List.intercalate_cons_cons]
        rw [referencesText, List.map_cons, List.append_assoc]
        rfl
      have blank : isWhiteSpace ' ' = true := by decide
      rw [split, tokens_append _ blank, single, ih]
      rfl

theorem referenceTokens_references (numbers : List Nat) (rest : List Chars) :
    references (referenceTokens numbers ++ rest) = numbers ++ references rest := by
  induction numbers with
  | nil => rfl
  | cons number more ih =>
    rw [referenceTokens, List.flatMap_cons, List.append_assoc]
    change references (digits number :: ['0'] :: ['R'] :: (referenceTokens more ++ rest)) = _
    rw [references_cons, ih]
    rfl

theorem referenceTokens_absent {word : Chars} (plain : isNumber word = false)
    (noMark : word ≠ ['R']) (numbers : List Nat) : word ∉ referenceTokens numbers := by
  intro member
  obtain ⟨number, _, among⟩ := List.mem_flatMap.mp member
  rcases List.mem_cons.mp among with same | more
  · exact digits_ne plain number same.symm
  · rcases List.mem_cons.mp more with rfl | last
    · cases plain
    · exact noMark (List.mem_singleton.mp last)

/-! ### Streams -/

theorem stream_parts {dictionary : Chars} (single : '\n' ∉ dictionary) (content : Chars) :
    dictionaryOf (dictionary ++ (streamMark ++ (content ++ "endstream".toList))) = dictionary ∧
      contentOf (dictionary ++ (streamMark ++ (content ++ "endstream".toList))) = some content := by
  have split := splitOnceText_first single "stream\n".toList (content ++ "endstream".toList)
  change splitOnceText streamMark (dictionary ++ (streamMark ++
    (content ++ "endstream".toList))) = _ at split
  rw [dictionaryOf, contentOf, split]
  exact ⟨rfl, stripSuffix_append content _⟩

theorem plain_parts {object : Chars} (single : '\n' ∉ object) :
    isStream object = false ∧ dictionaryOf object = object := by
  have absent : splitOnceText streamMark object = none :=
    splitOnceText_absent List.mem_cons_self single
  rw [isStream, dictionaryOf, absent]
  exact ⟨rfl, rfl⟩

-- An object on one line is sound if its dictionary is.
theorem sound_plain {count : Nat} {object : Chars} (single : '\n' ∉ object)
    (references : ∀ number ∈ references (tokens object), 1 ≤ number ∧ number ≤ count)
    (kids : ∀ kids, arrayAfter "/Kids" (tokens object) = some kids →
      numberAfter "/Count" (tokens object) = some (PdfFiles.references kids).length) :
    Sound count object := by
  obtain ⟨noStream, dictionary⟩ := plain_parts single
  refine ⟨?_, ?_, ?_⟩
  · rw [dictionary]
    exact references
  · rw [dictionary]
    exact kids
  · intro stream
    rw [noStream] at stream
    cases stream

def lengthStart : Chars := "<< /Length ".toList

def dictionaryEnd : Chars := ' ' :: ">>".toList

def streamText (content : Chars) : Chars :=
  lengthStart ++ digits content.length ++ dictionaryEnd ++
    (streamMark ++ (content ++ "endstream".toList))

theorem digits_absent {char : Char} (other : char.isDigit = false) (number : Nat) :
    char ∉ digits number := by
  intro member
  rw [digits_isDigit number char member] at other
  cases other

theorem streamText_sound (count : Nat) (content : Chars) : Sound count (streamText content) := by
  have single : '\n' ∉ lengthStart ++ digits content.length ++ dictionaryEnd := by
    simp only [List.mem_append, not_or]
    exact ⟨⟨by decide, digits_absent rfl _⟩, by decide⟩
  have words : tokens (lengthStart ++ digits content.length ++ dictionaryEnd) =
      ["<<".toList] ++ "/Length".toList :: digits content.length :: [">>".toList] := by
    have start : lengthStart = "<< /Length".toList ++ [' '] := by decide
    have front : tokens "<< /Length".toList = ["<<".toList, "/Length".toList] := by
      decide +kernel
    have back : tokens ">>".toList = [">>".toList] := by decide +kernel
    rw [start, dictionaryEnd, List.append_assoc, List.append_assoc, List.singleton_append,
      tokens_number, front, back]
    rfl
  obtain ⟨dictionary, parts⟩ := stream_parts single content
  rw [streamText]
  refine ⟨?_, ?_, fun _ => ⟨content, parts, ?_⟩⟩
  · rw [dictionary, words, references_append rfl (by decide)]
    intro number member
    cases member
  · rw [dictionary, words, arrayAfter_absent]
    · intro kids found
      cases found
    · have plain : isNumber "/Kids".toList = false := rfl
      have other := (digits_ne plain content.length).symm
      simp only [List.mem_append, List.mem_cons, List.not_mem_nil, or_false, not_or]
      exact ⟨by decide, by decide, other, by decide⟩
  · rw [dictionary, words]
    exact numberAfter_key "/Length" (by decide) _ _

/-! ## Files that are written -/

-- A file is well formed if its objects and the dictionary behind the table are sound, and its
-- length fits the entries of the table.
theorem fileText_wellFormed {header : Chars} {objects : List Chars} {dictionary : Chars}
    (small : (fileText header objects dictionary).length < 10 ^ 10)
    (trailer : ∀ start, ∀ number ∈ references (tokens (trailerText dictionary start)),
      1 ≤ number ∧ number ≤ objects.length)
    (sound : ∀ object ∈ objects, Sound objects.length object) :
    WellFormed (fileText header objects dictionary) objects := by
  have fits : ∀ offset ∈ offsetsFrom header.length 1 objects, offset < 10 ^ 10 := by
    intro offset member
    have bound := bodyFrom_length header.length 1 objects member
    rw [fileText, List.length_append, List.length_append] at small
    omega
  refine ⟨⟨(header ++ bodyFrom 1 objects).length, offsetsFrom header.length 1 objects,
    trailerText dictionary (header ++ bodyFrom 1 objects).length, ?_, ?_,
    offsetsFrom_length _ _ _, ?_, trailer _⟩, sound⟩
  · have ended := startXref_text (header ++ bodyFrom 1 objects ++
      (tableText (offsetsFrom header.length 1 objects) ++ (trailerStart ++ dictionary)))
      (header ++ bodyFrom 1 objects).length
    rw [← ended, fileText, trailerText]
    simp only [List.append_assoc]
  · rw [fileText, List.drop_left]
    exact readTable_text fits _
  · intro place offset object entry here
    rw [fileText, List.append_assoc]
    have found := offsetsFrom_object 1
      (tableText (offsetsFrom header.length 1 objects) ++
        trailerText dictionary (header ++ bodyFrom 1 objects).length) entry here
    rw [Nat.add_comm place 1]
    exact found

def sizeStart : Chars := "<< /Size ".toList

def rootEnd : Chars := ' ' :: "/Root 1 0 R >>".toList

/-- The dictionary behind the table of a file whose first object is the root. -/
def rootText (count : Nat) : Chars := sizeStart ++ digits count ++ rootEnd

theorem rootText_references (count start : Nat) :
    references (tokens (trailerText (rootText count) start)) = [1] := by
  have text : trailerText (rootText count) start =
      (trailerStart ++ "<< /Size".toList) ++ ' ' :: (digits count ++ ' ' ::
        ("/Root 1 0 R >>".toList ++ '\n' :: ("startxref".toList ++ '\n' ::
          (digits start ++ '\n' :: "%%EOF\n".toList)))) := by
    have size : sizeStart = "<< /Size".toList ++ [' '] := by decide
    have mark : startMark = "startxref".toList ++ ['\n'] := by decide
    have ending : fileEnd = '\n' :: "%%EOF\n".toList := by decide
    rw [trailerText, rootText, size, mark, ending, rootEnd]
    simp only [List.append_assoc, List.cons_append, List.nil_append]
  have newline : isWhiteSpace '\n' = true := by decide
  have front : tokens (trailerStart ++ "<< /Size".toList) =
      ["trailer".toList, "<<".toList] ++ ["/Size".toList] := by decide +kernel
  have root : tokens "/Root 1 0 R >>".toList =
      "/Root".toList :: ([['1'], ['0'], ['R']] ++ [">>".toList]) := by decide +kernel
  have mark : tokens "startxref".toList = ["startxref".toList] := by decide +kernel
  have ending : tokens "%%EOF\n".toList = ["%%EOF".toList] := by decide +kernel
  have words : tokens (trailerText (rootText count) start) =
      ["trailer".toList, "<<".toList] ++ "/Size".toList :: ([digits count] ++
        "/Root".toList :: ([['1'], ['0'], ['R']] ++ ">>".toList :: ([] ++
          "startxref".toList :: ([digits start] ++ "%%EOF".toList :: [])))) := by
    rw [text, tokens_number, tokens_append _ newline, tokens_append _ newline,
      tokens_append _ newline, tokens_digits, front, root, mark, ending]
    simp only [List.cons_append, List.nil_append]
  rw [words, references_append rfl (by decide), references_append rfl (by decide),
    references_append rfl (by decide), references_append rfl (by decide),
    references_append rfl (by decide)]
  rfl

end Onetcli.PdfFiles
