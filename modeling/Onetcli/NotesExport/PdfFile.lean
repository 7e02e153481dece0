import Mathlib.Algebra.Group.Int.Defs
import Onetcli.NotesExport.PdfText

/-!
The structure of the PDF files of notes: the bytes that are written are a file whose table has
the places of the objects, and whose objects name each other and tell their own lengths.
-/

namespace Onetcli.NotesExport

open Text Chars PdfFiles

/-! ## Bytes -/

/-- Each byte as the character with its number. -/
def latin (bytes : List UInt8) : Chars := bytes.map fun byte => Char.ofNat byte.toNat

theorem latin_append (first second : List UInt8) :
    latin (first ++ second) = latin first ++ latin second :=
  List.map_append

theorem latin_length (bytes : List UInt8) : (latin bytes).length = bytes.length :=
  List.length_map _

theorem latin_toUtf8 {text : Chars} (ascii : text.all isAscii = true) :
    latin (toUtf8 text) = text := by
  have small : ∀ char ∈ text, char.toNat < 128 := fun char member =>
    of_decide_eq_true (List.all_eq_true.mp ascii char member)
  rw [latin, toUtf8_ascii small, List.map_map]
  refine (List.map_congr_left fun char member => ?_).trans (List.map_id text)
  have byte : (UInt8.ofNat char.toNat).toNat = char.toNat := by
    rw [UInt8.toNat_ofNat']
    exact Nat.mod_eq_of_lt ((small char member).trans (by decide))
  rw [Function.comp_apply, byte, Char.ofNat_toNat]
  rfl

theorem digits_ascii (number : Nat) : (PdfFiles.digits number).all isAscii = true := by
  rw [List.all_eq_true]
  intro char member
  have digit := digits_isDigit number char member
  rw [Char.isDigit, Bool.and_eq_true, decide_eq_true_eq, decide_eq_true_eq,
    ge_iff_le, UInt32.le_iff_toNat_le, UInt32.le_iff_toNat_le] at digit
  have high : char.toNat ≤ 57 := digit.2
  rw [isAscii, decide_eq_true_eq]
  omega

theorem padded_ascii (width number : Nat) : (padded width number).all isAscii = true := by
  rw [padded, List.all_append, Bool.and_eq_true]
  refine ⟨?_, digits_ascii number⟩
  rw [List.all_eq_true]
  intro char member
  rw [List.eq_of_mem_replicate member]
  rfl

/-! ## The writer -/

theorem writeObject_text (written : List UInt8) (offsets : List Nat) (object : List UInt8)
    (number : Nat) : latin (writeObject (written, offsets) (object, number)).1 =
      latin written ++ objectText (number + 1) (latin object) := by
  have header : latin (toUtf8 (PdfFiles.digits (number + 1) ++ " 0 obj\n".toList)) =
      PdfFiles.digits (number + 1) ++ " 0 obj\n".toList := by
    apply latin_toUtf8
    rw [List.all_append, digits_ascii]
    decide
  have ending : latin (toUtf8 "\nendobj\n".toList) = "\nendobj\n".toList :=
    latin_toUtf8 (by decide)
  rw [writeObject, latin_append, latin_append, latin_append, header, ending, objectText]
  simp only [List.append_assoc]

theorem writeObject_run (objects : List (List UInt8)) (written : List UInt8) (offsets : List Nat)
    (number : Nat) : latin ((objects.zipIdx number).foldl writeObject (written, offsets)).1 =
        latin written ++ bodyFrom (number + 1) (objects.map latin) ∧
      ((objects.zipIdx number).foldl writeObject (written, offsets)).2 =
        offsets ++ offsetsFrom written.length (number + 1) (objects.map latin) := by
  induction objects generalizing written offsets number with
  | nil => exact ⟨(List.append_nil _).symm, (List.append_nil _).symm⟩
  | cons object rest ih =>
    have text := writeObject_text written offsets object number
    -- Characters stand for bytes one by one, so the lengths are the same.
    have grown : (writeObject (written, offsets) (object, number)).1.length =
        written.length + (objectText (number + 1) (latin object)).length := by
      rw [← latin_length, text, List.length_append, latin_length]
    have noted : (writeObject (written, offsets) (object, number)).2 =
        offsets ++ [written.length] := rfl
    obtain ⟨body, places⟩ := ih (writeObject (written, offsets) (object, number)).1
      (writeObject (written, offsets) (object, number)).2 (number + 1)
    rw [text] at body
    rw [grown, noted] at places
    rw [List.zipIdx_cons, List.foldl_cons, List.map_cons, bodyFrom, offsetsFrom]
    refine ⟨?_, ?_⟩
    · rw [List.append_assoc] at body
      exact body
    · rw [List.append_assoc] at places
      exact places

theorem table_text (count : Nat) (offsets : List Nat) (sizes : offsets.length = count) :
    latin (toUtf8 ("xref\n0 ".toList ++ PdfFiles.digits (count + 1) ++
        "\n0000000000 65535 f \n".toList)) ++ latin (offsets.flatMap fun offset =>
        toUtf8 (padded 10 offset ++ " 00000 n \n".toList)) = tableText offsets := by
  have start : latin (toUtf8 ("xref\n0 ".toList ++ PdfFiles.digits (count + 1) ++
      "\n0000000000 65535 f \n".toList)) =
        tableStart ++ PdfFiles.digits (count + 1) ++ freeEntry := by
    apply latin_toUtf8
    rw [List.all_append, List.all_append, digits_ascii]
    decide
  have entries : latin (offsets.flatMap fun offset =>
      toUtf8 (padded 10 offset ++ " 00000 n \n".toList)) = offsets.flatMap entryText := by
    have single (offset : Nat) : latin (toUtf8 (padded 10 offset ++ inUse)) = entryText offset := by
      apply latin_toUtf8
      rw [List.all_append, padded_ascii]
      decide
    rw [latin, List.map_flatMap]
    exact List.flatMap_congr fun offset _ => single offset
  rw [start, entries, tableText, sizes, List.append_assoc, List.append_assoc]

theorem trailer_text (count start : Nat) :
    latin (toUtf8 ("trailer\n<< /Size ".toList ++ PdfFiles.digits count ++
      " /Root 1 0 R >>\nstartxref\n".toList ++ PdfFiles.digits start ++
      "\n%%EOF\n".toList)) = trailerText (rootText count) start := by
  have bytes : latin (toUtf8 ("trailer\n<< /Size ".toList ++ PdfFiles.digits count ++
      " /Root 1 0 R >>\nstartxref\n".toList ++ PdfFiles.digits start ++
      "\n%%EOF\n".toList)) = "trailer\n<< /Size ".toList ++ PdfFiles.digits count ++
      " /Root 1 0 R >>\nstartxref\n".toList ++ PdfFiles.digits start ++ fileEnd := by
    apply latin_toUtf8
    rw [List.all_append, List.all_append, List.all_append, List.all_append, digits_ascii,
      digits_ascii]
    decide
  have front : "trailer\n<< /Size ".toList = trailerStart ++ sizeStart := by decide
  have middle : " /Root 1 0 R >>\nstartxref\n".toList = rootEnd ++ '\n' :: startMark := by decide
  rw [bytes, front, middle, trailerText, rootText]
  simp only [List.append_assoc, List.cons_append]

theorem writePdf_text (objects : List (List UInt8)) : latin (writePdf objects) =
      fileText (latin pdfHeader) (objects.map latin) (rootText (objects.length + 1)) := by
  obtain ⟨body, places⟩ := writeObject_run objects pdfHeader [] 0
  rw [Nat.zero_add] at body places
  rw [List.nil_append] at places
  rw [writePdf, fileText]
  generalize objects.zipIdx.foldl writeObject (pdfHeader, []) = written at body places ⊢
  obtain ⟨output, offsets⟩ := written
  dsimp only at body places ⊢
  have sizes : offsets.length = objects.length := by
    rw [places, offsetsFrom_length, List.length_map]
  rw [latin_append, latin_append, latin_append, List.append_assoc (latin output),
    table_text objects.length offsets sizes, trailer_text, ← body, latin_length, latin_length,
    ← places, List.append_assoc]

/-! ## Objects -/

theorem streamObject_text (bytes : List UInt8) :
    latin (streamObject bytes) = streamText (latin bytes) := by
  have start : latin (toUtf8 ("<< /Length ".toList ++ PdfFiles.digits bytes.length ++
      " >>\nstream\n".toList)) =
        lengthStart ++ PdfFiles.digits bytes.length ++ " >>\nstream\n".toList := by
    apply latin_toUtf8
    rw [List.all_append, List.all_append, digits_ascii]
    decide
  have ending : latin (toUtf8 "endstream".toList) = "endstream".toList :=
    latin_toUtf8 (by decide)
  have mark : " >>\nstream\n".toList = dictionaryEnd ++ streamMark := by decide
  rw [streamObject, latin_append, latin_append, start, ending, mark, streamText, latin_length]
  simp only [List.append_assoc]

theorem pagesObject_ascii (count : Nat) : (pagesObject count).all isAscii = true := by
  have kids : ([' '].intercalate ((List.range count).map fun index =>
      PdfFiles.digits (6 + index * 2) ++ " 0 R".toList)).all isAscii = true := by
    rw [List.all_eq_true]
    intro char member
    rcases mem_intercalate member with between | ⟨part, among, inside⟩
    · rw [List.mem_singleton.mp between]
      rfl
    · obtain ⟨index, _, rfl⟩ := List.mem_map.mp among
      have whole : (PdfFiles.digits (6 + index * 2) ++ " 0 R".toList).all isAscii = true := by
        rw [List.all_append, digits_ascii]
        decide
      exact List.all_eq_true.mp whole char inside
  unfold pagesObject
  simp only [List.all_append, Bool.and_eq_true]
  exact ⟨⟨⟨⟨by decide, kids⟩, by decide⟩, digits_ascii count⟩, by decide⟩

theorem joined_chars (front back : Chars) :
    (String.ofList front ++ String.ofList back).toList = front ++ back := by
  rw [String.toList_append, String.toList_ofList, String.toList_ofList]

theorem number_absent (number : Nat) : '\n' ∉ PdfFiles.digits number :=
  digits_absent rfl number

def pagesStart : Chars := "<< /Type /Pages /Kids ".toList

-- The tokens of the object of the pages, in front of their references and behind them.
theorem pagesObject_tokens (count : Nat) : tokens (pagesObject count) =
      ["<<".toList, "/Type".toList, "/Pages".toList] ++ "/Kids".toList :: ['['] ::
        (referenceTokens ((List.range count).map fun index => 6 + index * 2) ++ [']'] ::
          ([] ++ "/Count".toList :: PdfFiles.digits count :: [">>".toList])) := by
  have text : pagesObject count = pagesStart ++ '[' ::
      (referencesText ((List.range count).map fun index => 6 + index * 2) ++ ']' ::
        (" /Count".toList ++ ' ' :: (PdfFiles.digits count ++ ' ' :: ">>".toList))) := by
    have kids : ((List.range count).map fun index =>
        PdfFiles.digits (6 + index * 2) ++ " 0 R".toList) =
          ((List.range count).map fun index => 6 + index * 2).map fun number =>
            PdfFiles.digits number ++ " 0 R".toList := by
      rw [List.map_map]
      rfl
    have front : "<< /Type /Pages /Kids [".toList = pagesStart ++ ['['] := by decide
    have middle : "] /Count ".toList = ']' :: (" /Count".toList ++ [' ']) := by decide
    have ending : " >>".toList = ' ' :: ">>".toList := by decide
    unfold pagesObject referencesText
    simp only [kids, front, middle, ending, List.append_assoc, List.cons_append, List.nil_append]
  have front : tokens pagesStart =
      ["<<".toList, "/Type".toList, "/Pages".toList] ++ ["/Kids".toList] := rfl
  have middle : tokens " /Count".toList = ["/Count".toList] := rfl
  have ending : tokens ">>".toList = [">>".toList] := rfl
  rw [text, tokens_bracket _ rfl, tokens_bracket _ rfl, referencesText_tokens, tokens_number,
    front, middle, ending]
  simp only [List.cons_append, List.nil_append]

theorem pagesObject_sound (count : Nat) : Sound (5 + 2 * count) (pagesObject count) := by
  have single : '\n' ∉ pagesObject count := by
    have kid (number : Nat) : '\n' ∉ PdfFiles.digits number ++ " 0 R".toList := by
      rw [List.mem_append, not_or]
      exact ⟨number_absent number, by decide⟩
    have kids : '\n' ∉ [' '].intercalate ((List.range count).map fun index =>
        PdfFiles.digits (6 + index * 2) ++ " 0 R".toList) := by
      intro member
      rcases mem_intercalate member with between | ⟨part, among, inside⟩
      · exact absurd between (by decide)
      · obtain ⟨index, _, rfl⟩ := List.mem_map.mp among
        exact kid _ inside
    unfold pagesObject
    simp only [List.mem_append, not_or]
    exact ⟨⟨⟨⟨by decide, kids⟩, by decide⟩, number_absent count⟩, by decide⟩
  have entries : ∀ word : Chars, isNumber word = false → word ≠ ['R'] →
      word ∉ referenceTokens ((List.range count).map fun index => 6 + index * 2) :=
    fun word plain noMark => referenceTokens_absent plain noMark _
  have references : references (tokens (pagesObject count)) =
      (List.range count).map fun index => 6 + index * 2 := by
    have opening (rest : List Chars) : references (['['] :: rest) = references rest :=
      references_word rfl (by decide) rest
    have closing (rest : List Chars) : references ([']'] :: rest) = references rest :=
      references_word rfl (by decide) rest
    rw [pagesObject_tokens, references_append rfl (by decide), opening,
      referenceTokens_references, closing, references_append rfl (by decide)]
    exact List.append_nil _
  refine sound_plain single ?_ ?_
  · rw [references]
    intro number member
    obtain ⟨index, small, rfl⟩ := List.mem_map.mp member
    have bound := List.mem_range.mp small
    omega
  · intro kids found
    rw [pagesObject_tokens, arrayAfter_key "/Kids" (by decide) (entries _ rfl (by decide)),
      Option.some.injEq] at found
    have numbers := referenceTokens_references
      ((List.range count).map fun index => 6 + index * 2) []
    rw [List.append_nil, found] at numbers
    -- The count is the first number behind the references, none of which is its key.
    have front : "/Count".toList ∉ ["<<".toList, "/Type".toList, "/Pages".toList, "/Kids".toList,
        ['[']] ++ (kids ++ [[']']]) := by
      rw [← found]
      simp only [List.mem_append, not_or]
      exact ⟨by decide, entries _ rfl (by decide), by decide⟩
    have counted := numberAfter_key "/Count" front count [">>".toList]
    have split : tokens (pagesObject count) = ["<<".toList, "/Type".toList, "/Pages".toList,
        "/Kids".toList, ['[']] ++ (kids ++ [[']']]) ++
          "/Count".toList :: PdfFiles.digits count :: [">>".toList] := by
      rw [pagesObject_tokens, found]
      simp only [List.append_assoc, List.cons_append, List.nil_append]
    rw [split, counted, numbers]
    have none : PdfFiles.references [] = [] := rfl
    rw [none, List.append_nil, List.length_map, List.length_range]

def pageFront : Chars :=
  ("<< /Type /Page /Parent 2 0 R /MediaBox [0 0 595 842] /Resources << /Font << " ++
    "/F1 3 0 R /F2 5 0 R >> >>").toList

set_option maxRecDepth 2000 in
theorem pageFront_chars : pageFront.all isAscii = true ∧ '\n' ∉ pageFront ∧
    pageFront.length ≤ 200 ∧ references (tokens pageFront) = [2, 3, 5] ∧
    "/Kids".toList ∉ tokens pageFront := by
  -- The characters are those of the literals, which need not be read out of its bytes.
  have chars : pageFront = _ := joined_chars _ _
  rw [chars]
  exact ⟨rfl, by decide, by decide, rfl, by decide⟩

theorem pageObject_text (contentId : Nat) :
    pageObject contentId = (pageFront ++ ' ' :: "/Contents".toList) ++ ' ' ::
      (PdfFiles.digits contentId ++ ' ' :: "0 R >>".toList) := by
  have front : ("<< /Type /Page /Parent 2 0 R /MediaBox [0 0 595 842] /Resources << /Font << " ++
      "/F1 3 0 R /F2 5 0 R >> >> /Contents ").toList =
        pageFront ++ ' ' :: ("/Contents".toList ++ [' ']) := by
    have chars : pageFront = _ := joined_chars _ _
    rw [chars]
    exact (joined_chars _ _).trans rfl
  have ending : " 0 R >>".toList = ' ' :: "0 R >>".toList := by decide
  unfold pageObject
  simp only [front, ending, List.append_assoc, List.cons_append, List.nil_append]

theorem pageObject_ascii (contentId : Nat) : (pageObject contentId).all isAscii = true := by
  rw [pageObject_text, List.all_append, List.all_append, List.all_cons, List.all_cons,
    List.all_append, pageFront_chars.1, digits_ascii]
  decide

theorem pageObject_sound {count contentId : Nat} (five : 5 ≤ count) (positive : 1 ≤ contentId)
    (small : contentId ≤ count) : Sound count (pageObject contentId) := by
  obtain ⟨-, line, -, fonts, noKids⟩ := pageFront_chars
  have single : '\n' ∉ pageObject contentId := by
    rw [pageObject_text]
    simp only [List.mem_append, List.mem_cons, not_or]
    exact ⟨⟨line, by decide, by decide⟩, by decide, number_absent _, by decide, by decide⟩
  have ending : tokens "0 R >>".toList = [['0'], ['R'], ">>".toList] := rfl
  have contents : tokens "/Contents".toList = ["/Contents".toList] := rfl
  have words : tokens (pageObject contentId) = tokens pageFront ++ "/Contents".toList ::
      (PdfFiles.digits contentId :: ['0'] :: ['R'] :: [">>".toList]) := by
    have blank : isWhiteSpace ' ' = true := by decide
    rw [pageObject_text, tokens_number, tokens_append _ blank, contents, ending,
      List.append_assoc]
    rfl
  refine sound_plain single ?_ ?_
  · rw [words, references_append rfl (by decide), references_cons, fonts]
    intro number member
    simp only [references, List.mem_append, List.mem_cons, List.not_mem_nil, or_false] at member
    omega
  · rw [words, arrayAfter_absent]
    · intro kids found
      cases found
    · have plain : isNumber "/Kids".toList = false := rfl
      have number := (digits_ne plain contentId).symm
      simp only [List.mem_append, List.mem_cons, List.not_mem_nil, or_false, not_or]
      exact ⟨noKids, by decide, number, by decide, by decide, by decide⟩

/-- What is checked of the characters of an object that is always the same. -/
structure FixedChars (chars : Chars) : Prop where
  ascii : chars.all isAscii = true
  single : '\n' ∉ chars
  short : chars.length ≤ 200
  named : (references (tokens chars)).all (fun number => 1 ≤ number ∧ number ≤ 5) = true
  noKids : arrayAfter "/Kids" (tokens chars) = none

theorem FixedChars.sound {count : Nat} {object : Chars} (fixed : FixedChars object)
    (five : 5 ≤ count) : Sound count object := by
  refine sound_plain fixed.single (fun number member => ?_) fun kids found => ?_
  · obtain ⟨low, high⟩ := of_decide_eq_true (List.all_eq_true.mp fixed.named number member)
    exact ⟨low, by omega⟩
  · rw [fixed.noKids] at found
    cases found

set_option maxRecDepth 2000 in
theorem catalogObject_fixed : FixedChars catalogObject := by
  have chars : catalogObject = _ := String.toList_ofList
  rw [chars]
  exact ⟨rfl, by decide, by decide, rfl, rfl⟩

set_option maxRecDepth 2000 in
theorem fontObject_fixed : FixedChars fontObject := by
  have chars : fontObject = _ := joined_chars _ _
  rw [chars]
  exact ⟨rfl, by decide, by decide, rfl, rfl⟩

set_option maxRecDepth 2000 in
theorem descendantFontObject_fixed : FixedChars descendantFontObject := by
  have chars : descendantFontObject = _ := joined_chars _ _
  rw [chars]
  exact ⟨rfl, by decide, by decide, rfl, rfl⟩

set_option maxRecDepth 2000 in
theorem latinFontObject_fixed : FixedChars latinFontObject := by
  have chars : latinFontObject = _ := String.toList_ofList
  rw [chars]
  exact ⟨rfl, by decide, by decide, rfl, rfl⟩

theorem pdfObjects_length (pages : List Chars) :
    (pdfObjects pages).length = 5 + 2 * pages.length := by
  have paged (objects : Chars × Nat → List (List UInt8)) (two : ∀ entry, (objects entry).length = 2)
      (entries : List (Chars × Nat)) : (entries.flatMap objects).length = 2 * entries.length := by
    induction entries with
    | nil => rfl
    | cons entry rest ih =>
      rw [List.flatMap_cons, List.length_append, ih, two, List.length_cons, Nat.mul_succ,
        Nat.add_comm]
  rw [pdfObjects, List.length_append, List.length_map, paged _ fun _ => rfl, List.length_zipIdx]
  rfl

theorem pdfObjects_sound (pages : List Chars) :
    ∀ object ∈ (pdfObjects pages).map latin, Sound (pdfObjects pages).length object := by
  rw [pdfObjects_length]
  have five : 5 ≤ 5 + 2 * pages.length := Nat.le_add_right 5 _
  have readable {text : Chars} (ascii : text.all isAscii = true)
      (sound : Sound (5 + 2 * pages.length) text) :
      Sound (5 + 2 * pages.length) (latin (toUtf8 text)) := by
    rw [latin_toUtf8 ascii]
    exact sound
  have same {text : Chars} (fixed : FixedChars text) :
      Sound (5 + 2 * pages.length) (latin (toUtf8 text)) :=
    readable fixed.ascii (fixed.sound five)
  have fixed : ∀ text ∈ [catalogObject, pagesObject pages.length, fontObject,
      descendantFontObject, latinFontObject],
        Sound (5 + 2 * pages.length) (latin (toUtf8 text)) := by
    simp only [List.forall_mem_cons, List.not_mem_nil, false_implies, implies_true, and_true]
    exact ⟨same catalogObject_fixed,
      readable (pagesObject_ascii pages.length) (pagesObject_sound pages.length),
      same fontObject_fixed, same descendantFontObject_fixed, same latinFontObject_fixed⟩
  have paged (content : Chars) {index : Nat} (small : index < pages.length) :
      ∀ bytes ∈ [toUtf8 (pageObject (6 + index * 2 + 1)), streamObject (toUtf8 content)],
        Sound (5 + 2 * pages.length) (latin bytes) := by
    simp only [List.forall_mem_cons, List.not_mem_nil, false_implies, implies_true, and_true]
    refine ⟨readable (pageObject_ascii _) (pageObject_sound five (by omega) (by omega)), ?_⟩
    rw [streamObject_text]
    exact streamText_sound _ _
  intro object member
  obtain ⟨bytes, inside, rfl⟩ := List.mem_map.mp member
  rcases List.mem_append.mp inside with among | among
  · obtain ⟨text, present, rfl⟩ := List.mem_map.mp among
    exact fixed text present
  · obtain ⟨⟨content, index⟩, placed, present⟩ := List.mem_flatMap.mp among
    have small := (List.mem_zipIdx placed).2.1
    rw [Nat.zero_add] at small
    exact paged content small bytes present

/-! ## Files -/

theorem renderPdf_wellFormed {Number : Type} (floats : Floats Number)
    (decode : ExportAsset → Option PdfImage) {input : ExportInput} {file : List UInt8}
    (rendered : renderPdf floats decode input = .ok file) (short : file.length < 10 ^ 10) :
    WellFormed (latin file) ((pdfObjects
      (layoutPdfPages floats decode input.assets (documentLines input.source))).map latin) := by
  cases rendered
  rw [← latin_length, writePdf_text] at short
  rw [writePdf_text]
  refine fileText_wellFormed short (fun start number member => ?_) ?_
  · rw [rootText_references, List.mem_singleton] at member
    rw [member, List.length_map, pdfObjects_length]
    omega
  · rw [List.length_map]
    exact pdfObjects_sound _

theorem single_page_short {page : Chars} (small : (toUtf8 page).length ≤ 1000) :
    (writePdf (pdfObjects [page])).length < 10 ^ 10 := by
  have fixed {text : Chars} (checked : FixedChars text) : (latin (toUtf8 text)).length ≤ 2000 := by
    rw [latin_toUtf8 checked.ascii]
    exact checked.short.trans (by decide)
  have pagesSmall : (latin (toUtf8 (pagesObject 1))).length ≤ 2000 := by
    rw [latin_toUtf8 (pagesObject_ascii 1)]
    decide
  have pageSmall : (latin (toUtf8 (pageObject 7))).length ≤ 2000 := by
    have front := pageFront_chars.2.2.1
    have rest : "/Contents".toList.length = 9 ∧ (PdfFiles.digits 7).length = 1 ∧
        "0 R >>".toList.length = 6 := ⟨rfl, rfl, rfl⟩
    rw [latin_toUtf8 (pageObject_ascii 7), pageObject_text]
    simp only [List.length_append, List.length_cons, rest]
    omega
  have contentSmall : (latin (streamObject (toUtf8 page))).length ≤ 2000 := by
    have size : (PdfFiles.digits (toUtf8 page).length).length ≤ 10 :=
      digits_length_le (by omega)
    have marks : lengthStart.length = 11 ∧ dictionaryEnd.length = 3 ∧ streamMark.length = 8 ∧
        "endstream".toList.length = 9 := ⟨rfl, rfl, rfl, rfl⟩
    rw [streamObject_text, streamText]
    simp only [List.length_append, latin_length, marks]
    omega
  have objects : ∀ object ∈ (pdfObjects [page]).map latin, object.length ≤ 2000 := by
    have listed : (pdfObjects [page]).map latin = [catalogObject, pagesObject 1, fontObject,
        descendantFontObject, latinFontObject].map (fun text => latin (toUtf8 text)) ++
          [latin (toUtf8 (pageObject 7)), latin (streamObject (toUtf8 page))] := rfl
    rw [listed]
    simp only [List.map_cons, List.map_nil, List.cons_append, List.nil_append,
      List.forall_mem_cons, List.not_mem_nil, false_implies, implies_true, and_true]
    exact ⟨fixed catalogObject_fixed, pagesSmall, fixed fontObject_fixed,
      fixed descendantFontObject_fixed, fixed latinFontObject_fixed, pageSmall, contentSmall⟩
  have count : ((pdfObjects [page]).map latin).length = 7 := rfl
  have header : (latin pdfHeader).length = 15 := rfl
  have root : (rootText 8).length ≤ 100 := by decide
  have body := bodyFrom_length_le 1 _ objects (by rw [count]; decide)
  rw [count] at body
  have front : (latin pdfHeader ++ bodyFrom 1 ((pdfObjects [page]).map latin)).length ≤ 20000 := by
    rw [List.length_append, header]
    omega
  have whole : (fileText (latin pdfHeader) ((pdfObjects [page]).map latin) (rootText 8)).length ≤
      (latin pdfHeader ++ bodyFrom 1 ((pdfObjects [page]).map latin)).length +
        20 * ((pdfObjects [page]).map latin).length + (rootText 8).length + 74 :=
    fileText_length_le (Nat.lt_of_le_of_lt front (by decide)) (by rw [count]; decide)
  have written : latin (writePdf (pdfObjects [page])) =
      fileText (latin pdfHeader) ((pdfObjects [page]).map latin) (rootText 8) :=
    writePdf_text (pdfObjects [page])
  rw [count] at whole
  rw [← latin_length, written]
  omega

section Valid

variable {Number : Type} (floats : Floats Number) (decode : ExportAsset → Option PdfImage)
variable (input : ExportInput)

structure PdfValid (file : List UInt8) : Prop where
  structured : WellFormed (latin file) ((pdfObjects
    (layoutPdfPages floats decode input.assets (documentLines input.source))).map latin)
  text : TextKept floats decode input

/-- A file is valid just if items have the number 1 and texts no control characters that are
not in ASCII. -/
theorem pdf_valid_iff {file : List UInt8}
    (rendered : renderPdf floats decode input = .ok file) (short : file.length < 10 ^ 10) :
    PdfValid floats decode input file ↔ TextPlain floats decode input := by
  rw [← textKept_iff]
  exact ⟨PdfValid.text, fun kept =>
    ⟨renderPdf_wellFormed floats decode rendered short, kept⟩⟩

end Valid

/-! ### Numbers with two decimals -/

def formatHundredths (value : Int) : Chars :=
  let tenths := (value.natAbs + 5) / 10
  (if value < 0 then ['-'] else []) ++
    (PdfFiles.digits (tenths / 10) ++ '.' :: PdfFiles.digits (tenths % 10))

theorem formatHundredths_numeric (value : Int) : (formatHundredths value).all isNumeric = true := by
  have digits (number : Nat) : (PdfFiles.digits number).all isNumeric = true := by
    rw [List.all_eq_true]
    intro char member
    rw [isNumeric, digits_isDigit number char member]
    rfl
  have sign : (if value < 0 then ['-'] else []).all isNumeric = true := by
    split
    · rfl
    · rfl
  rw [formatHundredths, List.all_append, List.all_append, List.all_cons, sign, digits, digits]
  rfl

def hundredths : Floats Int where
  literal value decimals := value * 10 ^ (2 - decimals)
  add first second := first + second
  sub first second := first - second
  mul first second := first * second / 100
  div first second := first * 100 / second
  min := min
  max := max
  less first second := decide (first < second)
  ofNat value := value * 100
  truncate value := (value / 100).toNat
  format := formatHundredths
  format_numeric := formatHundredths_numeric

def firstItem : ExportInput := ⟨[], "1. one".toList, []⟩

def secondItem : ExportInput := ⟨[], "2. two".toList, []⟩

def nextLine : ExportInput := ⟨[], ['a', Char.ofNat 0x85, 'b'], []⟩

theorem small_pages_short {pages : List Chars}
    (small : pages.length = 1 ∧ ∀ page ∈ pages, (toUtf8 page).length ≤ 1000) :
    (writePdf (pdfObjects pages)).length < 10 ^ 10 := by
  obtain ⟨page, rfl⟩ := List.length_eq_one_iff.mp small.1
  exact single_page_short (small.2 page List.mem_cons_self)

theorem first_item_valid : ∃ file, renderPdf hundredths (fun _ => none) firstItem = .ok file ∧
    PdfValid hundredths (fun _ => none) firstItem file := by
  have lines : numberedLines firstItem.source = [(⟨.ordered, "one".toList⟩, ['1'])] := by
    decide +kernel
  have short : (writePdf (pdfObjects (layoutPdfPages hundredths (fun _ => none) firstItem.assets
      (documentLines firstItem.source)))).length < 10 ^ 10 :=
    small_pages_short (by decide +kernel)
  refine ⟨_, rfl, (pdf_valid_iff hundredths (fun _ => none) firstItem rfl short).mpr ?_⟩
  intro line number member _
  rw [lines, List.mem_singleton, Prod.mk.injEq] at member
  obtain ⟨rfl, rfl⟩ := member
  refine ⟨fun _ => rfl, ?_⟩
  have ascii : (lineText hundredths (fun _ => none) firstItem.assets
      ⟨.ordered, "one".toList⟩ ['1']).all isAscii = true := rfl
  exact fun char among _ => List.all_eq_true.mp ascii char among

/-- The second item of a list is shown as the first, and a control character is kept. -/
theorem second_item_shown_as_first :
    (∃ file, renderPdf hundredths (fun _ => none) secondItem = .ok file ∧
      file.length < 10 ^ 10 ∧ ¬PdfValid hundredths (fun _ => none) secondItem file) ∧
    ¬TextKept hundredths (fun _ => none) nextLine := by
  have items : numberedLines secondItem.source = [(⟨.ordered, "two".toList⟩, ['2'])] := by
    decide +kernel
  have lines : numberedLines nextLine.source = [(⟨.body, nextLine.source⟩, [])] := by
    decide +kernel
  have short : (writePdf (pdfObjects (layoutPdfPages hundredths (fun _ => none) secondItem.assets
      (documentLines secondItem.source)))).length < 10 ^ 10 :=
    small_pages_short (by decide +kernel)
  refine ⟨⟨_, rfl, short, fun valid => ?_⟩, fun kept => ?_⟩
  · have plain := (textKept_iff _ _ _).mp valid.text
    have one := (plain ⟨.ordered, "two".toList⟩ ['2'] (items ▸ List.mem_cons_self) rfl).1 rfl
    exact absurd one (by decide)
  · have plain := (textKept_iff _ _ _).mp kept
    have ascii := (plain ⟨.body, nextLine.source⟩ [] (lines ▸ List.mem_cons_self) rfl).2
      (Char.ofNat 0x85) (List.mem_cons_of_mem _ List.mem_cons_self) rfl
    exact absurd ascii (by decide)

end Onetcli.NotesExport
