import Onetcli.Lib.Xml
import Onetcli.NotesExport.Embeds
import Onetcli.NotesExport.LineChars

/-!
The markup of a Word document of notes: that it is a document of XML, and the texts it shows.
-/

namespace Onetcli.NotesExport

open Text Chars Xml Scanners Markup

/-! ## Escaped texts -/

theorem replaceFrom_char (old : Char) (new text : Chars) :
    replaceFrom [old] new 0 text = text.flatMap fun char => if char = old then new else [char] := by
  induction text with
  | nil => rfl
  | cons char rest ih =>
    rw [replaceFrom, List.flatMap_cons]
    by_cases same : char = old
    · subst same
      simp [List.isPrefixOf, ih]
    · simp [List.isPrefixOf, same, Ne.symm same, ih]

theorem escapeXml_append (first second : Chars) :
    escapeXml (first ++ second) = escapeXml first ++ escapeXml second := by
  simp only [escapeXml, replaceFrom_char, List.flatMap_append]

theorem escapeXml_char (char : Char) : escapeXml [char] = escape char := by
  unfold escape
  split_ifs with ampersand less greater quote apostrophe
  · subst ampersand
    rfl
  · subst less
    rfl
  · subst greater
    rfl
  · subst quote
    rfl
  · subst apostrophe
    rfl
  · simp [escapeXml, replaceFrom_char, ampersand, less, greater, quote, apostrophe]

theorem escapeXml_eq (value : Chars) : escapeXml value = value.flatMap escape := by
  induction value with
  | nil => rfl
  | cons char rest ih =>
    rw [← List.singleton_append, escapeXml_append, escapeXml_char, ih]
    rfl

/-! ## Values -/

def textName : Chars := "w:t".toList

def elements (names : List String) : List Element := names.map fun name => ⟨name.toList, []⟩

variable {clean : Prop}

theorem digits_value (number : Nat) : (digits number).all isValueChar = true := by
  apply List.all_eq_true.mpr
  intro char member
  rw [digits, Nat.toString_eq_repr, Nat.toList_repr] at member
  have digit := Nat.isDigit_of_mem_toDigits (by decide) (by decide) member
  have apart (sign : Char) (other : sign.isDigit = false) : char ≠ sign := by
    rintro rfl
    rw [digit] at other
    cases other
  have range : 48 ≤ char.toNat ∧ char.toNat ≤ 57 := by
    simpa [Char.isDigit, UInt32.le_iff_toNat_le] using digit
  have legal : isXmlChar char = true := by
    simp only [isXmlChar, Bool.or_eq_true, Bool.and_eq_true, decide_eq_true_eq, bne_iff_ne]
    right
    omega
  simp [isValueChar, legal, apart '"' rfl, apart '&' rfl, apart '<' rfl]

theorem writes_digits {name : Chars} {keys : List Chars} {stack : List Element} (number : Nat) :
    Writes textName clean (.value name keys) stack (digits number) (.value name keys) stack [] :=
  writes_value (digits_value number)

theorem textEnd_writes (text : Chars) :
    Writes textName clean .text (⟨textName, text⟩ :: elements ["w:r", "w:p"])
      "</w:t></w:r></w:p>".toList .text [] [text] := by
  have events : (scanner.run .text "</w:t></w:r></w:p>".toList).1 =
      [.closed "w:t".toList, .closed "w:r".toList, .closed "w:p".toList] := rfl
  refine ⟨rfl, ?_, fun _ => rfl⟩
  rw [events]
  rfl

section Body

variable (extent : List UInt8 → Nat × Nat)

def pictureElements : List String := ["wp:inline", "w:drawing", "w:r", "w:p"]

set_option maxRecDepth 4000 in
theorem docxImage_writes (index : Nat) (asset : ExportAsset) {alt : Chars}
    (legal : clean → alt.all isXmlChar = true) :
    Writes textName clean .text [] (docxImage extent (index + 1) asset alt) .text [] [] := by
  delta docxImage
  dsimp only
  generalize extent asset.bytes = size
  rcases size with ⟨cx, cy⟩
  dsimp only
  have start : Writes textName clean .text []
      "<w:p><w:r><w:drawing><wp:inline><wp:extent cx=\"".toList
      (.value "wp:extent".toList ["cx".toList]) (elements pictureElements) [] :=
    writes_literal rfl ⟨rfl, rfl, rfl⟩
  have height : Writes textName clean (.value "wp:extent".toList ["cx".toList])
      (elements pictureElements) "\" cy=\"".toList
      (.value "wp:extent".toList ["cx".toList, "cy".toList]) (elements pictureElements) [] :=
    writes_literal rfl ⟨rfl, rfl, rfl⟩
  have label : Writes textName clean (.value "wp:extent".toList ["cx".toList, "cy".toList])
      (elements pictureElements) "\"/><wp:docPr id=\"".toList
      (.value "wp:docPr".toList ["id".toList]) (elements pictureElements) [] :=
    writes_literal rfl ⟨rfl, rfl, rfl⟩
  have name : Writes textName clean (.value "wp:docPr".toList ["id".toList])
      (elements pictureElements) "\" name=\"".toList
      (.value "wp:docPr".toList ["id".toList, "name".toList]) (elements pictureElements) [] :=
    writes_literal rfl ⟨rfl, rfl, rfl⟩
  have described : Writes textName clean (.value "wp:docPr".toList ["id".toList, "name".toList])
      (elements pictureElements) "\" descr=\"".toList
      (.value "wp:docPr".toList ["id".toList, "name".toList, "descr".toList])
      (elements pictureElements) [] :=
    writes_literal rfl ⟨rfl, rfl, rfl⟩
  have blip : Writes textName clean
      (.value "wp:docPr".toList ["id".toList, "name".toList, "descr".toList])
      (elements pictureElements) ("\"/><a:graphic>" ++
   "<a:graphicData uri=\"http://schemas.openxmlformats.org/drawingml/2006/picture\"><pic:pic>" ++
   "<pic:blipFill><a:blip r:embed=\"rId").toList
      (.value "a:blip".toList ["r:embed".toList])
      (elements (["pic:blipFill", "pic:pic", "a:graphicData", "a:graphic"] ++ pictureElements))
      [] :=
    writes_literal (spelled_append (spelled_append rfl rfl) rfl) ⟨rfl, rfl, rfl⟩
  have shape : Writes textName clean (.value "a:blip".toList ["r:embed".toList])
      (elements (["pic:blipFill", "pic:pic", "a:graphicData", "a:graphic"] ++ pictureElements))
      ("\"/><a:stretch><a:fillRect/></a:stretch></pic:blipFill><pic:spPr><a:xfrm>" ++
   "<a:off x=\"0\" y=\"0\"/><a:ext cx=\"").toList (.value "a:ext".toList ["cx".toList])
      (elements (["a:xfrm", "pic:spPr", "pic:pic", "a:graphicData", "a:graphic"] ++
        pictureElements)) [] :=
    writes_literal (spelled_append rfl rfl) ⟨rfl, rfl, rfl⟩
  have across : Writes textName clean (.value "a:ext".toList ["cx".toList])
      (elements (["a:xfrm", "pic:spPr", "pic:pic", "a:graphicData", "a:graphic"] ++
        pictureElements)) "\" cy=\"".toList (.value "a:ext".toList ["cx".toList, "cy".toList])
      (elements (["a:xfrm", "pic:spPr", "pic:pic", "a:graphicData", "a:graphic"] ++
        pictureElements)) [] :=
    writes_literal rfl ⟨rfl, rfl, rfl⟩
  have last : Writes textName clean (.value "a:ext".toList ["cx".toList, "cy".toList])
      (elements (["a:xfrm", "pic:spPr", "pic:pic", "a:graphicData", "a:graphic"] ++
        pictureElements))
      ("\"/></a:xfrm><a:prstGeom prst=\"rect\"><a:avLst/></a:prstGeom></pic:spPr></pic:pic>" ++
   "</a:graphicData></a:graphic></wp:inline></w:drawing></w:r></w:p>").toList .text [] [] :=
    writes_literal (spelled_append rfl rfl) ⟨rfl, rfl, rfl⟩
  have file : clean → ("image-".toList ++ digits (index + 1) ++
      '.' :: assetExtension asset).all isXmlChar = true := by
    intro _
    have number := List.all_eq_true.mp (digits_value (index + 1))
    have extensions : (assetExtension asset).all isXmlChar = true := by
      unfold assetExtension
      split_ifs <;> decide
    simp only [List.all_append, List.all_cons, Bool.and_eq_true]
    refine ⟨⟨by decide, List.all_eq_true.mpr fun char member => ?_⟩, by decide, extensions⟩
    exact (Bool.and_eq_true_iff.mp (number char member)).2
  rw [escapeXml_eq, escapeXml_eq]
  exact ((((((((((((((((start.followed (writes_digits cx)).followed height).followed
    (writes_digits cy)).followed label).followed (writes_digits (index + 1))).followed name).followed
    (writes_escaped_value file)).followed described).followed (writes_escaped_value legal)).followed
    blip).followed (writes_digits (index + 1 + 3))).followed shape).followed
    (writes_digits cx)).followed across).followed (writes_digits cy)).followed last)

theorem docxImages_writes (assets : List ExportAsset) {images : List ImageData}
    (legal : clean → ∀ image ∈ images, image.alt.all isXmlChar = true) :
    Writes textName clean .text [] (docxImages extent assets images) .text [] [] := by
  induction images with
  | nil => exact .nil
  | cons image rest ih =>
    have others := ih fun isClean other member =>
      legal isClean other (List.mem_cons_of_mem image member)
    rw [docxImages, List.flatMap_cons]
    cases findAsset assets image.path with
    | none => exact others
    | some entry =>
      have own := docxImage_writes extent entry.2 entry.1 fun isClean =>
        legal isClean image List.mem_cons_self
      exact own.append others

/-! ## Tables -/

def cellText (cell : Option TableCellData) : Chars := (cell.map TableCellData.text).getD []

set_option maxRecDepth 4000 in
theorem docxCell_writes (assets : List ExportAsset) (width : Nat) (bold : Bool)
    {cell : Option TableCellData}
    (legal : clean → ∀ found, cell = some found → (cellChars found).all isXmlChar = true) :
    Writes textName clean .text [] (docxCell extent assets width bold cell) .text []
      [cellText cell] := by
  have start : Writes textName clean .text [] "<w:tc><w:tcPr><w:tcW w:w=\"".toList
      (.value "w:tcW".toList ["w:w".toList]) (elements ["w:tcPr", "w:tc"]) [] :=
    writes_literal rfl ⟨rfl, rfl, rfl⟩
  have typed : Writes textName clean (.value "w:tcW".toList ["w:w".toList])
      (elements ["w:tcPr", "w:tc"]) "\" w:type=\"dxa".toList
      (.value "w:tcW".toList ["w:w".toList, "w:type".toList]) (elements ["w:tcPr", "w:tc"]) [] :=
    writes_literal rfl ⟨rfl, rfl, rfl⟩
  have margins : Writes textName clean (.value "w:tcW".toList ["w:w".toList, "w:type".toList])
      (elements ["w:tcPr", "w:tc"]) ("\"/><w:tcMar><w:top w:w=\"100\" w:type=\"dxa\"/>" ++
   "<w:start w:w=\"120\" w:type=\"dxa\"/><w:bottom w:w=\"100\" w:type=\"dxa\"/>" ++
   "<w:end w:w=\"120\" w:type=\"dxa\"/></w:tcMar></w:tcPr><w:p><w:r>").toList .text
      (elements ["w:r", "w:p", "w:tc"]) [] :=
    writes_literal (spelled_append (spelled_append rfl rfl) rfl) ⟨rfl, rfl, rfl⟩
  have weight : Writes textName clean .text (elements ["w:r", "w:p", "w:tc"])
      (if bold then "<w:rPr><w:b/></w:rPr>".toList else []) .text
      (elements ["w:r", "w:p", "w:tc"]) [] := by
    split
    · exact writes_literal rfl ⟨rfl, rfl, rfl⟩
    · exact .nil
  have opened : Writes textName clean .text (elements ["w:r", "w:p", "w:tc"])
      "<w:t xml:space=\"preserve\">".toList .text (elements ["w:t", "w:r", "w:p", "w:tc"]) [] :=
    writes_literal rfl ⟨rfl, rfl, rfl⟩
  have shown : Writes textName clean .text (elements ["w:t", "w:r", "w:p", "w:tc"])
      (escapeXml (cellText cell)) .text (⟨textName, cellText cell⟩ ::
        elements ["w:r", "w:p", "w:tc"]) [] := by
    rw [escapeXml_eq]
    exact writes_escaped [] fun isClean => by
      cases cell with
      | none => rfl
      | some cell =>
        have all := legal isClean cell rfl
        rw [cellChars, List.all_append, Bool.and_eq_true] at all
        exact all.1
  have closed : Writes textName clean .text (⟨textName, cellText cell⟩ ::
      elements ["w:r", "w:p", "w:tc"]) "</w:t></w:r></w:p>".toList .text (elements ["w:tc"])
      [cellText cell] := (textEnd_writes (cellText cell)).below (elements ["w:tc"])
  have images : Writes textName clean .text [] (docxImages extent assets
      ((cell.map TableCellData.images).getD [])) .text [] [] := by
    apply docxImages_writes
    intro isClean image member
    cases cell with
    | none => cases member
    | some cell =>
      have all := legal isClean cell rfl
      rw [cellChars, List.all_append, Bool.and_eq_true, List.all_flatMap] at all
      exact List.all_eq_true.mp all.2 image member
  have last : Writes textName clean .text (elements ["w:tc"]) "</w:tc>".toList .text [] [] :=
    writes_literal rfl ⟨rfl, rfl, rfl⟩
  have front := (((((start.followed (writes_digits width)).followed typed).followed
    margins).followed weight).followed opened).followed shown
  exact ((front.append closed).followed (images.below _)).followed last

def tableColumns (table : TableData) : Nat := ((table.rows.map List.length).max?).getD 1

def rowTexts (columns : Nat) (row : List TableCellData) : List Chars :=
  (List.range columns).map fun column => cellText row[column]?

theorem docxRow_writes (assets : List ExportAsset) (columns width : Nat) (bold : Bool)
    {row : List TableCellData}
    (legal : clean → ∀ cell ∈ row, (cellChars cell).all isXmlChar = true) :
    Writes textName clean .text (elements ["w:tbl"]) (docxRow extent assets columns width bold row)
      .text (elements ["w:tbl"]) (rowTexts columns row) := by
  have opened : Writes textName clean .text [] "<w:tr>".toList .text (elements ["w:tr"]) [] :=
    writes_literal rfl ⟨rfl, rfl, rfl⟩
  have closed : Writes textName clean .text (elements ["w:tr"]) "</w:tr>".toList .text [] [] :=
    writes_literal rfl ⟨rfl, rfl, rfl⟩
  have cells := Writes.flatMap fun column (_ : column ∈ List.range columns) =>
    @docxCell_writes clean extent assets width bold row[column]? fun isClean cell found =>
      legal isClean cell (List.mem_of_getElem? found)
  rw [← List.map_eq_flatMap] at cells
  exact ((opened.append (cells.below _)).followed closed).below _

set_option maxRecDepth 4000 in
theorem docxTable_writes (assets : List ExportAsset) {table : TableData}
    (legal : clean → ∀ row ∈ table.rows, ∀ cell ∈ row, (cellChars cell).all isXmlChar = true) :
    Writes textName clean .text [] (docxTable extent table assets) .text []
      (table.rows.flatMap (rowTexts (tableColumns table))) := by
  delta docxTable
  dsimp only
  rw [show ((table.rows.map List.length).max?).getD 1 = tableColumns table from rfl]
  generalize tableColumns table = columns
  generalize 9000 / columns = width
  have opened : Writes textName clean .text []
      ("<w:tbl><w:tblPr><w:tblW w:w=\"9000\" w:type=\"dxa\"/><w:tblLayout w:type=\"fixed\"/>" ++
   "</w:tblPr><w:tblGrid>").toList .text (elements ["w:tblGrid", "w:tbl"]) [] :=
    writes_literal (spelled_append rfl rfl) ⟨rfl, rfl, rfl⟩
  have middle : Writes textName clean .text (elements ["w:tblGrid", "w:tbl"])
      "</w:tblGrid>".toList .text (elements ["w:tbl"]) [] :=
    writes_literal rfl ⟨rfl, rfl, rfl⟩
  have closed : Writes textName clean .text (elements ["w:tbl"]) "</w:tbl>".toList .text [] [] :=
    writes_literal rfl ⟨rfl, rfl, rfl⟩
  have gridStart : Writes textName clean .text [] "<w:gridCol w:w=\"".toList
      (.value "w:gridCol".toList ["w:w".toList]) [] [] :=
    writes_literal rfl ⟨rfl, rfl, rfl⟩
  have gridEnd : Writes textName clean (.value "w:gridCol".toList ["w:w".toList]) []
      "\"/>".toList .text [] [] :=
    writes_literal rfl ⟨rfl, rfl, rfl⟩
  have column := (gridStart.followed (writes_digits width)).followed gridEnd
  have grid : Writes textName clean .text []
      (List.replicate columns ("<w:gridCol w:w=\"".toList ++ digits width ++ "\"/>".toList)).flatten
      .text [] [] := by
    induction columns with
    | zero => exact .nil
    | succ columns ih =>
      rw [List.replicate_succ, List.flatten_cons]
      exact column.followed ih
  have rows := Writes.flatMap fun entry (member : entry ∈ table.rows.zipIdx) =>
    @docxRow_writes clean extent assets columns width (entry.2 == 0) entry.1 fun isClean =>
      legal isClean entry.1 (List.fst_mem_of_mem_zipIdx member)
  rw [Lookups.zipIdx_flatMap table.rows fun row => rowTexts columns row] at rows
  exact (((opened.followed (grid.below _)).followed middle).append rows).followed closed

/-! ## Paragraphs -/

theorem styleXml_writes {style : Option Chars}
    (plain : ∀ name, style = some name → name.all isValueChar = true) :
    Writes textName clean .text [] (styleXml style) .text [] [] := by
  cases style with
  | none => exact .nil
  | some name =>
    have start : Writes textName clean .text [] "<w:pStyle w:val=\"".toList
        (.value "w:pStyle".toList ["w:val".toList]) [] [] :=
      writes_literal rfl ⟨rfl, rfl, rfl⟩
    have last : Writes textName clean (.value "w:pStyle".toList ["w:val".toList]) []
        "\"/>".toList .text [] [] := writes_literal rfl ⟨rfl, rfl, rfl⟩
    exact (start.followed (writes_value (plain name rfl))).followed last

theorem numberXml_writes (numbering : Option Nat) :
    Writes textName clean .text [] (numberXml numbering) .text [] [] := by
  cases numbering with
  | none => exact .nil
  | some number =>
    have start : Writes textName clean .text []
        "<w:numPr><w:ilvl w:val=\"0\"/><w:numId w:val=\"".toList
        (.value "w:numId".toList ["w:val".toList]) (elements ["w:numPr"]) [] :=
      writes_literal rfl ⟨rfl, rfl, rfl⟩
    have last : Writes textName clean (.value "w:numId".toList ["w:val".toList])
        (elements ["w:numPr"]) "\"/></w:numPr>".toList .text [] [] :=
      writes_literal rfl ⟨rfl, rfl, rfl⟩
    exact (start.followed (writes_digits number)).followed last

theorem propertiesXml_writes {style : Option Chars}
    (plain : ∀ name, style = some name → name.all isValueChar = true) (numbering : Option Nat) :
    Writes textName clean .text [] (propertiesXml style numbering) .text [] [] := by
  rw [propertiesXml]
  split
  · have start : Writes textName clean .text [] "<w:pPr>".toList .text (elements ["w:pPr"]) [] :=
      writes_literal rfl ⟨rfl, rfl, rfl⟩
    have last : Writes textName clean .text (elements ["w:pPr"]) "</w:pPr>".toList .text [] [] :=
      writes_literal rfl ⟨rfl, rfl, rfl⟩
    exact ((start.followed ((styleXml_writes plain).below _)).followed
      ((numberXml_writes numbering).below _)).followed last
  · exact .nil

theorem paragraphXml_writes {style : Option Chars}
    (plain : ∀ name, style = some name → name.all isValueChar = true) (numbering : Option Nat)
    {text : Chars} (legal : clean → text.all isXmlChar = true) :
    Writes textName clean .text [] (paragraphXml style numbering text) .text [] [text] := by
  have opened : Writes textName clean .text [] "<w:p>".toList .text (elements ["w:p"]) [] :=
    writes_literal rfl ⟨rfl, rfl, rfl⟩
  have run : Writes textName clean .text (elements ["w:p"])
      "<w:r><w:t xml:space=\"preserve\">".toList .text (elements ["w:t", "w:r", "w:p"]) [] :=
    writes_literal rfl ⟨rfl, rfl, rfl⟩
  have shown := @writes_escaped textName clean textName text (elements ["w:r", "w:p"]) [] legal
  rw [← escapeXml_eq] at shown
  exact (((opened.followed ((propertiesXml_writes plain numbering).below _)).followed run).followed
    shown).append (textEnd_writes text)

/-! ## The document -/

def lineTexts (assets : List ExportAsset) (line : DocumentLine) : List Chars :=
  match line.kind with
  | .blank => []
  | .table table => table.rows.flatMap (rowTexts (tableColumns table))
  | .image image => if (findAsset assets image.path).isSome then [] else [image.alt]
  | _ => [line.text]

theorem lineXml_writes (assets : List ExportAsset) {line : DocumentLine}
    (legal : clean → (lineChars line).all isXmlChar = true) :
    Writes textName clean .text [] (lineXml extent assets line) .text [] (lineTexts assets line) := by
  have plain {name : Chars} (simple : name.all isValueChar = true) :
      ∀ other, some name = some other → other.all isValueChar = true := by
    rintro _ ⟨⟩
    exact simple
  have unstyled : ∀ name, (none : Option Chars) = some name → name.all isValueChar = true := by
    rintro _ ⟨⟩
  rcases line with ⟨kind, text⟩
  have own : clean → text.all isXmlChar = true := by
    intro isClean
    have all := legal isClean
    rw [lineChars, List.all_append, Bool.and_eq_true] at all
    exact all.1
  cases kind with
  | blank =>
    have empty : Writes textName clean .text [] "<w:p/>".toList .text [] [] :=
      writes_literal rfl ⟨rfl, rfl, rfl⟩
    exact empty
  | table table =>
    apply docxTable_writes
    intro isClean row among cell member
    have all := legal isClean
    simp only [lineChars, List.all_append, Bool.and_eq_true, List.all_flatMap] at all
    exact List.all_eq_true.mp (List.all_eq_true.mp all.2 row among) cell member
  | image image =>
    have label : clean → image.alt.all isXmlChar = true := by
      intro isClean
      have all := legal isClean
      rw [lineChars, List.all_append, Bool.and_eq_true] at all
      exact all.2
    simp only [lineXml, lineTexts]
    cases findAsset assets image.path with
    | some entry => exact docxImage_writes extent entry.2 entry.1 label
    | none =>
      have opened : Writes textName clean .text [] "<w:p><w:r><w:t>".toList .text
          (elements ["w:t", "w:r", "w:p"]) [] := writes_literal rfl ⟨rfl, rfl, rfl⟩
      have shown := @writes_escaped textName clean textName image.alt (elements ["w:r", "w:p"])
        [] label
      rw [← escapeXml_eq] at shown
      exact (opened.followed shown).append (textEnd_writes image.alt)
  | heading level =>
    have simple : ("Heading".toList ++ digits (min level 3)).all isValueChar = true := by
      rw [List.all_append, digits_value]
      decide
    exact paragraphXml_writes (plain simple) none own
  | code | quote => exact paragraphXml_writes (plain (by decide)) none own
  | bullet => exact paragraphXml_writes unstyled (some 1) own
  | ordered => exact paragraphXml_writes unstyled (some 2) own
  | body => exact paragraphXml_writes unstyled none own

def documentOpening : Chars :=
  ("<w:document" ++
   " xmlns:w=\"http://schemas.openxmlformats.org/wordprocessingml/2006/main\"" ++
   " xmlns:r=\"http://schemas.openxmlformats.org/officeDocument/2006/relationships\"" ++
   " xmlns:wp=\"http://schemas.openxmlformats.org/drawingml/2006/wordprocessingDrawing\"" ++
   " xmlns:a=\"http://schemas.openxmlformats.org/drawingml/2006/main\"" ++
   " xmlns:pic=\"http://schemas.openxmlformats.org/drawingml/2006/picture\">").toList

def sectionXml : Chars :=
  ("<w:sectPr><w:pgSz w:w=\"12240\" w:h=\"15840\"/><w:pgMar w:top=\"1440\" w:right=\"1440\"" ++
   " w:bottom=\"1440\" w:left=\"1440\" w:header=\"708\" w:footer=\"708\"/></w:sectPr>" ++
   "</w:body>").toList

def shownTexts (assets : List ExportAsset) (source : Chars) : List Chars :=
  (documentLines source).flatMap (lineTexts assets)

theorem documentXml_split (source : Chars) (assets : List ExportAsset) :
    documentXml extent source assets = declaration ++ (documentOpening ++
      (("<w:body>".toList ++ (documentLines source).flatMap (lineXml extent assets) ++ sectionXml) ++
        "</w:document>".toList)) := by
  have first : "<?xml version=\"1.0\" encoding=\"UTF-8\" standalone=\"yes\"?><w:document" =
      "<?xml version=\"1.0\" encoding=\"UTF-8\" standalone=\"yes\"?>" ++ "<w:document" := by
    rfl
  have second : " xmlns:pic=\"http://schemas.openxmlformats.org/drawingml/2006/picture\"><w:body>" =
      " xmlns:pic=\"http://schemas.openxmlformats.org/drawingml/2006/picture\">" ++ "<w:body>" := by
    rfl
  have third : "</w:body></w:document>" = "</w:body>" ++ "</w:document>" :=
    rfl
  unfold documentXml declaration documentOpening sectionXml
  rw [first, second, third]
  generalize (documentLines source).flatMap (lineXml extent assets) = body
  -- The literals stay closed.
  generalize "<?xml version=\"1.0\" encoding=\"UTF-8\" standalone=\"yes\"?>" = a0,
    "<w:document" = a1, "<w:body>" = a2, "</w:body>" = a3, "</w:document>" = a4
  simp only [String.toList_append, List.append_assoc]

set_option maxRecDepth 4000 in
theorem documentXml_reads (source : Chars) (assets : List ExportAsset)
    (legal : clean → ∀ line ∈ documentLines source, (lineChars line).all isXmlChar = true) :
    documentTexts textName (documentXml extent source assets) = some (shownTexts assets source) ∧
      (clean → (documentXml extent source assets).all isXmlChar = true) := by
  have opens : scanner.run .text documentOpening = ([.opened "w:document".toList], .text) ∧
      documentOpening.all isXmlChar = true :=
    tag_literal (spelled_append (spelled_append (spelled_append
      (spelled_append (spelled_append rfl rfl) rfl) rfl) rfl) rfl) ⟨rfl, rfl⟩
  have closes : scanner.run .text "</w:document>".toList = ([.closed "w:document".toList], .text) ∧
      "</w:document>".toList.all isXmlChar = true := tag_literal rfl ⟨rfl, rfl⟩
  have start : Writes textName clean .text [] "<w:body>".toList .text (elements ["w:body"]) [] :=
    writes_literal rfl ⟨rfl, rfl, rfl⟩
  have last : Writes textName clean .text (elements ["w:body"]) sectionXml .text [] [] :=
    writes_literal (spelled_append (spelled_append rfl rfl) rfl) ⟨rfl, rfl, rfl⟩
  have body := Writes.flatMap fun line (member : line ∈ documentLines source) =>
    lineXml_writes extent assets fun isClean => legal isClean line member
  have inner := (start.append (body.below (elements ["w:body"]))).followed last
  rw [documentXml_split]
  refine ⟨documentTexts_root opens.1 inner closes.1, fun isClean => ?_⟩
  rw [List.all_append, List.all_append, List.all_append, opens.2, closes.2, inner.legal isClean]
  rfl

end Body

def corePropertiesOpening : Chars :=
  ("<cp:coreProperties" ++
   " xmlns:cp=\"http://schemas.openxmlformats.org/package/2006/metadata/core-properties\"" ++
   " xmlns:dc=\"http://purl.org/dc/elements/1.1/\">").toList

theorem coreProperties_split (title : Chars) :
    coreProperties title = declaration ++ (corePropertiesOpening ++
      ((("<dc:title>".toList ++ escapeXml title ++ "</dc:title>".toList) ++
          "<dc:creator>Navop Notes Document Exporter</dc:creator>".toList) ++
        "</cp:coreProperties>".toList)) := by
  have first : "<?xml version=\"1.0\" encoding=\"UTF-8\" standalone=\"yes\"?><cp:coreProperties" =
      "<?xml version=\"1.0\" encoding=\"UTF-8\" standalone=\"yes\"?>" ++ "<cp:coreProperties" := by
    rfl
  have second : " xmlns:dc=\"http://purl.org/dc/elements/1.1/\"><dc:title>" =
      " xmlns:dc=\"http://purl.org/dc/elements/1.1/\">" ++ "<dc:title>" := rfl
  have third : "</dc:title><dc:creator>Navop Notes Document Exporter</dc:creator></cp:coreProperties>" =
      "</dc:title>" ++ ("<dc:creator>Navop Notes Document Exporter</dc:creator>" ++
        "</cp:coreProperties>") :=
    rfl
  unfold coreProperties declaration corePropertiesOpening
  rw [first, second, third]
  -- The literals stay closed.
  generalize "<?xml version=\"1.0\" encoding=\"UTF-8\" standalone=\"yes\"?>" = a0,
    "<cp:coreProperties" = a1, "<dc:title>" = a2, "</dc:title>" = a3, "</cp:coreProperties>" = a4,
    "<dc:creator>Navop Notes Document Exporter</dc:creator>" = a5
  simp only [String.toList_append, List.append_assoc]

set_option maxRecDepth 4000 in
theorem coreProperties_reads {title : Chars} (legal : clean → title.all isXmlChar = true) :
    documentTexts "dc:title".toList (coreProperties title) = some [title] ∧
      (clean → (coreProperties title).all isXmlChar = true) := by
  have opens : scanner.run .text corePropertiesOpening =
      ([.opened "cp:coreProperties".toList], .text) ∧
        corePropertiesOpening.all isXmlChar = true :=
    tag_literal (spelled_append (spelled_append rfl rfl) rfl) ⟨rfl, rfl⟩
  have closes : scanner.run .text "</cp:coreProperties>".toList =
      ([.closed "cp:coreProperties".toList], .text) ∧
        "</cp:coreProperties>".toList.all isXmlChar = true := tag_literal rfl ⟨rfl, rfl⟩
  have start : Writes "dc:title".toList clean .text [] "<dc:title>".toList .text
      [⟨"dc:title".toList, []⟩] [] := writes_literal rfl ⟨rfl, rfl, rfl⟩
  have shown := @writes_escaped "dc:title".toList clean "dc:title".toList title [] [] legal
  rw [← escapeXml_eq] at shown
  have ended : Writes "dc:title".toList clean .text [⟨"dc:title".toList, title⟩]
      "</dc:title>".toList .text [] [title] := writes_end rfl ⟨rfl, rfl⟩ title []
  have creator : Writes "dc:title".toList clean .text []
      "<dc:creator>Navop Notes Document Exporter</dc:creator>".toList .text [] [] :=
    writes_literal rfl ⟨rfl, rfl, rfl⟩
  have inner := ((start.followed shown).append ended).followed creator
  rw [coreProperties_split]
  refine ⟨documentTexts_root opens.1 inner closes.1, fun isClean => ?_⟩
  rw [List.all_append, List.all_append, List.all_append, opens.2, closes.2, inner.legal isClean]
  rfl

/-! ## What an export shows -/

def ownTexts (line : DocumentLine) : List Chars :=
  match line.kind with
  | .table table => table.rows.flatMap fun row => row.map TableCellData.text
  | _ => [line.text]

theorem fillers_legal : fillers.all isXmlChar = true := by decide

/-- The documents of an export are well formed and show their texts; their characters are those
that XML allows when those of the notes are. -/
theorem word_export_reads (extent : List UInt8 → Nat × Nat) (input : ExportInput) :
    documentTexts textName (documentXml extent input.source input.assets) =
        some (shownTexts input.assets input.source) ∧
      documentTexts "dc:title".toList (coreProperties input.title) = some [input.title] ∧
      (input.source.all isXmlChar = true →
        (documentXml extent input.source input.assets).all isXmlChar = true) ∧
      (input.title.all isXmlChar = true →
        (coreProperties input.title).all isXmlChar = true) := by
  have document := @documentXml_reads (input.source.all isXmlChar = true) extent input.source
    input.assets (by
      intro legal line read
      apply List.all_eq_true.mpr
      intro char member
      rcases mem_documentLines read member with filler | inside
      · exact List.all_eq_true.mp fillers_legal char filler
      · exact List.all_eq_true.mp legal char inside)
  have properties := @coreProperties_reads (input.title.all isXmlChar = true) input.title id
  exact ⟨document.1, properties.1, document.2, properties.2⟩

/-- The extent of an image that cannot be read. -/
def noExtent (_ : List UInt8) : Nat × Nat := (5486400, 2743200)

theorem small_export_reads :
    (documentXml noExtent "a < b & \"c\"".toList []).all isXmlChar = true ∧
      (coreProperties "R & D".toList).all isXmlChar = true :=
  have read := word_export_reads noExtent ⟨"R & D".toList, "a < b & \"c\"".toList, []⟩
  ⟨read.2.2.1 rfl, read.2.2.2 rfl⟩

/-- An image line of a missing asset, and a line with a control character. -/
def logo : Chars := "![Logo](logo.png)".toList

def control : Chars := [Char.ofNat 1]

theorem control_written :
    ((documentLines control).flatMap (lineXml noExtent [])).all isXmlChar = false := by
  have lines : documentLines control = [⟨.body, control⟩] := by decide +kernel
  rw [lines]
  rfl

/-- The label of the image is shown though it is no text of a line, and the control character is
written as it is. -/
theorem label_shown_and_control_written :
    documentTexts textName (documentXml noExtent logo []) = some ["Logo".toList] ∧
      (documentLines logo).flatMap ownTexts = [[]] ∧
      (documentXml noExtent control []).all isXmlChar = false ∧
      (coreProperties control).all isXmlChar = false := by
  have reads := @documentXml_reads False noExtent logo [] (fun impossible => impossible.elim)
  have shown : shownTexts [] logo = ["Logo".toList] := by decide +kernel
  have escaped : (escapeXml control).all isXmlChar = false := rfl
  refine ⟨?_, ?_, ?_, ?_⟩
  · rw [reads.1, shown]
  · decide +kernel
  · rw [documentXml_split]
    simp only [List.all_append, control_written, Bool.false_and, Bool.and_false]
  · rw [coreProperties_split]
    simp only [List.all_append, escaped, Bool.false_and, Bool.and_false]

end Onetcli.NotesExport
