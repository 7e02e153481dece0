import Onetcli.Lib.Markup
import Onetcli.Lib.Lookups
import Onetcli.NotesExport.Docx

/-!
The ids of images that a Word document embeds: those of the image references of its lines
that name an asset, in order, and none that a text of the source could add.
-/

namespace Onetcli.NotesExport

open Text Chars Markup

/-! ## Plain texts -/

theorem mem_replaceFrom {char old : Char} {new text : Chars}
    (member : char ∈ replaceFrom [old] new 0 text) : char ∈ new ∨ (char ∈ text ∧ char ≠ old) := by
  induction text with
  | nil => cases member
  | cons first rest ih =>
    rw [replaceFrom] at member
    split at member
    · rcases List.mem_append.mp member with inside | later
      · exact Or.inl inside
      · rcases ih later with inside | ⟨among, other⟩
        · exact Or.inl inside
        · exact Or.inr ⟨List.mem_cons_of_mem _ among, other⟩
    · rename_i differs
      rcases List.mem_cons.mp member with rfl | later
      · apply Or.inr
        refine ⟨List.mem_cons_self, ?_⟩
        rintro rfl
        exact differs (List.isPrefixOf_iff_prefix.mpr ⟨rest, rfl⟩)
      · rcases ih later with inside | ⟨among, other⟩
        · exact Or.inl inside
        · exact Or.inr ⟨List.mem_cons_of_mem _ among, other⟩

theorem absent_replace {char old : Char} {new text : Chars} (clean : char ∉ new)
    (absent : char = old ∨ char ∉ text) : char ∉ replaceFrom [old] new 0 text := by
  intro member
  rcases mem_replaceFrom member with inside | ⟨among, other⟩
  · exact clean inside
  · rcases absent with same | away
    · exact other same
    · exact away among

theorem escapeXml_angle (value : Chars) : '<' ∉ escapeXml value :=
  absent_replace (by decide) (Or.inr (absent_replace (by decide) (Or.inr
    (absent_replace (by decide) (Or.inr (absent_replace (by decide) (Or.inl rfl)))))))

theorem escapeXml_quote (value : Chars) : '"' ∉ escapeXml value :=
  absent_replace (by decide) (Or.inr (absent_replace (by decide) (Or.inl rfl)))

theorem digits_plain {char : Char} (other : char.isDigit = false) (number : Nat) :
    char ∉ digits number := by
  intro member
  rw [digits, Nat.toString_eq_repr, Nat.toList_repr] at member
  have digit := Nat.isDigit_of_mem_toDigits (by decide) (by decide) member
  rw [other] at digit
  cases digit

theorem digits_quote (number : Nat) : '"' ∉ digits number := digits_plain (by decide) number

theorem digits_inj {first second : Nat} (same : digits first = digits second) : first = second :=
  digits_injective (String.toList_injective same)

/-! ## Embedded ids -/

def embedKey : Chars := "r:embed".toList

def embeds (tag : Tag) : List Chars :=
  (tag.attributes.filter fun pair => pair.1 == embedKey).map Prod.snd

theorem embeds_other {tag : Tag} {key value : Chars} (other : key ≠ embedKey) :
    embeds (tag.add key value) = embeds tag := by
  rw [embeds, embeds, Tag.add, List.filter_append, List.filter_cons_of_neg, List.filter_nil,
    List.append_nil]
  rw [beq_iff_eq]
  exact other

theorem embeds_add {tag : Tag} {value : Chars} :
    embeds (tag.add embedKey value) = embeds tag ++ [value] := by
  rw [embeds, embeds, Tag.add, List.filter_append, List.map_append, List.filter_cons_of_pos,
    List.filter_nil, List.map_cons, List.map_nil]
  exact beq_self_eq_true embedKey

/-- The id under which the document embeds an asset. -/
def embedId (index : Nat) : Chars := "rId".toList ++ digits (index + 4)

def namedAssets (assets : List ExportAsset) (paths : List Chars) : List (ExportAsset × Nat) :=
  paths.flatMap fun path => (findAsset assets path).toList

def embedIds (assets : List ExportAsset) (paths : List Chars) : List Chars :=
  (namedAssets assets paths).map fun entry => embedId entry.2

theorem embedIds_flatMap {Item : Type} (assets : List ExportAsset) (items : List Item)
    (paths : Item → List Chars) : embedIds assets (items.flatMap paths) =
      items.flatMap fun item => embedIds assets (paths item) := by
  rw [embedIds, namedAssets, List.flatMap_assoc, List.map_flatMap]
  rfl

/-! ### The paths of a source -/

def cellPaths (cell : TableCellData) : List Chars := cell.images.map ImageData.path

def linePaths (line : DocumentLine) : List Chars :=
  match line.kind with
  | .image image => [image.path]
  | .table table => table.rows.flatMap fun row => row.flatMap cellPaths
  | _ => []

def imagePaths (source : Chars) : List Chars := (documentLines source).flatMap linePaths

/-! ### What is written -/

section Document

variable (extent : List UInt8 → Nat × Nat)

theorem embeds_nothing {tag : Tag} {key value : Chars} (other : key ≠ embedKey)
    (nothing : embeds tag = []) : embeds (tag.add key value) = [] :=
  (embeds_other other).trans nothing

theorem docxImage_yields (index : Nat) (asset : ExportAsset) (alt : Chars) :
    Yields embeds .text (docxImage extent (index + 1) asset alt) .text [embedId index] := by
  have start : Yields embeds .text
      "<w:p><w:r><w:drawing><wp:inline><wp:extent cx=\"".toList
      (.value ⟨"wp:extent".toList, []⟩ "cx".toList []) [] :=
    yields_literal rfl rfl rfl
  have name := escapeXml_quote ("image-".toList ++ digits (index + 1) ++ '.' :: assetExtension asset)
  delta docxImage
  dsimp only
  generalize extent asset.bytes = size
  rcases size with ⟨cx, cy⟩
  dsimp only
  have shape := (((start.value (digits_quote cx)).next "\" cy=\"" rfl "cy".toList [] (by decide)
    (by decide) (by decide)).value (digits_quote cy)).close "\"/><wp:docPr id=\"" rfl
    (embeds_nothing (by decide) (embeds_nothing (by decide) rfl))
    (.value ⟨"wp:docPr".toList, []⟩ "id".toList []) rfl rfl
  have labels := ((((shape.value (digits_quote (index + 1))).next "\" name=\"" rfl "name".toList []
    (by decide) (by decide) (by decide)).value name).next "\" descr=\"" rfl "descr".toList []
    (by decide) (by decide) (by decide)).value (escapeXml_quote alt)
  have blip := labels.close
    ("\"/><a:graphic>" ++
     "<a:graphicData uri=\"http://schemas.openxmlformats.org/drawingml/2006/picture\"><pic:pic>" ++
     "<pic:blipFill><a:blip r:embed=\"rId") (spelled_append (spelled_append rfl rfl) rfl)
    (embeds_nothing (by decide) (embeds_nothing (by decide) (embeds_nothing (by decide) rfl)))
    (.value ⟨"a:blip".toList, []⟩ embedKey "rId".toList) (by decide +kernel) (by decide +kernel)
  have embedded := (blip.value (digits_quote (index + 1 + 3))).close
    ("\"/><a:stretch><a:fillRect/></a:stretch></pic:blipFill><pic:spPr><a:xfrm>" ++
     "<a:off x=\"0\" y=\"0\"/><a:ext cx=\"") (spelled_append rfl rfl) embeds_add
    (.value ⟨"a:ext".toList, []⟩ "cx".toList []) (by decide +kernel) (by decide +kernel)
  exact (((embedded.value (digits_quote cx)).next "\" cy=\"" rfl "cy".toList [] (by decide)
    (by decide) (by decide)).value (digits_quote cy)).close
    ("\"/></a:xfrm><a:prstGeom prst=\"rect\"><a:avLst/></a:prstGeom></pic:spPr></pic:pic>" ++
     "</a:graphicData></a:graphic></wp:inline></w:drawing></w:r></w:p>") (spelled_append rfl rfl)
    (embeds_nothing (by decide) (embeds_nothing (by decide) rfl)) .text (by decide +kernel)
    rfl

theorem image_yields {assets : List ExportAsset} {image : ImageData} {missing : Chars}
    (absent : Yields embeds .text missing .text []) : Yields embeds .text
      (match findAsset assets image.path with
        | some (asset, index) => docxImage extent (index + 1) asset image.alt
        | none => missing) .text (embedIds assets [image.path]) := by
  rw [embedIds, namedAssets, List.flatMap_singleton]
  cases findAsset assets image.path with
  | none => exact absent
  | some entry => exact docxImage_yields extent entry.2 entry.1 image.alt

theorem docxImages_yields (assets : List ExportAsset) (images : List ImageData) :
    Yields embeds .text (docxImages extent assets images) .text
      (embedIds assets (images.map ImageData.path)) := by
  rw [← List.flatMap_singleton' (images.map ImageData.path), List.flatMap_map, embedIds_flatMap]
  exact .flatMap fun image _ => image_yields extent .nil

theorem cellStart_yields (width : Nat) :
    Yields embeds .text ("<w:tc><w:tcPr><w:tcW w:w=\"".toList ++ digits width ++
      "\" w:type=\"dxa".toList ++ ("\"/><w:tcMar><w:top w:w=\"100\" w:type=\"dxa\"/>" ++
       "<w:start w:w=\"120\" w:type=\"dxa\"/><w:bottom w:w=\"100\" w:type=\"dxa\"/>" ++
       "<w:end w:w=\"120\" w:type=\"dxa\"/></w:tcMar></w:tcPr><w:p><w:r>").toList) .text [] := by
  have start : Yields embeds .text "<w:tc><w:tcPr><w:tcW w:w=\"".toList
      (.value ⟨"w:tcW".toList, []⟩ "w:w".toList []) [] :=
    yields_literal rfl rfl rfl
  have opened := (start.value (digits_quote width)).next "\" w:type=\"dxa" rfl "w:type".toList
    "dxa".toList (by decide) (by decide) (by decide)
  exact opened.close _ (spelled_append (spelled_append rfl rfl) rfl)
    (embeds_nothing (by decide) (embeds_nothing (by decide) rfl)) .text (by decide +kernel)
    rfl

theorem docxCell_yields (assets : List ExportAsset) (width : Nat) (bold : Bool)
    (cell : Option TableCellData) :
    Yields embeds .text (docxCell extent assets width bold cell) .text
      (embedIds assets ((cell.map cellPaths).getD [])) := by
  have weight : Yields embeds .text (if bold then "<w:rPr><w:b/></w:rPr>".toList else []) .text
      [] := by
    split
    · exact yields_literal rfl rfl rfl
    · exact .nil
  have opened : Yields embeds .text "<w:t xml:space=\"preserve\">".toList .text [] :=
    yields_literal rfl rfl rfl
  have closed : Yields embeds .text "</w:t></w:r></w:p>".toList .text [] :=
    yields_literal rfl rfl rfl
  have last : Yields embeds .text "</w:tc>".toList .text [] :=
    yields_literal rfl rfl rfl
  have text : Yields embeds .text (escapeXml ((cell.map TableCellData.text).getD [])) .text [] :=
    yields_text (escapeXml_angle _)
  have images := docxImages_yields extent assets ((cell.map TableCellData.images).getD [])
  have paths : ((cell.map TableCellData.images).getD []).map ImageData.path =
      (cell.map cellPaths).getD [] := by cases cell <;> rfl
  rw [paths] at images
  exact (((((cellStart_yields width).followed weight).followed opened).followed text).followed
    closed).append images |>.followed last

theorem docxRow_yields (assets : List ExportAsset) (columns width : Nat) (bold : Bool)
    {row : List TableCellData} (room : row.length ≤ columns) :
    Yields embeds .text (docxRow extent assets columns width bold row) .text
      (embedIds assets (row.flatMap cellPaths)) := by
  have opened : Yields embeds .text "<w:tr>".toList .text [] :=
    yields_literal rfl rfl rfl
  have closed : Yields embeds .text "</w:tr>".toList .text [] :=
    yields_literal rfl rfl rfl
  have cells := Yields.flatMap fun column (_ : column ∈ List.range columns) =>
    docxCell_yields extent assets width bold row[column]?
  -- The columns past the end of the row embed nothing.
  rw [Lookups.range_flatMap room (fun cell => embedIds assets ((cell.map cellPaths).getD []))
    rfl] at cells
  rw [embedIds_flatMap]
  exact (opened.append cells).followed closed

theorem length_le_columns {rows : List (List TableCellData)} {row : List TableCellData}
    (member : row ∈ rows) : row.length ≤ ((rows.map List.length).max?).getD 1 := by
  have among := List.mem_map_of_mem (f := List.length) member
  cases largest : (rows.map List.length).max? with
  | none =>
    rw [List.max?_eq_none_iff.mp largest] at among
    cases among
  | some columns => exact (List.max?_eq_some_iff.mp largest).2 _ among

theorem gridCol_yields (width : Nat) :
    Yields embeds .text ("<w:gridCol w:w=\"".toList ++ digits width ++ "\"/>".toList) .text [] := by
  have start : Yields embeds .text "<w:gridCol w:w=\"".toList
      (.value ⟨"w:gridCol".toList, []⟩ "w:w".toList []) [] :=
    yields_literal rfl rfl rfl
  exact (start.value (digits_quote width)).close "\"/>" rfl (embeds_nothing (by decide) rfl) .text
    rfl rfl

theorem docxTable_yields (assets : List ExportAsset) (table : TableData) :
    Yields embeds .text (docxTable extent table assets) .text
      (embedIds assets (table.rows.flatMap fun row => row.flatMap cellPaths)) := by
  have opened : Yields embeds .text
      ("<w:tbl><w:tblPr><w:tblW w:w=\"9000\" w:type=\"dxa\"/><w:tblLayout w:type=\"fixed\"/>" ++
       "</w:tblPr><w:tblGrid>").toList .text [] :=
    yields_literal (spelled_append rfl rfl) (by decide +kernel) (by decide +kernel)
  have middle : Yields embeds .text "</w:tblGrid>".toList .text [] :=
    yields_literal rfl rfl rfl
  have closed : Yields embeds .text "</w:tbl>".toList .text [] :=
    yields_literal rfl rfl rfl
  delta docxTable
  dsimp only
  generalize columnsAre : ((table.rows.map List.length).max?).getD 1 = columns
  have grid : Yields embeds .text
      (List.replicate columns ("<w:gridCol w:w=\"".toList ++ digits (9000 / columns) ++
        "\"/>".toList)).flatten .text [] := by
    rw [← List.flatMap_id]
    apply Yields.flatMap_nil
    intro column member
    rw [(List.mem_replicate.mp member).2]
    exact gridCol_yields (9000 / columns)
  have rows := Yields.flatMap fun entry (member : entry ∈ table.rows.zipIdx) =>
    docxRow_yields extent assets columns (9000 / columns) (entry.2 == 0)
      (columnsAre ▸ length_le_columns (List.fst_mem_of_mem_zipIdx member))
  rw [Lookups.zipIdx_flatMap table.rows fun row => embedIds assets (row.flatMap cellPaths),
    ← embedIds_flatMap] at rows
  exact (((opened.followed grid).followed middle).append rows).followed closed

/-! ### The document -/

theorem styleXml_yields {style : Option Chars} (clean : ∀ name, style = some name → '"' ∉ name) :
    Yields embeds .text (styleXml style) .text [] := by
  cases style with
  | none => exact .nil
  | some name =>
    have start : Yields embeds .text "<w:pStyle w:val=\"".toList
        (.value ⟨"w:pStyle".toList, []⟩ "w:val".toList []) [] :=
      yields_literal rfl rfl rfl
    exact (start.value (clean name rfl)).close "\"/>" rfl (embeds_nothing (by decide) rfl) .text
      rfl rfl

theorem numberXml_yields (numbering : Option Nat) :
    Yields embeds .text (numberXml numbering) .text [] := by
  cases numbering with
  | none => exact .nil
  | some number =>
    have start : Yields embeds .text "<w:numPr><w:ilvl w:val=\"0\"/><w:numId w:val=\"".toList
        (.value ⟨"w:numId".toList, []⟩ "w:val".toList []) [] :=
      yields_literal rfl rfl rfl
    exact (start.value (digits_quote number)).close "\"/></w:numPr>" rfl
      (embeds_nothing (by decide) rfl) .text rfl rfl

theorem propertiesXml_yields {style : Option Chars}
    (clean : ∀ name, style = some name → '"' ∉ name) (numbering : Option Nat) :
    Yields embeds .text (propertiesXml style numbering) .text [] := by
  rw [propertiesXml]
  split
  · have start : Yields embeds .text "<w:pPr>".toList .text [] :=
      yields_literal rfl rfl rfl
    have finish : Yields embeds .text "</w:pPr>".toList .text [] :=
      yields_literal rfl rfl rfl
    exact ((start.followed (styleXml_yields clean)).followed
      (numberXml_yields numbering)).followed finish
  · exact .nil

theorem paragraphXml_yields {style : Option Chars}
    (clean : ∀ name, style = some name → '"' ∉ name) (numbering : Option Nat) (text : Chars) :
    Yields embeds .text (paragraphXml style numbering text) .text [] := by
  have opened : Yields embeds .text "<w:p>".toList .text [] :=
    yields_literal rfl rfl rfl
  have run : Yields embeds .text "<w:r><w:t xml:space=\"preserve\">".toList .text [] :=
    yields_literal rfl rfl rfl
  have closed : Yields embeds .text "</w:t></w:r></w:p>".toList .text [] :=
    yields_literal rfl rfl rfl
  exact (((opened.followed (propertiesXml_yields clean numbering)).followed run).followed
    (yields_text (escapeXml_angle text))).followed closed

theorem lineXml_yields (assets : List ExportAsset) (line : DocumentLine) :
    Yields embeds .text (lineXml extent assets line) .text (embedIds assets (linePaths line)) := by
  have plain {name : Chars} (clean : '"' ∉ name) :
      ∀ other, some name = some other → '"' ∉ other := by
    rintro _ ⟨⟩
    exact clean
  have unstyled : ∀ name, (none : Option Chars) = some name → '"' ∉ name := by rintro _ ⟨⟩
  rcases line with ⟨kind, text⟩
  cases kind with
  | blank =>
    have empty : Yields embeds .text "<w:p/>".toList .text [] :=
      yields_literal rfl rfl rfl
    exact empty
  | table table => exact docxTable_yields extent assets table
  | image image =>
    have opened : Yields embeds .text "<w:p><w:r><w:t>".toList .text [] :=
      yields_literal rfl rfl rfl
    have closed : Yields embeds .text "</w:t></w:r></w:p>".toList .text [] :=
      yields_literal rfl rfl rfl
    exact image_yields extent ((opened.followed
      (yields_text (escapeXml_angle image.alt))).followed closed)
  | heading level =>
    have clean : '"' ∉ "Heading".toList ++ digits (min level 3) := by
      rw [List.mem_append, not_or]
      exact ⟨by decide, digits_quote _⟩
    exact paragraphXml_yields (plain clean) none text
  | code | quote => exact paragraphXml_yields (plain (by decide)) none text
  | bullet => exact paragraphXml_yields unstyled (some 1) text
  | ordered => exact paragraphXml_yields unstyled (some 2) text
  | body => exact paragraphXml_yields unstyled none text

theorem documentXml_yields (source : Chars) (assets : List ExportAsset) :
    Yields embeds .text (documentXml extent source assets) .text
      (embedIds assets (imagePaths source)) := by
  have body := Yields.flatMap fun line (_ : line ∈ documentLines source) =>
    lineXml_yields extent assets line
  rw [← embedIds_flatMap] at body
  unfold documentXml
  refine ((show Yields embeds .text _ .text [] from ?opened).append body).followed ?closed
  case opened =>
    exact yields_literal (spelled_append (spelled_append (spelled_append (spelled_append
      (spelled_append rfl rfl) rfl) rfl) rfl) rfl) (by decide +kernel) (by decide +kernel)
  case closed =>
    exact yields_literal (spelled_append (spelled_append rfl rfl) rfl) (by decide +kernel) rfl

end Document

end Onetcli.NotesExport
