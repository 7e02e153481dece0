import Onetcli.NotesExport.Lines

/-!
Word documents of notes: `render_docx` of notes-document-export-core. The parts are those
given to the writer of the archive, in their order; the pixels of an image, from which its
extent follows, are read by a library.
-/

namespace Onetcli.NotesExport

open Text Chars

structure ExportAsset where
  path : Chars
  mediaType : Chars
  bytes : List UInt8
  deriving DecidableEq

structure ExportInput where
  title : Chars
  source : Chars
  assets : List ExportAsset

def digits (number : Nat) : Chars := (toString number).toList

def escapeXml (value : Chars) : Chars :=
  replaceFrom ['\''] "&apos;".toList 0 (replaceFrom ['"'] "&quot;".toList 0
    (replaceFrom ['>'] "&gt;".toList 0 (replaceFrom ['<'] "&lt;".toList 0
      (replaceFrom ['&'] "&amp;".toList 0 value))))

def assetExtension (asset : ExportAsset) : Chars :=
  if asset.mediaType = "image/png".toList then "png".toList
  else if asset.mediaType = "image/jpeg".toList then "jpeg".toList
  else if asset.mediaType = "image/gif".toList then "gif".toList
  else if asset.mediaType = "image/svg+xml".toList then "svg".toList
  else "bin".toList

def findAsset (assets : List ExportAsset) (path : Chars) : Option (ExportAsset × Nat) :=
  assets.zipIdx.find? fun entry => entry.1.path == path

/-! ## Images -/

section Body

variable (extent : List UInt8 → Nat × Nat)

def docxImage (index : Nat) (asset : ExportAsset) (alt : Chars) : Chars :=
  let relationshipId := index + 3
  let (cx, cy) := extent asset.bytes
  "<w:p><w:r><w:drawing><wp:inline><wp:extent cx=\"".toList ++
  digits cx ++
  "\" cy=\"".toList ++
  digits cy ++
  "\"/><wp:docPr id=\"".toList ++
  digits index ++
  "\" name=\"".toList ++
  escapeXml ("image-".toList ++ digits index ++ '.' :: assetExtension asset) ++
  "\" descr=\"".toList ++
  escapeXml alt ++
  ("\"/><a:graphic>" ++
   "<a:graphicData uri=\"http://schemas.openxmlformats.org/drawingml/2006/picture\"><pic:pic>" ++
   "<pic:blipFill><a:blip r:embed=\"rId").toList ++
  digits relationshipId ++
  ("\"/><a:stretch><a:fillRect/></a:stretch></pic:blipFill><pic:spPr><a:xfrm>" ++
   "<a:off x=\"0\" y=\"0\"/><a:ext cx=\"").toList ++
  digits cx ++
  "\" cy=\"".toList ++
  digits cy ++
  ("\"/></a:xfrm><a:prstGeom prst=\"rect\"><a:avLst/></a:prstGeom></pic:spPr></pic:pic>" ++
   "</a:graphicData></a:graphic></wp:inline></w:drawing></w:r></w:p>").toList

/-! ## Tables -/

def docxImages (assets : List ExportAsset) (images : List ImageData) : Chars :=
  images.flatMap fun image =>
    match findAsset assets image.path with
    | some (asset, index) => docxImage extent (index + 1) asset image.alt
    | none => []

def docxCell (assets : List ExportAsset) (width : Nat) (bold : Bool)
    (cell : Option TableCellData) : Chars :=
  "<w:tc><w:tcPr><w:tcW w:w=\"".toList ++
  digits width ++
  "\" w:type=\"dxa".toList ++
  ("\"/><w:tcMar><w:top w:w=\"100\" w:type=\"dxa\"/>" ++
   "<w:start w:w=\"120\" w:type=\"dxa\"/><w:bottom w:w=\"100\" w:type=\"dxa\"/>" ++
   "<w:end w:w=\"120\" w:type=\"dxa\"/></w:tcMar></w:tcPr><w:p><w:r>").toList ++
  (if bold then "<w:rPr><w:b/></w:rPr>".toList else []) ++
  "<w:t xml:space=\"preserve\">".toList ++
  escapeXml ((cell.map TableCellData.text).getD []) ++
  "</w:t></w:r></w:p>".toList ++
  docxImages extent assets ((cell.map TableCellData.images).getD []) ++
  "</w:tc>".toList

def docxRow (assets : List ExportAsset) (columns width : Nat) (bold : Bool)
    (row : List TableCellData) : Chars :=
  "<w:tr>".toList ++
  (List.range columns).flatMap (fun column => docxCell extent assets width bold row[column]?) ++
  "</w:tr>".toList

def docxTable (table : TableData) (assets : List ExportAsset) : Chars :=
  let columns := ((table.rows.map List.length).max?).getD 1
  let width := 9000 / columns
  ("<w:tbl><w:tblPr><w:tblW w:w=\"9000\" w:type=\"dxa\"/><w:tblLayout w:type=\"fixed\"/>" ++
   "</w:tblPr><w:tblGrid>").toList ++
  (List.replicate columns ("<w:gridCol w:w=\"".toList ++ digits width ++ "\"/>".toList)).flatten ++
  "</w:tblGrid>".toList ++
  table.rows.zipIdx.flatMap (fun (row, index) =>
    docxRow extent assets columns width (index == 0) row) ++
  "</w:tbl>".toList

/-! ## The document -/

def styleXml (style : Option Chars) : Chars :=
  match style with
  | some style => "<w:pStyle w:val=\"".toList ++ style ++ "\"/>".toList
  | none => []

def numberXml (numbering : Option Nat) : Chars :=
  match numbering with
  | some numbering =>
    "<w:numPr><w:ilvl w:val=\"0\"/><w:numId w:val=\"".toList ++ digits numbering ++
    "\"/></w:numPr>".toList
  | none => []

def propertiesXml (style : Option Chars) (numbering : Option Nat) : Chars :=
  if style.isSome || numbering.isSome then
    "<w:pPr>".toList ++ styleXml style ++ numberXml numbering ++ "</w:pPr>".toList
  else []

def paragraphXml (style : Option Chars) (numbering : Option Nat) (text : Chars) : Chars :=
  "<w:p>".toList ++
  propertiesXml style numbering ++
  "<w:r><w:t xml:space=\"preserve\">".toList ++ escapeXml text ++ "</w:t></w:r></w:p>".toList

def lineXml (assets : List ExportAsset) (line : DocumentLine) : Chars :=
  match line.kind with
  | .blank => "<w:p/>".toList
  | .table table => docxTable extent table assets
  | .image image =>
    match findAsset assets image.path with
    | some (asset, index) => docxImage extent (index + 1) asset image.alt
    | none => "<w:p><w:r><w:t>".toList ++ escapeXml image.alt ++ "</w:t></w:r></w:p>".toList
  | .heading level => paragraphXml (some ("Heading".toList ++ digits (min level 3))) none line.text
  | .code => paragraphXml (some "Code".toList) none line.text
  | .quote => paragraphXml (some "Quote".toList) none line.text
  | .bullet => paragraphXml none (some 1) line.text
  | .ordered => paragraphXml none (some 2) line.text
  | .body => paragraphXml none none line.text

def documentXml (source : Chars) (assets : List ExportAsset) : Chars :=
  ("<?xml version=\"1.0\" encoding=\"UTF-8\" standalone=\"yes\"?><w:document" ++
   " xmlns:w=\"http://schemas.openxmlformats.org/wordprocessingml/2006/main\"" ++
   " xmlns:r=\"http://schemas.openxmlformats.org/officeDocument/2006/relationships\"" ++
   " xmlns:wp=\"http://schemas.openxmlformats.org/drawingml/2006/wordprocessingDrawing\"" ++
   " xmlns:a=\"http://schemas.openxmlformats.org/drawingml/2006/main\"" ++
   " xmlns:pic=\"http://schemas.openxmlformats.org/drawingml/2006/picture\"><w:body>").toList ++
  (documentLines source).flatMap (lineXml extent assets) ++
  ("<w:sectPr><w:pgSz w:w=\"12240\" w:h=\"15840\"/><w:pgMar w:top=\"1440\" w:right=\"1440\"" ++
   " w:bottom=\"1440\" w:left=\"1440\" w:header=\"708\" w:footer=\"708\"/></w:sectPr>" ++
   "</w:body></w:document>").toList

end Body

/-! ## Relationships -/

def assetTarget (index : Nat) (asset : ExportAsset) : Chars :=
  "media/image".toList ++ digits (index + 1) ++ '.' :: assetExtension asset

def imageRelationship (index : Nat) (asset : ExportAsset) : Chars :=
  "<Relationship Id=\"rId".toList ++ digits (index + 3) ++
  "\" Type=\"http://schemas.openxmlformats.org/officeDocument/2006/relationships/image".toList ++
  "\" Target=\"".toList ++ assetTarget index asset ++ "\"/>".toList

def documentRelationships (assets : List ExportAsset) : Chars :=
  ("<?xml version=\"1.0\" encoding=\"UTF-8\" standalone=\"yes\"?>" ++
   "<Relationships" ++
   " xmlns=\"http://schemas.openxmlformats.org/package/2006/relationships\">").toList ++
  ("<Relationship Id=\"rId1\"" ++
   " Type=\"http://schemas.openxmlformats.org/officeDocument/2006/relationships/styles\"" ++
   " Target=\"styles.xml\"/><Relationship Id=\"rId2\"" ++
   " Type=\"http://schemas.openxmlformats.org/officeDocument/2006/relationships/numbering\"" ++
   " Target=\"numbering.xml\"/>").toList ++
  assets.zipIdx.flatMap (fun (asset, index) => imageRelationship index asset) ++
  "</Relationships>".toList

/-! ## Fixed parts -/

def defaultType (extension contentType : String) : Chars :=
  "<Default Extension=\"".toList ++ extension.toList ++
  "\" ContentType=\"".toList ++ contentType.toList ++ "\"/>".toList

def overrideType (partName contentType : String) : Chars :=
  "<Override PartName=\"".toList ++ partName.toList ++
  "\" ContentType=\"".toList ++ contentType.toList ++ "\"/>".toList

def contentTypes : Chars :=
  ("<?xml version=\"1.0\" encoding=\"UTF-8\" standalone=\"yes\"?>" ++
   "<Types xmlns=\"http://schemas.openxmlformats.org/package/2006/content-types\">").toList ++
  defaultType "rels" "application/vnd.openxmlformats-package.relationships+xml" ++
  defaultType "xml" "application/xml" ++
  defaultType "png" "image/png" ++
  defaultType "jpeg" "image/jpeg" ++
  defaultType "jpg" "image/jpeg" ++
  defaultType "gif" "image/gif" ++
  defaultType "svg" "image/svg+xml" ++
  overrideType "/word/document.xml"
    "application/vnd.openxmlformats-officedocument.wordprocessingml.document.main+xml" ++
  overrideType "/word/styles.xml"
    "application/vnd.openxmlformats-officedocument.wordprocessingml.styles+xml" ++
  overrideType "/word/numbering.xml"
    "application/vnd.openxmlformats-officedocument.wordprocessingml.numbering+xml" ++
  overrideType "/docProps/core.xml"
    "application/vnd.openxmlformats-package.core-properties+xml" ++
  "</Types>".toList

def packageRelationships : Chars :=
  ("<?xml version=\"1.0\" encoding=\"UTF-8\" standalone=\"yes\"?>" ++
   "<Relationships xmlns=\"http://schemas.openxmlformats.org/package/2006/relationships\">" ++
   "<Relationship Id=\"rId1\"" ++
   " Type=\"http://schemas.openxmlformats.org/officeDocument/2006/relationships/" ++
   "officeDocument\" Target=\"word/document.xml\"/><Relationship Id=\"rId2\"" ++
   " Type=\"http://schemas.openxmlformats.org/package/2006/relationships/metadata/" ++
   "core-properties\" Target=\"docProps/core.xml\"/></Relationships>").toList

def stylesXml : Chars :=
  ("<?xml version=\"1.0\" encoding=\"UTF-8\" standalone=\"yes\"?>" ++
   "<w:styles xmlns:w=\"http://schemas.openxmlformats.org/wordprocessingml/2006/main\">" ++
   "<w:docDefaults><w:rPrDefault><w:rPr>" ++
   "<w:rFonts w:ascii=\"Calibri\" w:hAnsi=\"Calibri\" w:eastAsia=\"Microsoft YaHei\"/>" ++
   "<w:sz w:val=\"22\"/><w:szCs w:val=\"22\"/><w:color w:val=\"000000\"/></w:rPr>" ++
   "</w:rPrDefault><w:pPrDefault><w:pPr>" ++
   "<w:spacing w:after=\"120\" w:line=\"300\" w:lineRule=\"auto\"/></w:pPr></w:pPrDefault>" ++
   "</w:docDefaults><w:style w:type=\"paragraph\" w:default=\"1\" w:styleId=\"Normal\">" ++
   "<w:name w:val=\"Normal\"/><w:qFormat/><w:pPr>" ++
   "<w:spacing w:after=\"120\" w:line=\"300\" w:lineRule=\"auto\"/></w:pPr><w:rPr>" ++
   "<w:rFonts w:ascii=\"Calibri\" w:hAnsi=\"Calibri\" w:eastAsia=\"Microsoft YaHei\"/>" ++
   "<w:sz w:val=\"22\"/><w:szCs w:val=\"22\"/></w:rPr></w:style>" ++
   "<w:style w:type=\"paragraph\" w:styleId=\"Heading1\"><w:name w:val=\"heading 1\"/>" ++
   "<w:basedOn w:val=\"Normal\"/><w:next w:val=\"Normal\"/><w:qFormat/><w:pPr><w:keepNext/>" ++
   "<w:spacing w:before=\"360\" w:after=\"200\"/></w:pPr><w:rPr><w:b/>" ++
   "<w:color w:val=\"2E74B5\"/><w:sz w:val=\"32\"/><w:szCs w:val=\"32\"/></w:rPr></w:style>" ++
   "<w:style w:type=\"paragraph\" w:styleId=\"Heading2\"><w:name w:val=\"heading 2\"/>" ++
   "<w:basedOn w:val=\"Normal\"/><w:next w:val=\"Normal\"/><w:qFormat/><w:pPr><w:keepNext/>" ++
   "<w:spacing w:before=\"280\" w:after=\"140\"/></w:pPr><w:rPr><w:b/>" ++
   "<w:color w:val=\"2E74B5\"/><w:sz w:val=\"26\"/><w:szCs w:val=\"26\"/></w:rPr></w:style>" ++
   "<w:style w:type=\"paragraph\" w:styleId=\"Heading3\"><w:name w:val=\"heading 3\"/>" ++
   "<w:basedOn w:val=\"Normal\"/><w:next w:val=\"Normal\"/><w:qFormat/><w:pPr><w:keepNext/>" ++
   "<w:spacing w:before=\"200\" w:after=\"100\"/></w:pPr><w:rPr><w:b/>" ++
   "<w:color w:val=\"1F4D78\"/><w:sz w:val=\"24\"/><w:szCs w:val=\"24\"/></w:rPr></w:style>" ++
   "<w:style w:type=\"paragraph\" w:styleId=\"Quote\"><w:name w:val=\"Quote\"/>" ++
   "<w:basedOn w:val=\"Normal\"/><w:pPr><w:ind w:left=\"360\"/>" ++
   "<w:spacing w:after=\"120\" w:line=\"300\" w:lineRule=\"auto\"/></w:pPr><w:rPr><w:i/>" ++
   "<w:color w:val=\"666666\"/></w:rPr></w:style>" ++
   "<w:style w:type=\"paragraph\" w:styleId=\"Code\"><w:name w:val=\"Code\"/>" ++
   "<w:basedOn w:val=\"Normal\"/><w:pPr><w:ind w:left=\"240\"/>" ++
   "<w:spacing w:after=\"80\" w:line=\"280\" w:lineRule=\"auto\"/></w:pPr><w:rPr>" ++
   "<w:rFonts w:ascii=\"Consolas\" w:hAnsi=\"Consolas\" w:eastAsia=\"Microsoft YaHei\"/>" ++
   "<w:sz w:val=\"20\"/><w:szCs w:val=\"20\"/></w:rPr></w:style></w:styles>").toList

def numberingXml : Chars :=
  ("<?xml version=\"1.0\" encoding=\"UTF-8\" standalone=\"yes\"?>" ++
   "<w:numbering xmlns:w=\"http://schemas.openxmlformats.org/wordprocessingml/2006/main\">" ++
   "<w:abstractNum w:abstractNumId=\"1\"><w:multiLevelType w:val=\"singleLevel\"/>" ++
   "<w:lvl w:ilvl=\"0\"><w:start w:val=\"1\"/><w:numFmt w:val=\"bullet\"/>" ++
   "<w:lvlText w:val=\"•\"/><w:lvlJc w:val=\"left\"/><w:pPr><w:tabs>" ++
   "<w:tab w:val=\"num\" w:pos=\"540\"/></w:tabs><w:ind w:left=\"540\" w:hanging=\"270\"/>" ++
   "<w:spacing w:after=\"80\" w:line=\"300\" w:lineRule=\"auto\"/></w:pPr><w:rPr>" ++
   "<w:rFonts w:ascii=\"Calibri\" w:hAnsi=\"Calibri\" w:eastAsia=\"Microsoft YaHei\"/></w:rPr>" ++
   "</w:lvl></w:abstractNum><w:abstractNum w:abstractNumId=\"2\">" ++
   "<w:multiLevelType w:val=\"singleLevel\"/><w:lvl w:ilvl=\"0\"><w:start w:val=\"1\"/>" ++
   "<w:numFmt w:val=\"decimal\"/><w:lvlText w:val=\"%1.\"/><w:lvlJc w:val=\"left\"/><w:pPr>" ++
   "<w:tabs><w:tab w:val=\"num\" w:pos=\"540\"/></w:tabs>" ++
   "<w:ind w:left=\"540\" w:hanging=\"270\"/>" ++
   "<w:spacing w:after=\"80\" w:line=\"300\" w:lineRule=\"auto\"/></w:pPr></w:lvl>" ++
   "</w:abstractNum><w:num w:numId=\"1\"><w:abstractNumId w:val=\"1\"/></w:num>" ++
   "<w:num w:numId=\"2\"><w:abstractNumId w:val=\"2\"/></w:num></w:numbering>").toList

def coreProperties (title : Chars) : Chars :=
  ("<?xml version=\"1.0\" encoding=\"UTF-8\" standalone=\"yes\"?><cp:coreProperties" ++
   " xmlns:cp=\"http://schemas.openxmlformats.org/package/2006/metadata/core-properties\"" ++
   " xmlns:dc=\"http://purl.org/dc/elements/1.1/\"><dc:title>").toList ++
  escapeXml title ++
  "</dc:title><dc:creator>Navop Notes Document Exporter</dc:creator></cp:coreProperties>".toList

/-! ## The package -/

abbrev Package : Type := List (Chars × List UInt8)

def fixedParts (extent : List UInt8 → Nat × Nat) (input : ExportInput) : Package :=
  [("[Content_Types].xml".toList, toUtf8 contentTypes),
    ("_rels/.rels".toList, toUtf8 packageRelationships),
    ("docProps/core.xml".toList, toUtf8 (coreProperties input.title)),
    ("word/styles.xml".toList, toUtf8 stylesXml),
    ("word/numbering.xml".toList, toUtf8 numberingXml),
    ("word/_rels/document.xml.rels".toList, toUtf8 (documentRelationships input.assets)),
    ("word/document.xml".toList, toUtf8 (documentXml extent input.source input.assets))]

def mediaPart (index : Nat) (asset : ExportAsset) : Chars × List UInt8 :=
  ("word/".toList ++ assetTarget index asset, asset.bytes)

def renderDocx (extent : List UInt8 → Nat × Nat) (input : ExportInput) : Package :=
  fixedParts extent input ++ input.assets.zipIdx.map fun (asset, index) => mediaPart index asset

end Onetcli.NotesExport
