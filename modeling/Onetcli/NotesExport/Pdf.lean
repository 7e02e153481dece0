import Onetcli.Lib.PdfFiles
import Onetcli.Lib.PdfStrings
import Onetcli.NotesExport.Docx

/-!
PDF files of notes: `render_pdf` of notes-document-export-core. The layout is in numbers of
any kind, and the pixels of an image are read by a library. What is between the brackets of a
format string is written by the numbers' own `format`.
-/

namespace Onetcli.NotesExport

open Text Chars

/-! ## Numbers -/

/-- What a number is written with: digits, a point and a sign, or the names of no number. -/
def isNumeric (char : Char) : Bool := char.isDigit || "-.infNa".toList.contains char

/-- The numbers of the layout; `literal 105 1` is 10.5, and `format` has one decimal. -/
structure Floats (Number : Type) where
  literal : Nat → Nat → Number
  add : Number → Number → Number
  sub : Number → Number → Number
  mul : Number → Number → Number
  div : Number → Number → Number
  min : Number → Number → Number
  max : Number → Number → Number
  less : Number → Number → Bool
  ofNat : Nat → Number
  truncate : Number → Nat
  format : Number → Chars
  format_numeric : ∀ number, (format number).all isNumeric = true

def Floats.whole {Number : Type} (floats : Floats Number) (value : Nat) : Number :=
  floats.literal value 0

structure PdfImage where
  width : Nat
  height : Nat
  rgb : List UInt8

/-- The pages so far; `y` is where the next line of the last one goes. -/
structure Pages (Number : Type) where
  done : List Chars := []
  current : Chars
  y : Number

def Pages.all {Number : Type} (pages : Pages Number) : List Chars := pages.done ++ [pages.current]

def Pages.push {Number : Type} (pages : Pages Number) (text : Chars) : Pages Number :=
  { pages with current := pages.current ++ text }

def pageStart : Chars := "q 1 1 1 rg 0 0 595 842 re f Q\n".toList

section Layout

variable {Number : Type} (floats : Floats Number)

def Pages.start : Pages Number := { current := pageStart, y := floats.whole 788 }

def Pages.next (pages : Pages Number) : Pages Number :=
  { done := pages.all, current := pageStart, y := floats.whole 788 }

def Pages.up (pages : Pages Number) (height : Number) : Pages Number :=
  { pages with y := floats.sub pages.y height }

/-! ## Texts -/

def isAscii (char : Char) : Bool := char.toNat < 128

/-- `char::is_control`. -/
def isControl (char : Char) : Bool :=
  char.toNat < 32 || (127 ≤ char.toNat && char.toNat < 160)

def pdfLiteral (text : Chars) : Chars :=
  (text.filter fun char => !isControl char || char == '\t').flatMap fun char =>
    if char = '(' then "\\(".toList
    else if char = ')' then "\\)".toList
    else if char = '\\' then "\\\\".toList
    else if char = '\t' then "    ".toList
    else [char]

def utf16beHex (text : Chars) : Chars := PdfStrings.hexUnits (encodeUtf16 text)

def charWidth (size : Number) (char : Char) : Number :=
  if isAscii char then floats.mul size (floats.literal 55 2) else size

structure TextRun (Number : Type) where
  output : Chars := []
  run : Chars := []
  ascii : Option Bool := none
  cursorX : Number

section Text

variable (size y : Number)

def runStart (font : String) (cursorX : Number) : Chars :=
  "BT /".toList ++ font.toList ++ ' ' :: floats.format size ++
    " Tf 0.12 0.12 0.12 rg 1 0 0 1 ".toList ++ floats.format cursorX ++ ' ' :: floats.format y ++
      " Tm ".toList

def TextRun.flush (state : TextRun Number) (ascii : Bool) : TextRun Number :=
  if state.run.isEmpty then state
  else
    { state with
      output := state.output ++
        (if ascii then
          runStart floats size y "F2" state.cursorX ++ "(".toList ++ pdfLiteral state.run ++
            ") Tj ET\n".toList
        else
          runStart floats size y "F1" state.cursorX ++ "<".toList ++ utf16beHex state.run ++
            "> Tj ET\n".toList)
      cursorX := floats.add state.cursorX
        ((state.run.map (charWidth floats size)).foldl floats.add (floats.whole 0))
      run := [] }

def TextRun.push (state : TextRun Number) (char : Char) : TextRun Number :=
  -- A run has characters of one font only.
  let flushed := match state.ascii with
    | some current =>
      if current != isAscii char then state.flush floats size y current else state
    | none => state
  { flushed with ascii := some (isAscii char), run := flushed.run ++ [char] }

end Text

def pdfTextCommands (text : Chars) (size x y : Number) : Chars :=
  let state := text.foldl (TextRun.push floats size y) { cursorX := x }
  match state.ascii with
  | some ascii => (state.flush floats size y ascii).output
  | none => state.output

structure Wrapping (Number : Type) where
  output : List Chars := []
  current : Chars := []
  width : Number

def Wrapping.push (size maxWidth : Number) (state : Wrapping Number) (char : Char) :
    Wrapping Number :=
  let characterWidth := charWidth floats size char
  let broken :=
    -- A character that is too wide for any line has a line of its own.
    if floats.less maxWidth (floats.add state.width characterWidth) && !state.current.isEmpty then
      { output := state.output ++ [state.current], width := floats.whole 0 }
    else state
  { broken with
    current := broken.current ++ [char]
    width := floats.add broken.width characterWidth }

def wrapText (text : Chars) (size maxWidth : Number) : List Chars :=
  if text.isEmpty then [[]]
  else
    let state := text.foldl (Wrapping.push floats size maxWidth) { width := floats.whole 0 }
    if state.current.isEmpty then state.output else state.output ++ [state.current]

/-! ## Images -/

variable (decode : ExportAsset → Option PdfImage)

def hexEncode (bytes : List UInt8) : Chars :=
  bytes.flatMap fun byte =>
    [PdfStrings.hexUpper (byte.toNat / 16), PdfStrings.hexUpper (byte.toNat % 16)]

def pdfInlineImage (asset : ExportAsset) (maxWidth maxHeight : Number) :
    Option (Chars × Number × Number) :=
  (decode asset).bind fun image =>
    if image.width = 0 ∨ image.height = 0 then none
    else
      let scale := floats.min
        (floats.min (floats.div maxWidth (floats.ofNat image.width))
          (floats.div maxHeight (floats.ofNat image.height)))
        (floats.whole 1)
      some ("BI /W ".toList ++ PdfFiles.digits image.width ++ " /H ".toList ++
          PdfFiles.digits image.height ++ " /CS /RGB /BPC 8 /F /ASCIIHexDecode ID\n".toList ++
          hexEncode image.rgb ++ ">\nEI".toList,
        floats.mul (floats.ofNat image.width) scale, floats.mul (floats.ofNat image.height) scale)

def findImage (assets : List ExportAsset) (path : Chars) (maxWidth maxHeight : Number) :
    Option (Chars × Number × Number) :=
  (assets.find? fun asset => asset.path == path).bind fun asset =>
    pdfInlineImage floats decode asset maxWidth maxHeight

def placeImage (width height : Number) (place command : Chars) : Chars :=
  "q ".toList ++ floats.format width ++ " 0 0 ".toList ++ floats.format height ++ ' ' :: place ++
    " cm\n".toList ++ command ++ "\nQ\n".toList

variable (assets : List ExportAsset)

def layoutImage (image : ImageData) (pages : Pages Number) : Pages Number :=
  match findImage floats decode assets image.path (floats.whole 487) (floats.whole 300) with
  | some (command, width, height) =>
    let pages :=
      if floats.less (floats.sub pages.y height) (floats.whole 58) then pages.next floats
      else pages
    (pages.push (placeImage floats width height
      ("54 ".toList ++ floats.format (floats.sub pages.y height)) command)).up floats
        (floats.add height (floats.whole 12))
  | none =>
    let fallback := if image.alt.isEmpty then "Image".toList else image.alt
    (pages.push (pdfTextCommands floats fallback (floats.whole 11) (floats.whole 54) pages.y)).up
      floats (floats.whole 17)

/-! ## Tables -/

def tableCell (first : Bool) (x bottom cellWidth rowHeight : Number) (cell : TableCellData) :
    Chars :=
  let maxChars := floats.truncate
    (floats.max (floats.div (floats.sub cellWidth (floats.whole 8)) (floats.whole 6))
      (floats.whole 1))
  pdfTextCommands floats (cell.text.take maxChars)
      (if first then floats.literal 105 1 else floats.whole 10) (floats.add x (floats.whole 4))
      (floats.add bottom (floats.whole 8)) ++
    match cell.images.head?.bind fun image =>
        findImage floats decode assets image.path (floats.sub cellWidth (floats.whole 8))
          (floats.sub rowHeight (floats.whole 28)) with
    | some (command, width, height) =>
      placeImage floats width height
        (floats.format (floats.add x (floats.whole 4)) ++
          ' ' :: floats.format (floats.add bottom (floats.whole 24))) command
    | none => []

def tableColumn (first : Bool) (bottom cellWidth rowHeight : Number) (row : List TableCellData)
    (column : Nat) : Chars :=
  let x := floats.add (floats.whole 54) (floats.mul (floats.ofNat column) cellWidth)
  "q 0.65 0.68 0.72 RG 0.6 w ".toList ++ floats.format x ++ ' ' :: floats.format bottom ++
    ' ' :: floats.format cellWidth ++ ' ' :: floats.format rowHeight ++ " re S Q\n".toList ++
    match row[column]? with
    | some cell => tableCell floats decode assets first x bottom cellWidth rowHeight cell
    | none => []

def tableRow (columns : Nat) (cellWidth : Number) (pages : Pages Number)
    (entry : List TableCellData × Nat) : Pages Number :=
  let rowHeight := floats.whole (if entry.1.any fun cell => !cell.images.isEmpty then 82 else 25)
  let pages :=
    if floats.less (floats.sub pages.y rowHeight) (floats.whole 58) then pages.next floats
    else pages
  let bottom := floats.sub pages.y rowHeight
  let shade :=
    if entry.2 = 0 then
      "q 0.94 0.96 0.98 rg 54 ".toList ++ floats.format bottom ++ " 487 ".toList ++
        floats.format rowHeight ++ " re f Q\n".toList
    else []
  { pages.push (shade ++ (List.range columns).flatMap
      (tableColumn floats decode assets (entry.2 = 0) bottom cellWidth rowHeight entry.1)) with
    y := bottom }

def renderPdfTable (table : TableData) (pages : Pages Number) : Pages Number :=
  let columns := (table.rows.map List.length).foldl Nat.max 0
  if columns = 0 then pages
  else
    (table.rows.zipIdx.foldl
      (tableRow floats decode assets columns
        (floats.div (floats.whole 487) (floats.ofNat columns))) pages).up floats (floats.whole 12)

/-! ## Lines -/

/-- The size, the indent and the leading of a line of text. -/
def lineStyle : LineKind → Nat × Nat × Nat
  | .heading 1 => (24, 0, 34)
  | .heading 2 => (20, 0, 29)
  | .heading _ => (16, 0, 24)
  | .bullet | .ordered | .quote => (11, 18, 17)
  | .code => (10, 12, 15)
  | _ => (11, 0, 17)

def displayText (line : DocumentLine) : Chars :=
  match line.kind with
  | .bullet => "- ".toList ++ line.text
  -- The number of the item is not in the line any more.
  | .ordered => "1. ".toList ++ line.text
  | _ => line.text

def layoutWrapped (size indent leading : Nat) (pages : Pages Number) (wrapped : Chars) :
    Pages Number :=
  let pages := if floats.less pages.y (floats.whole 58) then pages.next floats else pages
  (pages.push (pdfTextCommands floats wrapped (floats.whole size)
    (floats.add (floats.whole 54) (floats.whole indent)) pages.y)).up floats (floats.whole leading)

def layoutText (line : DocumentLine) (pages : Pages Number) : Pages Number :=
  let (size, indent, leading) := lineStyle line.kind
  let after := (wrapText floats (displayText line) (floats.whole size)
    (floats.sub (floats.whole 487) (floats.whole indent))).foldl
      (layoutWrapped floats size indent leading) pages
  match line.kind with
  | .heading _ => after.up floats (floats.whole 4)
  | _ => after

def layoutLine (pages : Pages Number) (line : DocumentLine) : Pages Number :=
  match line.kind with
  | .table table => renderPdfTable floats decode assets table pages
  | .image image => layoutImage floats decode assets image pages
  | .blank => pages.up floats (floats.whole 8)
  | _ => layoutText floats line pages

def layoutPdfPages (lines : List DocumentLine) : List Chars :=
  (lines.foldl (layoutLine floats decode assets) (Pages.start floats)).all

end Layout

/-! ## Objects -/

def streamObject (bytes : List UInt8) : List UInt8 :=
  toUtf8 ("<< /Length ".toList ++ PdfFiles.digits bytes.length ++ " >>\nstream\n".toList) ++
    bytes ++ toUtf8 "endstream".toList

def pagesObject (count : Nat) : Chars :=
  "<< /Type /Pages /Kids [".toList ++
    [' '].intercalate ((List.range count).map fun index =>
      PdfFiles.digits (6 + index * 2) ++ " 0 R".toList) ++
    "] /Count ".toList ++ PdfFiles.digits count ++ " >>".toList

def pageObject (contentId : Nat) : Chars :=
  ("<< /Type /Page /Parent 2 0 R /MediaBox [0 0 595 842] /Resources << /Font << " ++
    "/F1 3 0 R /F2 5 0 R >> >> /Contents ").toList ++ PdfFiles.digits contentId ++
    " 0 R >>".toList

def catalogObject : Chars := "<< /Type /Catalog /Pages 2 0 R >>".toList

def fontObject : Chars :=
  ("<< /Type /Font /Subtype /Type0 /BaseFont /STSong-Light /Encoding /UniGB-UCS2-H " ++
    "/DescendantFonts [4 0 R] >>").toList

def descendantFontObject : Chars :=
  ("<< /Type /Font /Subtype /CIDFontType0 /BaseFont /STSong-Light /CIDSystemInfo << " ++
    "/Registry (Adobe) /Ordering (GB1) /Supplement 5 >> >>").toList

def latinFontObject : Chars := "<< /Type /Font /Subtype /Type1 /BaseFont /Helvetica >>".toList

def pdfObjects (pages : List Chars) : List (List UInt8) :=
  [catalogObject, pagesObject pages.length, fontObject, descendantFontObject,
      latinFontObject].map toUtf8 ++
    pages.zipIdx.flatMap fun (content, index) =>
      [toUtf8 (pageObject (6 + index * 2 + 1)), streamObject (toUtf8 content)]

/-! ## Files -/

def pdfHeader : List UInt8 :=
  toUtf8 "%PDF-1.7\n%".toList ++ [0xE2, 0xE3, 0xCF, 0xD3] ++ toUtf8 "\n".toList

/-- The bytes so far and the offsets of their objects. -/
def writeObject (written : List UInt8 × List Nat) (entry : List UInt8 × Nat) :
    List UInt8 × List Nat :=
  (written.1 ++ toUtf8 (PdfFiles.digits (entry.2 + 1) ++ " 0 obj\n".toList) ++ entry.1 ++
      toUtf8 "\nendobj\n".toList,
    written.2 ++ [written.1.length])

def writePdf (objects : List (List UInt8)) : List UInt8 :=
  let (output, offsets) := objects.zipIdx.foldl writeObject (pdfHeader, [])
  output ++
    toUtf8 ("xref\n0 ".toList ++ PdfFiles.digits (objects.length + 1) ++
      "\n0000000000 65535 f \n".toList) ++
    offsets.flatMap (fun offset =>
      toUtf8 (PdfFiles.padded 10 offset ++ " 00000 n \n".toList)) ++
    toUtf8 ("trailer\n<< /Size ".toList ++ PdfFiles.digits (objects.length + 1) ++
      " /Root 1 0 R >>\nstartxref\n".toList ++ PdfFiles.digits output.length ++
      "\n%%EOF\n".toList)

def renderPdf {Number : Type} (floats : Floats Number) (decode : ExportAsset → Option PdfImage)
    (input : ExportInput) : Except Chars (List UInt8) :=
  .ok (writePdf (pdfObjects
    (layoutPdfPages floats decode input.assets (documentLines input.source))))

end Onetcli.NotesExport
