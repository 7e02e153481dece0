import Onetcli.Lib.Chars

/-!
The lines that the exporter of notes reads from a source: `document_lines` of
notes-document-export-core, with Markdown, tables and fragments of HTML.
-/

namespace Onetcli.NotesExport

open Text Chars

structure ImageData where
  alt : Chars
  path : Chars
  deriving DecidableEq

structure TableCellData where
  text : Chars
  images : List ImageData
  deriving DecidableEq

structure TableData where
  rows : List (List TableCellData)
  deriving DecidableEq

inductive LineKind where
  | blank
  | heading (level : Nat)
  | body
  | quote
  | bullet
  | ordered
  | code
  | table (table : TableData)
  | image (image : ImageData)
  deriving DecidableEq

structure DocumentLine where
  kind : LineKind
  text : Chars
  deriving DecidableEq

/-! ## Inline text -/

def unlink (opening text : Chars) : Chars :=
  match opened : splitOnceText opening text with
  | none => text
  | some (before, rest) =>
    match labelled : splitOnceText "](".toList rest with
    | none => text
    | some (label, target) =>
      match closed : splitOnce (· == ')') target with
      | none => text
      | some (_, after) => unlink opening (before ++ label ++ after)
termination_by text.length
decreasing_by
  have first := splitOnceText_length opened
  have second := splitOnceText_length labelled
  have third := splitOnce_length closed
  simp only [List.length_append]
  omega

def cleanInline (source : Chars) : Chars :=
  let text := replaceFrom ['`'] [] 0 (replaceFrom "~~".toList [] 0
    (replaceFrom "__".toList [] 0 (replaceFrom "**".toList [] 0 source)))
  unlink ['['] (unlink "![".toList text)

def isAngle (char : Char) : Bool := char == '<' || char == '>'

/-- The path of an image without blanks and angles around it. -/
def imagePath (target : Chars) : Chars := trimMatches isAngle (trim target)

def imageOf (alt path : Chars) : Option ImageData :=
  if path.isEmpty then none else some ⟨alt, path⟩

def parseInlineImages (source : Chars) : List ImageData :=
  match opened : splitOnceText "![".toList source with
  | none => []
  | some (_, rest) =>
    match labelled : splitOnceText "](".toList rest with
    | none => []
    | some (label, more) =>
      match closed : splitOnce (· == ')') more with
      | none => []
      | some (target, after) =>
        (imageOf label (imagePath target)).toList ++ parseInlineImages after
termination_by source.length
decreasing_by
  have first := splitOnceText_length opened
  have second := splitOnceText_length labelled
  have third := splitOnce_length closed
  omega

def parseImage (line : Chars) : Option ImageData :=
  (stripPrefix "![".toList line).bind fun start =>
    (splitOnceText "](".toList start).bind fun (label, target) =>
      imageOf label (imagePath ((target.reverse.dropWhile (· == ')')).reverse))

def orderedListItem (line : Chars) : Option (Chars × Chars) :=
  (splitOnceText ". ".toList line).filter fun (number, _) =>
    !number.isEmpty && number.all isAsciiDigit

/-! ## Tables -/

def trimBars (line : Chars) : Chars := trimMatches (· == '|') line

def isTableRow (line : Chars) : Bool := line.contains '|' && (trimBars line).contains '|'

def isTableSeparator (line : Chars) : Bool :=
  ((trimBars line).splitOn '|').all fun cell =>
    3 ≤ (trim cell).length && (trim cell).all fun char => char == '-' || char == ':' || char == ' '

def parseTableRow (line : Chars) : List TableCellData :=
  ((trimBars line).splitOn '|').map fun cell => ⟨cleanInline (trim cell), parseInlineImages cell⟩

/-! ## HTML -/

/-- The text outside of tags, each of which leaves a space. -/
def outsideTags : Bool → Chars → Chars
  | _, [] => []
  | inTag, char :: rest =>
    if char = '<' then outsideTags true rest
    else if char = '>' then ' ' :: outsideTags false rest
    else if inTag then outsideTags inTag rest
    else char :: outsideTags inTag rest

def htmlVisibleText (source : Chars) : Option Chars :=
  let text := [' '].intercalate (splitWhitespace (outsideTags false source))
  if text.isEmpty then none else some text

def htmlAttribute (tag name : Chars) : Option Chars :=
  (splitOnceText (name ++ ['=']) (toAsciiLowercase tag)).bind fun (before, _) =>
    match tag.drop (before.length + (name.length + 1)) with
    | [] => none
    | quote :: value =>
      if quote = '\'' ∨ quote = '"' then (splitOnce (· == quote) value).map Prod.fst
      else some ((quote :: value).takeWhile fun char => !(isWhiteSpace char || char == '>'))

def htmlImage (tag : Chars) : Option DocumentLine :=
  (htmlAttribute tag "src".toList).map fun path =>
    ⟨.image ⟨(htmlAttribute tag "alt".toList).getD "Image".toList, path⟩, []⟩

/-- The lines up to the last whole image tag, and what follows it. -/
def htmlImages (source : Chars) : List DocumentLine × Chars :=
  match splitOnceText "<img".toList (toAsciiLowercase source) with
  | none => ([], source)
  | some (before, _) =>
    let body := (htmlVisibleText (source.take before.length)).toList.map fun text =>
      (⟨.body, text⟩ : DocumentLine)
    match closed : splitOnce (· == '>') (source.drop before.length) with
    | none => (body, source)
    | some (tag, after) =>
      let more := htmlImages after
      (body ++ (htmlImage (tag ++ ['>'])).toList ++ more.1, more.2)
termination_by source.length
decreasing_by
  have shorter := splitOnce_length closed
  rw [List.length_drop] at shorter
  omega

def containsText (pattern text : Chars) : Bool := (splitOnceText pattern text).isSome

def htmlKind (lower : Chars) : LineKind :=
  if containsText "<h1".toList lower then .heading 1
  else if containsText "<h2".toList lower then .heading 2
  else if containsText "<h3".toList lower then .heading 3
  else if containsText "<blockquote".toList lower then .quote
  else if containsText "<li".toList lower then .bullet
  else .body

def parseHtmlFragment (source : Chars) : List DocumentLine :=
  let images := htmlImages source
  let lines := images.1 ++ (htmlVisibleText images.2).toList.map fun text =>
    ⟨htmlKind (toAsciiLowercase source), text⟩
  if lines.isEmpty then [⟨.blank, []⟩] else lines

/-! ## Lines -/

def isFence (start : Chars) : Bool :=
  "```".toList.isPrefixOf start || "~~~".toList.isPrefixOf start

def isFilled (line : Chars) : Bool := !(trim line).isEmpty

def isRowLine (line : Chars) : Bool := isTableRow (trim line)

def textLine (start : Chars) : DocumentLine :=
  let marks := (start.takeWhile (· == '#')).length
  if 1 ≤ marks ∧ marks ≤ 6 ∧ start[marks]? = some ' ' then
    ⟨.heading marks, cleanInline (start.drop (marks + 1))⟩
  else
    match stripPrefix "> ".toList start with
    | some text => ⟨.quote, cleanInline text⟩
    | none =>
      match ((stripPrefix "- ".toList start).or (stripPrefix "* ".toList start)).or
          (stripPrefix "+ ".toList start) with
      | some text => ⟨.bullet, cleanInline text⟩
      | none =>
        match orderedListItem start with
        | some (_, text) => ⟨.ordered, cleanInline text⟩
        | none => ⟨.body, cleanInline start⟩

/-- The loop over the lines of a source; `code` is true between two fences. -/
def documentLinesFrom (code : Bool) : List Chars → List DocumentLine
  | [] => []
  | raw :: rest =>
    let start := trim raw
    if isFence start then documentLinesFrom (!code) rest
    else if code then ⟨.code, trimEnd raw⟩ :: documentLinesFrom code rest
    else if start.isEmpty then ⟨.blank, []⟩ :: documentLinesFrom code rest
    else if start.head? = some '<' then
      parseHtmlFragment (['\n'].intercalate (raw :: rest.takeWhile isFilled)) ++
        documentLinesFrom code (rest.dropWhile isFilled)
    else if isTableRow start && rest.head?.any fun line => isTableSeparator (trim line) then
      let rows := start :: (rest.tail.takeWhile isRowLine).map trim
      ⟨.table ⟨rows.map parseTableRow⟩, []⟩ ::
        documentLinesFrom code (rest.tail.dropWhile isRowLine)
    else
      match parseImage start with
      | some image => ⟨.image image, []⟩ :: documentLinesFrom code rest
      | none => textLine start :: documentLinesFrom code rest
termination_by lines => lines.length
decreasing_by
  all_goals
    have fragment := List.length_dropWhile_le isFilled rest
    have table := List.length_dropWhile_le isRowLine rest.tail
    rw [List.length_tail] at table
    simp only [List.length_cons]
    omega

def documentLines (source : Chars) : List DocumentLine := documentLinesFrom false (lines source)

end Onetcli.NotesExport

/-!
The rounds of the loop of `document_lines`: which lines of the source each of them takes and
what it makes of them. A fragment of HTML and a table take the lines that follow along,
whatever these are.
-/

namespace Onetcli.NotesExport

open Text Chars

/-- One round: whether the loop is between two fences, the lines it takes and makes. -/
structure Round where
  code : Bool
  taken : List Chars
  made : List DocumentLine

def startsFragment (raw : Chars) : Bool := (trim raw).head? == some '<'

def startsTable (raw : Chars) (rest : List Chars) : Bool :=
  isTableRow (trim raw) && rest.head?.any fun line => isTableSeparator (trim line)

def takenAlong (code : Bool) (raw : Chars) (rest : List Chars) : List Chars :=
  if isFence (trim raw) || code || (trim raw).isEmpty then []
  else if startsFragment raw then rest.takeWhile isFilled
  else if startsTable raw rest then rest.take 1 ++ rest.tail.takeWhile isRowLine
  else []

def plainLine (raw : Chars) : DocumentLine :=
  match parseImage (trim raw) with
  | some image => ⟨.image image, []⟩
  | none => textLine (trim raw)

def tableLine (rows : List Chars) : DocumentLine :=
  ⟨.table ⟨rows.map fun row => parseTableRow (trim row)⟩, []⟩

def madeOf (code : Bool) (raw : Chars) (rest : List Chars) : List DocumentLine :=
  if isFence (trim raw) then []
  else if code then [⟨.code, trimEnd raw⟩]
  else if (trim raw).isEmpty then [⟨.blank, []⟩]
  else if startsFragment raw then
    parseHtmlFragment (['\n'].intercalate (raw :: rest.takeWhile isFilled))
  else if startsTable raw rest then [tableLine (raw :: rest.tail.takeWhile isRowLine)]
  else [plainLine raw]

def rounds (code : Bool) : List Chars → List Round
  | [] => []
  | raw :: rest =>
    ⟨code, raw :: takenAlong code raw rest, madeOf code raw rest⟩ ::
      rounds (code != isFence (trim raw)) (rest.drop (takenAlong code raw rest).length)
termination_by lines => lines.length
decreasing_by
  rw [List.length_drop, List.length_cons]
  omega

theorem drop_takeWhile (accepts : Chars → Bool) (lines : List Chars) :
    lines.drop (lines.takeWhile accepts).length = lines.dropWhile accepts := by
  have split := List.takeWhile_append_dropWhile (p := accepts) (l := lines)
  have dropped : (lines.takeWhile accepts ++ lines.dropWhile accepts).drop
      (lines.takeWhile accepts).length = lines.dropWhile accepts := List.drop_left
  rwa [split] at dropped

theorem mem_rounds {code : Bool} {source : List Chars} {round : Round}
    (member : round ∈ rounds code source) :
    ∃ raw rest, round = ⟨round.code, raw :: takenAlong round.code raw rest,
      madeOf round.code raw rest⟩ := by
  fun_induction rounds code source with
  | case1 => cases member
  | case2 code raw rest ih =>
    rcases List.mem_cons.mp member with rfl | later
    · exact ⟨raw, rest, rfl⟩
    · exact ih later

theorem round_fragment {raw : Chars} (rest : List Chars) (fence : isFence (trim raw) = false)
    (filled : (trim raw).isEmpty = false) (fragment : startsFragment raw = true) :
    takenAlong false raw rest = rest.takeWhile isFilled ∧ madeOf false raw rest =
        parseHtmlFragment (['\n'].intercalate (raw :: rest.takeWhile isFilled)) := by
  rw [takenAlong, madeOf, fence, filled, fragment]
  exact ⟨rfl, rfl⟩

theorem round_table {raw : Chars} {rest : List Chars} (fence : isFence (trim raw) = false)
    (filled : (trim raw).isEmpty = false) (fragment : startsFragment raw = false)
    (table : startsTable raw rest = true) :
    takenAlong false raw rest = rest.take 1 ++ rest.tail.takeWhile isRowLine ∧
      madeOf false raw rest = [tableLine (raw :: rest.tail.takeWhile isRowLine)] := by
  rw [takenAlong, madeOf, fence, filled, fragment, table]
  exact ⟨rfl, rfl⟩

theorem round_plain {raw : Chars} {rest : List Chars} (fence : isFence (trim raw) = false)
    (filled : (trim raw).isEmpty = false) (fragment : startsFragment raw = false)
    (table : startsTable raw rest = false) :
    takenAlong false raw rest = [] ∧ madeOf false raw rest = [plainLine raw] := by
  rw [takenAlong, madeOf, fence, filled, fragment, table]
  exact ⟨rfl, rfl⟩

theorem rounds_made (code : Bool) (source : List Chars) :
    (rounds code source).flatMap Round.made = documentLinesFrom code source := by
  fun_induction rounds code source with
  | case1 => rw [documentLinesFrom]; rfl
  | case2 code raw rest ih =>
    rw [List.flatMap_cons, ih, documentLinesFrom]
    cases fence : isFence (trim raw) with
    | true =>
      rw [madeOf, takenAlong, fence]
      cases code <;> rfl
    | false =>
      cases code with
      | true =>
        rw [madeOf, takenAlong, fence]
        rfl
      | false =>
        cases filled : (trim raw).isEmpty with
        | true =>
          rw [madeOf, takenAlong, fence, filled]
          rfl
        | false =>
          cases fragment : startsFragment raw with
          | true =>
            obtain ⟨along, made⟩ := round_fragment rest fence filled fragment
            rw [startsFragment, beq_iff_eq] at fragment
            rw [along, made, drop_takeWhile, if_pos fragment]
            rfl
          | false =>
            have other : ¬(trim raw).head? = some '<' := by
              intro tag
              rw [startsFragment, tag] at fragment
              cases fragment
            cases table : startsTable raw rest with
            | true =>
              obtain ⟨along, made⟩ := round_table fence filled fragment table
              have rows : rest.drop (rest.take 1 ++
                  rest.tail.takeWhile isRowLine).length =
                    rest.tail.dropWhile isRowLine := by
                rcases rest with _ | ⟨separator, rows⟩
                · rfl
                · exact drop_takeWhile isRowLine rows
              rw [startsTable] at table
              rw [along, made, rows, if_neg other, table]
              simp [tableLine]
            | false =>
              obtain ⟨along, made⟩ := round_plain fence filled fragment table
              rw [startsTable] at table
              rw [along, made, if_neg other, table, plainLine]
              cases parseImage (trim raw) <;> rfl

end Onetcli.NotesExport
