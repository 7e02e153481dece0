import Onetcli.Importers.OpenSsh

/-!
OpenSSH configurations as they are written, and what ssh takes of a block: the first value
of each keyword up to the next `Host` or `Match` line. The importer takes the last host
name, user and port of a block and does not know `Match` lines, so it agrees with ssh where
that makes no difference.
-/

namespace Onetcli.Importers.OpenSsh

open Chars Text

/-! ## Written lines -/

def Spaces : Type := { text : Chars // Blank text }

structure Gap where
  text : Chars
  filled : text ≠ []
  blank : Blank text

theorem Gap.split (gap : Gap) : ∃ first spaces, gap.text = first :: spaces ∧
    isWhiteSpace first = true ∧ Blank spaces := by
  rcases gap with ⟨text, filled, blank⟩
  rcases List.exists_cons_of_ne_nil filled with ⟨first, spaces, rfl⟩
  exact ⟨first, spaces, rfl, blank first List.mem_cons_self,
    fun char member => blank char (List.mem_cons_of_mem _ member)⟩

structure Keyword where
  text : Chars
  filled : text ≠ []
  clean : ∀ char ∈ text, isWhiteSpace char = false ∧ char ≠ '"' ∧ char ≠ '#'

/-- Keywords are the same in any letter case. -/
def Keyword.is (keyword : Keyword) (name : String) : Prop :=
  toAsciiLowercase keyword.text = name.toList

instance (keyword : Keyword) (name : String) : Decidable (keyword.is name) :=
  inferInstanceAs (Decidable (_ = _))

/-- A part of an argument in quotes or without them. -/
inductive Piece where
  | quoted (text : Chars) (clean : '"' ∉ text)
  | plain (text : Chars) (clean : ∀ char ∈ text, char ≠ '"' ∧ char ≠ '#')

def Piece.text : Piece → Chars
  | .quoted text _ => '"' :: (text ++ ['"'])
  | .plain text _ => text

def Piece.value : Piece → Chars
  | .quoted text _ => text
  | .plain text _ => text

/-- A value, with or without quotes around it. -/
structure Value where
  piece : Piece
  solid : Solid piece.text

/-- A name on a `Host` line is a value without blanks. -/
structure Name extends Value where
  word : ∀ char ∈ piece.value, isWhiteSpace char = false

structure Names where
  first : Name
  others : List (Gap × Name)

def Names.text (names : Names) : Chars :=
  names.first.piece.text ++ names.others.flatMap fun (gap, name) => gap.text ++ name.piece.text

def Names.values (names : Names) : List Chars :=
  names.first.piece.value :: names.others.map fun other => other.2.piece.value

/-- What a line has around its keyword and argument. -/
structure Layout where
  indent : Spaces
  gap : Gap
  tail : Spaces
  comment : Option Chars

def commentText (comment : Option Chars) : Chars :=
  match comment with
  | none => []
  | some text => '#' :: text

/-- A line of a configuration. Keywords other than the four that are read may have any
argument. -/
inductive WrittenLine where
  | blank (indent : Spaces) (comment : Option Chars)
  | host (keyword : Keyword) (isHost : keyword.is "host") (layout : Layout) (names : Names)
  | directive (keyword : Keyword) (notHost : ¬keyword.is "host") (layout : Layout) (value : Value)
  | other (keyword : Keyword) (notHost : ¬keyword.is "host")
      (unread : ∀ name ∈ ["hostname", "user", "port", "identityfile"], ¬keyword.is name)
      (layout : Layout) (pieces : List Piece) (solid : Solid (pieces.flatMap Piece.text))

def Layout.around (layout : Layout) (keyword : Keyword) (argument : Chars) : Chars :=
  layout.indent.1 ++ (keyword.text ++ (layout.gap.text ++ (argument ++
    (layout.tail.1 ++ commentText layout.comment))))

def WrittenLine.text : WrittenLine → Chars
  | .blank indent comment => indent.1 ++ commentText comment
  | .host keyword _ layout names => layout.around keyword names.text
  | .directive keyword _ layout value => layout.around keyword value.piece.text
  | .other keyword _ _ layout pieces _ => layout.around keyword (pieces.flatMap Piece.text)

inductive Line where
  | nothing
  | host (names : List Chars)
  | matchLine
  | directive (keyword value : Chars)
  deriving DecidableEq

def WrittenLine.line : WrittenLine → Line
  | .blank _ _ => .nothing
  | .host _ _ _ names => .host names.values
  | .directive keyword _ _ value =>
    if keyword.is "match" then .matchLine
    else .directive (toAsciiLowercase keyword.text) value.piece.value
  | .other keyword _ _ _ _ _ => if keyword.is "match" then .matchLine else .nothing

/-! ## What ssh reads -/

def Line.isHost : Line → Bool
  | .host _ => true
  | _ => false

def Line.endsBlock : Line → Bool
  | .host _ => true
  | .matchLine => true
  | _ => false

/-- The lines that ssh reads for a `Host` line: up to the next `Host` or `Match`. -/
def sshBlock (rest : List Line) : List Line := rest.takeWhile fun line => !line.endsBlock

/-- The lines up to the next `Host`. -/
def wholeBlock (rest : List Line) : List Line := rest.takeWhile fun line => !line.isHost

def Line.valueOf (keyword : Chars) : Line → Option Chars
  | .directive name value => if name = keyword then some value else none
  | _ => none

def valuesOf (keyword : String) (block : List Line) : List Chars :=
  block.filterMap (Line.valueOf keyword.toList)

def firstValues (names : List Chars) (block : List Line) : HostBlock where
  aliases := names
  hostName := (valuesOf "hostname" block).head?
  user := (valuesOf "user" block).head?
  port := (valuesOf "port" block).findSome? parseU16
  identityFile := (valuesOf "identityfile" block).head?

/-- The names of each `Host` line with the lines behind it. -/
def hosts : List Line → List (List Chars × List Line)
  | [] => []
  | .host names :: rest => (names, rest) :: hosts rest
  | _ :: rest => hosts rest

/-- The record of each literal alias of each `Host` line. -/
def sshRecords (path : Chars) (config : List Line) : List ImportRecord :=
  (hosts config).flatMap fun (names, rest) =>
    (importableAliases names).map fun name =>
      blockRecord path name (firstValues names (sshBlock rest))

/-! ## Reading written lines -/

def Kept (text : Chars) : Prop :=
  ∀ rest, stripComment (text ++ rest) = text ++ stripComment rest

theorem Kept.append {first second : Chars} (firstKept : Kept first) (secondKept : Kept second) :
    Kept (first ++ second) := by
  intro rest
  rw [List.append_assoc, firstKept, secondKept, List.append_assoc]

theorem Kept.nil : Kept [] := fun _ => rfl

theorem kept_of_clean {text : Chars} (clean : ∀ char ∈ text, char ≠ '"' ∧ char ≠ '#') :
    Kept text := by
  intro rest
  induction text with
  | nil => rfl
  | cons char others ih =>
    have tail := ih fun other member => clean other (List.mem_cons_of_mem _ member)
    rcases clean char List.mem_cons_self with ⟨noQuote, noHash⟩
    rw [stripComment] at tail ⊢
    rw [List.cons_append, stripCommentFrom, if_neg noQuote, if_neg (by simp [noHash]), tail]
    rfl

theorem kept_of_blank {text : Chars} (blank : Blank text) : Kept text := by
  apply kept_of_clean
  intro char member
  constructor
  · rintro rfl
    exact absurd (blank _ member) (by decide)
  · rintro rfl
    exact absurd (blank _ member) (by decide)

theorem stripCommentFrom_quoted {text : Chars} (clean : '"' ∉ text) (rest : Chars) :
    stripCommentFrom true (text ++ '"' :: rest) = text ++ '"' :: stripCommentFrom false rest := by
  induction text with
  | nil => rfl
  | cons char others ih =>
    rcases not_or.mp (List.mem_cons.not.mp clean) with ⟨noQuote, tailClean⟩
    rw [List.cons_append, stripCommentFrom, if_neg (Ne.symm noQuote), if_neg (by simp),
      ih tailClean]
    rfl

theorem Piece.kept (piece : Piece) : Kept piece.text := by
  intro rest
  cases piece with
  | quoted text clean =>
    rw [Piece.text, stripComment, List.cons_append, stripCommentFrom, if_pos rfl,
      List.append_assoc]
    have quoted := stripCommentFrom_quoted clean rest
    rw [Bool.not_false, List.singleton_append, quoted]
    simp [stripComment]
  | plain text clean => exact kept_of_clean clean rest

theorem pieces_kept (pieces : List Piece) : Kept (pieces.flatMap Piece.text) := by
  induction pieces with
  | nil => exact Kept.nil
  | cons piece rest ih =>
    rw [List.flatMap_cons]
    exact piece.kept.append ih

theorem Names.kept (names : Names) : Kept names.text := by
  apply names.first.piece.kept.append
  induction names.others with
  | nil => exact Kept.nil
  | cons other rest ih =>
    rw [List.flatMap_cons]
    exact ((kept_of_blank other.1.blank).append other.2.piece.kept).append ih

theorem stripComment_commentText (comment : Option Chars) :
    stripComment (commentText comment) = [] := by
  cases comment with
  | none => rfl
  | some text => rfl

theorem Keyword.solid (keyword : Keyword) : Solid keyword.text :=
  solid_of_word keyword.filled fun char member => (keyword.clean char member).1

theorem Solid.append {first middle second : Chars} (firstSolid : Solid first)
    (secondSolid : Solid second) : Solid (first ++ (middle ++ second)) := by
  rcases firstSolid.first with ⟨char, rest, rfl, black⟩
  rcases secondSolid.last with ⟨start, final, rfl, blackFinal⟩
  constructor
  · exact ⟨char, rest ++ (middle ++ (start ++ [final])), rfl, black⟩
  · exact ⟨char :: rest ++ (middle ++ start), final, by simp, blackFinal⟩

section Around

variable (layout : Layout) (keyword : Keyword) {argument : Chars}

theorem trim_around_line (kept : Kept argument) (solid : Solid argument) :
    trim (stripComment (layout.around keyword argument)) =
      keyword.text ++ (layout.gap.text ++ argument) := by
  have keywordKept : Kept keyword.text :=
    kept_of_clean fun char member => (keyword.clean char member).2
  rw [Layout.around, kept_of_blank layout.indent.2, keywordKept, kept_of_blank layout.gap.blank,
    kept, kept_of_blank layout.tail.2, stripComment_commentText, List.append_nil]
  have whole := @trim_around layout.indent.1 (keyword.text ++ (layout.gap.text ++ argument))
    layout.tail.1 layout.indent.2 (Solid.append keyword.solid solid) layout.tail.2
  rw [← whole]
  simp only [List.append_assoc]

theorem splitDirective_around (solid : Solid argument) :
    splitDirective (keyword.text ++ (layout.gap.text ++ argument)) =
      some (keyword.text, argument) := by
  rcases layout.gap.split with ⟨first, others, gap, white, blank⟩
  have clean : ∀ char ∈ keyword.text, isWhiteSpace char = false :=
    fun char member => (keyword.clean char member).1
  have argumentKept : trim (others ++ argument) = argument := by
    have around := @trim_around others argument [] blank solid blank_nil
    rwa [List.append_nil] at around
  rw [splitDirective, gap, List.cons_append, splitOnce_append clean white, Option.map_some]
  simp [trim_solid keyword.solid, argumentKept, keyword.filled, solid.nonempty]

theorem read_around (reader : BlockReader) (kept : Kept argument) (solid : Solid argument) :
    reader.read (layout.around keyword argument) =
      if keyword.is "host" then ⟨reader.finish, some { aliases := splitWords argument }⟩
      else { reader with current :=
        reader.current.map fun block => block.set keyword.text argument } := by
  have filled : (keyword.text ++ (layout.gap.text ++ argument)).isEmpty = false := by
    simp [keyword.filled]
  have lower : toAsciiLowercase "host".toList = "host".toList := by decide
  rw [BlockReader.read]
  simp only [trim_around_line layout keyword kept solid, filled,
    splitDirective_around layout keyword solid, eqIgnoreAsciiCase, lower, beq_iff_eq]
  rfl

end Around

/-! ### Values and names -/

theorem Value.read (value : Value) : unquote value.piece.text = value.piece.value := by
  rcases value with ⟨piece, solid⟩
  rw [unquote, trim_solid solid]
  cases piece with
  | quoted text clean =>
    have opened := stripPrefix_append ['"'] (text ++ ['"'])
    have closed := stripSuffix_append text ['"']
    rw [List.singleton_append] at opened
    rw [Piece.text, opened, Option.bind_some, closed]
    rfl
  | plain text clean =>
    have unopened : stripPrefix ['"'] text = none := by
      rcases List.exists_cons_of_ne_nil solid.nonempty with ⟨char, rest, split⟩
      rw [Piece.text] at split
      subst split
      have other : ('"' == char) = false := by
        rw [beq_eq_false_iff_ne]
        exact Ne.symm (clean char List.mem_cons_self).1
      simp [stripPrefix, List.isPrefixOf, other]
    rw [Piece.text, unopened]
    rfl

theorem Name.unbroken (name : Name) : ∀ char ∈ name.piece.text, isWhiteSpace char = false := by
  rcases name with ⟨⟨piece, solid⟩, word⟩
  intro char member
  cases piece with
  | quoted text clean =>
    rcases List.mem_cons.mp member with rfl | inside
    · decide
    · rcases List.mem_append.mp inside with among | final
      · exact word char among
      · rw [List.mem_singleton.mp final]
        decide
  | plain text clean => exact word char member

theorem Names.text_cons (name next : Name) (gap : Gap) (others : List (Gap × Name)) :
    Names.text ⟨name, (gap, next) :: others⟩ =
      name.piece.text ++ (gap.text ++ Names.text ⟨next, others⟩) := by
  simp [Names.text]

theorem splitWhitespace_names (name : Name) (others : List (Gap × Name)) :
    splitWhitespace (Names.text ⟨name, others⟩) =
      name.piece.text :: others.map fun other => other.2.piece.text := by
  induction others generalizing name with
  | nil =>
    rw [Names.text, List.flatMap_nil, List.append_nil]
    exact splitWhitespace_word name.solid.nonempty name.unbroken
  | cons other rest ih =>
    rcases other with ⟨gap, next⟩
    rcases gap.split with ⟨first, spaces, split, white, blank⟩
    rw [Names.text_cons, split, List.cons_append,
      splitWhitespace_cons name.solid.nonempty name.unbroken white,
      splitWhitespace_blank blank, ih next]
    rfl

theorem Names.read (names : Names) : splitWords names.text = names.values := by
  rw [splitWords, splitWhitespace_names, List.map_cons, names.first.read, List.map_map]
  have others : ∀ other : Gap × Name,
      (unquote ∘ fun other : Gap × Name => other.2.piece.text) other = other.2.piece.value :=
    fun other => other.2.read
  rw [funext others]
  rfl

theorem Names.solid (names : Names) : Solid names.text := by
  rcases names with ⟨first, others⟩
  rcases others.eq_nil_or_concat with rfl | ⟨before, ⟨gap, name⟩, rfl⟩
  · rw [Names.text, List.flatMap_nil, List.append_nil]
    exact first.solid
  · rw [Names.text, List.concat_eq_append, List.flatMap_append, List.flatMap_singleton,
      ← List.append_assoc (List.flatMap _ before)]
    exact Solid.append first.solid name.solid

/-! ### Lines -/

/-- What a directive does to a block, by its keyword in lower case. -/
def HostBlock.assign (block : HostBlock) (keyword value : Chars) : HostBlock :=
  if keyword = "hostname".toList then { block with hostName := some value }
  else if keyword = "user".toList then { block with user := some value }
  else if keyword = "port".toList then { block with port := parseU16 value }
  else if keyword = "identityfile".toList then
    if block.identityFile.isNone then { block with identityFile := some value } else block
  else block

def HostBlock.take (block : HostBlock) : Line → HostBlock
  | .directive keyword value => block.assign keyword value
  | _ => block

def BlockReader.take (reader : BlockReader) : Line → BlockReader
  | .host names => ⟨reader.finish, some { aliases := names }⟩
  | line => { reader with current := reader.current.map fun block => block.take line }

theorem set_unread (block : HostBlock) {key : Chars} (value : Chars)
    (unread : ∀ name ∈ ["hostname", "user", "port", "identityfile"],
      toAsciiLowercase key ≠ name.toList) : block.set key value = block := by
  have hostName := unread "hostname" (by simp)
  have user := unread "user" (by simp)
  have port := unread "port" (by simp)
  have identityFile := unread "identityfile" (by simp)
  rw [HostBlock.set, if_neg hostName, if_neg user, if_neg port, if_neg identityFile]

theorem match_unread {keyword : Keyword} (isMatch : keyword.is "match") :
    ∀ name ∈ ["hostname", "user", "port", "identityfile"],
      toAsciiLowercase keyword.text ≠ name.toList := by
  rw [Keyword.is] at isMatch
  rw [isMatch]
  decide

theorem read_text (reader : BlockReader) (written : WrittenLine) :
    reader.read written.text = reader.take written.line := by
  cases written with
  | blank indent comment =>
    have nothing : trim (stripComment (indent.1 ++ commentText comment)) = [] := by
      rw [kept_of_blank indent.2, stripComment_commentText, List.append_nil,
        trim_blank indent.2]
    rw [BlockReader.read, WrittenLine.text, nothing]
    simp [BlockReader.take, WrittenLine.line, HostBlock.take]
  | host keyword isHost layout names =>
    rw [WrittenLine.text, read_around layout keyword reader names.kept names.solid,
      if_pos isHost, names.read]
    rfl
  | directive keyword notHost layout value =>
    rw [WrittenLine.text, read_around layout keyword reader value.piece.kept value.solid,
      if_neg notHost, WrittenLine.line]
    split
    · rename_i isMatch
      simp only [set_unread _ _ (match_unread isMatch)]
      rfl
    · rw [BlockReader.take]
      · simp only [HostBlock.set, value.read]
        rfl
      · rintro _ ⟨⟩
  | other keyword notHost unread layout pieces solid =>
    rw [WrittenLine.text, read_around layout keyword reader (pieces_kept pieces) solid,
      if_neg notHost, WrittenLine.line]
    simp only [set_unread _ _ unread]
    split
    · rfl
    · rfl

/-! ## Blocks -/

/-- What the importer takes of a block: the last value of a keyword, but the first key. -/
def lastValues (names : List Chars) (block : List Line) : HostBlock where
  aliases := names
  hostName := (valuesOf "hostname" block).getLast?
  user := (valuesOf "user" block).getLast?
  port := (valuesOf "port" block).getLast?.bind parseU16
  identityFile := (valuesOf "identityfile" block).head?

theorem getLast?_cons_map {Item Result : Type} (parse : Item → Result) (first : Item)
    (rest : List Item) (before : Result) : ((first :: rest).getLast?.map parse).getD before =
      (rest.getLast?.map parse).getD (parse first) := by
  rw [List.getLast?_cons]
  cases rest.getLast? with
  | none => rfl
  | some last => rfl

def HostBlock.after (block : HostBlock) (lines : List Line) : HostBlock where
  aliases := block.aliases
  hostName := (valuesOf "hostname" lines).getLast?.or block.hostName
  user := (valuesOf "user" lines).getLast?.or block.user
  port := ((valuesOf "port" lines).getLast?.map parseU16).getD block.port
  identityFile := block.identityFile.or (valuesOf "identityfile" lines).head?

theorem assign_after (block : HostBlock) (name value : Chars) (rest : List Line) :
    (block.assign name value).after rest = block.after (.directive name value :: rest) := by
  have distinct : ["hostname".toList, "user".toList, "port".toList,
      "identityfile".toList].Nodup := by decide
  rw [HostBlock.assign, HostBlock.after, HostBlock.after]
  simp only [valuesOf, List.filterMap_cons, Line.valueOf]
  -- Only the keywords being different matters from here on.
  generalize "hostname".toList = hostName at *
  generalize "user".toList = user at *
  generalize "port".toList = port at *
  generalize "identityfile".toList = identityFile at *
  simp only [List.nodup_cons, List.mem_cons, not_or] at distinct
  rcases distinct with ⟨⟨hostUser, hostPort, hostKey, _⟩, ⟨userPort, userKey, _⟩,
    ⟨portKey, _⟩, _⟩
  by_cases isHostName : name = hostName
  · subst isHostName
    simp [hostUser, hostPort, hostKey, List.getLast?_cons]
  by_cases isUser : name = user
  · subst isUser
    simp [isHostName, userPort, userKey, List.getLast?_cons]
  by_cases isPort : name = port
  · subst isPort
    simp [-List.getLast?_filterMap, isHostName, isUser, portKey, getLast?_cons_map]
  by_cases isKey : name = identityFile
  · subst isKey
    cases known : block.identityFile <;> simp [isHostName, isUser, isPort, known]
  · simp [isHostName, isUser, isPort, isKey]

theorem take_after (block : HostBlock) (line : Line) (rest : List Line) :
    (block.take line).after rest = block.after (line :: rest) := by
  cases line with
  | directive keyword value => exact assign_after block keyword value rest
  | nothing => rfl
  | host names => rfl
  | matchLine => rfl

theorem after_nil (block : HostBlock) : block.after [] = block := by
  have empty (keyword : String) : valuesOf keyword [] = [] := rfl
  simp only [HostBlock.after, empty, List.getLast?_nil, Option.none_or, Option.map_none,
    Option.getD_none, List.head?_nil, Option.or_none]

theorem after_names (names : List Chars) (lines : List Line) :
    HostBlock.after { aliases := names } lines = lastValues names lines := by
  have port (last : Option Chars) : (last.map parseU16).getD none = last.bind parseU16 := by
    cases last with
    | none => rfl
    | some value => rfl
  simp only [HostBlock.after, lastValues, Option.or_none, Option.none_or, port]

theorem foldl_reader (reader : BlockReader) (config : List Line) :
    (config.foldl BlockReader.take reader).finish =
      reader.out ++ (reader.current.map fun block => block.after (wholeBlock config)).toList ++
        (hosts config).map fun (names, rest) => lastValues names (wholeBlock rest) := by
  induction config generalizing reader with
  | nil =>
    have same : (fun block : HostBlock => block.after (wholeBlock [])) = id :=
      funext after_nil
    rw [same, Option.map_id]
    exact (List.append_nil _).symm
  | cons line rest ih =>
    rw [List.foldl_cons, ih]
    have inside (notHost : line.isHost = false) :
        wholeBlock (line :: rest) = line :: wholeBlock rest := by
      rw [wholeBlock, List.takeWhile_cons, notHost]
      rfl
    cases line with
    | host names =>
      have ended : (fun block : HostBlock => block.after (wholeBlock (.host names :: rest))) =
          id := funext after_nil
      simp [BlockReader.take, hosts, ended, after_names, BlockReader.finish]
    | nothing | matchLine | directive keyword value =>
      simp [BlockReader.take, hosts, inside rfl, ← take_after, Function.comp_def]

theorem parseBlocks_lines {text : Chars} {written : List WrittenLine}
    (made : lines text = written.map WrittenLine.text) :
    parseBlocks text = (hosts (written.map WrittenLine.line)).map fun (names, rest) =>
      lastValues names (wholeBlock rest) := by
  have step : (fun reader written => BlockReader.read reader (WrittenLine.text written)) =
      fun reader written => BlockReader.take reader (WrittenLine.line written) := by
    funext reader line
    exact read_text reader line
  rw [parseBlocks, made, List.foldl_map, step, ← List.foldl_map, foldl_reader]
  rfl

/-! ## Previews -/

/-- The records that a preview has for aliases, without those of known hosts. -/
def aliasRecords (found : List (Entry × ImportRecord)) : List ImportRecord :=
  (found.filter fun entry => !entry.1.known).map Prod.snd

theorem foldl_aliasRecords {Item : Type} {add : Preview → Item → Preview}
    {made : Item → List ImportRecord} (step : ∀ preview item,
      aliasRecords (add preview item).records = aliasRecords preview.records ++ made item)
    (preview : Preview) (items : List Item) : aliasRecords (items.foldl add preview).records =
      aliasRecords preview.records ++ items.flatMap made := by
  induction items generalizing preview with
  | nil => simp
  | cons item rest ih => rw [List.foldl_cons, ih, step, List.flatMap_cons, List.append_assoc]

theorem aliasRecords_addKnown (path : Chars) (preview : Preview) (entry : KnownHostEntry) :
    aliasRecords (preview.addKnown path entry).records = aliasRecords preview.records ++ [] := by
  rw [Preview.addKnown]
  split
  · exact (List.append_nil _).symm
  · simp [aliasRecords]

theorem aliasRecords_addAlias (path : Chars) (block : HostBlock) (preview : Preview)
    (name : Chars) : aliasRecords (preview.addAlias path block name).records =
      aliasRecords preview.records ++ [blockRecord path name block] := by
  simp [Preview.addAlias, aliasRecords]

def configRecords (config : Chars × List UInt8) : List ImportRecord :=
  match fromUtf8 config.2 with
  | none => []
  | some text =>
    if isKnownHostsPath config.1 then []
    else
      (parseBlocks text).flatMap fun block =>
        (importableAliases block.aliases).map fun name => blockRecord config.1 name block

theorem aliasRecords_addConfig (preview : Preview) (config : Chars × List UInt8) :
    aliasRecords (preview.addConfig config).records =
      aliasRecords preview.records ++ configRecords config := by
  rw [Preview.addConfig, configRecords]
  cases fromUtf8 config.2 with
  | none => exact (List.append_nil _).symm
  | some text =>
    dsimp only
    split
    · rw [foldl_aliasRecords (aliasRecords_addKnown config.1)]
      simp
    · apply foldl_aliasRecords
      intro sofar block
      rw [foldl_aliasRecords (aliasRecords_addAlias config.1 block)]
      rw [← List.map_eq_flatMap]

theorem aliasRecords_previewEntries (configs : List (Chars × List UInt8)) :
    aliasRecords (previewEntries configs) = configs.flatMap configRecords :=
  (foldl_aliasRecords aliasRecords_addConfig {} configs).trans (List.nil_append _)

theorem blockRecord_eq_iff (path name : Chars) (first second : HostBlock) :
    blockRecord path name first = blockRecord path name second ↔
      first.hostName.getD name = second.hostName.getD name ∧
      first.user.getD [] = second.user.getD [] ∧ first.port.getD 22 = second.port.getD 22 ∧
      first.identityFile = second.identityFile := by
  constructor
  · intro same
    have login := congrArg ImportRecord.ssh same
    have host := congrArg (Option.map SshImportRecord.host) login
    have user := congrArg (Option.map SshImportRecord.username) login
    have port := congrArg (fun ssh => ssh.bind SshImportRecord.port) login
    have method := congrArg (Option.map SshImportRecord.authMethod) login
    refine ⟨Option.some.inj host, Option.some.inj user, Option.some.inj port, ?_⟩
    have key := Option.some.inj method
    cases firstKey : first.identityFile <;> cases secondKey : second.identityFile <;>
      simp_all
  · rintro ⟨host, user, port, key⟩
    delta blockRecord
    rw [host, user, port, key]

structure WrittenConfig where
  path : Chars
  bytes : List UInt8
  text : Chars
  written : List WrittenLine
  isConfig : isKnownHostsPath path = false
  decoded : fromUtf8 bytes = some text
  made : Chars.lines text = written.map WrittenLine.text

inductive Source where
  | config (file : WrittenConfig)
  | other (path : Chars) (bytes : List UInt8)
      (skipped : isKnownHostsPath path = true ∨ fromUtf8 bytes = none)

def Source.file : Source → Chars × List UInt8
  | .config file => (file.path, file.bytes)
  | .other path bytes _ => (path, bytes)

def Source.lines : Source → List Line
  | .config file => file.written.map WrittenLine.line
  | .other _ _ _ => []

theorem configRecords_skipped {config : Chars × List UInt8}
    (skipped : isKnownHostsPath config.1 = true ∨ fromUtf8 config.2 = none) :
    configRecords config = [] := by
  rw [configRecords]
  rcases skipped with known | noText
  · cases fromUtf8 config.2 with
    | none => rfl
    | some text => exact if_pos known
  · rw [noText]

theorem configRecords_source (source : Source) :
    configRecords source.file = (hosts source.lines).flatMap fun (names, rest) =>
      (importableAliases names).map fun name =>
        blockRecord source.file.1 name (lastValues names (wholeBlock rest)) := by
  cases source with
  | config file =>
    rw [configRecords]
    simp only [Source.file, Source.lines, file.decoded, file.isConfig,
      parseBlocks_lines file.made, List.flatMap_map]
    rfl
  | other path bytes skipped => exact configRecords_skipped skipped

theorem flatMap_eq_iff {Item Result : Type} {first second : Item → List Result}
    {items : List Item} (sized : ∀ item, (first item).length = (second item).length) :
    items.flatMap first = items.flatMap second ↔ ∀ item ∈ items, first item = second item := by
  induction items with
  | nil => simp
  | cons item rest ih =>
    rw [List.flatMap_cons, List.flatMap_cons, List.forall_mem_cons, ← ih]
    constructor
    · intro same
      exact List.append_inj same (sized item)
    · rintro ⟨head, tail⟩
      rw [head, tail]

structure TakesFirst (name : Chars) (rest : List Line) : Prop where
  hostName : (valuesOf "hostname" (wholeBlock rest)).getLast?.getD name =
    (valuesOf "hostname" (sshBlock rest)).head?.getD name
  user : (valuesOf "user" (wholeBlock rest)).getLast?.getD [] =
    (valuesOf "user" (sshBlock rest)).head?.getD []
  port : ((valuesOf "port" (wholeBlock rest)).getLast?.bind parseU16).getD 22 =
    ((valuesOf "port" (sshBlock rest)).findSome? parseU16).getD 22
  identityFile : (valuesOf "identityfile" (wholeBlock rest)).head? =
    (valuesOf "identityfile" (sshBlock rest)).head?

theorem takesFirst_iff (path name : Chars) (names : List Chars) (rest : List Line) :
    blockRecord path name (lastValues names (wholeBlock rest)) =
        blockRecord path name (firstValues names (sshBlock rest)) ↔ TakesFirst name rest := by
  rw [blockRecord_eq_iff]
  constructor
  · rintro ⟨host, user, port, key⟩
    exact ⟨host, user, port, key⟩
  · rintro ⟨host, user, port, key⟩
    exact ⟨host, user, port, key⟩

/-- The records of aliases in a preview are those that ssh would read exactly if for each
literal alias of each `Host` line the last host name, user and port up to the next `Host`
are the first ones up to the next `Host` or `Match`, and no key is behind a `Match`. -/
theorem aliasRecords_ssh_iff (sources : List Source) :
    aliasRecords (previewEntries (sources.map Source.file)) =
        sources.flatMap (fun source => sshRecords source.file.1 source.lines) ↔
      ∀ source ∈ sources, ∀ host ∈ hosts source.lines,
        ∀ name ∈ importableAliases host.1, TakesFirst name host.2 := by
  rw [aliasRecords_previewEntries, List.flatMap_map, flatMap_eq_iff]
  · apply forall₂_congr
    intro source _
    rw [configRecords_source, sshRecords, flatMap_eq_iff]
    · apply forall₂_congr
      rintro ⟨names, rest⟩ _
      rw [List.map_inj_left]
      apply forall₂_congr
      intro name _
      exact takesFirst_iff source.file.1 name names rest
    · rintro ⟨names, rest⟩
      simp
  · intro source
    rw [configRecords_source, sshRecords]
    simp

/-! ### Two values of a block -/

def isPlainWord (text : Chars) : Bool :=
  !text.isEmpty && text.all fun char => !isWhiteSpace char && char != '"' && char != '#'

theorem isPlainWord_iff {text : Chars} (plain : isPlainWord text = true) :
    text ≠ [] ∧ ∀ char ∈ text, isWhiteSpace char = false ∧ char ≠ '"' ∧ char ≠ '#' := by
  rw [isPlainWord, Bool.and_eq_true, List.all_eq_true] at plain
  rcases plain with ⟨filled, clean⟩
  refine ⟨by simpa using filled, ?_⟩
  intro char member
  have all := clean char member
  simp only [Bool.and_eq_true, Bool.not_eq_true', bne_iff_ne] at all
  exact ⟨all.1.1, all.1.2, all.2⟩

def keywordOf (text : String) (plain : isPlainWord text.toList = true) : Keyword :=
  ⟨text.toList, (isPlainWord_iff plain).1, (isPlainWord_iff plain).2⟩

def nameOf (text : String) (plain : isPlainWord text.toList = true) : Name where
  piece := .plain text.toList fun char member => ((isPlainWord_iff plain).2 char member).2
  solid := solid_of_word (isPlainWord_iff plain).1 fun char member =>
    ((isPlainWord_iff plain).2 char member).1
  word := fun char member => ((isPlainWord_iff plain).2 char member).1

def noSpaces : Spaces := ⟨[], blank_nil⟩

def oneSpace : Layout where
  indent := noSpaces
  gap := ⟨[' '], List.cons_ne_nil _ _, by
    intro char member
    rw [List.mem_singleton.mp member]
    rfl⟩
  tail := noSpaces
  comment := none

/-- Two host names, and a user behind a `Match`. -/
def twoHostNames : WrittenConfig where
  path := "config".toList
  bytes := toUtf8 "Host a\nHostName x\nHostName y\nMatch all\nUser root\n".toList
  text := "Host a\nHostName x\nHostName y\nMatch all\nUser root\n".toList
  written :=
    [.host (keywordOf "Host" (by decide)) (by decide) oneSpace ⟨nameOf "a" (by decide), []⟩,
      .directive (keywordOf "HostName" (by decide)) (by decide) oneSpace
        (nameOf "x" (by decide)).toValue,
      .directive (keywordOf "HostName" (by decide)) (by decide) oneSpace
        (nameOf "y" (by decide)).toValue,
      .directive (keywordOf "Match" (by decide)) (by decide) oneSpace
        (nameOf "all" (by decide)).toValue,
      .directive (keywordOf "User" (by decide)) (by decide) oneSpace
        (nameOf "root" (by decide)).toValue]
  isConfig := by decide
  decoded := fromUtf8_toUtf8 _
  made := by decide +kernel

/-- The importer takes the last host name, and the user of the `Match`. -/
theorem twoHostNames_records :
    (aliasRecords (previewEntries [(twoHostNames.path, twoHostNames.bytes)])).map (fun record =>
        record.ssh.map fun ssh => (ssh.host, ssh.username)) =
      [some ("y".toList, "root".toList)] ∧
    (sshRecords twoHostNames.path (twoHostNames.written.map WrittenLine.line)).map
        (fun record => record.ssh.map fun ssh => (ssh.host, ssh.username)) =
      [some ("x".toList, [])] := by
  constructor
  · decide +kernel
  · decide +kernel

end Onetcli.Importers.OpenSsh
