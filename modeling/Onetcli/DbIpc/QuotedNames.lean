import Onetcli.DbIpc.AlterTarget
import Onetcli.Lib.Brackets

/-!
What a scanner reads in the names and comments that internal/dbipc/ddl.go puts into a statement.
A quoted name is one token whatever it holds; the names of a list and the parts of a table's name
stay apart as long as the quotes are none of the characters between them.
-/

namespace Onetcli.DbIpc.QuotedNames

open Text Chars Brackets
open SqlTokens (Kind doubled isWordChar replaceFrom_doubled)

variable {World : Type} {spec : DriverSpec World} {left right : Char}

/-- The quotes that `quoteIdentifier` puts around a name. -/
def effectiveQuotes (spec : DriverSpec World) : String × String :=
  let unset := spec.identifierQuoteLeft = "" ∧ spec.identifierQuoteRight = ""
  let left := if unset then "\"" else spec.identifierQuoteLeft
  let right := if unset then "\"" else spec.identifierQuoteRight
  (left, if right = "" then left else right)

structure Quotes (spec : DriverSpec World) (left right : Char) : Prop where
  effective : effectiveQuotes spec = (String.ofList [left], String.ofList [right])

theorem quoteIdentifier_chars (quotes : Quotes spec left right) (name : String) :
    (quoteIdentifier spec name).toList = left :: (doubled right name.toList ++ [right]) := by
  have around : quoteIdentifier spec name = (effectiveQuotes spec).1 ++
      replaceAll name (effectiveQuotes spec).2
        ((effectiveQuotes spec).2 ++ (effectiveQuotes spec).2) ++ (effectiveQuotes spec).2 := rfl
  rw [around, quotes.effective]
  simp only [replaceAll, String.toList_append, String.toList_ofList, List.cons_append,
    List.nil_append, replaceFrom_doubled]

/-! ## The scanner -/

/-- Names stand between the quotes of the driver, literals between apostrophes. -/
def openers (left right : Char) : Openers Kind := fun char =>
  if char = left then some (.identifier, right)
  else if char = '\'' then some (.literal, '\'')
  else none

def scan (left right : Char) (text : String) : List (Token Kind) :=
  tokens (openers left right) text.toList

abbrev nameToken (name : String) : Token Kind := .quoted .identifier name.toList

def separated (sign : Char) (names : List String) : List (Token Kind) :=
  (names.map nameToken).intersperse (.symbol sign)

theorem openers_plain {char : Char} (notLeft : char ≠ left) (notApostrophe : char ≠ '\'') :
    openers left right char = none := by
  rw [openers, if_neg notLeft, if_neg notApostrophe]

theorem tokens_name (quotes : Quotes spec left right) (name : String) {rest : Chars}
    (other : rest.head? ≠ some right) :
    tokens (openers left right) ((quoteIdentifier spec name).toList ++ rest) =
      nameToken name :: tokens (openers left right) rest := by
  rw [quoteIdentifier_chars quotes, List.cons_append, List.append_assoc]
  exact tokens_quoted (if_pos rfl) name.toList other

-- Names are joined by a text that reads as one sign and does not begin with the right quote.
theorem tokens_joined (quotes : Quotes spec left right) {sign : Char} {between : String}
    (reads : ∀ rest, tokens (openers left right) (between.toList ++ rest) =
      .symbol sign :: tokens (openers left right) rest)
    (apart : ∀ rest, (between.toList ++ rest).head? ≠ some right) (names : List String)
    {rest : Chars} (other : rest.head? ≠ some right) : tokens (openers left right)
        ((between.intercalate (names.map (quoteIdentifier spec))).toList ++ rest) =
      separated sign names ++ tokens (openers left right) rest := by
  induction names with
  | nil => simp [separated]
  | cons name names ih =>
    cases names with
    | nil =>
      rw [List.map_singleton, String.intercalate_singleton, tokens_name quotes name other]
      rfl
    | cons next names =>
      rw [List.map_cons, List.map_cons, String.intercalate_cons_cons, ← List.map_cons,
        String.toList_append, String.toList_append, List.append_assoc, List.append_assoc,
        tokens_name quotes name (apart _), reads, ih]
      rfl

/-! ## The names of tables -/

/-- The parts of a table's name that are written. -/
def nonBlank (database schema name : String) : List String :=
  [database, schema, name].filter (!isBlank ·)

/-- Neither quote is the dot between the parts. -/
structure DotsApart (left right : Char) : Prop where
  opens : left ≠ '.'
  closes : right ≠ '.'

theorem tokens_dot (dots : DotsApart left right) (rest : Chars) :
    tokens (openers left right) (".".toList ++ rest) =
      .symbol '.' :: tokens (openers left right) rest :=
  tokens_symbol (openers_plain (Ne.symm dots.opens) (by decide)) (by decide +kernel)
    (by decide +kernel) rest

theorem tokens_qualified (quotes : Quotes spec left right) (dots : DotsApart left right)
    (database schema name : String) {rest : Chars} (other : rest.head? ≠ some right) :
    tokens (openers left right) ((qualifiedTableName spec database schema name).toList ++ rest) =
      separated '.' (nonBlank database schema name) ++ tokens (openers left right) rest :=
  tokens_joined quotes (tokens_dot dots)
    (fun _ same => dots.closes (Option.some.inj same).symm) _ other

/-! ## Lists of names -/

/-- Neither quote is the comma between the names, and none opens at the blank after it. -/
structure CommasApart (left right : Char) : Prop where
  opens : left ≠ ','
  blank : left ≠ ' '
  closes : right ≠ ','

theorem tokens_comma (commas : CommasApart left right) (rest : Chars) :
    tokens (openers left right) (", ".toList ++ rest) =
      .symbol ',' :: tokens (openers left right) rest := by
  have sign : openers left right ',' = none :=
    openers_plain (Ne.symm commas.opens) (by decide)
  have space : openers left right ' ' = none :=
    openers_plain (Ne.symm commas.blank) (by decide)
  have read := tokens_symbol sign (by decide +kernel) (by decide +kernel) (' ' :: rest)
  rw [tokens_blank space (by decide +kernel) (by decide +kernel)] at read
  exact read

theorem tokens_list (quotes : Quotes spec left right) (commas : CommasApart left right)
    (names : List String) :
    scan left right (quoteIdentifierList spec names) = separated ',' (names.filter (· ≠ "")) := by
  have apart (rest : Chars) : (", ".toList ++ rest).head? ≠ some right :=
    fun same => commas.closes (Option.some.inj same).symm
  have joined := @tokens_joined _ _ _ _ quotes _ _ (tokens_comma commas) apart
    (names.filter (· ≠ "")) [] (by simp)
  rw [List.append_nil] at joined
  exact joined.trans (List.append_nil _)

/-! ## Comments -/

/-- The quotes are none of the characters that stand around a commented name, and no keyword of
the statement begins with the left one. -/
structure WordsApart (left right : Char) : Prop extends DotsApart left right where
  keywords : left ∉ ['C', 'O', 'T', 'I', ' ', '\'']
  blank : right ≠ ' '

theorem WordsApart.blank_plain (words : WordsApart left right) : openers left right ' ' = none :=
  openers_plain (fun same => words.keywords (by rw [← same]; decide)) (by decide)

theorem tokens_keyword (words : WordsApart left right) {first : Char} {word : Chars}
    (begins : first ∈ ['C', 'O', 'T', 'I'])
    (letters : (first :: word).all isWordChar = true) (rest : Chars) :
    tokens (openers left right) (first :: (word ++ ' ' :: rest)) =
      .word (first :: word) :: tokens (openers left right) rest := by
  have first_plain : openers left right first = none := by
    refine openers_plain ?_ ?_
    · rintro rfl
      exact words.keywords (List.mem_append_left [' ', '\''] begins)
    · rintro rfl
      exact absurd begins (by decide)
  rw [tokens_word first_plain (List.all_eq_true.1 letters) (by rintro char ⟨⟩; decide +kernel),
    tokens_blank words.blank_plain (by decide +kernel) (by decide +kernel)]

theorem quoteLiteral_chars (value : String) :
    (quoteLiteral value).toList = '\'' :: (doubled '\'' value.toList ++ ['\'']) := by
  have apostrophe : "'".toList = ['\''] := rfl
  have two : "''".toList = ['\'', '\''] := rfl
  simp only [quoteLiteral, escapeSQLLiteral, replaceAll, String.toList_append,
    String.toList_ofList, apostrophe, two, replaceFrom_doubled, List.cons_append, List.nil_append]

theorem tokens_literal (words : WordsApart left right) (value : String) :
    tokens (openers left right) (quoteLiteral value).toList = [.quoted .literal value.toList] := by
  have notLeft : '\'' ≠ left := fun same => words.keywords (by rw [← same]; decide)
  have opened : openers left right '\'' = some (.literal, '\'') := by
    rw [openers, if_neg notLeft, if_pos rfl]
  rw [quoteLiteral_chars]
  exact tokens_quoted opened value.toList (by simp)

/-- What a comment's statement is meant to say. -/
def commentTokens (parts : List String) (column comment : String) : List (Token Kind) :=
  [.word "COMMENT".toList, .word "ON".toList] ++
    (if column = "" then .word "TABLE".toList :: separated '.' parts
      else .word "COLUMN".toList :: (separated '.' parts ++ [.symbol '.', nameToken column])) ++
    [.word "IS".toList, .quoted .literal comment.toList]

theorem tokens_is (words : WordsApart left right) (comment : String) :
    tokens (openers left right) (" IS ".toList ++ (quoteLiteral comment).toList) =
      [.word "IS".toList, .quoted .literal comment.toList] := by
  have keyword := @tokens_keyword _ _ words 'I' ['S'] (by decide) (by decide +kernel)
    (quoteLiteral comment).toList
  rw [tokens_literal words] at keyword
  exact (tokens_blank words.blank_plain (by decide +kernel) (by decide +kernel) _).trans keyword

theorem tokens_commentOn (words : WordsApart left right) (rest : Chars) :
    tokens (openers left right) ("COMMENT ON ".toList ++ rest) =
      .word "COMMENT".toList :: .word "ON".toList :: tokens (openers left right) rest := by
  have on := @tokens_keyword _ _ words 'O' ['N'] (by decide) (by decide +kernel) rest
  have comment := @tokens_keyword _ _ words 'C' "OMMENT".toList (by decide) (by decide +kernel)
    ("ON ".toList ++ rest)
  exact comment.trans (congrArg _ on)

theorem commentStatement_table (table comment : String) : commentStatement spec table "" comment =
      "COMMENT ON TABLE " ++ table ++ " IS " ++ quoteLiteral comment := by
  rw [commentStatement, if_pos rfl]
  rfl

theorem commentStatement_column {column : String} (named : column ≠ "") (table comment : String) :
    commentStatement spec table column comment =
      "COMMENT ON COLUMN " ++ table ++ "." ++ quoteIdentifier spec column ++ " IS " ++
        quoteLiteral comment := by
  rw [commentStatement, if_neg named]
  rfl

theorem tokens_comment (quotes : Quotes spec left right) (words : WordsApart left right)
    (database schema name column comment : String) : scan left right
        (commentStatement spec (qualifiedTableName spec database schema name) column comment) =
      commentTokens (nonBlank database schema name) column comment := by
  have ends (rest : Chars) : (" IS ".toList ++ rest).head? ≠ some right :=
    fun same => words.blank (Option.some.inj same).symm
  have dotted (rest : Chars) : (".".toList ++ rest).head? ≠ some right :=
    fun same => words.closes (Option.some.inj same).symm
  by_cases whole : column = ""
  · have table := @tokens_keyword _ _ words 'T' "ABLE".toList (by decide) (by decide +kernel)
    have text : (commentStatement spec (qualifiedTableName spec database schema name) column
        comment).toList = "COMMENT ON ".toList ++ ('T' :: ("ABLE".toList ++ ' ' ::
          ((qualifiedTableName spec database schema name).toList ++
            (" IS ".toList ++ (quoteLiteral comment).toList)))) := by
      have fixed : "COMMENT ON TABLE ".toList =
          "COMMENT ON ".toList ++ ('T' :: ("ABLE".toList ++ [' '])) := rfl
      simp only [commentStatement_table, whole, String.toList_append, fixed, List.append_assoc,
        List.cons_append, List.nil_append]
    rw [scan, text, tokens_commentOn words, table,
      tokens_qualified quotes words.toDotsApart _ _ _ (ends _), tokens_is words, commentTokens,
      if_pos whole]
    simp
  · have keyword := @tokens_keyword _ _ words 'C' "OLUMN".toList (by decide) (by decide +kernel)
    have text : (commentStatement spec (qualifiedTableName spec database schema name) column
        comment).toList = "COMMENT ON ".toList ++ ('C' :: ("OLUMN".toList ++ ' ' ::
          ((qualifiedTableName spec database schema name).toList ++ (".".toList ++
            ((quoteIdentifier spec column).toList ++
              (" IS ".toList ++ (quoteLiteral comment).toList)))))) := by
      have fixed : "COMMENT ON COLUMN ".toList =
          "COMMENT ON ".toList ++ ('C' :: ("OLUMN".toList ++ [' '])) := rfl
      simp only [commentStatement_column whole, String.toList_append, fixed, List.append_assoc,
        List.cons_append, List.nil_append]
    rw [scan, text, tokens_commentOn words, keyword,
      tokens_qualified quotes words.toDotsApart _ _ _ (dotted _), tokens_dot words.toDotsApart,
      tokens_name quotes column (ends _), tokens_is words, commentTokens, if_neg whole]
    simp

/-! ## Every name -/

theorem scan_qualified (quotes : Quotes spec left right) (dots : DotsApart left right)
    (database schema name : String) :
    scan left right (qualifiedTableName spec database schema name) =
      separated '.' (nonBlank database schema name) := by
  have read := @tokens_qualified _ _ _ _ quotes dots database schema name [] (by simp)
  rw [List.append_nil] at read
  exact read.trans (List.append_nil _)

theorem names_of_separated {sign : Char} {first second : List String}
    (same : separated sign first = separated sign second) : first = second := by
  have contents (names : List String) :
      contentsOf .identifier (separated sign names) = names.map String.toList := by
    have read := contentsOf_separated Kind.identifier sign (names.map String.toList)
    rw [List.map_map] at read
    exact read
  refine List.map_injective_iff.2 (fun _ _ => String.toList_inj.1) ?_
  rw [← contents first, same, contents]

/-- Hostile or not, a name, a list of names and a comment are read as they were meant, and two
tables with one text have the same parts. -/
theorem scanned_as_meant (spec : DriverSpec World) (left right : Char)
    (quotes : Quotes spec left right) :
    (DotsApart left right → ∀ database schema name,
      scan left right (qualifiedTableName spec database schema name) =
        separated '.' (nonBlank database schema name)) ∧
    (CommasApart left right → ∀ names,
      scan left right (quoteIdentifierList spec names) = separated ',' (names.filter (· ≠ ""))) ∧
    (WordsApart left right → ∀ database schema name column comment,
      scan left right
          (commentStatement spec (qualifiedTableName spec database schema name) column comment) =
        commentTokens (nonBlank database schema name) column comment) ∧
    (DotsApart left right → ∀ database schema name database' schema' name',
      qualifiedTableName spec database schema name =
          qualifiedTableName spec database' schema' name' →
        nonBlank database schema name = nonBlank database' schema' name') := by
  refine ⟨scan_qualified quotes, tokens_list quotes, tokens_comment quotes, ?_⟩
  intro dots database schema name database' schema' name' same
  have read := congrArg (scan left right) same
  rw [scan_qualified quotes dots, scan_qualified quotes dots] at read
  exact names_of_separated read

/-- A table `b.c` of the schema `a"` between double quotes. -/
theorem hostile_table_scanned :
    scan '"' '"' (qualifiedTableName (plainSpec true) "" "a\"" "b.c") =
      [.quoted .identifier "a\"".toList, .symbol '.', .quoted .identifier "b.c".toList] :=
  (scanned_as_meant (plainSpec true) '"' '"' ⟨by decide +kernel⟩).1 ⟨by decide, by decide⟩ ""
    "a\"" "b.c"

def quotedWith (left right : String) : DriverSpec Unit :=
  { plainSpec true with identifierQuoteLeft := left, identifierQuoteRight := right }

/-- A quote that is also the sign between two names, or the first letter of a keyword. -/
theorem quotes_among_signs :
    Quotes (quotedWith "." ".") '.' '.' ∧
      scan '.' '.' (qualifiedTableName (quotedWith "." ".") "" "a" "b") ≠
        separated '.' (nonBlank "" "a" "b") ∧
    Quotes (quotedWith "[" ",") '[' ',' ∧
      scan '[' ',' (quoteIdentifierList (quotedWith "[" ",") ["a", "b"]) ≠
        separated ',' ["a", "b"] ∧
    Quotes (quotedWith "C" "C") 'C' 'C' ∧
      scan 'C' 'C' (commentStatement (quotedWith "C" "C")
          (qualifiedTableName (quotedWith "C" "C") "" "" "t") "" "c") ≠
        commentTokens (nonBlank "" "" "t") "" "c" :=
  ⟨⟨by decide +kernel⟩, by decide +kernel, ⟨by decide +kernel⟩, by decide +kernel,
    ⟨by decide +kernel⟩, by decide +kernel⟩

end Onetcli.DbIpc.QuotedNames
