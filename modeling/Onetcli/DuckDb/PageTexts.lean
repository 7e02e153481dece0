import Onetcli.DuckDb.Pages
import Onetcli.Lib.Scanners

/-!
The text of a page of a query, page_query_sql of extensions/ipc/duckdb/src/handlers.rs, as the
engine's scanner reads it. The query is put between parentheses as it stands, without its last
semicolons: a comment at its end takes the rest of the line along.
-/

namespace Onetcli.DuckDb

open Chars Text Scanners Scanner

/-! ## The scanner -/

inductive Quote where
  | literal
  /-- `E'...'`, where a backslash takes the next character along. -/
  | escapes
  | identifier
  deriving DecidableEq

def Quote.char : Quote → Char
  | .literal => '\''
  | .escapes => '\''
  | .identifier => '"'

inductive SqlToken where
  | word (text : Chars)
  | symbol (char : Char)
  | quoted (quote : Quote) (contents : Chars)
  | dollarQuoted (tag contents : Chars)
  | unterminated
  deriving DecidableEq

/-- What was read of the token at the end, in reverse. A block comment may hold others. -/
inductive SqlState where
  | between
  | word (text : Chars)
  | dash
  | slash
  | inside (quote : Quote) (contents : Chars)
  | escaped (contents : Chars)
  | closing (quote : Quote) (contents : Chars)
  | tag (text : Chars)
  | dollar (tag contents : Chars)
  | line
  | block (outer : Nat)
  | star (outer : Nat)
  | nested (outer : Nat)
  deriving DecidableEq

def isLetter (char : Char) : Bool :=
  !isWhiteSpace char && (char.isAlpha || char == '_' || 128 ≤ char.toNat)

/-- A character that goes on with a word; a number takes no dollar sign. -/
def continuesWord (text : Chars) (char : Char) : Bool :=
  isLetter char || isAsciiDigit char || (char == '$' && !(text.getLast?.any isAsciiDigit))

def continuesTag (text : Chars) (char : Char) : Bool :=
  isLetter char || (isAsciiDigit char && !text.isEmpty)

/-- A dollar sign that opened no quoted text. -/
def failedTag (text : Chars) : List SqlToken :=
  .symbol '$' :: if text.isEmpty then [] else [.word text.reverse]

@[grind =]
def startToken (char : Char) : List SqlToken × SqlState :=
  if isWhiteSpace char then ([], .between)
  else if char = '\'' then ([], .inside .literal [])
  else if char = '"' then ([], .inside .identifier [])
  else if char = '-' then ([], .dash)
  else if char = '/' then ([], .slash)
  else if char = '$' then ([], .tag [])
  else if isLetter char || isAsciiDigit char then ([], .word [char])
  else ([.symbol char], .between)

def afterToken (read : List SqlToken) (char : Char) : List SqlToken × SqlState :=
  (read ++ (startToken char).1, (startToken char).2)

@[grind =]
def stepToken : SqlState → Char → List SqlToken × SqlState
  | .between, char => startToken char
  | .word text, char =>
    if continuesWord text char then ([], .word (char :: text))
    else if char = '\'' ∧ (text = ['e'] ∨ text = ['E']) then ([], .inside .escapes [])
    else afterToken [.word text.reverse] char
  | .dash, char => if char = '-' then ([], .line) else afterToken [.symbol '-'] char
  | .slash, char => if char = '*' then ([], .block 0) else afterToken [.symbol '/'] char
  | .inside quote contents, char =>
    if char = quote.char then ([], .closing quote contents)
    else if char = '\\' ∧ quote = .escapes then ([], .escaped (char :: contents))
    else ([], .inside quote (char :: contents))
  | .escaped contents, char => ([], .inside .escapes (char :: contents))
  | .closing quote contents, char =>
    if char = quote.char then ([], .inside quote (char :: contents))
    else afterToken [.quoted quote contents.reverse] char
  | .tag text, char =>
    if char = '$' then ([], .dollar text.reverse [])
    else if continuesTag text char then ([], .tag (char :: text))
    else afterToken (failedTag text) char
  | .dollar tag contents, char =>
    -- The tag between two dollar signs closes what it opened.
    if char = '$' ∧ (tag.reverse ++ ['$']).isPrefixOf contents then
      ([.dollarQuoted tag (contents.drop (tag.length + 1)).reverse], .between)
    else ([], .dollar tag (char :: contents))
  | .line, char => if char = '\n' ∨ char = '\r' then ([], .between) else ([], .line)
  | .block outer, char =>
    ([], if char = '*' then .star outer else if char = '/' then .nested outer else .block outer)
  | .star 0, char =>
    ([], if char = '/' then .between else if char = '*' then .star 0 else .block 0)
  | .star (outer + 1), char =>
    ([], if char = '/' then .block outer else if char = '*' then .star (outer + 1)
      else .block (outer + 1))
  | .nested outer, char =>
    ([], if char = '*' then .block (outer + 1) else if char = '/' then .nested outer
      else .block outer)

def finishToken : SqlState → List SqlToken
  | .between => []
  | .word text => [.word text.reverse]
  | .dash => [.symbol '-']
  | .slash => [.symbol '/']
  | .closing quote contents => [.quoted quote contents.reverse]
  | .tag text => failedTag text
  | .line => []
  | _ => [.unterminated]

def sqlScanner : Scanner SqlState Char SqlToken := ⟨.between, stepToken, finishToken⟩

def sqlTokens (sql : String) : List SqlToken := sqlScanner.tokens sql.toList

def endState (sql : String) : SqlState := (sqlScanner.run .between sql.toList).2

theorem sqlTokens_eq (sql : String) : sqlTokens sql = sqlScanner.tokensFrom .between sql.toList := rfl

theorem sqlTokens_split (sql : String) :
    sqlTokens sql = (sqlScanner.run .between sql.toList).1 ++ finishToken (endState sql) := rfl

/-- Inside a quoted text or a block comment. -/
def SqlState.isOpen : SqlState → Bool
  | .inside _ _ => true
  | .escaped _ => true
  | .dollar _ _ => true
  | .block _ => true
  | .star _ => true
  | .nested _ => true
  | _ => false

/-- Every quoted text and every block comment is closed. -/
def Closed (sql : String) : Prop := (endState sql).isOpen = false

example : sqlTokens "$a$ -- $b$ '$a$ /* /* */ ; */ e'\\'--' -- ;\n'--';" =
    [.dollarQuoted ['a'] " -- $b$ '".toList, .quoted .escapes "\\'--".toList,
      .quoted .literal ['-', '-'], .symbol ';'] := by decide

/-! ## Where a token ends -/

/-- A closing parenthesis, a semicolon and a blank end every word and symbol. -/
def breaks (char : Char) : Bool := char == ')' || char == ';' || isWhiteSpace char

/-- No character of a token, nor one that opens, closes or escapes a quoted text. -/
structure Plain (char : Char) : Prop where
  letter : isLetter char = false
  digit : isAsciiDigit char = false
  noSign : char ∉ ['\'', '"', '-', '*', '/', '$', '\\']

theorem plain_of_breaks {char : Char} (broken : breaks char = true) : Plain char := by
  unfold breaks at broken
  simp only [Bool.or_eq_true, beq_iff_eq] at broken
  rcases broken with (rfl | rfl) | blank
  · constructor <;> decide
  · constructor <;> decide
  · constructor
    · simp [isLetter, blank]
    · by_contra digit
      simp only [isAsciiDigit, Bool.not_eq_false, Bool.and_eq_true, decide_eq_true_eq] at digit
      simp only [isWhiteSpace, Bool.or_eq_true, Bool.and_eq_true, decide_eq_true_eq,
        beq_iff_eq] at blank
      omega
    · intro sign
      have shown : ['\'', '"', '-', '*', '/', '$', '\\'].all (!isWhiteSpace ·) = true := rfl
      have solid := List.all_eq_true.mp shown char sign
      rw [blank] at solid
      cases solid

theorem Quote.char_sign (quote : Quote) : quote.char ∈ ['\'', '"', '-', '*', '/', '$', '\\'] := by
  cases quote <;> decide

theorem ends_before {state : SqlState} {char : Char} (broken : breaks char = true)
    (closed : state.isOpen = false) (code : state ≠ .line) : sqlScanner.Ends state char := by
  have plain := plain_of_breaks broken
  have signs := plain.noSign
  simp only [List.mem_cons, List.not_mem_nil, or_false, not_or] at signs
  obtain ⟨apostrophe, _, dash, star, _, dollar, _⟩ := signs
  show stepToken state char = afterToken (finishToken state) char
  cases state with
  | between => rfl
  | word text => simp [stepToken, finishToken, continuesWord, plain.letter, plain.digit, dollar,
      apostrophe]
  | dash => simp [stepToken, finishToken, dash]
  | slash => simp [stepToken, finishToken, star]
  | closing quote contents =>
    have other : char ≠ quote.char := fun same => plain.noSign (same ▸ quote.char_sign)
    simp [stepToken, finishToken, other]
  | tag text => simp [stepToken, finishToken, continuesTag, plain.letter, plain.digit, dollar]
  | line => exact absurd rfl code
  | inside quote contents => cases closed
  | escaped contents => cases closed
  | dollar tag contents => cases closed
  | block outer => cases closed
  | star outer => cases closed
  | nested outer => cases closed

theorem step_open {state : SqlState} {char : Char} (broken : breaks char = true)
    (opened : state.isOpen = true) : (stepToken state char).2.isOpen = true := by
  have signs := (plain_of_breaks broken).noSign
  simp only [List.mem_cons, List.not_mem_nil, or_false, not_or] at signs
  obtain ⟨_, _, _, star, slash, dollar, backslash⟩ := signs
  cases state with
  | inside quote contents =>
    have other : char ≠ quote.char :=
      fun same => (plain_of_breaks broken).noSign (same ▸ quote.char_sign)
    simp [stepToken, other, backslash, SqlState.isOpen]
  | escaped contents => rfl
  | dollar tag contents => simp [stepToken, dollar, SqlState.isOpen]
  | block outer | nested outer => simp [stepToken, star, slash, SqlState.isOpen]
  | star outer => cases outer <;> simp [stepToken, star, slash, SqlState.isOpen]
  | _ => cases opened

theorem run_open {state : SqlState} {text : Chars} (broken : ∀ char ∈ text, breaks char = true)
    (opened : state.isOpen = true) : (sqlScanner.run state text).2.isOpen = true := by
  induction text generalizing state with
  | nil => exact opened
  | cons char rest ih =>
    have here := broken char List.mem_cons_self
    exact ih (fun other member => broken other (List.mem_cons_of_mem _ member))
      (step_open here opened)

/-! ## The text around the query -/

/-- A character that `trimmed_query_sql` drops at the end. -/
def isTail (char : Char) : Bool := isWhiteSpace char || char == ';'

theorem breaks_of_isTail {char : Char} (tail : isTail char = true) : breaks char = true := by
  unfold isTail at tail
  unfold breaks
  rcases Bool.or_eq_true_iff.mp tail with blank | semicolon
  · simp [blank]
  · simp [semicolon]

theorem startToken_tail {char : Char} (tail : isTail char = true) :
    startToken char = (if char = ';' then [.symbol ';'] else [], .between) := by
  by_cases semicolon : char = ';'
  · subst semicolon
    decide
  · have blank : isWhiteSpace char = true := by simpa [isTail, semicolon] using tail
    simp [startToken, blank, semicolon]

theorem tokensFrom_tail {state : SqlState} {tail : Chars}
    (all : ∀ char ∈ tail, isTail char = true) (closed : state.isOpen = false) :
    ∃ count, sqlScanner.tokensFrom state tail =
      finishToken state ++ List.replicate count (.symbol ';') := by
  induction tail generalizing state with
  | nil => exact ⟨0, (List.append_nil _).symm⟩
  | cons char rest ih =>
    have tail := all char List.mem_cons_self
    have others : ∀ other ∈ rest, isTail other = true :=
      fun other member => all other (List.mem_cons_of_mem _ member)
    by_cases code : state = .line
    · subst code
      -- A line break ends the comment; it gives no token either way.
      by_cases ends : char = '\n' ∨ char = '\r'
      · obtain ⟨count, same⟩ := @ih .between others rfl
        refine ⟨count, ?_⟩
        rw [tokensFrom_cons]
        simp only [sqlScanner, stepToken, if_pos ends, List.nil_append]
        exact same
      · obtain ⟨count, same⟩ := @ih .line others rfl
        refine ⟨count, ?_⟩
        rw [tokensFrom_cons]
        simp only [sqlScanner, stepToken, if_neg ends, List.nil_append]
        exact same
    · obtain ⟨count, same⟩ := @ih .between others rfl
      have first : sqlScanner.tokens (char :: rest) =
          (startToken char).1 ++ sqlScanner.tokensFrom (startToken char).2 rest :=
        tokensFrom_cons _ _
      rw [tokensFrom_ends (ends_before (breaks_of_isTail tail) closed code), first,
        startToken_tail tail]
      simp only [same, finishToken, List.nil_append]
      by_cases semicolon : char = ';'
      · refine ⟨count + 1, ?_⟩
        rw [if_pos semicolon, List.replicate_succ]
        rfl
      · exact ⟨count, by rw [if_neg semicolon]; rfl⟩

theorem trimmedQuerySql_split (sql : String) :
    ∃ lead tail, sql.toList = lead ++ ((trimmedQuerySql sql).toList ++ tail) ∧
      (∀ char ∈ lead, isWhiteSpace char = true) ∧ ∀ char ∈ tail, isTail char = true := by
  let body := sql.toList.dropWhile isWhiteSpace
  refine ⟨sql.toList.takeWhile isWhiteSpace, (body.reverse.takeWhile isTail).reverse, ?_, ?_, ?_⟩
  · have rest : (body.reverse.dropWhile isTail).reverse ++ (body.reverse.takeWhile isTail).reverse =
        body := by
      rw [← List.reverse_append, List.takeWhile_append_dropWhile, List.reverse_reverse]
    have same : (trimmedQuerySql sql).toList = (body.reverse.dropWhile isTail).reverse := by
      rw [trimmedQuerySql, String.toList_ofList]
      rfl
    rw [same, rest]
    exact List.takeWhile_append_dropWhile.symm
  · exact fun char member => List.mem_takeWhile_imp member
  · exact fun char member => List.mem_takeWhile_imp (List.mem_reverse.mp member)

theorem run_lead {lead : Chars} (blank : ∀ char ∈ lead, isWhiteSpace char = true) :
    sqlScanner.run .between lead = ([], .between) := by
  apply run_silent
  intro char member
  show startToken char = _
  simp [startToken, blank char member]

/-- The last semicolons go. -/
def withoutSemicolons (tokens : List SqlToken) : List SqlToken :=
  tokens.rdropWhile (· = .symbol ';')

theorem withoutSemicolons_replicate (tokens : List SqlToken) (count : Nat) :
    withoutSemicolons (tokens ++ List.replicate count (.symbol ';')) = withoutSemicolons tokens := by
  induction count with
  | zero => simp
  | succ count ih =>
    rw [List.replicate_succ', ← List.append_assoc]
    rw [withoutSemicolons, List.rdropWhile_concat_pos _ _ _ (by simp)]
    exact ih

theorem withoutSemicolons_self {tokens : List SqlToken} :
    withoutSemicolons tokens = tokens ↔ tokens.getLast? ≠ some (.symbol ';') := by
  rw [withoutSemicolons, List.rdropWhile_eq_self_iff]
  rcases tokens.eq_nil_or_concat with rfl | ⟨front, last, rfl⟩
  · simp
  · simp

theorem trimmed_tokens {sql : String} (closed : Closed sql) :
    Closed (trimmedQuerySql sql) ∧ ∃ count,
      sqlTokens sql = sqlTokens (trimmedQuerySql sql) ++ List.replicate count (.symbol ';') := by
  obtain ⟨lead, tail, split, blank, trailing⟩ := trimmedQuerySql_split sql
  have ends : endState sql =
      (sqlScanner.run (endState (trimmedQuerySql sql)) tail).2 := by
    simp only [endState]
    rw [split, run_append, run_lead blank, run_append]
  have inner : Closed (trimmedQuerySql sql) := by
    by_contra opened
    have still := run_open (fun char member => breaks_of_isTail (trailing char member))
      (Bool.eq_true_of_not_eq_false opened)
    rw [← ends, closed] at still
    cases still
  obtain ⟨count, rest⟩ := tokensFrom_tail trailing inner
  refine ⟨inner, count, ?_⟩
  unfold endState at rest
  rw [sqlTokens_eq, split, tokensFrom_append, run_lead blank, List.nil_append,
    tokensFrom_append]
  rw [rest, ← List.append_assoc, sqlTokens_split, endState]

/-! ## The wrapped query -/

def pageOpening : List SqlToken :=
  [.word "SELECT".toList, .symbol '*', .word "FROM".toList, .symbol '(']

def pageClosing (limit offset : Nat) : List SqlToken :=
  [.symbol ')', .word "AS".toList, .word "__navop_cursor_page".toList, .word "LIMIT".toList,
    .word (toString limit).toList, .word "OFFSET".toList, .word (toString offset).toList]

def pageTail (limit offset : Nat) : Chars :=
  ") AS __navop_cursor_page LIMIT ".toList ++
    ((toString limit).toList ++ (" OFFSET ".toList ++ (toString offset).toList))

theorem pageQuerySql_toList (sql : String) (limit offset : Nat) :
    (pageQuerySql sql limit offset).toList =
      "SELECT * FROM (".toList ++ ((trimmedQuerySql sql).toList ++ pageTail limit offset) := by
  unfold pageQuerySql pageTail
  rw [String.toList_append, String.toList_append, String.toList_append, String.toList_append,
    String.toList_append]
  -- The literals stay closed.
  generalize "SELECT * FROM (".toList = opening, ") AS __navop_cursor_page LIMIT ".toList = middle,
    " OFFSET ".toList = last, (toString limit).toList = first, (toString offset).toList = second
  simp only [List.append_assoc]

def Reads (text : Chars) (read : List SqlToken) : Prop :=
  (sqlScanner.run .between text).1 = read ∧ (sqlScanner.run .between text).2 = .between

theorem Reads.tokens {text : Chars} {read : List SqlToken} (reads : Reads text read)
    (rest : Chars) : sqlScanner.tokens (text ++ rest) = read ++ sqlScanner.tokens rest := by
  have split := @tokensFrom_append _ _ _ sqlScanner .between text rest
  rw [reads.1, reads.2] at split
  exact split

theorem opening_reads : Reads "SELECT * FROM (".toList pageOpening := by
  constructor <;> decide +kernel

/-- The query comes as it is between the wrapper's two parts. -/
def PagePreserves (sql : String) (limit offset : Nat) : Prop :=
  sqlTokens (pageQuerySql sql limit offset) =
    pageOpening ++ (withoutSemicolons (sqlTokens sql) ++ pageClosing limit offset)

theorem digit_part {number : Nat} {char : Char} (member : char ∈ (toString number).toList) :
    isAsciiDigit char = true := by
  rw [Nat.toString_eq_repr, Nat.toList_repr] at member
  have digit := Nat.isDigit_of_mem_toDigits (by decide) (by decide) member
  simpa [Char.isDigit, isAsciiDigit, UInt32.le_iff_toNat_le] using digit

theorem run_digits {digits : Chars} (all : ∀ char ∈ digits, isAsciiDigit char = true)
    (text : Chars) : sqlScanner.run (.word text) digits = ([], .word (digits.reverse ++ text)) := by
  induction digits generalizing text with
  | nil => rfl
  | cons digit rest ih =>
    have here : stepToken (.word text) digit = ([], .word (digit :: text)) := by
      simp [stepToken, continuesWord, all digit List.mem_cons_self]
    have others := ih (fun other member => all other (List.mem_cons_of_mem _ member)) (digit :: text)
    rw [List.reverse_cons, List.append_assoc]
    simp only [run, sqlScanner] at others ⊢
    rw [here]
    simpa using others

theorem startToken_digit {digit : Char} (value : isAsciiDigit digit = true) :
    startToken digit = ([], .word [digit]) := by
  have apart (sign : Char) (other : isAsciiDigit sign = false) : digit ≠ sign := by
    rintro rfl
    rw [value] at other
    cases other
  have solid : isWhiteSpace digit = false := by
    by_contra blank
    simp only [isAsciiDigit, Bool.and_eq_true, decide_eq_true_eq] at value
    simp only [isWhiteSpace, Bool.not_eq_false, Bool.or_eq_true, Bool.and_eq_true,
      decide_eq_true_eq, beq_iff_eq] at blank
    omega
  simp [startToken, solid, value, apart '\'' rfl, apart '"' rfl, apart '-' rfl, apart '/' rfl,
    apart '$' rfl]

theorem tokens_number (number : Nat) {rest : Chars}
    (ends : ∀ char ∈ rest.head?, breaks char = true) :
    sqlScanner.tokens ((toString number).toList ++ rest) =
      .word (toString number).toList :: sqlScanner.tokens rest := by
  have all := fun char => @digit_part number char
  have filled : (toString number).toList ≠ [] := by
    rw [Nat.toString_eq_repr, Nat.toList_repr]
    exact Nat.toDigits_ne_nil
  generalize (toString number).toList = digits at all filled ⊢
  obtain ⟨digit, others, rfl⟩ := List.exists_cons_of_ne_nil filled
  have word : sqlScanner.run .between (digit :: others) = ([], .word (digit :: others).reverse) := by
    have later := run_digits (fun char member => all char (List.mem_cons_of_mem _ member)) [digit]
    rw [run]
    simp only [sqlScanner, stepToken, startToken_digit (all digit List.mem_cons_self)] at later ⊢
    rw [later]
    simp
  rw [tokens, tokensFrom_append]
  simp only [sqlScanner] at word ⊢
  rw [word]
  cases rest with
  | nil => simp [tokensFrom, tokens, run, finishToken]
  | cons char rest =>
    have broken := ends char rfl
    have ended : sqlScanner.Ends (.word (digit :: others).reverse) char :=
      ends_before broken rfl (by simp)
    have later := tokensFrom_ends ended rest
    simp only [sqlScanner] at later
    rw [later]
    simp [finishToken]

theorem closing_read (limit offset : Nat) :
    sqlScanner.tokens (pageTail limit offset) = pageClosing limit offset := by
  have front : Reads ") AS __navop_cursor_page LIMIT ".toList
      [.symbol ')', .word "AS".toList, .word "__navop_cursor_page".toList,
        .word "LIMIT".toList] := by
    constructor <;> decide +kernel
  have middle : Reads " OFFSET ".toList [.word "OFFSET".toList] := by
    constructor <;> decide +kernel
  have second := @tokens_number offset [] (by simp)
  have blank : " OFFSET ".toList = ' ' :: "OFFSET ".toList := by decide +kernel
  have first := @tokens_number limit (" OFFSET ".toList ++ (toString offset).toList) (by
    intro char member
    rw [blank, List.cons_append, List.head?_cons] at member
    rw [← Option.some.inj member]
    decide)
  rw [List.append_nil] at second
  have none : sqlScanner.tokens [] = [] := rfl
  unfold pageTail pageClosing
  rw [front.tokens, first, middle.tokens]
  simp only [second, none, List.cons_append, List.nil_append]

theorem closing_lost (limit offset : Nat) :
    sqlScanner.tokensFrom .line (pageTail limit offset) = [] := by
  have stays : ∀ char ∈ pageTail limit offset, char ≠ '\n' ∧ char ≠ '\r' := by
    have front : (") AS __navop_cursor_page LIMIT ".toList ++ " OFFSET ".toList).all
        (fun char => char != '\n' && char != '\r') = true := by decide +kernel
    have digits (number : Nat) (char : Char) (member : char ∈ (toString number).toList) :
        char ≠ '\n' ∧ char ≠ '\r' := by
      have digit := digit_part member
      constructor <;> (rintro rfl; cases digit)
    intro char member
    unfold pageTail at member
    have plain := List.all_eq_true.mp front char
    simp only [List.mem_append, Bool.and_eq_true, bne_iff_ne] at member plain
    rcases member with start | first | middle | second
    · exact plain (Or.inl start)
    · exact digits limit char first
    · exact plain (Or.inr middle)
    · exact digits offset char second
  have silent : sqlScanner.run .line (pageTail limit offset) = ([], .line) := by
    apply run_silent
    intro char member
    show stepToken .line char = _
    simp [stepToken, stays char member]
  rw [tokensFrom, silent]
  rfl

/-- The query that is wrapped does not end in a line comment, nor with a semicolon that comments
follow. -/
def EndsInCode (sql : String) : Prop :=
  endState (trimmedQuerySql sql) ≠ .line ∧
    (sqlTokens (trimmedQuerySql sql)).getLast? ≠ some (.symbol ';')

theorem page_preserves_closed {sql : String} (closed : Closed sql) (limit offset : Nat) :
    PagePreserves sql limit offset ↔ EndsInCode sql := by
  obtain ⟨inner, count, trimmed⟩ := trimmed_tokens closed
  have same := congrArg withoutSemicolons trimmed
  rw [withoutSemicolons_replicate] at same
  have page : sqlTokens (pageQuerySql sql limit offset) = pageOpening ++
      sqlScanner.tokens ((trimmedQuerySql sql).toList ++ pageTail limit offset) := by
    rw [sqlTokens, pageQuerySql_toList, opening_reads.tokens]
  rw [PagePreserves, page, same, List.append_cancel_left_eq]
  -- The text of the wrapper after the query is read on from the query's last state.
  have onward := @tokensFrom_append _ _ _ sqlScanner .between (trimmedQuerySql sql).toList
    (pageTail limit offset)
  by_cases code : endState (trimmedQuerySql sql) = .line
  · have lost : sqlScanner.tokens ((trimmedQuerySql sql).toList ++ pageTail limit offset) =
        sqlTokens (trimmedQuerySql sql) := by
      have silent := closing_lost limit offset
      have last : finishToken (endState (trimmedQuerySql sql)) = [] := by rw [code, finishToken]
      rw [← code, endState] at silent
      rw [silent, List.append_nil] at onward
      calc sqlScanner.tokens ((trimmedQuerySql sql).toList ++ pageTail limit offset)
          = (sqlScanner.run .between (trimmedQuerySql sql).toList).1 := onward
        _ = (sqlScanner.run .between (trimmedQuerySql sql).toList).1 ++
              finishToken (endState (trimmedQuerySql sql)) := by rw [last, List.append_nil]
        _ = sqlTokens (trimmedQuerySql sql) := (sqlTokens_split _).symm
    rw [lost]
    constructor
    · intro whole
      -- The last of these tokens is no semicolon, so nothing was dropped.
      have kept : withoutSemicolons (sqlTokens (trimmedQuerySql sql)) =
          sqlTokens (trimmedQuerySql sql) := by
        rw [withoutSemicolons_self, whole]
        simp [pageClosing]
      rw [kept] at whole
      have lengths := congrArg List.length whole
      simp [pageClosing] at lengths
    · intro plain
      exact absurd code plain.1
  · have read : sqlScanner.tokens ((trimmedQuerySql sql).toList ++ pageTail limit offset) =
        sqlTokens (trimmedQuerySql sql) ++ pageClosing limit offset := by
      have parenthesis : pageTail limit offset = ')' :: (pageTail limit offset).tail := rfl
      have ends : sqlScanner.Ends (sqlScanner.run sqlScanner.start
          (trimmedQuerySql sql).toList).2 ')' := ends_before rfl inner code
      rw [← closing_read, parenthesis]
      exact tokens_append ends _
    rw [read, List.append_cancel_right_eq, eq_comm, withoutSemicolons_self]
    exact ⟨fun last => ⟨code, last⟩, And.right⟩

/-! ## One statement -/

/-- One statement, with no semicolon of its own, and then semicolons and blanks. -/
def OneStatement (sql : String) : Prop :=
  ∃ statement rest : String, sql = statement ++ rest ∧ (∀ char ∈ rest.toList, isTail char = true) ∧
    Closed statement ∧ .symbol ';' ∉ sqlTokens statement

theorem trimmedQuerySql_append {statement rest : String}
    (tail : ∀ char ∈ rest.toList, isTail char = true) (filled : ¬Blank statement.toList) :
    trimmedQuerySql (statement ++ rest) = trimmedQuerySql statement := by
  unfold trimmedQuerySql
  rw [String.toList_append]
  generalize statement.toList = text at filled ⊢
  generalize rest.toList = trailing at tail ⊢
  have some : (text.dropWhile isWhiteSpace).isEmpty = false := by
    by_contra none
    simp only [Bool.not_eq_false, List.isEmpty_iff, List.dropWhile_eq_nil_iff] at none
    exact filled none
  have last : ∀ char ∈ trailing.reverse, isTail char = true :=
    fun char member => tail char (List.mem_reverse.mp member)
  rw [List.dropWhile_append, some]
  simp only [Bool.false_eq_true, if_false, List.reverse_append]
  rw [show (fun c => isWhiteSpace c || c == ';') = isTail from rfl,
    List.dropWhile_append_of_pos last]

theorem trimmedQuerySql_tail {sql : String} (tail : ∀ char ∈ sql.toList, isTail char = true) :
    trimmedQuerySql sql = "" := by
  have all : ∀ char ∈ (sql.toList.dropWhile isWhiteSpace).reverse, isTail char = true := by
    intro char member
    exact tail char ((List.dropWhile_suffix _).mem (List.mem_reverse.mp member))
  have none := List.dropWhile_eq_nil_iff.mpr all
  unfold trimmedQuerySql
  rw [show (fun c => isWhiteSpace c || c == ';') = isTail from rfl, none]
  rfl

theorem OneStatement.endsInCode {sql : String} (one : OneStatement sql) :
    EndsInCode sql ↔ endState (trimmedQuerySql sql) ≠ .line := by
  obtain ⟨statement, rest, rfl, tail, closed, single⟩ := one
  have none : .symbol ';' ∉ sqlTokens (trimmedQuerySql (statement ++ rest)) := by
    by_cases blank : Blank statement.toList
    · have all : ∀ char ∈ (statement ++ rest).toList, isTail char = true := by
        intro char member
        rw [String.toList_append] at member
        rcases List.mem_append.mp member with lead | trailing
        · simp [isTail, blank char lead]
        · exact tail char trailing
      rw [trimmedQuerySql_tail all]
      exact List.not_mem_nil
    · obtain ⟨_, count, same⟩ := trimmed_tokens closed
      rw [trimmedQuerySql_append tail blank]
      intro semicolon
      exact single (same ▸ List.mem_append_left _ semicolon)
  constructor
  · exact And.left
  · exact fun code => ⟨code, fun last => none (List.mem_of_getLast? last)⟩

/-- A page has the tokens of its query between those of the wrapper exactly when the query ends
in code; one statement does when it does not end in a line comment. -/
theorem page_preserves_iff (sql : String) (closed : Closed sql) (limit offset : Nat) :
    (PagePreserves sql limit offset ↔ EndsInCode sql) ∧
      (OneStatement sql → (EndsInCode sql ↔ endState (trimmedQuerySql sql) ≠ .line)) :=
  ⟨page_preserves_closed closed limit offset, OneStatement.endsInCode⟩

theorem inner_comment_preserved :
    PagePreserves "SELECT 1 -- one;\n + 2 ; \n;" 1000 0 :=
  (page_preserves_iff "SELECT 1 -- one;\n + 2 ; \n;" (by unfold Closed; decide +kernel) 1000 0).1.mpr
    ⟨by decide +kernel, by decide +kernel⟩

/-- The wrapper is part of the comment. -/
theorem trailing_comment_swallows :
    OneStatement "SELECT 1 -- one" ∧ ¬PagePreserves "SELECT 1 -- one" 1000 0 := by
  constructor
  · refine ⟨"SELECT 1 -- one", "", rfl, by simp, ?_, ?_⟩
    · unfold Closed
      decide +kernel
    · decide +kernel
  · unfold PagePreserves
    decide +kernel

end Onetcli.DuckDb
