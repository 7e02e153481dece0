import Onetcli.DuckDb.PageTexts
import Onetcli.Lib.SqlTokens

/-!
The row limit of an export of the openGauss driver, `handle_data_export` of
extensions/ipc/opengauss/src/handlers.rs: ` LIMIT` and the number are put behind the text of the
query, whatever it ends with. The engine reads texts as PostgreSQL does, and the clauses behind a
query by the words that begin them.
-/

namespace Onetcli.OpenGauss

open Chars DuckDb ExportColumns Scanners Text Scanner

/-- The statement that is sent. -/
def handleDataExport (p : ExportParams) (maxRows : Option Nat) : Except String String :=
  (exportSql p).map fun sql => match maxRows with
    | some maxRows => sql ++ " LIMIT " ++ toString maxRows
    | none => sql

/-! ## The clauses of a query -/

inductive Clause where
  /-- `LIMIT` or `FETCH`. -/
  | limit
  | offset
  /-- `FOR UPDATE` and its like. -/
  | locking
  deriving DecidableEq

def isWord (name : String) (token : SqlToken) : Bool :=
  match token with
  | .word text => text.map Char.toLower == name.toList
  | _ => false

def clauseOf (token : SqlToken) : Option Clause :=
  if isWord "limit" token || isWord "fetch" token then some .limit
  else if isWord "offset" token then some .offset
  else if isWord "for" token then some .locking
  else none

/-- Behind these any word is a name. -/
def asksName (token : SqlToken) : Bool := decide (token = .symbol '.') || isWord "as" token

abbrev Clauses := List (Clause × List SqlToken)

def push (token : SqlToken) (read : List SqlToken × Clauses) : List SqlToken × Clauses :=
  (token :: read.1, read.2)

/-- What stands before the first clause, and the clauses with what follows their words; a clause
begins outside of parentheses. -/
def clauses (depth : Nat) (named : Bool) : List SqlToken → Option (List SqlToken × Clauses)
  | [] => if depth = 0 ∧ named = false then some ([], []) else none
  | token :: rest =>
    if token = .symbol '(' then (clauses (depth + 1) false rest).map (push token)
    else if token = .symbol ')' then
      if depth = 0 then none else (clauses (depth - 1) false rest).map (push token)
    else match (if depth = 0 ∧ named = false then clauseOf token else none) with
      | some clause => (clauses 0 false rest).map fun read => ([], (clause, read.1) :: read.2)
      | none => (clauses depth (asksName token) rest).map (push token)

/-- Locking clauses come before the others, or behind them. -/
def lockingFirst (kinds : List Clause) : Bool :=
  (kinds.dropWhile (· == .locking)).all (· != .locking)

def lockingLast (kinds : List Clause) : Bool :=
  (kinds.dropWhile (· != .locking)).all (· == .locking)

def validClauses (found : Clauses) : Bool :=
  let kinds := found.map Prod.fst
  found.all (fun clause => !clause.2.isEmpty) &&
    (decide (kinds.count .limit ≤ 1) && decide (kinds.count .offset ≤ 1) &&
      (lockingFirst kinds || lockingLast kinds))

structure Query where
  body : List SqlToken
  clauses : Clauses

def readQuery (tokens : List SqlToken) : Option Query :=
  let front := withoutSemicolons tokens
  if .symbol ';' ∈ front then none
  else match clauses 0 false front with
    | some (body, found) => if body ≠ [] ∧ validClauses found = true then some ⟨body, found⟩ else none
    | none => none

/-! ## What a query gives -/

/-- The rows of a query without these clauses, and the numbers that clauses state. -/
structure Meaning (Row : Type) where
  rows : List SqlToken → List Row
  offset : List SqlToken → Nat
  /-- `none` for all rows. -/
  limit : List SqlToken → Option Nat
  spelled : ∀ number : Nat, limit [.word (toString number).toList] = some number

def Query.operand (query : Query) (kind : Clause) : Option (List SqlToken) :=
  (query.clauses.find? fun clause => clause.1 == kind).map Prod.snd

def Query.result {Row : Type} (meaning : Meaning Row) (query : Query) : List Row :=
  let rows := (meaning.rows query.body).drop
    (((query.operand .offset).map meaning.offset).getD 0)
  match (query.operand .limit).bind meaning.limit with
  | some number => rows.take number
  | none => rows

def limitTokens (maxRows : Nat) : List SqlToken :=
  [.word "LIMIT".toList, .word (toString maxRows).toList]

structure Limits (sql statement : String) (query : Query) (maxRows : Nat) : Prop where
  read : sqlTokens statement = sqlTokens sql ++ limitTokens maxRows
  result : ∃ limited, readQuery (sqlTokens statement) = some limited ∧
    ∀ (Row : Type) (meaning : Meaning Row),
      limited.result meaning = (query.result meaning).take maxRows

structure Query.Open (query : Query) : Prop where
  noLimit : .limit ∉ query.clauses.map Prod.fst
  locking : lockingFirst (query.clauses.map Prod.fst) = true

/-! ## A limit behind the clauses -/

theorem isWord_number (number : Nat) {name : String} {first : Char} {rest : Chars}
    (spelled : name.toList = first :: rest) (letter : isAsciiDigit first = false) :
    isWord name (.word (toString number).toList) = false := by
  have digits := fun char => @digit_part number char
  show ((toString number).toList.map Char.toLower == name.toList) = false
  rw [beq_eq_false_iff_ne, spelled]
  intro same
  cases text : (toString number).toList with
  | nil =>
    rw [text] at same
    cases same
  | cons digit others =>
    rw [text, List.map_cons] at same
    have here : isAsciiDigit digit = true := digits digit (text ▸ List.mem_cons_self)
    have small : digit.toLower = digit := by
      simp only [isAsciiDigit, Bool.and_eq_true, decide_eq_true_eq] at here
      delta Char.toLower
      rw [dif_neg]
      rintro ⟨low, _⟩
      have low : 65 ≤ digit.toNat := low
      omega
    have equal := (List.cons.inj same).1
    rw [small] at equal
    rw [equal, letter] at here
    cases here

theorem clauseOf_number (number : Nat) : clauseOf (.word (toString number).toList) = none := by
  have limit := isWord_number number (rfl : "limit".toList = 'l' :: "imit".toList) rfl
  have fetch := isWord_number number (rfl : "fetch".toList = 'f' :: "etch".toList) rfl
  have offset := isWord_number number (rfl : "offset".toList = 'o' :: "ffset".toList) rfl
  have locking := isWord_number number (rfl : "for".toList = 'f' :: "or".toList) rfl
  rw [clauseOf, limit, fetch, offset, locking]
  rfl

theorem clauses_number (number : Nat) : clauses 0 false (limitTokens number) =
    some ([], [(.limit, [.word (toString number).toList])]) := by
  have name := isWord_number number (rfl : "as".toList = 'a' :: "s".toList) rfl
  have second := clauseOf_number number
  have first : clauseOf (.word "LIMIT".toList) = some .limit := rfl
  unfold limitTokens
  generalize (toString number).toList = digits at name second ⊢
  generalize "LIMIT".toList = limit at first ⊢
  simp [clauses, first, second, asksName, name, push]

variable {tokens : List SqlToken}

theorem clauses_limit (maxRows : Nat) {depth : Nat} {named : Bool}
    {read : List SqlToken × Clauses} (found : clauses depth named tokens = some read) :
    clauses depth named (tokens ++ limitTokens maxRows) =
      some (read.1, read.2 ++ [(.limit, [.word (toString maxRows).toList])]) := by
  induction tokens generalizing depth named read with
  | nil =>
    rw [clauses] at found
    split at found
    · rename_i complete
      cases found
      rw [complete.1, complete.2]
      exact clauses_number maxRows
    · cases found
  | cons token rest ih =>
    rw [clauses] at found
    rw [List.cons_append, clauses]
    split
    · rename_i opens
      rw [if_pos opens] at found
      obtain ⟨later, here, rfl⟩ := Option.map_eq_some_iff.mp found
      rw [ih here]
      rfl
    · rename_i other
      rw [if_neg other] at found
      split
      · rename_i closes
        rw [if_pos closes] at found
        split at found
        · cases found
        · rename_i inside
          obtain ⟨later, here, rfl⟩ := Option.map_eq_some_iff.mp found
          rw [if_neg inside, ih here]
          rfl
      · rename_i plain
        rw [if_neg plain] at found
        split at found
        · obtain ⟨later, here, rfl⟩ := Option.map_eq_some_iff.mp found
          rw [ih here]
          rfl
        · obtain ⟨later, here, rfl⟩ := Option.map_eq_some_iff.mp found
          rw [ih here]
          rfl

theorem lockingFirst_limit (kinds : List Clause) :
    lockingFirst (kinds ++ [.limit]) = lockingFirst kinds := by
  induction kinds with
  | nil => rfl
  | cons kind rest ih =>
    cases kind with
    | locking => exact ih
    | limit =>
      show ((Clause.limit :: rest) ++ [Clause.limit]).all (· != Clause.locking) = _
      rw [List.all_append]
      exact Bool.and_true _
    | offset =>
      show ((Clause.offset :: rest) ++ [Clause.limit]).all (· != Clause.locking) = _
      rw [List.all_append]
      exact Bool.and_true _

theorem lockingLast_limit {kinds : List Clause} (last : lockingLast (kinds ++ [.limit]) = true) :
    lockingFirst kinds = true := by
  have none : .locking ∉ kinds := by
    induction kinds with
    | nil => exact List.not_mem_nil
    | cons kind rest ih =>
      cases kind with
      | locking => simp [lockingLast] at last
      | limit => simpa using ih last
      | offset => simpa using ih last
  refine List.all_eq_true.mpr fun kind among => bne_iff_ne.mpr ?_
  rintro rfl
  exact none ((List.dropWhile_suffix _).mem among)

theorem validClauses_limit {found : Clauses} (valid : validClauses found = true)
    {operand : List SqlToken} (filled : operand ≠ []) :
    validClauses (found ++ [(.limit, operand)]) = true ↔
      .limit ∉ found.map Prod.fst ∧ lockingFirst (found.map Prod.fst) = true := by
  simp only [validClauses, Bool.and_eq_true, Bool.or_eq_true, decide_eq_true_eq, List.all_append,
    List.map_append, List.count_append] at valid ⊢
  obtain ⟨operands, ⟨limits, offsets⟩, order⟩ := valid
  have one : List.count Clause.limit (List.map Prod.fst [(Clause.limit, operand)]) = 1 := rfl
  have zero : List.count Clause.offset (List.map Prod.fst [(Clause.limit, operand)]) = 0 := rfl
  have single : List.map Prod.fst [(Clause.limit, operand)] = [Clause.limit] := rfl
  rw [one, zero, single, lockingFirst_limit, ← List.count_eq_zero]
  constructor
  · rintro ⟨_, ⟨limit, _⟩, first | last⟩
    · exact ⟨by omega, first⟩
    · exact ⟨by omega, lockingLast_limit last⟩
  · rintro ⟨none, first⟩
    exact ⟨⟨operands, by simpa using filled⟩, ⟨by omega, by omega⟩, Or.inl first⟩

/-! ## The query with the limit -/

theorem withoutSemicolons_limit (tokens : List SqlToken) (maxRows : Nat) :
    withoutSemicolons (tokens ++ limitTokens maxRows) = tokens ++ limitTokens maxRows := by
  rw [withoutSemicolons_self, limitTokens, List.getLast?_append]
  simp

theorem readQuery_iff {query : Query} :
    readQuery tokens = some query ↔ .symbol ';' ∉ withoutSemicolons tokens ∧
      clauses 0 false (withoutSemicolons tokens) = some (query.body, query.clauses) ∧
      query.body ≠ [] ∧ validClauses query.clauses = true := by
  rw [readQuery]
  split
  · rename_i semicolon
    simp [semicolon]
  · rename_i closed
    rw [and_iff_right closed]
    cases clauses 0 false (withoutSemicolons tokens) with
    | none => simp
    | some read =>
      obtain ⟨body, found⟩ := read
      obtain ⟨queryBody, queryClauses⟩ := query
      show (if body ≠ [] ∧ validClauses found = true then some (Query.mk body found) else none) =
          some ⟨queryBody, queryClauses⟩ ↔ _
      by_cases complete : body ≠ [] ∧ validClauses found = true
      · rw [if_pos complete, Option.some.injEq, Query.mk.injEq, Option.some.injEq,
          Prod.mk.injEq]
        constructor
        · rintro ⟨rfl, rfl⟩
          exact ⟨⟨rfl, rfl⟩, complete⟩
        · exact fun same => same.1
      · rw [if_neg complete, Option.some.injEq, Prod.mk.injEq]
        constructor
        · intro same
          cases same
        · rintro ⟨⟨rfl, rfl⟩, filled⟩
          exact absurd filled complete

theorem withoutSemicolons_absent (closed : .symbol ';' ∉ tokens) :
    withoutSemicolons tokens = tokens :=
  withoutSemicolons_self.mpr fun last => closed (List.mem_of_getLast? last)

theorem semicolon_limitTokens (maxRows : Nat) : .symbol ';' ∉ limitTokens maxRows := by
  simp [limitTokens]

theorem readQuery_limit (closed : .symbol ';' ∉ tokens) {query : Query}
    (read : readQuery tokens = some query) (opened : query.Open) (maxRows : Nat) :
    readQuery (tokens ++ limitTokens maxRows) =
      some ⟨query.body, query.clauses ++ [(.limit, [.word (toString maxRows).toList])]⟩ := by
  rw [readQuery_iff, withoutSemicolons_absent closed] at read
  obtain ⟨_, found, filled, valid⟩ := read
  rw [readQuery_iff, withoutSemicolons_limit, List.mem_append, not_or]
  exact ⟨⟨closed, semicolon_limitTokens maxRows⟩, clauses_limit maxRows found, filled,
    (validClauses_limit valid (List.cons_ne_nil _ _)).mpr ⟨opened.noLimit, opened.locking⟩⟩

theorem readQuery_limit_open {query : Query}
    (read : readQuery tokens = some query) {maxRows : Nat} {limited : Query}
    (reads : readQuery (tokens ++ limitTokens maxRows) = some limited) :
    .symbol ';' ∉ tokens ∧ query.Open := by
  rw [readQuery_iff, withoutSemicolons_limit, List.mem_append, not_or] at reads
  obtain ⟨⟨closed, _⟩, found, _, valid⟩ := reads
  rw [readQuery_iff, withoutSemicolons_absent closed] at read
  obtain ⟨_, here, _, validHere⟩ := read
  have same := (clauses_limit maxRows here).symm.trans found
  rw [Option.some.injEq, Prod.mk.injEq] at same
  rw [← same.2] at valid
  obtain ⟨noLimit, locking⟩ := (validClauses_limit validHere (List.cons_ne_nil _ _)).mp valid
  exact ⟨closed, noLimit, locking⟩

theorem result_limit {query : Query} (opened : query.Open) (maxRows : Nat) {Row : Type}
    (meaning : Meaning Row) : Query.result meaning
      ⟨query.body, query.clauses ++ [(.limit, [.word (toString maxRows).toList])]⟩ =
      (query.result meaning).take maxRows := by
  have none : query.clauses.find? (fun clause => clause.1 == .limit) = none := by
    refine List.find?_eq_none.mpr fun clause among same => opened.noLimit ?_
    exact beq_iff_eq.mp same ▸ List.mem_map_of_mem among
  have offset : Query.operand ⟨query.body, query.clauses ++
      [(.limit, [.word (toString maxRows).toList])]⟩ .offset = query.operand .offset := by
    have skipped : (Clause.limit == Clause.offset) = false := rfl
    simp [Query.operand, List.find?_append, skipped]
  have limit : Query.operand ⟨query.body, query.clauses ++
      [(.limit, [.word (toString maxRows).toList])]⟩ .limit =
      some [.word (toString maxRows).toList] := by
    rw [Query.operand, List.find?_append, none]
    rfl
  have before : query.operand .limit = .none := by
    rw [Query.operand, none]
    rfl
  rw [Query.result, Query.result, offset, limit, before, Option.bind_some, meaning.spelled]
  rfl

/-! ## The text with the limit -/

def limitText (maxRows : Nat) : Chars := " LIMIT ".toList ++ (toString maxRows).toList

theorem limitText_read (maxRows : Nat) :
    sqlScanner.tokens (limitText maxRows) = limitTokens maxRows := by
  have front : Reads " LIMIT ".toList [.word "LIMIT".toList] := by
    constructor <;> decide +kernel
  have number := @tokens_number maxRows [] (by simp)
  have none : sqlScanner.tokens [] = [] := rfl
  rw [List.append_nil, none] at number
  unfold limitText limitTokens
  rw [front.tokens, number, List.singleton_append]

theorem limitText_lost (maxRows : Nat) : sqlScanner.tokensFrom .line (limitText maxRows) = [] := by
  have stays : ∀ char ∈ limitText maxRows, char ≠ '\n' ∧ char ≠ '\r' := by
    intro char among
    rcases List.mem_append.mp among with front | digit
    · have plain : " LIMIT ".toList.all (fun char => char != '\n' && char != '\r') = true := rfl
      simpa using List.all_eq_true.mp plain char front
    · have digit := digit_part digit
      constructor <;> (rintro rfl; cases digit)
  have silent : sqlScanner.run .line (limitText maxRows) = ([], .line) := by
    refine run_silent fun char among => ?_
    show stepToken .line char = _
    simp [stepToken, stays char among]
  rw [tokensFrom, silent]
  rfl

theorem tokens_limit {sql : String} (closed : Closed sql) (maxRows : Nat) :
    sqlTokens (sql ++ " LIMIT " ++ toString maxRows) =
      if endState sql = .line then sqlTokens sql else sqlTokens sql ++ limitTokens maxRows := by
  have spelled : (sql ++ " LIMIT " ++ toString maxRows).toList =
      sql.toList ++ limitText maxRows := by
    unfold limitText
    rw [String.toList_append, String.toList_append, List.append_assoc]
  rw [sqlTokens, spelled]
  split
  · rename_i line
    have onward := @tokensFrom_append _ _ _ sqlScanner .between sql.toList
      (limitText maxRows)
    have lost := limitText_lost maxRows
    have last : finishToken (endState sql) = [] := by rw [line, finishToken]
    rw [← line, endState] at lost
    rw [lost, List.append_nil] at onward
    rw [sqlTokens_split, last, List.append_nil]
    exact onward
  · rename_i code
    have blank : limitText maxRows = ' ' :: ("LIMIT ".toList ++ (toString maxRows).toList) := by
      have front : " LIMIT ".toList = ' ' :: "LIMIT ".toList := rfl
      unfold limitText
      rw [front, List.cons_append]
    have ends : sqlScanner.Ends (sqlScanner.run sqlScanner.start sql.toList).2 ' ' :=
      ends_before rfl closed code
    rw [← limitText_read, blank]
    exact tokens_append ends _

theorem limits_iff {sql : String} (closed : Closed sql) {query : Query}
    (read : readQuery (sqlTokens sql) = some query) (maxRows : Nat) :
    Limits sql (sql ++ " LIMIT " ++ toString maxRows) query maxRows ↔
      endState sql ≠ .line ∧ .symbol ';' ∉ sqlTokens sql ∧ query.Open := by
  have tokens := tokens_limit closed maxRows
  constructor
  · rintro ⟨same, limited, reads, _⟩
    have code : endState sql ≠ .line := by
      intro line
      rw [tokens, if_pos line] at same
      have lengths := congrArg List.length same
      simp [limitTokens] at lengths
    rw [same] at reads
    exact ⟨code, readQuery_limit_open read reads⟩
  · rintro ⟨code, semicolon, opened⟩
    rw [if_neg code] at tokens
    exact ⟨tokens, _, tokens ▸ readQuery_limit semicolon read opened maxRows,
      fun Row meaning => result_limit opened maxRows meaning⟩

/-! ## The query of a table -/

theorem reads_append {first second : Chars} {tokens others : List SqlToken}
    (reads : Reads first tokens) (later : Reads second others) :
    Reads (first ++ second) (tokens ++ others) := by
  rw [Reads, run_append, reads.1, reads.2]
  exact ⟨congrArg (tokens ++ ·) later.1, later.2⟩

def quotedText (name : String) : Chars := (quoteIdentifier name).toList

def quotedName (name : String) : SqlToken := .quoted .identifier name.toList

theorem run_quoted (text contents : Chars) :
    sqlScanner.run (.inside .identifier contents) (SqlTokens.doubled '"' text) =
      ([], .inside .identifier (text.reverse ++ contents)) := by
  induction text generalizing contents with
  | nil => rfl
  | cons char rest ih =>
    rw [List.reverse_cons, List.append_assoc, SqlTokens.doubled]
    split
    · rename_i quote
      subst quote
      exact ih _
    · rename_i other
      have step : stepToken (.inside .identifier contents) char =
          ([], .inside .identifier (char :: contents)) := by
        simp [stepToken, Quote.char, other]
      rw [run]
      simp only [sqlScanner] at ih ⊢
      rw [step, ih]
      rfl

theorem run_quotedText (name : String) : sqlScanner.run .between (quotedText name) =
    ([], .closing .identifier name.toList.reverse) := by
  have text : quotedText name = '"' :: (SqlTokens.doubled '"' name.toList ++ ['"']) := by
    unfold quotedText quoteIdentifier enclose replaceAll
    rw [String.toList_append, String.toList_append]
    show ['"'] ++ (String.ofList (replaceFrom ['"'] ['"', '"'] 0 name.toList)).toList ++ ['"'] = _
    rw [String.toList_ofList, SqlTokens.replaceFrom_doubled]
    rfl
  have inner := run_quoted name.toList []
  rw [List.append_nil] at inner
  rw [text, run]
  show ((sqlScanner.run (.inside .identifier []) (SqlTokens.doubled '"' name.toList ++ ['"'])).1,
    (sqlScanner.run (.inside .identifier []) (SqlTokens.doubled '"' name.toList ++ ['"'])).2) = _
  rw [run_append, inner]
  rfl

theorem quotedText_reads (name : String) {mark : Char} (other : mark ≠ '"')
    {marks : List SqlToken} (begins : startToken mark = (marks, .between)) :
    Reads (quotedText name ++ [mark]) (quotedName name :: marks) := by
  have step : stepToken (.closing .identifier name.toList.reverse) mark =
      (quotedName name :: marks, .between) := by
    have apart : ¬mark = Quote.identifier.char := other
    rw [stepToken, if_neg apart, afterToken, begins, List.reverse_reverse]
    rfl
  have last : sqlScanner.run (.closing .identifier name.toList.reverse) [mark] =
      (quotedName name :: marks, .between) := by
    rw [run, run]
    simp only [sqlScanner, step, List.append_nil]
  rw [Reads, run_append, run_quotedText, last]
  exact ⟨rfl, rfl⟩

theorem intercalate_last {Item : Type} (separator : List Item) (init : List (List Item))
    (last : List Item) : separator.intercalate (init ++ [last]) =
      init.flatMap (· ++ separator) ++ last := by
  induction init with
  | nil => simp
  | cons first rest ih =>
    rw [List.cons_append, List.intercalate_cons_of_ne_nil (by simp), ih, List.flatMap_cons]
    simp

structure PlainToken (token : SqlToken) : Prop where
  noOpening : token ≠ .symbol '('
  noClosing : token ≠ .symbol ')'
  noEnd : token ≠ .symbol ';'
  noClause : clauseOf token = none

theorem clauses_plain (plain : ∀ token ∈ tokens, PlainToken token)
    {last : SqlToken} (lastPlain : PlainToken last) (complete : asksName last = false)
    (named : Bool) (rest : List SqlToken) :
    clauses 0 named (tokens ++ last :: rest) = (clauses 0 false rest).map fun read =>
      (tokens ++ last :: read.1, read.2) := by
  induction tokens generalizing named with
  | nil =>
    rw [List.nil_append, clauses, if_neg lastPlain.noOpening, if_neg lastPlain.noClosing,
      lastPlain.noClause, ite_self, complete]
    rfl
  | cons token others ih =>
    obtain ⟨here, later⟩ := List.forall_mem_cons.mp plain
    rw [List.cons_append, clauses, if_neg here.noOpening, if_neg here.noClosing, here.noClause,
      ite_self]
    show (clauses 0 (asksName token) (others ++ last :: rest)).map (push token) = _
    rw [ih later, Option.map_map]
    rfl

theorem blank_reads : Reads [' '] [] := ⟨rfl, rfl⟩

theorem comma_reads (name : String) :
    Reads (quotedText name ++ ", ".toList) [quotedName name, .symbol ','] := by
  have comma : Reads (quotedText name ++ [',']) [quotedName name, .symbol ','] :=
    quotedText_reads name (by decide) rfl
  have parts : quotedText name ++ ", ".toList = (quotedText name ++ [',']) ++ [' '] := by simp
  rw [parts]
  exact reads_append comma blank_reads

theorem names_read {separator : Chars} {marks : List SqlToken}
    (reads : ∀ name, Reads (quotedText name ++ separator) (quotedName name :: marks))
    (names : List String) : Reads (names.flatMap fun name => quotedText name ++ separator)
      (names.flatMap fun name => quotedName name :: marks) := by
  induction names with
  | nil => exact ⟨rfl, rfl⟩
  | cons name rest ih =>
    rw [List.flatMap_cons, List.flatMap_cons]
    exact reads_append (reads name) ih

theorem names_plain {marks : List SqlToken} (plain : ∀ mark ∈ marks, PlainToken mark)
    (names : List String) :
    ∀ token ∈ names.flatMap fun name => quotedName name :: marks, PlainToken token := by
  intro token among
  obtain ⟨name, _, here⟩ := List.mem_flatMap.mp among
  rcases List.mem_cons.mp here with rfl | mark
  · exact ⟨by simp [quotedName], by simp [quotedName], by simp [quotedName], rfl⟩
  · exact plain token mark

theorem names_text {names : List String} (some : names ≠ []) (separator : String) :
    ∃ (init : List String) (last : String), (String.intercalate separator (names.map quoteIdentifier)).toList =
      (init.flatMap fun name => quotedText name ++ separator.toList) ++ quotedText last := by
  rcases List.eq_nil_or_concat names with none | ⟨init, last, rfl⟩
  · exact absurd none some
  · refine ⟨init, last, ?_⟩
    rw [String.toList_intercalate, List.concat_eq_append, List.map_append, List.map_append,
      List.map_singleton, List.map_singleton, intercalate_last, List.flatMap_map, List.flatMap_map]
    rfl

def columnsText (projection : DbIpc.Projection) : String :=
  match projection with
  | .star => "*"
  | .columns names => String.intercalate ", " (names.map quoteIdentifier)

theorem selection_reads (projection : DbIpc.Projection) (some : projection ≠ .columns []) :
    ∃ tokens, Reads ("SELECT ".toList ++ ((columnsText projection).toList ++ " FROM ".toList))
      tokens ∧ ∀ token ∈ tokens, PlainToken token := by
  cases projection with
  | star =>
    have all : Reads "SELECT * FROM ".toList
        [.word "SELECT".toList, .symbol '*', .word "FROM".toList] := by
      constructor <;> decide +kernel
    refine ⟨_, all, ?_⟩
    simp only [List.forall_mem_cons, List.not_mem_nil, false_implies, implies_true, and_true]
    exact ⟨⟨by simp, by simp, by simp, rfl⟩, ⟨by simp, by simp, by simp, rfl⟩,
      ⟨by simp, by simp, by simp, rfl⟩⟩
  | columns names =>
    have select : Reads "SELECT ".toList [.word "SELECT".toList] := by
      constructor <;> decide +kernel
    have from_ : Reads "FROM ".toList [.word "FROM".toList] := by
      constructor <;> decide +kernel
    have filled : names ≠ [] := fun none => some (none ▸ rfl)
    obtain ⟨init, last, text⟩ := names_text filled ", "
    have blank : Reads (quotedText last ++ [' ']) [quotedName last] :=
      quotedText_reads last (by decide) rfl
    have whole : "SELECT ".toList ++ ((columnsText (.columns names)).toList ++ " FROM ".toList) =
        "SELECT ".toList ++ ((init.flatMap fun name => quotedText name ++ ", ".toList) ++
          ((quotedText last ++ [' ']) ++ "FROM ".toList)) := by
      have split : " FROM ".toList = [' '] ++ "FROM ".toList := rfl
      rw [columnsText, text, split]
      simp only [List.append_assoc]
    rw [whole]
    refine ⟨_, reads_append select (reads_append (names_read comma_reads init)
      (reads_append blank from_)), ?_⟩
    intro token among
    rcases List.mem_append.mp among with first | among
    · rw [List.mem_singleton.mp first]
      exact ⟨by simp, by simp, by simp, rfl⟩
    · rcases List.mem_append.mp among with name | among
      · refine names_plain ?_ init token name
        intro mark here
        rw [List.mem_singleton.mp here]
        exact ⟨by simp, by simp, by simp, rfl⟩
      · rcases List.mem_append.mp among with name | last
        · rw [List.mem_singleton.mp name]
          exact ⟨by simp [quotedName], by simp [quotedName], by simp [quotedName], rfl⟩
        · rw [List.mem_singleton.mp last]
          exact ⟨by simp, by simp, by simp, rfl⟩

theorem plain_quotedName (name : String) : PlainToken (quotedName name) :=
  ⟨by simp [quotedName], by simp [quotedName], by simp [quotedName], rfl⟩

-- The text of the table's query: names and words up to the last name, and the condition.
theorem table_text {p : ExportParams} {sql : String} (noSql : notBlank p.sql = none)
    (exported : exportSql p = .ok sql) :
    ∃ front tokens last, Reads front tokens ∧ (∀ token ∈ tokens, PlainToken token) ∧
      sql.toList = front ++ (quotedText last ++ match notBlank p.whereClause with
        | some condition => " WHERE ".toList ++ condition.toList
        | none => []) := by
  rw [exportSql, exportQuery, noSql] at exported
  cases found : notBlank p.table with
  | none =>
    rw [found] at exported
    cases exported
  | some table =>
    rw [found] at exported
    let selected := p.includeColumns.filter (· ∉ p.excludeColumns)
    let projection := if p.includeColumns = [] ∨ selected = [] then DbIpc.Projection.star
      else .columns selected
    let names := [p.database, p.schema, some table].filterMap id |>.filter (!isBlank ·)
    have someColumns : projection ≠ .columns [] := by
      show (if p.includeColumns = [] ∨ selected = [] then DbIpc.Projection.star
        else .columns selected) ≠ .columns []
      split
      · exact fun same => nomatch same
      · rename_i filled
        intro same
        exact filled (Or.inr (DbIpc.Projection.columns.inj same))
    have solid : (!isBlank table) = true := (Option.filter_eq_some_iff.mp found).2
    have someNames : names ≠ [] := by
      refine List.ne_nil_of_mem (a := table) (List.mem_filter.mpr ⟨?_, solid⟩)
      exact List.mem_filterMap.mpr ⟨some table, by simp, rfl⟩
    obtain ⟨first, firstReads, firstPlain⟩ := selection_reads projection someColumns
    obtain ⟨init, last, text⟩ := names_text someNames "."
    have dot (name : String) : Reads (quotedText name ++ ".".toList)
        [quotedName name, .symbol '.'] := quotedText_reads name (by decide) rfl
    refine ⟨_, _, last, reads_append firstReads (names_read dot init), ?_, ?_⟩
    · refine List.forall_mem_append.mpr ⟨firstPlain, names_plain ?_ init⟩
      intro mark here
      rw [List.mem_singleton.mp here]
      exact ⟨by simp, by simp, by simp, rfl⟩
    · have spelled : sql = "SELECT " ++ columnsText projection ++ " FROM " ++
          String.intercalate "." (names.map quoteIdentifier) ++
            (match notBlank p.whereClause with
              | some condition => " WHERE " ++ condition
              | none => "") := (Except.ok.inj exported).symm
      rw [spelled, String.toList_append, String.toList_append, String.toList_append,
        String.toList_append, text]
      cases notBlank p.whereClause <;> simp

/-! ## Every export -/

structure Condition (condition : String) : Prop where
  closed : Closed condition
  noEnd : .symbol ';' ∉ sqlTokens condition
  noClause : clauses 0 false (sqlTokens condition) = some (sqlTokens condition, [])

/-- The text asks for one query, or the condition on the table is one. -/
def WellFormed (p : ExportParams) : Prop :=
  match notBlank p.sql with
  | some sql => Closed sql ∧ (readQuery (sqlTokens sql)).isSome = true
  | none => ∀ condition, notBlank p.whereClause = some condition → Condition condition

/-- A clause may follow: no comment, no semicolon and no limit is at the end. -/
def LeavesRoom (p : ExportParams) : Prop :=
  match notBlank p.sql with
  | some sql => endState sql ≠ .line ∧ .symbol ';' ∉ sqlTokens sql ∧
      ∀ query, readQuery (sqlTokens sql) = some query → query.Open
  | none => ∀ condition, notBlank p.whereClause = some condition → endState condition ≠ .line

/-- What is sent gives the first rows of the query that is asked for. -/
def ExportLimited (p : ExportParams) (maxRows : Nat) : Prop :=
  ∃ sql statement query, exportSql p = .ok sql ∧ handleDataExport p (some maxRows) = .ok statement ∧
    readQuery (sqlTokens sql) = some query ∧ Limits sql statement query maxRows

theorem readQuery_plain (some : tokens ≠ [])
    (noEnd : .symbol ';' ∉ tokens) (noClause : clauses 0 false tokens = .some (tokens, [])) :
    readQuery tokens = .some ⟨tokens, []⟩ := by
  rw [readQuery_iff, withoutSemicolons_absent noEnd]
  exact ⟨noEnd, noClause, some, rfl⟩

theorem plain_noEnd (plain : ∀ token ∈ tokens, PlainToken token) :
    .symbol ';' ∉ tokens := fun among => (plain _ among).noEnd rfl

-- The query of a table has no clauses, and ends as the condition does.
theorem table_query {p : ExportParams} {sql : String} (noSql : notBlank p.sql = none)
    (exported : exportSql p = .ok sql) (wellFormed : WellFormed p) :
    Closed sql ∧ .symbol ';' ∉ sqlTokens sql ∧
      (∃ body, readQuery (sqlTokens sql) = some ⟨body, []⟩) ∧
      (endState sql ≠ .line ↔ LeavesRoom p) := by
  rw [WellFormed, noSql] at wellFormed
  obtain ⟨front, tokens, last, reads, plain, text⟩ := table_text noSql exported
  rw [LeavesRoom, noSql]
  cases found : notBlank p.whereClause with
  | none =>
    rw [found, List.append_nil] at text
    have run : sqlScanner.run .between sql.toList =
        (tokens, .closing .identifier last.toList.reverse) := by
      rw [text, run_append, reads.1, reads.2, run_quotedText, List.append_nil]
    have state : endState sql = .closing .identifier last.toList.reverse := by
      rw [endState, run]
    have read : sqlTokens sql = tokens ++ [quotedName last] := by
      rw [sqlTokens_split, run, state, finishToken, List.reverse_reverse]
      rfl
    have noEnd : .symbol ';' ∉ sqlTokens sql := by
      rw [read, List.mem_append, not_or]
      exact ⟨plain_noEnd plain, by simp [quotedName]⟩
    have noClause : clauses 0 false (sqlTokens sql) = some (sqlTokens sql, []) := by
      rw [read, clauses_plain plain (plain_quotedName last) rfl]
      rfl
    refine ⟨by rw [Closed, state]; rfl, noEnd, ⟨_, readQuery_plain ?_ noEnd noClause⟩, ?_⟩
    · simp [read]
    · rw [state]
      exact ⟨fun _ condition same => (by cases same), fun _ line => (by cases line)⟩
  | some condition =>
    obtain ⟨closed, noEnd, noClause⟩ := wellFormed condition found
    rw [found] at text
    have where_ : Reads "WHERE ".toList [.word "WHERE".toList] := by
      constructor <;> decide +kernel
    have blank : Reads (quotedText last ++ [' ']) [quotedName last] :=
      quotedText_reads last (by decide) rfl
    have before := reads_append reads (reads_append blank where_)
    have split : sql.toList = (front ++ ((quotedText last ++ [' ']) ++ "WHERE ".toList)) ++
        condition.toList := by
      have space : " WHERE ".toList = [' '] ++ "WHERE ".toList := rfl
      rw [text, space]
      simp only [List.append_assoc]
    have run := @run_append _ _ _ sqlScanner .between
      (front ++ ((quotedText last ++ [' ']) ++ "WHERE ".toList)) condition.toList
    rw [before.1, before.2, ← split] at run
    have state : endState sql = endState condition := by
      rw [endState, run, endState]
    have read : sqlTokens sql =
        (tokens ++ [quotedName last]) ++ .word "WHERE".toList :: sqlTokens condition := by
      rw [sqlTokens_split, run, state, sqlTokens_split]
      simp only [List.append_assoc, List.cons_append, List.nil_append]
    have plainWhere : PlainToken (.word "WHERE".toList) := ⟨by simp, by simp, by simp, rfl⟩
    have plainFront : ∀ token ∈ tokens ++ [quotedName last], PlainToken token := by
      refine List.forall_mem_append.mpr ⟨plain, fun token here => ?_⟩
      rw [List.mem_singleton.mp here]
      exact plain_quotedName last
    have noEndWhole : .symbol ';' ∉ sqlTokens sql := by
      rw [read, List.mem_append, List.mem_cons, not_or, not_or]
      exact ⟨plain_noEnd plainFront, plainWhere.noEnd.symm, noEnd⟩
    have noClauseWhole : clauses 0 false (sqlTokens sql) = some (sqlTokens sql, []) := by
      rw [read, clauses_plain plainFront plainWhere rfl, noClause]
      rfl
    refine ⟨by rw [Closed, state]; exact closed, noEndWhole,
      ⟨_, readQuery_plain ?_ noEndWhole noClauseWhole⟩, ?_⟩
    · simp [read]
    · rw [state]
      exact ⟨fun code other same => Option.some.inj same ▸ code, fun room => room condition rfl⟩

theorem handleDataExport_ok {p : ExportParams} {sql : String} (exported : exportSql p = .ok sql)
    (maxRows : Nat) :
    handleDataExport p (some maxRows) = .ok (sql ++ " LIMIT " ++ toString maxRows) := by
  rw [handleDataExport, exported]
  rfl

/-- An export with a limit gives the first rows of its query if and only if the text leaves room
for the clause. -/
theorem export_limit_iff {p : ExportParams} {sql : String} (exported : exportSql p = .ok sql)
    (wellFormed : WellFormed p) (maxRows : Nat) : ExportLimited p maxRows ↔ LeavesRoom p := by
  have unfolded (query : Query) (read : readQuery (sqlTokens sql) = some query) :
      ExportLimited p maxRows ↔
        Limits sql (sql ++ " LIMIT " ++ toString maxRows) query maxRows := by
    constructor
    · rintro ⟨_, _, other, same, sent, reads, limits⟩
      cases exported.symm.trans same
      cases (handleDataExport_ok exported maxRows).symm.trans sent
      rw [read] at reads
      cases reads
      exact limits
    · exact fun limits =>
        ⟨sql, _, query, exported, handleDataExport_ok exported maxRows, read, limits⟩
  cases found : notBlank p.sql with
  | none =>
    obtain ⟨closed, noEnd, ⟨body, read⟩, room⟩ := table_query found exported wellFormed
    rw [unfolded _ read, limits_iff closed read, ← room]
    exact ⟨fun left => left.1, fun code => ⟨code, noEnd, List.not_mem_nil, rfl⟩⟩
  | some text =>
    have same : sql = text := by
      rw [exportSql, exportQuery, found] at exported
      exact (Except.ok.inj exported).symm
    subst same
    rw [WellFormed, found] at wellFormed
    obtain ⟨closed, some⟩ := wellFormed
    obtain ⟨query, read⟩ := Option.isSome_iff_exists.mp some
    rw [unfolded query read, limits_iff closed read, LeavesRoom, found]
    refine and_congr_right fun _ => and_congr_right fun _ => ⟨fun opened other reads => ?_,
      fun room => room query read⟩
    rw [read] at reads
    cases reads
    exact opened

/-! ## Two exports -/

def usersExport : ExportParams :=
  { table := some "users", schema := some "public", whereClause := some "id > 5 -- five\n" }

def commentedExport : ExportParams := { sql := some "SELECT id FROM users -- all" }

theorem usersExport_wellFormed : WellFormed usersExport := by
  have noSql : notBlank usersExport.sql = none := rfl
  have found : notBlank usersExport.whereClause = some "id > 5 -- five\n" := rfl
  rw [WellFormed, noSql, found]
  intro condition same
  cases same
  constructor
  · unfold Closed
    decide +kernel
  · decide +kernel
  · decide +kernel

theorem usersExport_room : LeavesRoom usersExport := by
  have noSql : notBlank usersExport.sql = none := rfl
  have found : notBlank usersExport.whereClause = some "id > 5 -- five\n" := rfl
  rw [LeavesRoom, noSql, found]
  intro condition same
  cases same
  decide +kernel

theorem usersExport_limited : ExportLimited usersExport 10 :=
  (export_limit_iff (p := usersExport) rfl usersExport_wellFormed 10).mpr usersExport_room

/-- The comment takes the limit along. -/
theorem comment_takes_limit :
    exportSql commentedExport = .ok "SELECT id FROM users -- all" ∧
      WellFormed commentedExport ∧ ¬ExportLimited commentedExport 10 := by
  have found : notBlank commentedExport.sql = some "SELECT id FROM users -- all" := rfl
  have closed : Closed "SELECT id FROM users -- all" := by
    unfold Closed
    decide +kernel
  have line : endState "SELECT id FROM users -- all" = .line := by decide +kernel
  refine ⟨rfl, ?_, ?_⟩
  · rw [WellFormed, found]
    exact ⟨closed, by decide +kernel⟩
  · rintro ⟨sql, statement, query, same, sent, _, limits⟩
    have exported : exportSql commentedExport = .ok "SELECT id FROM users -- all" := rfl
    have text : sql = "SELECT id FROM users -- all" :=
      Except.ok.inj (same.symm.trans exported)
    subst text
    have read := limits.read
    -- The clause stands in the comment, so the statement has the tokens of the query alone.
    rw [Except.ok.inj (sent.symm.trans (handleDataExport_ok exported 10)), tokens_limit closed,
      if_pos line] at read
    have lengths := congrArg List.length read
    simp [limitTokens] at lengths

end Onetcli.OpenGauss
