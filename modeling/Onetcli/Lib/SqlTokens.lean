import Mathlib.Data.List.Forall2
import Onetcli.Lib.Chars

/-!
The tokens of an SQL text, read one character at a time. A quoted text ends at its
quote unless the quote is doubled, and in some dialects a backslash takes the next
character along. Comments are tokens, and a text that ends inside a quoted text or a
comment has an unterminated one.
-/

namespace Onetcli.SqlTokens

open Chars

inductive Kind where
  | literal
  | identifier
  deriving DecidableEq

inductive Token where
  | word (text : Chars)
  | symbol (char : Char)
  | quoted (kind : Kind) (contents : Chars)
  | comment
  | unterminated
  deriving DecidableEq

structure Dialect where
  kind : Char → Option Kind
  backslash : Char → Bool
  hashComment : Bool
  dashBlank : Bool

/-- What has been read of the token at the end, quoted contents in reverse. -/
inductive State where
  | between
  | word (text : Chars)
  | dash
  | dashes
  | slash
  | inside (quote : Char) (contents : Chars)
  | escaped (quote : Char) (contents : Chars)
  | closing (quote : Char) (contents : Chars)
  | line
  | block
  | star

def isWordChar (char : Char) : Bool :=
  isAsciiAlphanumeric char || char == '_' || char == '$' || 128 ≤ char.toNat

variable (dialect : Dialect)

def start (char : Char) : List Token × State :=
  if (dialect.kind char).isSome then ([], .inside char [])
  else if isWordChar char then ([], .word [char])
  else if char = '-' then ([], .dash)
  else if char = '/' then ([], .slash)
  else if char = '#' ∧ dialect.hashComment = true then ([], .line)
  else if Text.isWhiteSpace char then ([], .between)
  else ([.symbol char], .between)

def quotedToken (quote : Char) (contents : Chars) : Token :=
  .quoted ((dialect.kind quote).getD .literal) contents.reverse

def after (read : List Token) (char : Char) : List Token × State :=
  (read ++ (start dialect char).1, (start dialect char).2)

def step : State → Char → List Token × State
  | .between, char => start dialect char
  | .word text, char =>
    if isWordChar char then ([], .word (char :: text))
    else after dialect [.word text.reverse] char
  | .dash, char =>
    if char = '-' then ([], if dialect.dashBlank then .dashes else .line)
    else after dialect [.symbol '-'] char
  | .dashes, char =>
    if char = '\n' then ([.comment], .between)
    else if Text.isWhiteSpace char then ([], .line)
    else if char = '-' then ([.symbol '-'], .dashes)
    else after dialect [.symbol '-', .symbol '-'] char
  | .slash, char =>
    if char = '*' then ([], .block) else after dialect [.symbol '/'] char
  | .inside quote contents, char =>
    if char = quote then ([], .closing quote contents)
    else if char = '\\' ∧ dialect.backslash quote = true then
      ([], .escaped quote (char :: contents))
    else ([], .inside quote (char :: contents))
  | .escaped quote contents, char => ([], .inside quote (char :: contents))
  | .closing quote contents, char =>
    if char = quote then ([], .inside quote (char :: contents))
    else after dialect [quotedToken dialect quote contents] char
  | .line, char => if char = '\n' then ([.comment], .between) else ([], .line)
  | .block, char => ([], if char = '*' then .star else .block)
  | .star, char =>
    if char = '/' then ([.comment], .between)
    else ([], if char = '*' then .star else .block)

def finish : State → List Token
  | .between => []
  | .word text => [.word text.reverse]
  | .dash => [.symbol '-']
  | .dashes => [.comment]
  | .slash => [.symbol '/']
  | .closing quote contents => [quotedToken dialect quote contents]
  | .line => [.comment]
  | .inside _ _ | .escaped _ _ | .block | .star => [.unterminated]

def run (state : State) : Chars → List Token × State
  | [] => ([], state)
  | char :: rest =>
    let (read, next) := step dialect state char
    let (others, last) := run next rest
    (read ++ others, last)

def tokensFrom (state : State) (text : Chars) : List Token :=
  (run dialect state text).1 ++ finish dialect (run dialect state text).2

def tokens (text : Chars) : List Token := tokensFrom dialect .between text

/-! ## Reading on -/

@[simp] theorem run_nil (state : State) : run dialect state [] = ([], state) := rfl

theorem run_cons (state : State) (char : Char) (rest : Chars) : run dialect state (char :: rest) =
      ((step dialect state char).1 ++ (run dialect (step dialect state char).2 rest).1,
        (run dialect (step dialect state char).2 rest).2) := rfl

theorem run_append (state : State) (first second : Chars) : run dialect state (first ++ second) =
      ((run dialect state first).1 ++ (run dialect (run dialect state first).2 second).1,
        (run dialect (run dialect state first).2 second).2) := by
  induction first generalizing state with
  | nil => rfl
  | cons char rest ih =>
    rw [List.cons_append, run_cons, ih, run_cons]
    simp only [List.append_assoc]

theorem tokensFrom_append (state : State) (first second : Chars) :
    tokensFrom dialect state (first ++ second) =
      (run dialect state first).1 ++ tokensFrom dialect (run dialect state first).2 second := by
  rw [tokensFrom, run_append, tokensFrom, List.append_assoc]

/-- A token ends before a character that cannot belong to it. -/
def Ends (state : State) (char : Char) : Prop :=
  step dialect state char = after dialect (finish dialect state) char

theorem tokensFrom_ends {state : State} {char : Char} (ends : Ends dialect state char)
    (rest : Chars) : tokensFrom dialect state (char :: rest) =
      finish dialect state ++ tokens dialect (char :: rest) := by
  have first : step dialect state char = _ := ends
  rw [tokens, tokensFrom, tokensFrom, run_cons, run_cons, first]
  simp only [after, step, List.append_assoc]

/-! ## Quoted texts -/

/-- A text with its quotes doubled. -/
def doubled (quote : Char) : Chars → Chars
  | [] => []
  | char :: rest =>
    if char = quote then quote :: quote :: doubled quote rest else char :: doubled quote rest

theorem doubled_injective {quote : Char} {first second : Chars}
    (same : doubled quote first = doubled quote second) : first = second := by
  induction first generalizing second with
  | nil =>
    cases second with
    | nil => rfl
    | cons other others =>
      rw [doubled, doubled] at same
      split at same <;> cases same
  | cons char rest ih =>
    cases second with
    | nil =>
      rw [doubled, doubled] at same
      split at same <;> cases same
    | cons other others =>
      rw [doubled, doubled] at same
      by_cases isQuote : char = quote
      · by_cases otherQuote : other = quote
        · rw [if_pos isQuote, if_pos otherQuote] at same
          rw [isQuote, otherQuote, ih (List.cons.inj (List.cons.inj same).2).2]
        · rw [if_pos isQuote, if_neg otherQuote] at same
          exact absurd (List.cons.inj same).1.symm otherQuote
      · by_cases otherQuote : other = quote
        · rw [if_neg isQuote, if_pos otherQuote] at same
          exact absurd (List.cons.inj same).1 isQuote
        · rw [if_neg isQuote, if_neg otherQuote] at same
          rw [(List.cons.inj same).1, ih (List.cons.inj same).2]

theorem replaceFrom_doubled (quote : Char) (text : Chars) :
    Text.replaceFrom [quote] [quote, quote] 0 text = doubled quote text := by
  induction text with
  | nil => rfl
  | cons char rest ih =>
    rw [Text.replaceFrom, doubled]
    by_cases isQuote : char = quote
    · subst isQuote
      simp [List.isPrefixOf, ih]
    · simp [List.isPrefixOf, isQuote, Ne.symm isQuote, ih]

/-- No backslash takes a quote along: a run of backslashes before a quote or at the end
has an even length. -/
def keepsQuote (quote : Char) : Chars → Bool
  | [] => true
  | ['\\'] => false
  | '\\' :: char :: rest => char != quote && keepsQuote quote rest
  | _ :: rest => keepsQuote quote rest

/-- A doubled text stays between its quotes. -/
def Contained (quote : Char) (text : Chars) : Prop :=
  dialect.backslash quote = false ∨ keepsQuote quote text = true

variable {dialect} {quote : Char}

theorem run_inside_quote (contents : Chars) (rest : Chars) :
    run dialect (.inside quote contents) (quote :: quote :: rest) =
      run dialect (.inside quote (quote :: contents)) rest := by
  simp [run_cons, step]

theorem run_inside_plain {char : Char} (other : char ≠ quote)
    (taken : dialect.backslash quote = false ∨ char ≠ '\\') (contents rest : Chars) :
    run dialect (.inside quote contents) (char :: rest) =
      run dialect (.inside quote (char :: contents)) rest := by
  have plain : ¬(char = '\\' ∧ dialect.backslash quote = true) := by
    rintro ⟨isBackslash, escapes⟩
    rcases taken with never | different
    · simp [never] at escapes
    · exact different isBackslash
  simp [run_cons, step, other, plain]

theorem run_inside_backslash (escapes : dialect.backslash quote = true) (other : '\\' ≠ quote)
    (char : Char) (contents rest : Chars) :
    run dialect (.inside quote contents) ('\\' :: char :: rest) =
      run dialect (.inside quote (char :: '\\' :: contents)) rest := by
  simp [run_cons, step, other, escapes]

theorem run_doubled_plain (never : dialect.backslash quote = false) (text contents : Chars) :
    run dialect (.inside quote contents) (doubled quote text) =
      ([], .inside quote (text.reverse ++ contents)) := by
  induction text generalizing contents with
  | nil => rfl
  | cons char rest ih =>
    by_cases isQuote : char = quote
    · subst isQuote
      rw [doubled, if_pos rfl, run_inside_quote, ih]
      simp
    · rw [doubled, if_neg isQuote, run_inside_plain isQuote (Or.inl never), ih]
      simp

theorem run_doubled_keeps (other : '\\' ≠ quote) {text : Chars}
    (keeps : keepsQuote quote text = true) (contents : Chars) :
    run dialect (.inside quote contents) (doubled quote text) =
      ([], .inside quote (text.reverse ++ contents)) := by
  by_cases escapes : dialect.backslash quote = true
  · fun_induction keepsQuote quote text generalizing contents with
    | case1 => rfl
    | case2 => simp at keeps
    | case3 char rest ih =>
      rw [Bool.and_eq_true] at keeps
      have different : char ≠ quote := by simpa using keeps.1
      rw [doubled, if_neg other, doubled, if_neg different,
        run_inside_backslash escapes other, ih keeps.2]
      simp
    | case4 char rest notLast notPair ih =>
      by_cases isQuote : char = quote
      · subst isQuote
        rw [doubled, if_pos rfl, run_inside_quote, ih keeps]
        simp
      · have different : char ≠ '\\' := by
          rintro rfl
          cases rest with
          | nil => exact notLast rfl rfl
          | cons next others => exact notPair next others rfl rfl
        rw [doubled, if_neg isQuote, run_inside_plain isQuote (Or.inr different), ih keeps]
        simp
  · exact run_doubled_plain (by simpa using escapes) text contents

theorem run_doubled (other : '\\' ≠ quote) {text : Chars} (held : Contained dialect quote text)
    (contents : Chars) : run dialect (.inside quote contents) (doubled quote text) =
      ([], .inside quote (text.reverse ++ contents)) := by
  rcases held with never | keeps
  · exact run_doubled_plain never text contents
  · exact run_doubled_keeps other keeps contents

end Onetcli.SqlTokens
