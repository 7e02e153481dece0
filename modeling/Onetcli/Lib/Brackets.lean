import Onetcli.Lib.SqlTokens

/-!
The tokens of an SQL text in which a quoted text may begin and end with different characters, as
in `[name]`. It ends at its closing quote unless that one is doubled. What opens a quoted text,
and of which kind, is a parameter.
-/

namespace Onetcli.Brackets

open Chars SqlTokens

variable {Kind : Type}

inductive Token (Kind : Type) where
  | quoted (kind : Kind) (contents : Chars)
  | word (text : Chars)
  | symbol (char : Char)
  | unterminated
  deriving DecidableEq

/-- What has been read of the token at the end, in reverse. -/
inductive State (Kind : Type) where
  | between
  | word (text : Chars)
  | inside (kind : Kind) (close : Char) (contents : Chars)
  | closing (kind : Kind) (close : Char) (contents : Chars)

/-- The kind of the quoted text that a character opens, and its closing quote. -/
abbrev Openers (Kind : Type) := Char → Option (Kind × Char)

variable (opens : Openers Kind)

@[grind =]
def start (char : Char) : List (Token Kind) × State Kind :=
  match opens char with
  | some (kind, close) => ([], .inside kind close [])
  | none =>
    if isWordChar char then ([], .word [char])
    else if Text.isWhiteSpace char then ([], .between)
    else ([.symbol char], .between)

@[grind =]
def step : State Kind → Char → List (Token Kind) × State Kind
  | .between, char => start opens char
  | .word text, char =>
    if isWordChar char then ([], .word (char :: text))
    else (.word text.reverse :: (start opens char).1, (start opens char).2)
  | .inside kind close contents, char =>
    if char = close then ([], .closing kind close contents)
    else ([], .inside kind close (char :: contents))
  | .closing kind close contents, char =>
    if char = close then ([], .inside kind close (char :: contents))
    else (.quoted kind contents.reverse :: (start opens char).1, (start opens char).2)

@[grind =]
def finish : State Kind → List (Token Kind)
  | .between => []
  | .word text => [.word text.reverse]
  | .inside _ _ _ => [.unterminated]
  | .closing kind _ contents => [.quoted kind contents.reverse]

@[grind =]
def tokensFrom : State Kind → Chars → List (Token Kind)
  | state, [] => finish state
  | state, char :: rest => (step opens state char).1 ++ tokensFrom (step opens state char).2 rest

def tokens (text : Chars) : List (Token Kind) := tokensFrom opens .between text

variable {opens}

theorem tokensFrom_closing {kind : Kind} {close : Char} {rest : Chars}
    (other : rest.head? ≠ some close) (contents : Chars) :
    tokensFrom opens (.closing kind close contents) rest =
      .quoted kind contents.reverse :: tokens opens rest := by
  cases rest with
  | nil => rfl
  | cons char rest =>
    have different : char ≠ close := fun same => other (by rw [same]; rfl)
    simp [tokensFrom, tokens, step, different]

theorem tokensFrom_doubled (kind : Kind) (close : Char) (text contents rest : Chars) :
    tokensFrom opens (.inside kind close contents) (doubled close text ++ rest) =
      tokensFrom opens (.inside kind close (text.reverse ++ contents)) rest := by
  induction text generalizing contents with
  | nil => rfl
  | cons char text ih =>
    by_cases isClose : char = close
    · subst isClose
      -- the first of the two seems to close the text, the second takes that back
      rw [doubled, if_pos rfl, List.cons_append, List.cons_append, tokensFrom, tokensFrom]
      simp [step, ih]
    · rw [doubled, if_neg isClose, List.cons_append, tokensFrom]
      simp [step, isClose, ih]

theorem tokens_quoted {opener close : Char} {kind : Kind} (opened : opens opener = some (kind, close))
    (text : Chars) {rest : Chars} (other : rest.head? ≠ some close) :
    tokens opens (opener :: (doubled close text ++ close :: rest)) =
      .quoted kind text :: tokens opens rest := by
  have begins : tokens opens (opener :: (doubled close text ++ close :: rest)) =
      tokensFrom opens (.inside kind close []) (doubled close text ++ close :: rest) := by
    simp [tokens, tokensFrom, step, start, opened]
  rw [begins, tokensFrom_doubled, tokensFrom]
  simp [step, tokensFrom_closing other]

theorem tokens_symbol {char : Char} (plain : opens char = none) (sign : isWordChar char = false)
    (solid : Text.isWhiteSpace char = false) (rest : Chars) :
    tokens opens (char :: rest) = .symbol char :: tokens opens rest := by
  simp [tokens, tokensFrom, step, start, plain, sign, solid]

theorem tokens_blank {char : Char} (plain : opens char = none) (sign : isWordChar char = false)
    (blank : Text.isWhiteSpace char = true) (rest : Chars) :
    tokens opens (char :: rest) = tokens opens rest := by
  simp [tokens, tokensFrom, step, start, plain, sign, blank]

theorem tokensFrom_word (word read rest : Chars) (letters : ∀ char ∈ word, isWordChar char = true)
    (ends : ∀ char ∈ rest.head?, isWordChar char = false) :
    tokensFrom opens (.word read) (word ++ rest) =
      .word (read.reverse ++ word) :: tokens opens rest := by
  induction word generalizing read with
  | nil =>
    rw [List.append_nil, List.nil_append]
    cases rest with
    | nil => rfl
    | cons char rest =>
      have sign := ends char rfl
      simp [tokensFrom, tokens, step, sign]
  | cons char word ih =>
    have letter := letters char List.mem_cons_self
    rw [List.cons_append, tokensFrom]
    simp only [step, letter, if_true, List.nil_append]
    rw [ih (char :: read) fun other among => letters other (List.mem_cons_of_mem _ among)]
    simp

theorem tokens_word {first : Char} {word rest : Chars} (plain : opens first = none)
    (letters : ∀ char ∈ first :: word, isWordChar char = true)
    (ends : ∀ char ∈ rest.head?, isWordChar char = false) :
    tokens opens (first :: (word ++ rest)) = .word (first :: word) :: tokens opens rest := by
  have letter := letters first List.mem_cons_self
  have begins : tokens opens (first :: (word ++ rest)) =
      tokensFrom opens (.word [first]) (word ++ rest) := by
    simp [tokens, tokensFrom, step, start, plain, letter]
  rw [begins, tokensFrom_word word [first] rest
    (fun char among => letters char (List.mem_cons_of_mem _ among)) ends]
  rfl

def contentsOf [DecidableEq Kind] (kind : Kind) (tokens : List (Token Kind)) : List Chars :=
  tokens.filterMap fun token =>
    match token with
    | .quoted other contents => if other = kind then some contents else none
    | _ => none

theorem contentsOf_separated [DecidableEq Kind] (kind : Kind) (char : Char) (items : List Chars) :
    contentsOf kind ((items.map (Token.quoted kind)).intersperse (.symbol char)) = items := by
  induction items with
  | nil => rfl
  | cons item rest ih =>
    cases rest with
    | nil => simp [contentsOf]
    | cons next rest =>
      simp only [List.map_cons, List.intersperse_cons_cons] at ih ⊢
      simp only [contentsOf, List.filterMap_cons, if_true] at ih ⊢
      rw [ih]

end Onetcli.Brackets
