import Mathlib.Data.List.Basic

/-!
Records of quoted fields, read symbol by symbol. A record ends at an unquoted
terminator and a field at an unquoted delimiter; a field that begins with the
quote runs to the next quote that is not doubled. The alphabet is arbitrary.
-/

namespace Onetcli.Delimited

variable {Symbol : Type}

/-- The symbols with a meaning of their own, all different. -/
structure Dialect (Symbol : Type) where
  delimiter : Symbol
  quote : Symbol
  terminator : Symbol
  delimiter_ne_quote : delimiter ≠ quote
  delimiter_ne_terminator : delimiter ≠ terminator
  quote_ne_terminator : quote ≠ terminator

/-- Where the reader stands: before a field, inside an unquoted or a quoted one, or
after a quote that closes a field unless another follows. -/
inductive Position where
  | before
  | unquoted
  | quoted
  | closing
  deriving DecidableEq

variable [DecidableEq Symbol] (dialect : Dialect Symbol)

@[grind =]
def read : Position → List Symbol → List (List Symbol) → List Symbol →
    Option (List (List (List Symbol)))
  | .quoted, _, _, [] => none
  | .before, _, [], [] => some []
  | _, field, record, [] => some [record ++ [field]]
  | .quoted, field, record, symbol :: rest =>
    if symbol = dialect.quote then read .closing field record rest
    else read .quoted (field ++ [symbol]) record rest
  | position, field, record, symbol :: rest =>
    if symbol = dialect.delimiter then read .before [] (record ++ [field]) rest
    else if symbol = dialect.terminator then
      (read .before [] [] rest).map ((record ++ [field]) :: ·)
    else if symbol = dialect.quote then
      match position with
      | .before => read .quoted field record rest
      | .closing => read .quoted (field ++ [symbol]) record rest
      | _ => read .unquoted (field ++ [symbol]) record rest
    else if position = .closing then none
    else read .unquoted (field ++ [symbol]) record rest

def readRecords (text : List Symbol) : Option (List (List (List Symbol))) :=
  read dialect .before [] [] text

/-- The content of a quoted field, its quotes doubled. -/
def escape (value : List Symbol) : List Symbol :=
  value.flatMap fun symbol =>
    if symbol = dialect.quote then [dialect.quote, symbol] else [symbol]

def quoted (value : List Symbol) : List Symbol :=
  dialect.quote :: escape dialect value ++ [dialect.quote]

/-- The value can stand without quotes. -/
structure Plain (value : List Symbol) : Prop where
  delimiter : dialect.delimiter ∉ value
  quote : dialect.quote ∉ value
  terminator : dialect.terminator ∉ value

/-- The ways to write a field. -/
inductive Written (value : List Symbol) : List Symbol → Prop where
  | plain (isPlain : Plain dialect value) : Written value value
  | quoted : Written value (quoted dialect value)

def Ends (symbol : Symbol) : Prop := symbol = dialect.delimiter ∨ symbol = dialect.terminator

/-- What follows a complete field. -/
def finish (field : List Symbol) (record : List (List Symbol)) (symbol : Symbol)
    (rest : List Symbol) : Option (List (List (List Symbol))) :=
  if symbol = dialect.delimiter then read dialect .before [] (record ++ [field]) rest
  else (read dialect .before [] [] rest).map ((record ++ [field]) :: ·)

variable {dialect}

theorem read_escape (value field rest : List Symbol) (record : List (List Symbol)) :
    read dialect .quoted field record (escape dialect value ++ rest) =
      read dialect .quoted (field ++ value) record rest := by
  induction value generalizing field with
  | nil => simp [escape]
  | cons symbol value ih =>
    simp only [escape, List.flatMap_cons, List.append_assoc] at ih ⊢
    by_cases isQuote : symbol = dialect.quote
    · subst symbol
      -- The first of the two quotes seems to close the field, the second takes that back.
      simp [read, dialect.delimiter_ne_quote.symm, dialect.quote_ne_terminator, ih]
    · simp [read, isQuote, ih]

theorem read_unquoted {value : List Symbol} (isPlain : Plain dialect value) (field rest : List Symbol)
    (record : List (List Symbol)) : read dialect .unquoted field record (value ++ rest) =
      read dialect .unquoted (field ++ value) record rest := by
  induction value generalizing field with
  | nil => simp
  | cons symbol value ih =>
    obtain ⟨noDelimiter, noQuote, noTerminator⟩ := isPlain
    simp only [List.mem_cons, not_or] at noDelimiter noQuote noTerminator
    have step := ih ⟨noDelimiter.2, noQuote.2, noTerminator.2⟩ (field ++ [symbol])
    simp [read, Ne.symm noDelimiter.1, Ne.symm noQuote.1, Ne.symm noTerminator.1, step]

theorem read_end {symbol : Symbol} (ends : Ends dialect symbol) (position : Position)
    (notQuoted : position ≠ .quoted) (field rest : List Symbol) (record : List (List Symbol)) :
    read dialect position field record (symbol :: rest) =
      finish dialect field record symbol rest := by
  have notDelimiter := dialect.delimiter_ne_terminator.symm
  rcases ends with rfl | rfl
  · cases position <;> simp_all [read, finish]
  · cases position <;> simp_all [read, finish]

-- A written field is read back, whatever ends it.
theorem read_written {value text : List Symbol} (written : Written dialect value text)
    {symbol : Symbol} (ends : Ends dialect symbol) (record : List (List Symbol))
    (rest : List Symbol) : read dialect .before [] record (text ++ symbol :: rest) =
      finish dialect value record symbol rest := by
  cases written with
  | quoted =>
    have opens : read dialect .before [] record (quoted dialect value ++ symbol :: rest) =
        read dialect .quoted [] record
          (escape dialect value ++ dialect.quote :: symbol :: rest) := by
      simp [quoted, read, dialect.delimiter_ne_quote.symm, dialect.quote_ne_terminator]
    rw [opens, read_escape, List.nil_append]
    have closes : read dialect .quoted value record (dialect.quote :: symbol :: rest) =
        read dialect .closing value record (symbol :: rest) := by
      simp [read]
    rw [closes]
    exact read_end ends .closing (by decide) value rest record
  | plain isPlain =>
    cases value with
    | nil => exact read_end ends .before (by decide) [] rest record
    | cons first value =>
      obtain ⟨noDelimiter, noQuote, noTerminator⟩ := isPlain
      simp only [List.mem_cons, not_or] at noDelimiter noQuote noTerminator
      have opens : read dialect .before [] record (first :: value ++ symbol :: rest) =
          read dialect .unquoted [first] record (value ++ symbol :: rest) := by
        simp [read, Ne.symm noDelimiter.1, Ne.symm noQuote.1, Ne.symm noTerminator.1]
      rw [opens, read_unquoted ⟨noDelimiter.2, noQuote.2, noTerminator.2⟩]
      exact read_end ends .unquoted (by decide) _ rest record

variable (dialect)

inductive WrittenRecord : List (List Symbol) → List Symbol → Prop where
  | last {value text : List Symbol} (written : Written dialect value text) :
      WrittenRecord [value] (text ++ [dialect.terminator])
  | more {value text : List Symbol} {values : List (List Symbol)} {tail : List Symbol}
      (written : Written dialect value text) (others : WrittenRecord values tail) :
      WrittenRecord (value :: values) (text ++ dialect.delimiter :: tail)

variable {dialect}

theorem read_record {values : List (List Symbol)} {text : List Symbol}
    (written : WrittenRecord dialect values text) (record : List (List Symbol))
    (rest : List Symbol) : read dialect .before [] record (text ++ rest) =
      (read dialect .before [] [] rest).map ((record ++ values) :: ·) := by
  induction written generalizing record with
  | last written =>
    rw [List.append_assoc, List.singleton_append, read_written written (Or.inr rfl), finish,
      if_neg dialect.delimiter_ne_terminator.symm]
  | more written others ih =>
    rw [List.append_assoc, List.cons_append, read_written written (Or.inl rfl), finish,
      if_pos rfl, ih, List.append_assoc, List.singleton_append]

theorem readRecords_written {records : List (List (List Symbol))} {texts : List (List Symbol)}
    (written : List.Forall₂ (WrittenRecord dialect) records texts) :
    readRecords dialect texts.flatten = some records := by
  induction written with
  | nil => rfl
  | cons head tail ih =>
    simp only [readRecords] at ih ⊢
    rw [List.flatten_cons, read_record head, ih]
    rfl

end Onetcli.Delimited
