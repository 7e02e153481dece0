import Mathlib.Data.List.Forall2

/-!
Records of fields that remember whether they were quoted, so that an unquoted mark can mean that
there is no value. Outside quotes a field holds neither the quote nor one of the symbols that are
kept out of it; records end at a terminator. The alphabet is arbitrary.
-/

namespace Onetcli.QuotedFields

variable {Symbol : Type}

/-- The symbols with a meaning of their own, all different. -/
structure Dialect (Symbol : Type) where
  delimiter : Symbol
  quote : Symbol
  terminator : Symbol
  keptOut : Symbol → Bool
  delimiter_ne_quote : delimiter ≠ quote
  delimiter_ne_terminator : delimiter ≠ terminator
  quote_ne_terminator : quote ≠ terminator

structure Field (Symbol : Type) where
  quoted : Bool
  text : List Symbol

/-- Where the reader stands: before a field, inside an unquoted or a quoted one, or after a quote
that closes a field unless another follows. -/
inductive Position where
  | before
  | unquoted
  | quoted
  | closing
  deriving DecidableEq

/-- The field that ends here. -/
def Position.field (position : Position) (text : List Symbol) : Field Symbol :=
  ⟨decide (position = .closing), text⟩

section Read

variable [DecidableEq Symbol] (dialect : Dialect Symbol)

def read : Position → List Symbol → List (Field Symbol) → List Symbol →
    Option (List (List (Field Symbol)))
  | .quoted, _, _, [] => none
  | .before, _, [], [] => some []
  | position, text, record, [] => some [record ++ [position.field text]]
  | .quoted, text, record, symbol :: rest =>
    if symbol = dialect.quote then read .closing text record rest
    else read .quoted (text ++ [symbol]) record rest
  | position, text, record, symbol :: rest =>
    if symbol = dialect.delimiter then read .before [] (record ++ [position.field text]) rest
    else if symbol = dialect.terminator then
      (read .before [] [] rest).map ((record ++ [position.field text]) :: ·)
    else if symbol = dialect.quote then
      if position = .before then read .quoted text record rest
      else if position = .closing then read .quoted (text ++ [symbol]) record rest
      else none
    else if position = .closing ∨ dialect.keptOut symbol then none
    else read .unquoted (text ++ [symbol]) record rest

def readRecords (text : List Symbol) : Option (List (List (Field Symbol))) :=
  read dialect .before [] [] text

/-- The content of a quoted field, its quotes doubled. -/
def escape (value : List Symbol) : List Symbol :=
  value.flatMap fun symbol =>
    if symbol = dialect.quote then [dialect.quote, symbol] else [symbol]

def quoted (value : List Symbol) : List Symbol :=
  dialect.quote :: escape dialect value ++ [dialect.quote]

/-- The value can stand without quotes. -/
structure Plain (value : List Symbol) : Prop where
  delimiter : dialect.delimiter ∉ value
  quote : dialect.quote ∉ value
  terminator : dialect.terminator ∉ value
  keptOut : ∀ symbol ∈ value, dialect.keptOut symbol = false

/-- The ways to write a field. -/
inductive Written : Field Symbol → List Symbol → Prop where
  | plain {value : List Symbol} (isPlain : Plain dialect value) : Written ⟨false, value⟩ value
  | quoted (value : List Symbol) : Written ⟨true, value⟩ (quoted dialect value)

variable {dialect}

theorem read_escape (value text rest : List Symbol) (record : List (Field Symbol)) :
    read dialect .quoted text record (escape dialect value ++ rest) =
      read dialect .quoted (text ++ value) record rest := by
  induction value generalizing text with
  | nil => simp [escape]
  | cons symbol value ih =>
    simp only [escape, List.flatMap_cons, List.append_assoc] at ih ⊢
    by_cases isQuote : symbol = dialect.quote
    · subst symbol
      -- The first of the two quotes seems to close the field, the second takes that back.
      simp [read, dialect.delimiter_ne_quote.symm, dialect.quote_ne_terminator, ih]
    · simp [read, isQuote, ih]

theorem read_unquoted {value : List Symbol} (isPlain : Plain dialect value) (text rest : List Symbol)
    (record : List (Field Symbol)) : read dialect .unquoted text record (value ++ rest) =
      read dialect .unquoted (text ++ value) record rest := by
  induction value generalizing text with
  | nil => simp
  | cons symbol value ih =>
    obtain ⟨noDelimiter, noQuote, noTerminator, inside⟩ := isPlain
    simp only [List.mem_cons, not_or] at noDelimiter noQuote noTerminator
    rw [List.forall_mem_cons] at inside
    have step := ih ⟨noDelimiter.2, noQuote.2, noTerminator.2, inside.2⟩ (text ++ [symbol])
    simp [read, Ne.symm noDelimiter.1, Ne.symm noQuote.1, Ne.symm noTerminator.1, inside.1, step]

-- The reader outside quotes.
variable {position : Position}

theorem read_outside (outside : position ≠ .quoted) (text : List Symbol)
    (record : List (Field Symbol)) (symbol : Symbol) (rest : List Symbol) :
    read dialect position text record (symbol :: rest) =
      if symbol = dialect.delimiter then
        read dialect .before [] (record ++ [position.field text]) rest
      else if symbol = dialect.terminator then
        (read dialect .before [] [] rest).map ((record ++ [position.field text]) :: ·)
      else if symbol = dialect.quote then
        if position = .before then read dialect .quoted text record rest
        else if position = .closing then read dialect .quoted (text ++ [symbol]) record rest
        else none
      else if position = .closing ∨ dialect.keptOut symbol then none
      else read dialect .unquoted (text ++ [symbol]) record rest := by
  cases position with
  | quoted => exact absurd rfl outside
  | before => cases record <;> rfl
  | unquoted => rfl
  | closing => rfl

theorem read_quoted (text : List Symbol) (record : List (Field Symbol)) (symbol : Symbol)
    (rest : List Symbol) : read dialect .quoted text record (symbol :: rest) =
      if symbol = dialect.quote then read dialect .closing text record rest
      else read dialect .quoted (text ++ [symbol]) record rest := rfl

theorem read_delimiter (outside : position ≠ .quoted) (text rest : List Symbol)
    (record : List (Field Symbol)) : read dialect position text record (dialect.delimiter :: rest) =
      read dialect .before [] (record ++ [position.field text]) rest := by
  rw [read_outside outside, if_pos rfl]

theorem read_terminator (outside : position ≠ .quoted)
    (text rest : List Symbol) (record : List (Field Symbol)) :
    read dialect position text record (dialect.terminator :: rest) =
      (read dialect .before [] [] rest).map ((record ++ [position.field text]) :: ·) := by
  rw [read_outside outside, if_neg dialect.delimiter_ne_terminator.symm, if_pos rfl]

theorem read_opening (text rest : List Symbol) (record : List (Field Symbol)) :
    read dialect .before text record (dialect.quote :: rest) =
      read dialect .quoted text record rest := by
  rw [read_outside (by decide), if_neg dialect.delimiter_ne_quote.symm,
    if_neg dialect.quote_ne_terminator, if_pos rfl, if_pos rfl]

theorem read_stray (text rest : List Symbol) (record : List (Field Symbol)) :
    read dialect .unquoted text record (dialect.quote :: rest) = none := by
  rw [read_outside (by decide), if_neg dialect.delimiter_ne_quote.symm,
    if_neg dialect.quote_ne_terminator, if_pos rfl, if_neg (by decide), if_neg (by decide)]

theorem read_keptOut (outside : position ≠ .quoted) {symbol : Symbol}
    (delimiter : symbol ≠ dialect.delimiter) (quote : symbol ≠ dialect.quote)
    (terminator : symbol ≠ dialect.terminator) (keptOut : dialect.keptOut symbol = true)
    (text rest : List Symbol) (record : List (Field Symbol)) :
    read dialect position text record (symbol :: rest) = none := by
  rw [read_outside outside, if_neg delimiter, if_neg terminator, if_neg quote,
    if_pos (Or.inr keptOut)]

theorem read_other (outside : position = .before ∨ position = .unquoted)
    {symbol : Symbol} (delimiter : symbol ≠ dialect.delimiter) (quote : symbol ≠ dialect.quote)
    (terminator : symbol ≠ dialect.terminator) (keptOut : dialect.keptOut symbol = false)
    (text rest : List Symbol) (record : List (Field Symbol)) :
    read dialect position text record (symbol :: rest) =
      read dialect .unquoted (text ++ [symbol]) record rest := by
  have notQuoted : position ≠ .quoted := by rcases outside with rfl | rfl <;> decide
  have goesOn : ¬(position = .closing ∨ dialect.keptOut symbol = true) := by
    rw [keptOut]
    rcases outside with rfl | rfl <;> decide
  rw [read_outside notQuoted, if_neg delimiter, if_neg terminator, if_neg quote, if_neg goesOn]

/-! ## What is written -/

theorem read_written {field : Field Symbol} {text : List Symbol}
    (written : Written dialect field text) (record : List (Field Symbol)) (rest : List Symbol) :
    ∃ position : Position, position ≠ .quoted ∧ position.field field.text = field ∧
      read dialect .before [] record (text ++ rest) =
        read dialect position field.text record rest := by
  cases written with
  | quoted value =>
    have opens : read dialect .before [] record (quoted dialect value ++ rest) =
        read dialect .quoted [] record (escape dialect value ++ dialect.quote :: rest) := by
      simp [quoted, read, dialect.delimiter_ne_quote.symm, dialect.quote_ne_terminator]
    refine ⟨.closing, by decide, rfl, ?_⟩
    rw [opens, read_escape, List.nil_append, read_quoted, if_pos rfl]
  | plain isPlain =>
    cases text with
    | nil => exact ⟨.before, by decide, rfl, rfl⟩
    | cons first value =>
      refine ⟨.unquoted, by decide, rfl, ?_⟩
      obtain ⟨noDelimiter, noQuote, noTerminator, inside⟩ := isPlain
      simp only [List.mem_cons, not_or] at noDelimiter noQuote noTerminator
      rw [List.forall_mem_cons] at inside
      have opens : read dialect .before [] record (first :: value ++ rest) =
          read dialect .unquoted [first] record (value ++ rest) := by
        simp [read, Ne.symm noDelimiter.1, Ne.symm noQuote.1, Ne.symm noTerminator.1, inside.1]
      rw [opens, read_unquoted ⟨noDelimiter.2, noQuote.2, noTerminator.2, inside.2⟩]
      rfl

variable (dialect)

inductive WrittenRecord : List (Field Symbol) → List Symbol → Prop where
  | last {field : Field Symbol} {text : List Symbol} (written : Written dialect field text) :
      WrittenRecord [field] (text ++ [dialect.terminator])
  | more {field : Field Symbol} {text : List Symbol} {fields : List (Field Symbol)}
      {tail : List Symbol} (written : Written dialect field text)
      (others : WrittenRecord fields tail) :
      WrittenRecord (field :: fields) (text ++ dialect.delimiter :: tail)

variable {dialect}

theorem read_record {fields : List (Field Symbol)} {text : List Symbol}
    (written : WrittenRecord dialect fields text) (record : List (Field Symbol))
    (rest : List Symbol) : read dialect .before [] record (text ++ rest) =
      (read dialect .before [] [] rest).map ((record ++ fields) :: ·) := by
  induction written generalizing record with
  | last written =>
    obtain ⟨position, outside, same, done⟩ := read_written written record
      (dialect.terminator :: rest)
    rw [List.append_assoc, List.singleton_append, done, read_terminator outside, same]
  | @more _ _ _ tail written others ih =>
    obtain ⟨position, outside, same, done⟩ := read_written written record
      (dialect.delimiter :: (tail ++ rest))
    rw [List.append_assoc, List.cons_append, done, read_delimiter outside, same, ih,
      List.append_assoc, List.singleton_append]

theorem readRecords_written {records : List (List (Field Symbol))} {texts : List (List Symbol)}
    (written : List.Forall₂ (WrittenRecord dialect) records texts) :
    readRecords dialect texts.flatten = some records := by
  induction written with
  | nil => rfl
  | cons head tail ih =>
    simp only [readRecords] at ih ⊢
    rw [List.flatten_cons, read_record head, ih]
    rfl

/-! ## What any text is read as -/

-- A text that is read, up to the end of a line, does not change what is read of the lines
-- after it.
theorem read_append {text : List Symbol} {field : List Symbol}
    {record : List (Field Symbol)} {records : List (List (Field Symbol))}
    (done : read dialect position field record (text ++ [dialect.terminator]) = some records)
    (rest : List Symbol) : read dialect position field record (text ++ dialect.terminator :: rest) =
      (read dialect .before [] [] rest).map (records ++ ·) := by
  induction text generalizing position field record records with
  | nil =>
    rw [List.nil_append] at done ⊢
    by_cases inside : position = .quoted
    · subst inside
      rw [read_quoted, if_neg dialect.quote_ne_terminator.symm] at done
      cases done
    · rw [read_terminator inside] at done ⊢
      cases done
      rfl
  | cons symbol text ih =>
    rw [List.cons_append] at done ⊢
    by_cases inside : position = .quoted
    · subst inside
      rw [read_quoted] at done ⊢
      split at done
      · rename_i isQuote
        rw [if_pos isQuote]
        exact ih done
      · rename_i other
        rw [if_neg other]
        exact ih done
    · rw [read_outside inside] at done ⊢
      split at done
      · rename_i isDelimiter
        rw [if_pos isDelimiter]
        exact ih done
      · rename_i notDelimiter
        rw [if_neg notDelimiter]
        split at done
        · rename_i isTerminator
          obtain ⟨others, finished, rfl⟩ := Option.map_eq_some_iff.1 done
          rw [if_pos isTerminator, ih finished, Option.map_map]
          rfl
        · rename_i notTerminator
          rw [if_neg notTerminator]
          split at done
          · rename_i isQuote
            rw [if_pos isQuote]
            split at done
            · rename_i opens
              rw [if_pos opens]
              exact ih done
            · rename_i notOpening
              rw [if_neg notOpening]
              split at done
              · rename_i doubled
                rw [if_pos doubled]
                exact ih done
              · cases done
          · rename_i notQuote
            rw [if_neg notQuote]
            split at done
            · cases done
            · rename_i goesOn
              rw [if_neg goesOn]
              exact ih done

-- Fields that were read stay, the field being read only grows, and one that was opened by a
-- quote stays quoted.
theorem read_keeps {input : List Symbol} {text : List Symbol}
    {record : List (Field Symbol)} {records : List (List (Field Symbol))}
    (started : position = .before → record ≠ [] ∨ input ≠ [])
    (done : read dialect position text record input = some records) :
    ∃ field fields others, records = (record ++ field :: fields) :: others ∧
      text <+: field.text ∧ (position = .quoted ∨ position = .closing → field.quoted = true) := by
  induction input generalizing position text record records with
  | nil =>
    have ended : position ≠ .quoted ∧ records = [record ++ [position.field text]] := by
      cases position with
      | quoted => cases done
      | before =>
        cases record with
        | nil => exact absurd (started rfl) (by simp)
        | cons field record => exact ⟨by decide, (Option.some.inj done).symm⟩
      | unquoted | closing => exact ⟨by decide, (Option.some.inj done).symm⟩
    refine ⟨_, [], [], ended.2, List.prefix_rfl, ?_⟩
    rintro (inside | closed)
    · exact absurd inside ended.1
    · exact decide_eq_true closed
  | cons symbol rest ih =>
    by_cases inside : position = .quoted
    · subst inside
      rw [read_quoted] at done
      split at done
      · obtain ⟨field, fields, others, same, begins, flagged⟩ := ih (by simp) done
        exact ⟨field, fields, others, same, begins, fun _ => flagged (Or.inr rfl)⟩
      · obtain ⟨field, fields, others, same, begins, flagged⟩ := ih (by simp) done
        exact ⟨field, fields, others, same, (List.prefix_append _ _).trans begins,
          fun _ => flagged (Or.inl rfl)⟩
    · rw [read_outside inside] at done
      -- The field that ends here is the one that is kept.
      have ends : position = .quoted ∨ position = .closing →
          (position.field text).quoted = true := by
        rintro (is | closed)
        · exact absurd is inside
        · exact decide_eq_true closed
      split at done
      · obtain ⟨field, fields, others, same, _⟩ := ih (by simp) done
        refine ⟨position.field text, field :: fields, others, ?_, List.prefix_rfl, ends⟩
        rw [same, List.append_assoc]
        rfl
      · split at done
        · obtain ⟨others, _, same⟩ := Option.map_eq_some_iff.1 done
          exact ⟨position.field text, [], others, same.symm, List.prefix_rfl, ends⟩
        · split at done
          · split at done
            · rename_i opens
              obtain ⟨field, fields, others, same, begins, flagged⟩ := ih (by simp) done
              exact ⟨field, fields, others, same, begins, fun _ => flagged (Or.inl rfl)⟩
            · split at done
              · obtain ⟨field, fields, others, same, begins, flagged⟩ := ih (by simp) done
                exact ⟨field, fields, others, same, (List.prefix_append _ _).trans begins,
                  fun _ => flagged (Or.inl rfl)⟩
              · cases done
          · split at done
            · cases done
            · rename_i goesOn
              obtain ⟨field, fields, others, same, begins, _⟩ := ih (by simp) done
              refine ⟨field, fields, others, same, (List.prefix_append _ _).trans begins, ?_⟩
              rintro (is | closed)
              · exact absurd is inside
              · exact absurd (Or.inl closed) goesOn

-- A first field ends where a delimiter or a terminator is met.
theorem read_ends (outside : position ≠ .quoted) {symbol : Symbol}
    (ends : symbol = dialect.delimiter ∨ symbol = dialect.terminator) {text rest : List Symbol}
    {field : Field Symbol} {fields : List (Field Symbol)} {others : List (List (Field Symbol))}
    (done : read dialect position text [] (symbol :: rest) = some ((field :: fields) :: others)) :
    field = position.field text := by
  rcases ends with rfl | rfl
  · rw [read_delimiter outside] at done
    obtain ⟨_, _, _, same, _⟩ := read_keeps (by simp) done
    exact (List.cons.inj (List.cons.inj same).1).1
  · rw [read_terminator outside] at done
    obtain ⟨_, _, same⟩ := Option.map_eq_some_iff.1 done
    exact (List.cons.inj (List.cons.inj same).1).1.symm

omit [DecidableEq Symbol] in
theorem plain_or_split (dialect : Dialect Symbol) (value : List Symbol) :
    Plain dialect value ∨ ∃ front symbol back, value = front ++ symbol :: back ∧
      Plain dialect front ∧ (symbol = dialect.delimiter ∨ symbol = dialect.quote ∨
        symbol = dialect.terminator ∨ dialect.keptOut symbol = true) := by
  induction value with
  | nil => exact Or.inl ⟨by simp, by simp, by simp, by simp⟩
  | cons symbol rest ih =>
    have none : Plain dialect [] := ⟨by simp, by simp, by simp, by simp⟩
    by_cases special : symbol = dialect.delimiter ∨ symbol = dialect.quote ∨
        symbol = dialect.terminator ∨ dialect.keptOut symbol = true
    · exact Or.inr ⟨[], symbol, rest, rfl, none, special⟩
    · simp only [not_or, Bool.not_eq_true] at special
      obtain ⟨noDelimiter, noQuote, noTerminator, inside⟩ := special
      have longer {value : List Symbol} (plain : Plain dialect value) :
          Plain dialect (symbol :: value) := by
        constructor
        · exact List.not_mem_cons_of_ne_of_not_mem (Ne.symm noDelimiter) plain.delimiter
        · exact List.not_mem_cons_of_ne_of_not_mem (Ne.symm noQuote) plain.quote
        · exact List.not_mem_cons_of_ne_of_not_mem (Ne.symm noTerminator) plain.terminator
        · exact List.forall_mem_cons.2 ⟨inside, plain.keptOut⟩
      rcases ih with plain | ⟨front, special, back, same, plain, which⟩
      · exact Or.inl (longer plain)
      · exact Or.inr ⟨symbol :: front, special, back, by rw [same]; rfl, longer plain, which⟩

end Read

end Onetcli.QuotedFields
