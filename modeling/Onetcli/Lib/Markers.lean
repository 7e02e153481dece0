import Mathlib.Data.List.Infix

/-!
Records of fields whose delimiter and quote are words of any length, read from left to right. A
word is found where its first symbol is reached, so a field can be cut where its end and the word
after it together make up the word; a word without a border does not allow that.
-/

namespace Onetcli.Markers

variable {Symbol : Type}

structure Dialect (Symbol : Type) where
  delimiter : List Symbol
  quote : List Symbol
  terminator : Symbol

/-- Where the reader stands: before a field, inside an unquoted or a quoted one, or after the quote
that closes it. -/
inductive Position where
  | before
  | unquoted
  | quoted
  | closed
  deriving DecidableEq

section Read

variable [DecidableEq Symbol] (dialect : Dialect Symbol)

/-- The records of a text, with the field and the record read so far; `skip` symbols belong to a
word that has been found. -/
@[grind =]
def read : Nat → Position → List Symbol → List (List Symbol) → List Symbol →
    Option (List (List (List Symbol)))
  | _, .quoted, _, _, [] => none
  | _, .before, field, record, [] =>
    if record = [] then some [] else some [record ++ [field]]
  | _, _, field, record, [] => some [record ++ [field]]
  | skip + 1, position, field, record, _ :: rest => read skip position field record rest
  | 0, .quoted, field, record, symbol :: rest =>
    if dialect.quote ++ dialect.quote <+: symbol :: rest then
      read (2 * dialect.quote.length - 1) .quoted (field ++ dialect.quote) record rest
    else if dialect.quote <+: symbol :: rest then
      read (dialect.quote.length - 1) .closed field record rest
    else read 0 .quoted (field ++ [symbol]) record rest
  | 0, position, field, record, symbol :: rest =>
    if position = .before ∧ dialect.quote <+: symbol :: rest then
      read (dialect.quote.length - 1) .quoted field record rest
    else if dialect.delimiter <+: symbol :: rest then
      read (dialect.delimiter.length - 1) .before [] (record ++ [field]) rest
    else if symbol = dialect.terminator then
      (read 0 .before [] [] rest).map ((record ++ [field]) :: ·)
    else if position = .closed then none
    else read 0 .unquoted (field ++ [symbol]) record rest

def readRecords (text : List Symbol) : Option (List (List (List Symbol))) :=
  read dialect 0 .before [] [] text

variable {dialect}

theorem read_skip (position : Position) (field : List Symbol) (record : List (List Symbol))
    (word rest : List Symbol) : read dialect word.length position field record (word ++ rest) =
      read dialect 0 position field record rest := by
  induction word with
  | nil => rfl
  | cons symbol word ih =>
    rw [List.length_cons, List.cons_append]
    cases position <;> exact ih

end Read

/-! ## Words -/

/-- No part of the word, short of all of it, both begins and ends it. -/
def Unbordered (word : List Symbol) : Prop :=
  ∀ front back, front ≠ [] → back ≠ [] → word = front ++ back → ¬back <+: word

/-- No end of the first word, short of all of it, begins the second. -/
def NoOverlap (first second : List Symbol) : Prop :=
  ∀ front back, front ≠ [] → back ≠ [] → first = front ++ back → ¬back <+: second

theorem singleton_ne_append (symbol : Symbol) {front back : List Symbol} (inside : front ≠ [])
    (more : back ≠ []) : [symbol] ≠ front ++ back := by
  intro whole
  have length := congrArg List.length whole
  have frontSome := List.length_pos_iff.2 inside
  have backSome := List.length_pos_iff.2 more
  rw [List.length_append, List.length_singleton] at length
  omega

theorem unbordered_singleton (symbol : Symbol) : Unbordered [symbol] :=
  fun _ _ inside more whole => absurd whole (singleton_ne_append symbol inside more)

theorem noOverlap_singleton (symbol : Symbol) (second : List Symbol) : NoOverlap [symbol] second :=
  fun _ _ inside more whole => absurd whole (singleton_ne_append symbol inside more)

theorem prefix_append_cases {word front back : List Symbol} (found : word <+: front ++ back) :
    word <+: front ∨ ∃ rest, word = front ++ rest ∧ rest ≠ [] ∧ rest <+: back := by
  rcases List.prefix_or_prefix_of_prefix found (List.prefix_append front back) with inside | beyond
  · exact Or.inl inside
  · obtain ⟨rest, rfl⟩ := beyond
    by_cases none : rest = []
    · exact Or.inl (by rw [none, List.append_nil])
    · exact Or.inr ⟨rest, rfl, none, (List.prefix_append_right_inj front).1 found⟩

theorem Unbordered.not_prefix {word : List Symbol} (unbordered : Unbordered word)
    {front : List Symbol} (some : front ≠ []) (outside : ¬word <+: front) (rest : List Symbol) :
    ¬word <+: front ++ (word ++ rest) := by
  intro found
  rcases prefix_append_cases found with inside | ⟨back, same, more, begins⟩
  · exact outside inside
  · have shorter : back.length ≤ word.length := by
      rw [same, List.length_append]
      omega
    exact unbordered front back some more same
      (List.prefix_of_prefix_length_le begins (List.prefix_append word rest) shorter)

theorem not_prefix_terminated {word front : List Symbol} {terminator : Symbol}
    (absent : terminator ∉ word) (outside : ¬word <+: front) (rest : List Symbol) :
    ¬word <+: front ++ terminator :: rest := by
  intro found
  rcases prefix_append_cases found with inside | ⟨back, same, more, begins⟩
  · exact outside inside
  · cases back with
    | nil => exact more rfl
    | cons first back =>
      rw [(List.cons_prefix_cons.1 begins).1] at same
      exact absent (by rw [same]; exact List.mem_append_right _ List.mem_cons_self)

/-! ## What is written -/

/-- The dialects for which this works: the words are not empty, neither is in the other and no
line ends in them. -/
structure Apart (dialect : Dialect Symbol) : Prop where
  delimiter : dialect.delimiter ≠ []
  quote : dialect.quote ≠ []
  quoteOutside : ¬dialect.quote <:+: dialect.delimiter
  delimiterOutside : ¬dialect.delimiter <:+: dialect.quote
  delimiterLine : dialect.terminator ∉ dialect.delimiter
  quoteLine : dialect.terminator ∉ dialect.quote

/-- No text is cut wrongly. -/
structure Steady (dialect : Dialect Symbol) : Prop where
  delimiter : Unbordered dialect.delimiter
  quote : Unbordered dialect.quote
  overlap : NoOverlap dialect.quote dialect.delimiter

theorem steady_of_single {dialect : Dialect Symbol} {delimiter quote : Symbol}
    (oneDelimiter : dialect.delimiter = [delimiter]) (oneQuote : dialect.quote = [quote]) :
    Steady dialect where
  delimiter := by
    rw [oneDelimiter]
    exact unbordered_singleton delimiter
  quote := by
    rw [oneQuote]
    exact unbordered_singleton quote
  overlap := by
    rw [oneQuote]
    exact noOverlap_singleton quote dialect.delimiter

section Written

variable [DecidableEq Symbol] (dialect : Dialect Symbol)

/-- The text with its quotes doubled, from the left; `skip` symbols belong to a quote that has
been doubled. -/
def escape : Nat → List Symbol → List Symbol
  | _, [] => []
  | skip + 1, _ :: rest => escape skip rest
  | 0, symbol :: rest =>
    if dialect.quote <+: symbol :: rest then
      dialect.quote ++ dialect.quote ++ escape (dialect.quote.length - 1) rest
    else symbol :: escape 0 rest

def quoted (value : List Symbol) : List Symbol :=
  dialect.quote ++ escape dialect 0 value ++ dialect.quote

/-- The value can stand without quotes. -/
structure Plain (value : List Symbol) : Prop where
  delimiter : ¬dialect.delimiter <:+: value
  quote : ¬dialect.quote <:+: value
  terminator : dialect.terminator ∉ value

inductive Written (value : List Symbol) : List Symbol → Prop where
  | plain (isPlain : Plain dialect value) : Written value value
  | quoted : Written value (quoted dialect value)

variable {dialect} (apart : Apart dialect)

include apart

theorem read_delimiter (field rest : List Symbol) (record : List (List Symbol)) {position : Position}
    (outside : position = .unquoted ∨ position = .closed) :
    read dialect 0 position field record (dialect.delimiter ++ rest) =
      read dialect 0 .before [] (record ++ [field]) rest := by
  cases word : dialect.delimiter with
  | nil => exact absurd word apart.delimiter
  | cons symbol word' =>
    have skipped := @read_skip _ _ dialect .before [] (record ++ [field]) word' rest
    rw [List.cons_append]
    rcases outside with rfl | rfl
    · simp [read, word, skipped]
    · simp [read, word, skipped]

theorem read_terminator (field rest : List Symbol) (record : List (List Symbol))
    {position : Position} (outside : position = .unquoted ∨ position = .closed) :
    read dialect 0 position field record (dialect.terminator :: rest) =
      (read dialect 0 .before [] [] rest).map ((record ++ [field]) :: ·) := by
  have notFound : ¬dialect.delimiter <+: dialect.terminator :: rest :=
    @not_prefix_terminated _ _ [] _ apart.delimiterLine
      (fun none => apart.delimiter (List.prefix_nil.1 none)) rest
  rcases outside with rfl | rfl
  · simp [read, notFound]
  · simp [read, notFound]

omit apart in
-- A text in which no delimiter and no line's end is reached goes to the field.
theorem read_unquoted (value tail field : List Symbol) (record : List (List Symbol))
    (clear : ∀ front, front <:+ value → front ≠ [] → ¬dialect.delimiter <+: front ++ tail)
    (line : dialect.terminator ∉ value) : read dialect 0 .unquoted field record (value ++ tail) =
      read dialect 0 .unquoted (field ++ value) record tail := by
  induction value generalizing field with
  | nil => rw [List.nil_append, List.append_nil]
  | cons symbol value ih =>
    have here := clear (symbol :: value) List.suffix_rfl (List.cons_ne_nil _ _)
    have other : symbol ≠ dialect.terminator := fun same => line (by rw [same]; simp)
    have later := ih (field ++ [symbol])
      (fun front ends => clear front (ends.trans (List.suffix_cons symbol value)))
      (fun among => line (List.mem_cons_of_mem _ among))
    rw [List.cons_append] at here
    simp [read, here, other, later]

omit apart in
theorem read_before {text : List Symbol} (some : text ≠ []) (plain : ¬dialect.quote <+: text)
    (field : List Symbol) (record : List (List Symbol)) :
    read dialect 0 .before field record text = read dialect 0 .unquoted field record text := by
  cases text with
  | nil => exact absurd rfl some
  | cons symbol rest => simp [read, plain]

omit [DecidableEq Symbol] in
theorem quote_not_prefix_delimiter (rest : List Symbol) :
    ¬dialect.quote <+: dialect.delimiter ++ rest := by
  intro found
  rcases prefix_append_cases found with inside | ⟨back, same, _⟩
  · exact apart.quoteOutside inside.isInfix
  · exact apart.delimiterOutside (by rw [same]; exact (List.prefix_append _ _).isInfix)

omit [DecidableEq Symbol] in
theorem quote_not_prefix_terminator (rest : List Symbol) :
    ¬dialect.quote <+: dialect.terminator :: rest :=
  @not_prefix_terminated _ _ [] _ apart.quoteLine
    (fun none => apart.quote (List.prefix_nil.1 none)) rest

/-! ### Quoted fields -/

omit apart in
theorem escape_cases (value : List Symbol) :
    (∃ front back after, value = front ++ (dialect.quote ++ back) ∧
      escape dialect 0 value = front ++ (dialect.quote ++ after)) ∨
    escape dialect 0 value = value := by
  induction value with
  | nil => exact Or.inr rfl
  | cons symbol rest ih =>
    by_cases found : dialect.quote <+: symbol :: rest
    · obtain ⟨back, same⟩ := found
      refine Or.inl ⟨[], back, dialect.quote ++ escape dialect (dialect.quote.length - 1) rest,
        same.symm, ?_⟩
      rw [escape, if_pos ⟨back, same⟩, List.append_assoc]
      rfl
    · rw [escape, if_neg found]
      rcases ih with ⟨front, back, after, same, escaped⟩ | same
      · exact Or.inl ⟨symbol :: front, back, after, by rw [same]; rfl, by rw [escaped]; rfl⟩
      · exact Or.inr (by rw [same])

omit [DecidableEq Symbol] in
theorem quote_cons : ∃ symbol word, dialect.quote = symbol :: word := by
  cases word : dialect.quote with
  | nil => exact absurd word apart.quote
  | cons symbol word' => exact ⟨symbol, word', rfl⟩

theorem read_opening (field rest : List Symbol) (record : List (List Symbol)) :
    read dialect 0 .before field record (dialect.quote ++ rest) =
      read dialect 0 .quoted field record rest := by
  cases word : dialect.quote with
  | nil => exact absurd word apart.quote
  | cons symbol word' =>
    have skipped := @read_skip _ _ dialect .quoted field record word' rest
    rw [List.cons_append]
    simp [read, word, skipped]

theorem read_doubled (field rest : List Symbol) (record : List (List Symbol)) :
    read dialect 0 .quoted field record (dialect.quote ++ dialect.quote ++ rest) =
      read dialect 0 .quoted (field ++ dialect.quote) record rest := by
  obtain ⟨symbol, word, same⟩ := quote_cons apart
  have whole : dialect.quote ++ dialect.quote ++ rest =
      symbol :: ((word ++ dialect.quote) ++ rest) := by
    rw [same]
    simp
  have length : 2 * dialect.quote.length - 1 = (word ++ dialect.quote).length := by
    rw [same]
    simp
    omega
  have found : dialect.quote ++ dialect.quote <+: symbol :: ((word ++ dialect.quote) ++ rest) := by
    rw [← whole]
    exact List.prefix_append _ _
  rw [whole, read, if_pos found, length, read_skip]

theorem read_closing (field : List Symbol) (record : List (List Symbol)) {rest : List Symbol}
    (single : ¬dialect.quote <+: rest) :
    read dialect 0 .quoted field record (dialect.quote ++ rest) =
      read dialect 0 .closed field record rest := by
  obtain ⟨symbol, word, same⟩ := quote_cons apart
  have whole : dialect.quote ++ rest = symbol :: (word ++ rest) := by rw [same]; rfl
  have found : dialect.quote <+: symbol :: (word ++ rest) := by
    rw [← whole]
    exact List.prefix_append _ _
  have notTwice : ¬dialect.quote ++ dialect.quote <+: symbol :: (word ++ rest) := by
    rw [← whole, List.prefix_append_right_inj]
    exact single
  have length : dialect.quote.length - 1 = word.length := by
    rw [same]
    rfl
  rw [whole, read, if_neg notTwice, if_pos found, length, read_skip]

-- By induction on the value, with the symbols of a quote that was doubled left out.
theorem read_escape (unbordered : Unbordered dialect.quote) (value : List Symbol) (skip : Nat)
    (within : skip ≤ value.length) (field : List Symbol) (record : List (List Symbol))
    {rest : List Symbol} (single : ¬dialect.quote <+: rest) :
    read dialect 0 .quoted field record (escape dialect skip value ++ (dialect.quote ++ rest)) =
      read dialect 0 .closed (field ++ value.drop skip) record rest := by
  induction value generalizing skip field with
  | nil =>
    rw [List.drop_nil, List.append_nil]
    cases skip <;> exact read_closing apart field record single
  | cons symbol value ih =>
    cases skip with
    | succ skip => exact ih skip (Nat.le_of_succ_le_succ within) field
    | zero =>
      by_cases found : dialect.quote <+: symbol :: value
      · have length := found.length_le
        have drops : dialect.quote ++ value.drop (dialect.quote.length - 1) = symbol :: value := by
          obtain ⟨head, word, same⟩ := quote_cons apart
          obtain ⟨back, whole⟩ := found
          rw [same] at whole
          have first : head = symbol := (List.cons.inj whole).1
          have others : value = word ++ back := (List.cons.inj whole).2.symm
          rw [same, first, others, List.length_cons, Nat.add_sub_cancel, List.drop_left]
          rfl
        have some : 0 < dialect.quote.length := List.length_pos_iff.2 apart.quote
        rw [List.length_cons] at length
        rw [escape, if_pos found, List.append_assoc, read_doubled apart,
          ih _ (by omega), List.append_assoc, drops]
        rfl
      · have notHere : ¬dialect.quote <+:
            symbol :: (escape dialect 0 value ++ (dialect.quote ++ rest)) := by
          rcases @escape_cases _ _ dialect value with ⟨front, back, after, same, escaped⟩ | same
          · rw [escaped, List.append_assoc, List.append_assoc]
            apply @Unbordered.not_prefix _ _ unbordered (symbol :: front) (List.cons_ne_nil _ _)
            rintro ⟨more, whole⟩
            refine found ⟨more ++ (dialect.quote ++ back), ?_⟩
            rw [← List.append_assoc, whole, same]
            rfl
          · rw [same]
            exact @Unbordered.not_prefix _ _ unbordered (symbol :: value) (List.cons_ne_nil _ _)
              found rest
        have notTwice : ¬dialect.quote ++ dialect.quote <+:
            symbol :: (escape dialect 0 value ++ (dialect.quote ++ rest)) :=
          fun twice => notHere ((List.prefix_append _ _).trans twice)
        rw [escape, if_neg found, List.cons_append, read, if_neg notTwice, if_neg notHere,
          ih 0 (Nat.zero_le _), List.append_assoc]
        rfl

/-! ### Fields and records -/

/-- What can follow a field. -/
def Ending (dialect : Dialect Symbol) (tail : List Symbol) : Prop :=
  (∃ rest, tail = dialect.delimiter ++ rest) ∨ ∃ rest, tail = dialect.terminator :: rest

omit [DecidableEq Symbol] in
variable {tail : List Symbol}

theorem Ending.ne_nil (ending : Ending dialect tail) : tail ≠ [] := by
  rcases ending with ⟨rest, rfl⟩ | ⟨rest, rfl⟩
  · exact List.append_ne_nil_of_left_ne_nil apart.delimiter rest
  · exact List.cons_ne_nil _ _

omit [DecidableEq Symbol] in
theorem Ending.not_quote (ending : Ending dialect tail) : ¬dialect.quote <+: tail := by
  rcases ending with ⟨rest, rfl⟩ | ⟨rest, rfl⟩
  · exact quote_not_prefix_delimiter apart rest
  · exact quote_not_prefix_terminator apart rest

theorem Ending.read_closed (ending : Ending dialect tail) (field : List Symbol)
    (record : List (List Symbol)) :
    read dialect 0 .unquoted field record tail = read dialect 0 .closed field record tail := by
  rcases ending with ⟨rest, rfl⟩ | ⟨rest, rfl⟩
  · rw [read_delimiter apart field rest record (Or.inl rfl),
      read_delimiter apart field rest record (Or.inr rfl)]
  · rw [read_terminator apart field rest record (Or.inl rfl),
      read_terminator apart field rest record (Or.inr rfl)]

variable (steady : Steady dialect)

include steady

omit [DecidableEq Symbol] in
theorem Plain.no_delimiter {value : List Symbol} (isPlain : Plain dialect value)
 (ending : Ending dialect tail) {front : List Symbol}
    (ends : front <:+ value) (some : front ≠ []) : ¬dialect.delimiter <+: front ++ tail := by
  have outside : ¬dialect.delimiter <+: front :=
    fun found => isPlain.delimiter (found.isInfix.trans ends.isInfix)
  rcases ending with ⟨rest, rfl⟩ | ⟨rest, rfl⟩
  · exact steady.delimiter.not_prefix some outside rest
  · exact not_prefix_terminated apart.delimiterLine outside rest

omit [DecidableEq Symbol] in
theorem Plain.no_quote {value : List Symbol} (isPlain : Plain dialect value)
 (ending : Ending dialect tail) : ¬dialect.quote <+: value ++ tail := by
  have outside : ¬dialect.quote <+: value := fun found => isPlain.quote found.isInfix
  rcases ending with ⟨rest, rfl⟩ | ⟨rest, rfl⟩
  · intro found
    rcases prefix_append_cases found with inside | ⟨back, same, more, begins⟩
    · exact outside inside
    · by_cases none : value = []
      · rw [none] at found
        exact quote_not_prefix_delimiter apart rest found
      · rcases prefix_append_cases begins with within | ⟨further, whole, _⟩
        · exact steady.overlap value back none more same within
        · -- The quote would hold all of the delimiter.
          exact apart.delimiterOutside ⟨value, further, by rw [same, whole, List.append_assoc]⟩
  · exact not_prefix_terminated apart.quoteLine outside rest

theorem read_written {value text : List Symbol} (written : Written dialect value text)
    (record : List (List Symbol)) (ending : Ending dialect tail) :
    read dialect 0 .before [] record (text ++ tail) = read dialect 0 .closed value record tail := by
  cases written with
  | plain isPlain =>
    have some : value ++ tail ≠ [] :=
      List.append_ne_nil_of_right_ne_nil value (ending.ne_nil apart)
    rw [read_before some (isPlain.no_quote apart steady ending),
      read_unquoted value tail [] record
        (fun _ ends inside => isPlain.no_delimiter apart steady ending ends inside)
        isPlain.terminator,
      List.nil_append, ending.read_closed apart]
  | quoted =>
    rw [quoted, List.append_assoc, List.append_assoc, read_opening apart,
      read_escape apart steady.quote value 0 (Nat.zero_le _) [] record (ending.not_quote apart),
      List.nil_append, List.drop_zero]

end Written

section Records

variable [DecidableEq Symbol] (dialect : Dialect Symbol)

inductive WrittenRecord : List (List Symbol) → List Symbol → Prop where
  | last {value text : List Symbol} (written : Written dialect value text) :
      WrittenRecord [value] (text ++ [dialect.terminator])
  | more {value text : List Symbol} {values : List (List Symbol)} {tail : List Symbol}
      (written : Written dialect value text) (others : WrittenRecord values tail) :
      WrittenRecord (value :: values) (text ++ (dialect.delimiter ++ tail))

variable {dialect} (apart : Apart dialect) (steady : Steady dialect)

include apart steady

theorem read_record {values : List (List Symbol)} {text : List Symbol}
    (written : WrittenRecord dialect values text) (record : List (List Symbol))
    (rest : List Symbol) : read dialect 0 .before [] record (text ++ rest) =
      (read dialect 0 .before [] [] rest).map ((record ++ values) :: ·) := by
  induction written generalizing record with
  | last written =>
    rw [List.append_assoc, List.singleton_append,
      read_written apart steady written record (Or.inr ⟨rest, rfl⟩),
      read_terminator apart _ rest record (Or.inr rfl)]
  | @more _ _ _ tail written others ih =>
    rw [List.append_assoc, List.append_assoc,
      read_written apart steady written record (Or.inl ⟨tail ++ rest, rfl⟩),
      read_delimiter apart _ (tail ++ rest) record (Or.inr rfl), ih, List.append_assoc,
      List.singleton_append]

theorem readRecords_written {records : List (List (List Symbol))} {texts : List (List Symbol)}
    (written : List.Forall₂ (WrittenRecord dialect) records texts) :
    readRecords dialect texts.flatten = some records := by
  induction written with
  | nil => rfl
  | cons head tail ih =>
    simp only [readRecords] at ih ⊢
    rw [List.flatten_cons, read_record apart steady head, ih]
    rfl

end Records

/-! ## What is cut wrongly -/

section Cut

variable [DecidableEq Symbol] {dialect : Dialect Symbol}

-- Fields that were read stay, and the field being read only grows.
theorem read_keeps {text : List Symbol} {skip : Nat} {position : Position} {field : List Symbol}
    {record : List (List Symbol)} {records : List (List (List Symbol))}
    (started : position = .before → record ≠ [])
    (done : read dialect skip position field record text = some records) :
    ∃ more fields others, records = (record ++ (field ++ more) :: fields) :: others := by
  induction text generalizing skip position field record records with
  | nil =>
    refine ⟨[], [], [], ?_⟩
    cases position with
    | quoted => cases skip <;> exact absurd done (by simp [read])
    | before =>
      cases skip <;>
      · simp only [read, if_neg (started rfl), Option.some.injEq] at done
        rw [← done, List.append_nil]
    | unquoted | closed =>
      cases skip <;>
      · simp only [read, Option.some.injEq] at done
        rw [← done, List.append_nil]
  | cons symbol rest ih =>
    -- A field that goes on keeps its start, one that ended is in the record.
    have grows {skip : Nat} {position : Position} (part : List Symbol)
        (begun : position = .before → record ≠ [])
        (goes : read dialect skip position (field ++ part) record rest = some records) :
        ∃ more fields others, records = (record ++ (field ++ more) :: fields) :: others := by
      obtain ⟨more, fields, others, same⟩ := ih begun goes
      exact ⟨part ++ more, fields, others, by rw [same, List.append_assoc]⟩
    cases skip with
    | succ skip => cases position <;> exact ih started done
    | zero =>
      by_cases inside : position = .quoted
      · subst inside
        rw [read] at done
        split at done
        · exact grows dialect.quote (by simp) done
        · split at done
          · exact ih (by simp) done
          · exact grows [symbol] (by simp) done
      · have stepped : read dialect 0 position field record (symbol :: rest) =
            if position = .before ∧ dialect.quote <+: symbol :: rest then
              read dialect (dialect.quote.length - 1) .quoted field record rest
            else if dialect.delimiter <+: symbol :: rest then
              read dialect (dialect.delimiter.length - 1) .before [] (record ++ [field]) rest
            else if symbol = dialect.terminator then
              (read dialect 0 .before [] [] rest).map ((record ++ [field]) :: ·)
            else if position = .closed then none
            else read dialect 0 .unquoted (field ++ [symbol]) record rest := by
          cases position with
          | quoted => exact absurd rfl inside
          | before | unquoted | closed => rfl
        rw [stepped] at done
        split at done
        · exact ih (by simp) done
        · split at done
          · obtain ⟨more, fields, others, same⟩ := ih (by simp) done
            exact ⟨[], ([] ++ more) :: fields, others, by
              rw [same, List.append_assoc, List.append_nil]
              rfl⟩
          · split at done
            · obtain ⟨others, _, same⟩ := Option.map_eq_some_iff.1 done
              exact ⟨[], [], others, by rw [← same, List.append_nil]⟩
            · split at done
              · exact absurd done (by simp)
              · exact grows [symbol] (by simp) done

theorem read_unclosed {text : List Symbol} (unclosed : ¬dialect.quote <:+: text)
    (field : List Symbol) (record : List (List Symbol)) :
    read dialect 0 .quoted field record text = none := by
  induction text generalizing field with
  | nil => rfl
  | cons symbol rest ih =>
    have notHere : ¬dialect.quote <+: symbol :: rest := fun found => unclosed found.isInfix
    have notTwice : ¬dialect.quote ++ dialect.quote <+: symbol :: rest :=
      fun twice => notHere ((List.prefix_append _ _).trans twice)
    rw [read, if_neg notTwice, if_neg notHere]
    exact ih (fun found => unclosed (found.trans (List.suffix_cons symbol rest).isInfix)) _

variable (apart : Apart dialect) {front back : List Symbol}

include apart

theorem bordered_delimiter_lost (inside : front ≠ []) (whole : dialect.delimiter = front ++ back)
    (border : back <+: dialect.delimiter) :
    readRecords dialect (front ++ (dialect.delimiter ++ [dialect.terminator])) ≠
      some [[front, []]] := by
  obtain ⟨after, same⟩ := border
  have text : front ++ (dialect.delimiter ++ [dialect.terminator]) =
      dialect.delimiter ++ (after ++ [dialect.terminator]) := by
    rw [← same, List.append_assoc, ← List.append_assoc, ← whole, ← same, List.append_assoc]
  intro recovered
  rw [readRecords, text, read_before (List.append_ne_nil_of_left_ne_nil apart.delimiter _)
      (quote_not_prefix_delimiter apart _), read_delimiter apart [] _ [] (Or.inl rfl)] at recovered
  obtain ⟨more, fields, others, kept⟩ := read_keeps (by simp) recovered
  have first : [front, []] = ([] ++ [[]]) ++ ([] ++ more) :: fields := (List.cons.inj kept).1
  exact inside (List.cons.inj first).1

omit apart in
theorem escape_clear {value : List Symbol} (clear : ¬dialect.quote <:+: value) :
    escape dialect 0 value = value := by
  rcases @escape_cases _ _ dialect value with ⟨front, back, _, same, _⟩ | unchanged
  · exact absurd (by rw [same]; exact List.infix_append' front dialect.quote back) clear
  · exact unchanged

theorem read_closed {after : List Symbol} (some : after ≠ []) (within : after <:+: dialect.quote)
    (field : List Symbol) (record : List (List Symbol)) :
    read dialect 0 .closed field record (after ++ [dialect.terminator]) = none := by
  have notDelimiter : ¬dialect.delimiter <+: after ++ [dialect.terminator] :=
    not_prefix_terminated apart.delimiterLine
      (fun found => apart.delimiterOutside (found.isInfix.trans within)) []
  cases after with
  | nil => exact absurd rfl some
  | cons symbol after =>
    have other : symbol ≠ dialect.terminator := by
      intro same
      apply apart.quoteLine
      rw [← same]
      exact within.subset List.mem_cons_self
    rw [List.cons_append] at notDelimiter
    simp [read, notDelimiter, other]

-- A quoted field that ends with the start of a quote with a border is not read: the quote is
-- found too early and something goes on after it.
theorem bordered_quote_lost (inside : front ≠ []) (more : back ≠ [])
    (whole : dialect.quote = front ++ back) (border : back <+: dialect.quote) :
    readRecords dialect (quoted dialect (dialect.terminator :: front) ++ [dialect.terminator]) =
      none := by
  obtain ⟨after, same⟩ := border
  have lengths := congrArg List.length whole
  have others := congrArg List.length same
  have backSome := List.length_pos_iff.2 more
  have frontSome := List.length_pos_iff.2 inside
  rw [List.length_append] at lengths others
  have clear : ¬dialect.quote <:+: dialect.terminator :: front := by
    rw [List.infix_cons_iff]
    rintro (begins | within)
    · exact quote_not_prefix_terminator apart front begins
    · have shorter := within.length_le
      omega
  have single : ¬dialect.quote <+: after ++ [dialect.terminator] := by
    apply not_prefix_terminated apart.quoteLine
    intro found
    have shorter := found.length_le
    omega
  -- The quote is found one border too early.
  have early : front ++ (dialect.quote ++ [dialect.terminator]) =
      dialect.quote ++ (after ++ [dialect.terminator]) := by
    rw [← same, List.append_assoc, ← List.append_assoc, ← whole, ← same, List.append_assoc]
  have first : ¬dialect.quote <+: dialect.terminator ::
      (front ++ (dialect.quote ++ [dialect.terminator])) := quote_not_prefix_terminator apart _
  have notTwice : ¬dialect.quote ++ dialect.quote <+: dialect.terminator ::
      (front ++ (dialect.quote ++ [dialect.terminator])) :=
    fun twice => first ((List.prefix_append _ _).trans twice)
  rw [readRecords, quoted, escape_clear clear, List.append_assoc, List.append_assoc,
    read_opening apart, List.cons_append, read, if_neg notTwice, if_neg first, early,
    read_closing apart _ _ single]
  apply read_closed apart
  · exact List.length_pos_iff.1 (by omega)
  · rw [← same]
    exact (List.suffix_append back after).isInfix

theorem overlap_lost (whole : dialect.quote = front ++ back) (begins : back <+: dialect.delimiter) :
    readRecords dialect (front ++ (dialect.delimiter ++ [dialect.terminator])) = none := by
  obtain ⟨after, same⟩ := begins
  have text : front ++ (dialect.delimiter ++ [dialect.terminator]) =
      dialect.quote ++ (after ++ [dialect.terminator]) := by
    rw [← same, whole, List.append_assoc, List.append_assoc]
  have unclosed : ¬dialect.quote <:+: after ++ [dialect.terminator] := by
    rw [List.infix_concat_iff, List.suffix_concat_iff]
    rintro ((none | ⟨word, ends, _⟩) | within)
    · exact apart.quote none
    · apply apart.quoteLine
      rw [ends]
      exact List.mem_append_right word List.mem_cons_self
    · apply apart.quoteOutside
      rw [← same]
      exact List.infix_append_of_infix_right within
  rw [readRecords, text, read_opening apart, read_unclosed unclosed]

end Cut

end Onetcli.Markers
