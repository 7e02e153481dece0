import Onetcli.Lib.SqlTokens

/-!
Statements made of fixed texts and of quoted names. If the fixed texts are steady and
every name stays between its quotes, the tokens are those of the texts with one quoted
token for each name. If a backslash takes the closing quote of one name along, every
statement ends inside a quoted text or has a comment.
-/

namespace Onetcli.SqlTokens

open Chars

inductive Piece where
  | text (words : String)
  | name (quote : Char) (value : String)

def Piece.chars : Piece → Chars
  | .text words => words.toList
  | .name quote value => quote :: (value.toList ++ [quote])

def render (pieces : List Piece) : Chars := pieces.flatMap Piece.chars

/-- A token of a statement, fixed or carrying a name. -/
inductive Slot where
  | fixed (token : Token)
  | carries (kind : Kind)

def Slot.Holds : Slot → Token → Prop
  | .fixed expected, token => token = expected
  | .carries kind, token => ∃ contents, token = .quoted kind contents

variable (dialect : Dialect)

def Piece.slots : Piece → List Slot
  | .text words => (tokens dialect words.toList).map .fixed
  | .name quote _ => [.carries ((dialect.kind quote).getD .literal)]

def slots (pieces : List Piece) : List Slot := pieces.flatMap (Piece.slots dialect)

/-- The tokens are those of the template, whatever the names contain. -/
def Fits (template : List Slot) (text : Chars) : Prop :=
  List.Forall₂ Slot.Holds template (tokens dialect text)

/-! ## Steady texts -/

/-- Letters, digits and the signs that belong to no comment and escape nothing. -/
def calm (char : Char) : Bool :=
  let code := char.toNat
  Nat.ble 97 code && Nat.ble code 122 || Nat.ble 65 code && Nat.ble code 90 ||
    Nat.ble 48 code && Nat.ble code 57 || Nat.beq code 95 || Nat.beq code 32 ||
    Nat.beq code 39 || Nat.beq code 40 || Nat.beq code 41 || Nat.beq code 44 ||
    Nat.beq code 46 || Nat.ble 60 code && Nat.ble code 62 || Nat.beq code 37

def steady (char : Char) : Bool := calm char || Nat.beq char.toNat 47

def isTick (char : Char) : Bool := Nat.beq char.toNat 39

/-- Whether an odd number of quotes has been read. -/
def oddQuotes (odd : Bool) : Chars → Bool
  | [] => odd
  | char :: rest => oddQuotes (if isTick char then !odd else odd) rest

def isQuoteSign (char : Char) : Bool := char == '\'' || char == '"' || char == '`'

structure Ordinary : Prop where
  literal : dialect.kind '\'' = some .literal
  signs : ∀ char, (dialect.kind char).isSome → isQuoteSign char = true

variable {char : Char}

theorem calm_cases (isCalm : calm char = true) :
    char ≠ '"' ∧ char ≠ '`' ∧ char ≠ '\\' ∧ char ≠ '-' ∧ char ≠ '#' ∧ char ≠ '*' ∧
      char ≠ '/' ∧ char ≠ '\n' := by
  refine ⟨?_, ?_, ?_, ?_, ?_, ?_, ?_, ?_⟩ <;>
  · rintro rfl
    exact absurd isCalm (by decide)

theorem steady_cases (isSteady : steady char = true) :
    char ≠ '"' ∧ char ≠ '`' ∧ char ≠ '\\' ∧ char ≠ '-' ∧ char ≠ '#' ∧ char ≠ '*' := by
  refine ⟨?_, ?_, ?_, ?_, ?_, ?_⟩ <;>
  · rintro rfl
    exact absurd isSteady (by decide)

theorem isTick_iff : isTick char = true ↔ char = '\'' := by
  constructor
  · intro code
    have same : char.toNat = '\''.toNat := Nat.eq_of_beq_eq_true code
    exact Char.ext (UInt32.toNat_inj.mp same)
  · rintro rfl
    rfl

/-- Between tokens, or at the end of one that the next character may close. -/
def Settled : State → Prop
  | .between | .word _ | .slash => True
  | .closing quote _ => quote = '\''
  | _ => False

def Quoted (state : State) : Prop := ∃ contents, state = .inside '\'' contents

/-- Neither a comment nor an unterminated text. -/
def Good (token : Token) : Prop := token ≠ .comment ∧ token ≠ .unterminated

variable {dialect}

theorem kind_none (ordinary : Ordinary dialect) (isSteady : steady char = true)
    (other : char ≠ '\'') : dialect.kind char = none := by
  obtain ⟨notDouble, notBack, _⟩ := steady_cases isSteady
  by_contra quotes
  have sign := ordinary.signs char (Option.isSome_iff_ne_none.mpr quotes)
  simp [isQuoteSign, other, notDouble, notBack] at sign

theorem start_steady (ordinary : Ordinary dialect)
    (isSteady : steady char = true) (other : char ≠ '\'') :
    Settled (start dialect char).2 ∧ ∀ token ∈ (start dialect char).1, Good token := by
  obtain ⟨_, _, _, notDash, notHash, _⟩ := steady_cases isSteady
  have plain : (dialect.kind char).isSome = false := by
    rw [kind_none ordinary isSteady other]
    rfl
  unfold start
  rw [if_neg (by simp [plain])]
  by_cases isWord : isWordChar char = true
  · simp [isWord, Settled]
  · rw [if_neg isWord, if_neg notDash]
    by_cases isSlash : char = '/'
    · simp [isSlash, Settled]
    · rw [if_neg isSlash, if_neg fun both => notHash both.1]
      by_cases blank : Text.isWhiteSpace char = true
      · simp [blank, Settled]
      · simp [blank, Settled, Good]

theorem after_steady (ordinary : Ordinary dialect)
    (isSteady : steady char = true) (other : char ≠ '\'') {read : List Token}
    (good : ∀ token ∈ read, Good token) :
    Settled (after dialect read char).2 ∧ ∀ token ∈ (after dialect read char).1, Good token := by
  obtain ⟨settled, goodStart⟩ := start_steady ordinary isSteady other
  refine ⟨settled, fun token member => ?_⟩
  rcases List.mem_append.mp member with before | here
  · exact good token before
  · exact goodStart token here

variable {state : State}

theorem good_finish (settled : Settled state) : ∀ token ∈ finish dialect state, Good token := by
  intro token member
  cases state with
  | between => simp [finish] at member
  | word text | slash =>
    rw [finish, List.mem_singleton] at member
    simp [member, Good]
  | closing quote contents =>
    rw [finish, List.mem_singleton] at member
    simp [member, Good, quotedToken]
  | _ => exact absurd settled (by simp [Settled])

theorem step_settled_steady (ordinary : Ordinary dialect)
    (settled : Settled state) (isSteady : steady char = true) (other : char ≠ '\'') :
    Settled (step dialect state char).2 ∧ ∀ token ∈ (step dialect state char).1, Good token := by
  cases state with
  | between => exact start_steady ordinary isSteady other
  | word text =>
    simp only [step]
    split
    · simp [Settled]
    · exact after_steady ordinary isSteady other (by simp [Good])
  | slash =>
    have notStar := (steady_cases isSteady).2.2.2.2.2
    simp only [step, if_neg notStar]
    exact after_steady ordinary isSteady other (by simp [Good])
  | closing quote contents =>
    have isQuote : quote = '\'' := settled
    subst isQuote
    simp only [step, if_neg other]
    exact after_steady ordinary isSteady other (by simp [Good, quotedToken])
  | _ => exact absurd settled (by simp [Settled])

theorem step_settled_quote (ordinary : Ordinary dialect) (settled : Settled state) :
    Quoted (step dialect state '\'').2 ∧ ∀ token ∈ (step dialect state '\'').1, Good token := by
  have opens : start dialect '\'' = ([], .inside '\'' []) := by
    rw [start, ordinary.literal]
    rfl
  cases state with
  | between =>
    simp only [step, opens]
    exact ⟨⟨[], rfl⟩, by simp⟩
  | word text =>
    have notWord : isWordChar '\'' = false := by decide
    simp only [step, notWord, after, opens]
    exact ⟨⟨[], rfl⟩, by simp [Good]⟩
  | slash =>
    simp only [step, after, opens]
    exact ⟨⟨[], rfl⟩, by simp [Good]⟩
  | closing quote contents =>
    have isQuote : quote = '\'' := settled
    subst isQuote
    simp only [step, if_pos]
    exact ⟨⟨_, rfl⟩, by simp⟩
  | _ => exact absurd settled (by simp [Settled])

theorem step_quoted (dialect : Dialect) (quoted : Quoted state) (isSteady : steady char = true) :
    (step dialect state char).1 = [] ∧ (char = '\'' → Settled (step dialect state char).2) ∧
      (char ≠ '\'' → Quoted (step dialect state char).2) := by
  obtain ⟨contents, rfl⟩ := quoted
  have notEscape : char ≠ '\\' := (steady_cases isSteady).2.2.1
  by_cases isQuote : char = '\''
  · subst isQuote
    simp [step, Settled]
  · simp [step, isQuote, notEscape, Quoted]

-- A steady text is left outside a quoted text exactly if its quotes are even in number.
variable {text : Chars}

theorem run_steady (ordinary : Ordinary dialect) (isSteady : text.all steady = true) (odd : Bool)
    (phase : if odd then Quoted state else Settled state) :
    (if oddQuotes odd text then Quoted (run dialect state text).2
      else Settled (run dialect state text).2) ∧
      ∀ token ∈ (run dialect state text).1, Good token := by
  induction text generalizing odd state with
  | nil => exact ⟨phase, by simp⟩
  | cons char rest ih =>
    rw [List.all_cons, Bool.and_eq_true] at isSteady
    rw [run_cons, oddQuotes]
    have next : (if (if isTick char then !odd else odd) = true then
        Quoted (step dialect state char).2 else Settled (step dialect state char).2) ∧
        ∀ token ∈ (step dialect state char).1, Good token := by
      cases odd with
      | true =>
        obtain ⟨silent, closes, stays⟩ := step_quoted dialect phase isSteady.1
        refine ⟨?_, by simp [silent]⟩
        by_cases isQuote : char = '\''
        · simpa [isTick_iff.mpr isQuote] using closes isQuote
        · simpa [isTick_iff, isQuote] using stays isQuote
      | false =>
        by_cases isQuote : char = '\''
        · subst isQuote
          exact step_settled_quote ordinary phase
        · have moved := step_settled_steady ordinary phase isSteady.1 isQuote
          simpa [isTick_iff, isQuote] using moved
    obtain ⟨last, goodRest⟩ := ih isSteady.2 _ next.1
    refine ⟨last, fun token member => ?_⟩
    rcases List.mem_append.mp member with here | later
    · exact next.2 token here
    · exact goodRest token later

/-! ## Sound templates -/

theorem start_closing {char quote : Char} {contents : Chars}
    (closed : (start dialect char).2 = .closing quote contents) : False := by
  unfold start at closed
  split_ifs at closed

theorem step_closing {char quote : Char} {contents : Chars}
    (closed : (step dialect state char).2 = .closing quote contents) : char = quote := by
  unfold step at closed
  split at closed <;> try split_ifs at closed
  all_goals first
    | exact (start_closing closed).elim
    | cases closed
  assumption

theorem last_of_closing {quote : Char} {contents : Chars}
    (closed : (run dialect .between text).2 = .closing quote contents) :
    text.getLast? = some quote := by
  rcases List.eq_nil_or_concat text with rfl | ⟨front, last, rfl⟩
  · cases closed
  · rw [List.concat_eq_append, run_append, run_cons] at closed
    rw [List.concat_eq_append, List.getLast?_concat, step_closing closed]

/-- What comes after a text begins a token of its own. -/
def Follows (text rest : Chars) : Prop :=
  ∀ char ∈ rest.head?, isWordChar char = false ∧ char ≠ '*' ∧
    (char = '\'' → text.getLast? ≠ some '\'')

theorem ends_settled (settled : Settled state)
    (notWord : isWordChar char = false) (notStar : char ≠ '*')
    (apart : ∀ contents, state = .closing '\'' contents → char ≠ '\'') :
    Ends dialect state char := by
  cases state with
  | between => simp [Ends, step, after, finish]
  | word text => simp [Ends, step, finish, notWord]
  | slash => simp [Ends, step, finish, notStar]
  | closing quote contents =>
    have isQuote : quote = '\'' := settled
    subst isQuote
    simp [Ends, step, finish, apart contents rfl]
  | _ => exact absurd settled (by simp [Settled])

theorem tokens_text (ordinary : Ordinary dialect)
    (isSteady : text.all steady = true) (even : oddQuotes false text = false) {rest : Chars}
    (follows : Follows text rest) :
    tokens dialect (text ++ rest) = tokens dialect text ++ tokens dialect rest := by
  have phase := (run_steady ordinary isSteady false
    (show if false = true then Quoted .between else Settled .between from trivial)).1
  rw [even] at phase
  have settled : Settled (run dialect .between text).2 := phase
  have whole : tokens dialect text = _ := tokensFrom.eq_1 dialect .between text
  rw [whole, List.append_assoc, tokens, tokensFrom_append]
  refine congrArg _ ?_
  cases rest with
  | nil => simp [tokensFrom, tokens, finish]
  | cons char others =>
    obtain ⟨notWord, notStar, apart⟩ := follows char rfl
    refine tokensFrom_ends dialect (ends_settled settled notWord notStar ?_) others
    intro contents closed isTick
    exact apart isTick (last_of_closing closed)

theorem tokens_name {quote : Char} {kind : Kind} (quotes : dialect.kind quote = some kind)
    (notBackslash : '\\' ≠ quote) (held : Contained dialect quote text)
    {rest : Chars} (apart : ∀ char ∈ rest.head?, char ≠ quote) :
    tokens dialect (quote :: (doubled quote text ++ quote :: rest)) =
      .quoted kind text :: tokens dialect rest := by
  have opens : start dialect quote = ([], .inside quote []) := by
    rw [start, quotes]
    rfl
  rw [tokens, tokensFrom, run_cons]
  simp only [step, opens, List.nil_append]
  rw [run_append, run_doubled notBackslash held, run_cons]
  simp only [step, if_pos, List.nil_append, List.append_nil]
  change tokensFrom dialect (.closing quote text.reverse) rest = _
  have token : finish dialect (.closing quote text.reverse) = [.quoted kind text] := by
    simp [finish, quotedToken, quotes]
  cases rest with
  | nil =>
    rw [tokensFrom, run_nil, token]
    rfl
  | cons char others =>
    have ends : Ends dialect (.closing quote text.reverse) char := by
      simp [Ends, step, finish, apart char rfl]
    rw [tokensFrom_ends dialect ends, token]
    rfl

variable (dialect)

/-- A fixed text is steady, holds whole literals and stands apart from what comes
after it; a name stands in quotes and apart too. -/
def Piece.Framed : Piece → Chars → Prop
  | .text words, rest =>
    words.toList.all steady = true ∧ oddQuotes false words.toList = false ∧
      Follows words.toList rest
  | .name quote _, rest =>
    (dialect.kind quote).isSome = true ∧ ('\\' : Char) ≠ quote ∧ ∀ char ∈ rest.head?, char ≠ quote

def Framed : List Piece → Prop
  | [] => True
  | piece :: rest => piece.Framed dialect (render rest) ∧ Framed rest

/-- A name was written with its quotes doubled and stays between its quotes. -/
def Piece.Held : Piece → Prop
  | .text _ => True
  | .name quote value => ∃ name, value.toList = doubled quote name ∧ Contained dialect quote name

variable {dialect}

theorem tokens_framed (ordinary : Ordinary dialect) {piece : Piece} {rest : Chars}
    (framed : piece.Framed dialect rest) (held : piece.Held dialect) :
    ∃ read, tokens dialect (piece.chars ++ rest) = read ++ tokens dialect rest ∧
      List.Forall₂ Slot.Holds (piece.slots dialect) read := by
  cases piece with
  | text words =>
    obtain ⟨isSteady, even, follows⟩ := framed
    refine ⟨tokens dialect words.toList, tokens_text ordinary isSteady even follows, ?_⟩
    exact List.forall₂_map_left_iff.mpr (List.forall₂_same.mpr fun _ _ => rfl)
  | name quote value =>
    obtain ⟨quotes, notBackslash, apart⟩ := framed
    obtain ⟨name, spelled, contained⟩ := held
    obtain ⟨kind, isKind⟩ := Option.isSome_iff_exists.mp quotes
    refine ⟨[.quoted kind name], ?_, ?_⟩
    · rw [Piece.chars, spelled, List.cons_append, List.append_assoc]
      exact tokens_name isKind notBackslash contained apart
    · rw [Piece.slots, isKind]
      exact .cons ⟨name, rfl⟩ .nil

variable {pieces : List Piece}

theorem fits_framed (ordinary : Ordinary dialect)
    (framed : Framed dialect pieces) (held : ∀ piece ∈ pieces, piece.Held dialect) :
    Fits dialect (slots dialect pieces) (render pieces) := by
  induction pieces with
  | nil => exact .nil
  | cons piece rest ih =>
    obtain ⟨read, whole, here⟩ := tokens_framed ordinary framed.1 (held piece List.mem_cons_self)
    have later := ih framed.2 fun other member => held other (List.mem_cons_of_mem _ member)
    rw [Fits, render, List.flatMap_cons, ← render, whole, slots, List.flatMap_cons]
    exact List.rel_append here later

variable (dialect)

inductive Spelled : List Piece → List Token → Prop where
  | nil : Spelled [] []
  | text {words : String} {rest : List Piece} {read : List Token} :
      Spelled rest read → Spelled (.text words :: rest) (tokens dialect words.toList ++ read)
  | name {quote : Char} {value : String} {kind : Kind} {name : Chars} {rest : List Piece}
      {read : List Token} :
      dialect.kind quote = some kind → value.toList = doubled quote name →
        Contained dialect quote name → Spelled rest read →
        Spelled (.name quote value :: rest) (.quoted kind name :: read)

variable {dialect}

theorem tokens_spelled (ordinary : Ordinary dialect) {read : List Token}
    (framed : Framed dialect pieces) (spelled : Spelled dialect pieces read) :
    tokens dialect (render pieces) = read := by
  induction spelled with
  | nil => rfl
  | text _ ih =>
    obtain ⟨⟨isSteady, even, follows⟩, framedRest⟩ := framed
    rw [render, List.flatMap_cons, ← render, Piece.chars,
      tokens_text ordinary isSteady even follows]
    exact congrArg _ (ih framedRest)
  | name quotes doubledName contained _ ih =>
    obtain ⟨⟨_, notBackslash, apart⟩, framedRest⟩ := framed
    rw [render, List.flatMap_cons, ← render, Piece.chars, doubledName, List.cons_append,
      List.append_assoc]
    exact (tokens_name quotes notBackslash contained apart).trans
      (congrArg _ (ih framedRest))

/-! ## A check of the fixed parts -/

def wholeLiterals (text : Chars) : Bool := text.all steady && !oddQuotes false text

/-- A text may be followed by a character that is part of no token before it. -/
def standsApart (text : Chars) (next : Option Char) : Bool :=
  match next with
  | none => true
  | some char => !isWordChar char && char != '*' &&
      (char != '\'' || text.getLast? != some '\'')

def firstChar : List Piece → Option Char
  | [] => none
  | .text words :: _ => words.toList.head?
  | .name quote _ :: _ => some quote

def checkedPieces (dialect : Dialect) : List Piece → Bool
  | [] => true
  | .text words :: rest =>
    wholeLiterals words.toList && words.toList.head?.isSome &&
      standsApart words.toList (firstChar rest) && checkedPieces dialect rest
  | .name quote _ :: rest =>
    (dialect.kind quote).isSome && quote != '\\' && (firstChar rest != some quote) &&
      checkedPieces dialect rest

theorem head_render (checked : checkedPieces dialect pieces = true) :
    (render pieces).head? = firstChar pieces := by
  cases pieces with
  | nil => rfl
  | cons piece rest =>
    cases piece with
    | text words =>
      simp only [checkedPieces, Bool.and_eq_true] at checked
      obtain ⟨char, first⟩ := Option.isSome_iff_exists.mp checked.1.1.2
      rw [render, List.flatMap_cons, Piece.chars, List.head?_append, firstChar, first]
      rfl
    | name quote value => rfl

theorem framed_of_checked (checked : checkedPieces dialect pieces = true) :
    Framed dialect pieces := by
  induction pieces with
  | nil => trivial
  | cons piece rest ih =>
    cases piece with
    | text words =>
      simp only [checkedPieces, Bool.and_eq_true] at checked
      obtain ⟨⟨⟨whole, _⟩, apart⟩, checkedRest⟩ := checked
      simp only [wholeLiterals, Bool.and_eq_true, Bool.not_eq_true'] at whole
      refine ⟨⟨whole.1, whole.2, ?_⟩, ih checkedRest⟩
      intro char first
      rw [head_render checkedRest, Option.mem_def] at first
      simp only [standsApart, first, Bool.and_eq_true, Bool.not_eq_true', bne_iff_ne,
        Bool.or_eq_true] at apart
      refine ⟨apart.1.1, apart.1.2, fun isTick => ?_⟩
      exact apart.2.resolve_left fun other => other isTick
    | name quote value =>
      simp only [checkedPieces, Bool.and_eq_true, bne_iff_ne] at checked
      obtain ⟨⟨⟨quotes, notBackslash⟩, apart⟩, checkedRest⟩ := checked
      refine ⟨⟨quotes, Ne.symm notBackslash, ?_⟩, ih checkedRest⟩
      intro char first isQuote
      rw [head_render checkedRest, Option.mem_def, isQuote] at first
      exact apart first

def Piece.erase : Piece → Piece
  | .text words => .text words
  | .name quote _ => .name quote ""

theorem slots_erase (pieces : List Piece) :
    slots dialect (pieces.map Piece.erase) = slots dialect pieces := by
  rw [slots, slots, List.flatMap_map]
  refine congrArg (pieces.flatMap ·) (funext fun piece => ?_)
  cases piece <;> rfl

theorem slots_eq {first second : List Piece}
    (same : first.map Piece.erase = second.map Piece.erase) :
    slots dialect first = slots dialect second := by
  rw [← slots_erase, same, slots_erase]

/-! ## Names that are not held -/

def Outside : State → Prop
  | .between | .word _ | .dash | .dashes | .slash => True
  | .closing quote _ => isQuoteSign quote = true
  | _ => False

/-- In a quoted text of another quote or in a comment. -/
def Lost : State → Prop
  | .inside quote _ | .escaped quote _ => isQuoteSign quote = true ∧ quote ≠ '\''
  | .line | .block | .star => True
  | _ => False

/-- A state that a name may leave behind, and one a fixed text may then be read in. -/
def Free (state : State) : Prop := Outside state ∨ Lost state

def Broken (state : State) : Prop := Quoted state ∨ Lost state

theorem start_free (ordinary : Ordinary dialect) (other : char ≠ '\'') :
    Free (start dialect char).2 := by
  unfold start
  split_ifs with quotes
  · exact Or.inr ⟨ordinary.signs char quotes, other⟩
  · exact Or.inl trivial
  · exact Or.inl trivial
  · exact Or.inl trivial
  · exact Or.inr trivial
  · exact Or.inl trivial
  · exact Or.inl trivial

theorem start_quote (ordinary : Ordinary dialect) : start dialect '\'' = ([], .inside '\'' []) := by
  rw [start, ordinary.literal]
  rfl

theorem step_outside_quote (ordinary : Ordinary dialect)
    (outside : Outside state) : Quoted (step dialect state '\'').2 := by
  have opened : Quoted (start dialect '\'').2 := by
    rw [start_quote ordinary]
    exact ⟨[], rfl⟩
  cases state with
  | between => exact opened
  | word text => exact opened
  | dash => exact opened
  | dashes => exact opened
  | slash => exact opened
  | closing quote contents =>
    by_cases isQuote : '\'' = quote
    · subst isQuote
      have continued : (step dialect (.closing '\'' contents) '\'').2 =
          .inside '\'' ('\'' :: contents) := by simp [step]
      exact ⟨_, continued⟩
    · simp only [step, if_neg isQuote]
      exact opened
  | _ => exact absurd outside (by simp [Outside])

theorem step_lost_quote (lost : Lost state) : Lost (step dialect state '\'').2 := by
  cases state with
  | inside quote contents =>
    have other : quote ≠ '\'' := lost.2
    simpa [step, Ne.symm other, Lost] using lost
  | escaped quote contents => exact lost
  | line => trivial
  | block => trivial
  | star => trivial
  | _ => exact absurd lost (by simp [Lost])

theorem step_free_other (ordinary : Ordinary dialect) (free : Free state)
 (other : char ≠ '\'') : Free (step dialect state char).2 := by
  have started : Free (start dialect char).2 := start_free ordinary other
  cases state with
  | between => exact started
  | word text =>
    simp only [step]
    split
    · exact Or.inl trivial
    · exact started
  | dash =>
    simp only [step]
    split
    · dsimp only
      split
      · exact Or.inl trivial
      · exact Or.inr trivial
    · exact started
  | dashes =>
    simp only [step]
    split_ifs
    · exact Or.inl trivial
    · exact Or.inr trivial
    · exact Or.inl trivial
    · exact started
  | slash =>
    simp only [step]
    split
    · exact Or.inr trivial
    · exact started
  | inside quote contents =>
    rcases free with outside | lost
    · exact outside.elim
    · simp only [step]
      split_ifs
      · exact Or.inl lost.1
      · exact Or.inr lost
      · exact Or.inr lost
  | escaped quote contents =>
    rcases free with outside | lost
    · exact outside.elim
    · exact Or.inr lost
  | closing quote contents =>
    simp only [step]
    split
    · rename_i isQuote
      rcases free with outside | lost
      · exact Or.inr ⟨outside, isQuote ▸ other⟩
      · exact lost.elim
    · exact started
  | line =>
    simp only [step]
    split
    · exact Or.inl trivial
    · exact Or.inr trivial
  | block =>
    simp only [step]
    split
    · exact Or.inr trivial
    · exact Or.inr trivial
  | star =>
    simp only [step]
    split
    · exact Or.inl trivial
    · dsimp only
      split
      · exact Or.inr trivial
      · exact Or.inr trivial

theorem step_free_quote (ordinary : Ordinary dialect) (free : Free state) :
    Broken (step dialect state '\'').2 := by
  rcases free with outside | lost
  · exact Or.inl (step_outside_quote ordinary outside)
  · exact Or.inr (step_lost_quote lost)

theorem step_broken_quote (broken : Broken state) : Free (step dialect state '\'').2 := by
  rcases broken with ⟨contents, rfl⟩ | lost
  · exact Or.inl (by simp [step, Outside, isQuoteSign])
  · exact Or.inr (step_lost_quote lost)

theorem run_free_doubled (ordinary : Ordinary dialect) (free : Free state)
    (name : Chars) : Free (run dialect state (doubled '\'' name)).2 := by
  induction name generalizing state with
  | nil => exact free
  | cons char rest ih =>
    by_cases isQuote : char = '\''
    · rw [doubled, if_pos isQuote, run_cons, run_cons]
      exact ih (step_broken_quote (step_free_quote ordinary free))
    · rw [doubled, if_neg isQuote, run_cons]
      exact ih (step_free_other ordinary free isQuote)

theorem run_escaping (ordinary : Ordinary dialect) (escapes : dialect.backslash '\'' = true)
    {name : Chars} (leaves : keepsQuote '\'' name = false) (contents : Chars) :
    Broken (step dialect (run dialect (.inside '\'' contents) (doubled '\'' name)).2 '\'').2 := by
  fun_induction keepsQuote '\'' name generalizing contents with
  | case1 => simp at leaves
  | case2 =>
    have opened : (run dialect (.inside '\'' contents) ['\\']).2 =
        .escaped '\'' ('\\' :: contents) := by
      simp [run_cons, step, escapes]
    rw [doubled, if_neg (by decide), doubled, opened]
    exact Or.inl ⟨_, rfl⟩
  | case3 char rest ih =>
    rw [Bool.and_eq_false_iff] at leaves
    rw [doubled, if_neg (by decide), doubled]
    by_cases isQuote : char = '\''
    · -- The first of the two quotes is taken along, the second one closes.
      subst isQuote
      rw [if_pos rfl, run_inside_backslash escapes (by decide), run_cons]
      have freed : Free (step dialect (.inside '\'' ('\'' :: '\\' :: contents)) '\'').2 :=
        step_broken_quote (Or.inl ⟨_, rfl⟩)
      exact step_free_quote ordinary (run_free_doubled ordinary freed rest)
    · have leavesRest : keepsQuote '\'' rest = false := by
        rcases leaves with here | later
        · simp [isQuote] at here
        · exact later
      rw [if_neg isQuote, run_inside_backslash escapes (by decide)]
      exact ih leavesRest _
  | case4 char rest notLast notPair ih =>
    by_cases isQuote : char = '\''
    · subst isQuote
      rw [doubled, if_pos rfl, run_inside_quote]
      exact ih leaves _
    · have different : char ≠ '\\' := by
        rintro rfl
        cases rest with
        | nil => exact notLast rfl rfl
        | cons next others => exact notPair next others rfl rfl
      rw [doubled, if_neg isQuote, run_inside_plain isQuote (Or.inr different)]
      exact ih leaves _

/-! ## Fixed texts between names -/

/-- Where a fixed text is read as it should be. -/
def Clear : State → Prop
  | .between | .word _ => True
  | .closing quote _ => isQuoteSign quote = true
  | _ => False

theorem Clear.outside (clear : Clear state) : Outside state := by
  cases state with
  | between => trivial
  | word text => trivial
  | closing quote contents => exact clear
  | _ => exact clear.elim

theorem start_calm (ordinary : Ordinary dialect) (isCalm : calm char = true)
    (other : char ≠ '\'') : Clear (start dialect char).2 := by
  obtain ⟨_, _, _, notDash, notHash, _, notSlash, _⟩ := calm_cases isCalm
  have plain : dialect.kind char = none :=
    kind_none ordinary (by rw [steady, isCalm, Bool.true_or]) other
  unfold start
  split_ifs with quotes isWord isHash
  · simp [plain] at quotes
  · trivial
  · exact absurd isHash.1 notHash
  · trivial
  · trivial

theorem step_clear_calm (ordinary : Ordinary dialect) (clear : Clear state)
 (isCalm : calm char = true) (other : char ≠ '\'') :
    Clear (step dialect state char).2 := by
  obtain ⟨notDouble, notBack, _⟩ := calm_cases isCalm
  have started : Clear (start dialect char).2 := start_calm ordinary isCalm other
  cases state with
  | between => exact started
  | word text =>
    simp only [step]
    split
    · trivial
    · exact started
  | closing quote contents =>
    have apart : char ≠ quote := by
      rintro rfl
      have sign : isQuoteSign char = true := clear
      simp [isQuoteSign, other, notDouble, notBack] at sign
    simp only [step, if_neg apart]
    exact started
  | _ => exact clear.elim

theorem step_quoted_calm (quoted : Quoted state)
    (isCalm : calm char = true) (other : char ≠ '\'') : Quoted (step dialect state char).2 :=
  (step_quoted dialect quoted (by rw [steady, isCalm, Bool.true_or])).2.2 other

theorem step_lost_calm (lost : Lost state)
    (isCalm : calm char = true) : Lost (step dialect state char).2 := by
  obtain ⟨notDouble, notBack, notEscape, _, _, notStar, notSlash, notLine⟩ := calm_cases isCalm
  cases state with
  | inside quote contents =>
    have apart : char ≠ quote := by
      rintro rfl
      have sign : isQuoteSign char = true := lost.1
      have other : char ≠ '\'' := lost.2
      simp [isQuoteSign, other, notDouble, notBack] at sign
    simpa [step, apart, notEscape, Lost] using lost
  | escaped quote contents => exact lost
  | line => simp [step, notLine, Lost]
  | block => simp [step, notStar, Lost]
  | star => simp [step, notSlash, notStar, Lost]
  | _ => exact lost.elim

theorem run_calm (ordinary : Ordinary dialect) (isCalm : text.all calm = true)
    (odd : Bool) (phase : if odd then Quoted state else Clear state) :
    if oddQuotes odd text then Quoted (run dialect state text).2
      else Clear (run dialect state text).2 := by
  induction text generalizing odd state with
  | nil => exact phase
  | cons char rest ih =>
    rw [List.all_cons, Bool.and_eq_true] at isCalm
    rw [run_cons, oddQuotes]
    refine ih isCalm.2 _ ?_
    cases odd with
    | true =>
      obtain ⟨contents, rfl⟩ := phase
      by_cases isQuote : char = '\''
      · subst isQuote
        simp [isTick, step, Clear, isQuoteSign]
      · simpa [isTick_iff, isQuote] using step_quoted_calm ⟨contents, rfl⟩ isCalm.1 isQuote
    | false =>
      by_cases isQuote : char = '\''
      · subst isQuote
        exact step_outside_quote ordinary phase.outside
      · simpa [isTick_iff, isQuote] using step_clear_calm ordinary phase isCalm.1 isQuote

theorem run_lost (isCalm : text.all calm = true)
    (lost : Lost state) : Lost (run dialect state text).2 := by
  induction text generalizing state with
  | nil => exact lost
  | cons char rest ih =>
    rw [List.all_cons, Bool.and_eq_true] at isCalm
    exact ih isCalm.2 (step_lost_calm lost isCalm.1)

theorem oddQuotes_not (odd : Bool) (text : Chars) :
    oddQuotes (!odd) text = !oddQuotes odd text := by
  induction text generalizing odd with
  | nil => rfl
  | cons char rest ih =>
    rw [oddQuotes, oddQuotes]
    split
    · exact ih (!odd)
    · exact ih odd

theorem run_broken (ordinary : Ordinary dialect) (isCalm : text.all calm = true)
    (even : oddQuotes false text = false) (broken : Broken state) :
    Broken (run dialect state text).2 := by
  rcases broken with quoted | lost
  · have phase := run_calm ordinary isCalm true
      (show if true = true then Quoted state else Clear state from quoted)
    have turned : oddQuotes true text = true := by
      rw [← Bool.not_false, oddQuotes_not, even]
    rw [turned] at phase
    exact Or.inl phase
  · exact Or.inr (run_lost isCalm lost)

/-! ## Whole statements -/

/-- A piece of a statement whose names are literals. -/
def Piece.Calm : Piece → Prop
  | .text words => words.toList.all calm = true ∧ oddQuotes false words.toList = false
  | .name quote value => quote = '\'' ∧ ∃ name, value.toList = doubled '\'' name

def Piece.Escapes : Piece → Prop
  | .text _ => False
  | .name _ value => ∃ name, value.toList = doubled '\'' name ∧ keepsQuote '\'' name = false

theorem run_piece_broken (ordinary : Ordinary dialect) {piece : Piece} (isCalm : piece.Calm)
 (broken : Broken state) : Broken (run dialect state piece.chars).2 := by
  cases piece with
  | text words => exact run_broken ordinary isCalm.1 isCalm.2 broken
  | name quote value =>
    obtain ⟨isQuote, name, spelled⟩ := isCalm
    subst isQuote
    rw [Piece.chars, spelled, run_cons, run_append, run_cons]
    exact step_free_quote ordinary
      (run_free_doubled ordinary (step_broken_quote broken) name)

theorem run_pieces_broken (ordinary : Ordinary dialect)
    (isCalm : ∀ piece ∈ pieces, piece.Calm) (broken : Broken state) :
    Broken (run dialect state (render pieces)).2 := by
  induction pieces generalizing state with
  | nil => exact broken
  | cons piece rest ih =>
    rw [render, List.flatMap_cons, run_append]
    exact ih (fun other member => isCalm other (List.mem_cons_of_mem _ member))
      (run_piece_broken ordinary (isCalm piece List.mem_cons_self) broken)

theorem run_piece_clear (ordinary : Ordinary dialect) (escapes : dialect.backslash '\'' = true)
    {piece : Piece} (isCalm : piece.Calm) (clear : Clear state) :
    Clear (run dialect state piece.chars).2 ∧ ¬piece.Escapes ∨
      Broken (run dialect state piece.chars).2 ∧ piece.Escapes := by
  cases piece with
  | text words =>
    have phase := run_calm ordinary isCalm.1 false
      (show if false = true then Quoted state else Clear state from clear)
    rw [isCalm.2] at phase
    exact Or.inl ⟨phase, id⟩
  | name quote value =>
    obtain ⟨isQuote, name, spelled⟩ := isCalm
    subst isQuote
    obtain ⟨contents, opened⟩ := step_outside_quote ordinary clear.outside
    rw [Piece.chars, run_cons, run_append, run_cons, opened, spelled]
    by_cases keeps : keepsQuote '\'' name = true
    · left
      rw [run_doubled_keeps (by decide) keeps]
      refine ⟨by simp [step, Clear, isQuoteSign], ?_⟩
      rintro ⟨other, otherSpelled, leaves⟩
      have same : name = other := doubled_injective (spelled.symm.trans otherSpelled)
      simp [← same, keeps] at leaves
    · have leaves : keepsQuote '\'' name = false := by simpa using keeps
      exact Or.inr ⟨run_escaping ordinary escapes leaves contents, name, spelled, leaves⟩

theorem run_escapes (ordinary : Ordinary dialect) (escapes : dialect.backslash '\'' = true)
 (isCalm : ∀ piece ∈ pieces, piece.Calm)
    (escaped : ∃ piece ∈ pieces, piece.Escapes) (clear : Clear state) :
    Broken (run dialect state (render pieces)).2 := by
  induction pieces generalizing state with
  | nil => simp at escaped
  | cons piece rest ih =>
    have calmRest : ∀ other ∈ rest, other.Calm := fun other member =>
      isCalm other (List.mem_cons_of_mem _ member)
    rw [render, List.flatMap_cons, run_append]
    rcases run_piece_clear ordinary escapes (isCalm piece List.mem_cons_self) clear with
      ⟨stays, holds⟩ | ⟨broken, _⟩
    · obtain ⟨other, member, leaves⟩ := escaped
      rcases List.mem_cons.mp member with rfl | later
      · exact absurd leaves holds
      · exact ih calmRest ⟨other, later, leaves⟩ stays
    · exact run_pieces_broken ordinary calmRest broken

theorem bad_of_broken (broken : Broken (run dialect .between text).2) :
    ∃ token ∈ tokens dialect text, ¬Good token := by
  have last : ∃ token ∈ finish dialect (run dialect .between text).2, ¬Good token := by
    rcases broken with ⟨contents, isInside⟩ | lost
    · rw [isInside]
      exact ⟨.unterminated, List.mem_singleton_self _, fun good => good.2 rfl⟩
    · cases ended : (run dialect .between text).2 with
      | inside quote contents | escaped quote contents | block | star =>
        exact ⟨.unterminated, List.mem_singleton_self _, fun good => good.2 rfl⟩
      | line => exact ⟨.comment, List.mem_singleton_self _, fun good => good.1 rfl⟩
      | _ => rw [ended] at lost; exact lost.elim
  obtain ⟨token, member, bad⟩ := last
  exact ⟨token, List.mem_append_right _ member, bad⟩

theorem good_text (ordinary : Ordinary dialect)
    (isSteady : text.all steady = true) (even : oddQuotes false text = false) :
    ∀ token ∈ tokens dialect text, Good token := by
  obtain ⟨phase, good⟩ := run_steady ordinary isSteady false
    (show if false = true then Quoted .between else Settled .between from trivial)
  rw [even] at phase
  intro token member
  rcases List.mem_append.mp member with read | last
  · exact good token read
  · exact good_finish phase token last

theorem good_slots (ordinary : Ordinary dialect) (framed : Framed dialect pieces) :
    ∀ token, Slot.fixed token ∈ slots dialect pieces → Good token := by
  induction pieces with
  | nil => simp [slots]
  | cons piece rest ih =>
    intro token member
    rw [slots, List.flatMap_cons, List.mem_append] at member
    rcases member with here | later
    · cases piece with
      | text words =>
        obtain ⟨other, present, same⟩ := List.mem_map.mp here
        cases same
        exact good_text ordinary framed.1.1 framed.1.2.1 token present
      | name quote value => simp [Piece.slots] at here
    · exact ih framed.2 token later

theorem good_of_fits {template : List Slot}
    (good : ∀ token, Slot.fixed token ∈ template → Good token)
    (fits : Fits dialect template text) : ∀ token ∈ tokens dialect text, Good token := by
  unfold Fits at fits
  generalize tokens dialect text = read at fits
  induction fits with
  | nil => simp
  | cons holds _ ih =>
    rename_i slot token template others _
    intro other member
    rcases List.mem_cons.mp member with rfl | later
    · cases slot with
      | fixed expected =>
        have same : other = expected := holds
        exact same ▸ good expected List.mem_cons_self
      | carries kind =>
        obtain ⟨contents, isQuoted⟩ := holds
        simp [isQuoted, Good]
    · exact ih (fun wanted present => good wanted (List.mem_cons_of_mem _ present)) other later

-- A statement that fits some sound template has no name that escapes.
theorem no_escape_of_fits (ordinary : Ordinary dialect) (escapes : dialect.backslash '\'' = true)
    {plain pieces : List Piece} (framed : Framed dialect plain)
    (isCalm : ∀ piece ∈ pieces, piece.Calm)
    (fits : Fits dialect (slots dialect plain) (render pieces)) :
    ∀ piece ∈ pieces, ¬piece.Escapes := by
  intro piece member escaped
  obtain ⟨token, present, bad⟩ := bad_of_broken
    (run_escapes ordinary escapes isCalm ⟨piece, member, escaped⟩
      (show Clear .between from trivial))
  exact bad (good_of_fits (good_slots ordinary framed) fits token present)

end Onetcli.SqlTokens
