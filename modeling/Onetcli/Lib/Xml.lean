import Onetcli.Lib.Chars
import Onetcli.Lib.Scanners

/-!
A reader of XML 1.0 for what programs write: elements with attributes in double quotes, texts and
the predefined references. It refuses raw ampersands and angles, attributes given twice and tags
that do not match. Comments, character data sections, processing instructions and document types
are refused too. Written texts are read piece by piece, a tag may be cut anywhere.
-/

namespace Onetcli.Xml

open Chars Scanners Scanner

/-! ## The tags and the texts -/

/-- The characters that XML 1.0 allows; a `Char` is no surrogate. -/
def isXmlChar (char : Char) : Bool :=
  char == '\t' || char == '\n' || char == '\r' ||
    (32 ≤ char.toNat && char.toNat != 0xFFFE && char.toNat != 0xFFFF)

inductive Event where
  | opened (name : Chars)
  | data (char : Char)
  | closed (name : Chars)
  deriving DecidableEq

/-- Where the reader stands; the keys are those of the attributes of the tag so far. -/
inductive State where
  | text
  | reference (sofar : Chars)
  | opening
  | starting (name : Chars)
  | inside (name : Chars) (keys : List Chars)
  | key (name : Chars) (keys : List Chars) (sofar : Chars)
  | assigned (name : Chars) (keys : List Chars)
  | value (name : Chars) (keys : List Chars)
  | valueReference (name : Chars) (keys : List Chars) (sofar : Chars)
  | valued (name : Chars) (keys : List Chars)
  | ended (name : Chars)
  | closing (name : Chars)
  | failed
  deriving DecidableEq

def isNameStart (char : Char) : Bool := char.isAlpha || char == ':' || char == '_'

def isNameChar (char : Char) : Bool :=
  isNameStart char || isAsciiDigit char || char == '-' || char == '.'

def entity (name : Chars) : Option Char :=
  if name = ['a', 'm', 'p'] then some '&'
  else if name = ['l', 't'] then some '<'
  else if name = ['g', 't'] then some '>'
  else if name = ['q', 'u', 'o', 't'] then some '"'
  else if name = ['a', 'p', 'o', 's'] then some '\''
  else none

def step : State → Char → List Event × State
  | .text, char =>
    if char = '<' then ([], .opening)
    else if char = '&' then ([], .reference [])
    else if char = '>' then ([], .failed)
    else ([.data char], .text)
  | .reference sofar, char =>
    if char = ';' then
      match entity sofar with
      | some meant => ([.data meant], .text)
      | none => ([], .failed)
    else ([], .reference (sofar ++ [char]))
  | .opening, char =>
    if char = '/' then ([], .closing [])
    else if isNameStart char then ([], .starting [char])
    else ([], .failed)
  | .starting name, char =>
    if char = '>' then ([.opened name], .text)
    else if char = '/' then ([], .ended name)
    else if char = ' ' then ([], .inside name [])
    else if isNameChar char then ([], .starting (name ++ [char]))
    else ([], .failed)
  | .inside name keys, char =>
    if isNameStart char then ([], .key name keys [char]) else ([], .failed)
  | .key name keys sofar, char =>
    if char = '=' then
      if sofar ∈ keys then ([], .failed) else ([], .assigned name (keys ++ [sofar]))
    else if isNameChar char then ([], .key name keys (sofar ++ [char]))
    else ([], .failed)
  | .assigned name keys, char => if char = '"' then ([], .value name keys) else ([], .failed)
  | .value name keys, char =>
    if char = '"' then ([], .valued name keys)
    else if char = '&' then ([], .valueReference name keys [])
    else if char = '<' then ([], .failed)
    else ([], .value name keys)
  | .valueReference name keys sofar, char =>
    if char = ';' then
      if (entity sofar).isSome then ([], .value name keys) else ([], .failed)
    else ([], .valueReference name keys (sofar ++ [char]))
  | .valued name keys, char =>
    if char = '>' then ([.opened name], .text)
    else if char = '/' then ([], .ended name)
    else if char = ' ' then ([], .inside name keys)
    else ([], .failed)
  | .ended name, char =>
    if char = '>' then ([.opened name, .closed name], .text) else ([], .failed)
  | .closing name, char =>
    if char = '>' then ([.closed name], .text)
    else if isNameChar char then ([], .closing (name ++ [char]))
    else ([], .failed)
  | .failed, _ => ([], .failed)

def scanner : Scanner State Char Event := ⟨.text, step, fun _ => []⟩

/-! ## The elements -/

/-- An element that is open, with its own text so far. -/
structure Element where
  name : Chars
  text : Chars := []
  deriving DecidableEq

def nest (wanted : Chars) : List Element → List Event → Option (List Element × List Chars)
  | stack, [] => some (stack, [])
  | stack, .opened name :: rest => nest wanted (⟨name, []⟩ :: stack) rest
  | [], .data _ :: _ => none
  | top :: below, .data char :: rest => nest wanted ({ top with text := top.text ++ [char] } :: below) rest
  | [], .closed _ :: _ => none
  | top :: below, .closed name :: rest =>
    if top.name = name then
      (nest wanted below rest).map fun read =>
        (read.1, if name = wanted then top.text :: read.2 else read.2)
    else none

def declaration : Chars := "<?xml version=\"1.0\" encoding=\"UTF-8\" standalone=\"yes\"?>".toList

/-- The texts of the elements of a name in a document of one root, if its tags are in order. -/
def documentTexts (wanted text : Chars) : Option (List Chars) :=
  (stripPrefix declaration text).bind fun body =>
    match scanner.run .text body with
    | (.opened root :: events, .text) =>
      if events.getLast? = some (.closed root) then
        match nest wanted [] events.dropLast with
        | some ([], found) => some found
        | _ => none
      else none
    | _ => none

variable {wanted : Chars} {clean : Prop}

theorem nest_append {stack : List Element} {first second : List Event} :
    nest wanted stack (first ++ second) = (nest wanted stack first).bind fun read =>
        (nest wanted read.1 second).map fun later => (later.1, read.2 ++ later.2) := by
  induction first generalizing stack with
  | nil => simp [nest]
  | cons event rest ih =>
    cases event with
    | opened name => simp [nest, ih]
    | data char =>
      cases stack with
      | nil => rfl
      | cons top below => simp [nest, ih]
    | closed name =>
      cases stack with
      | nil => rfl
      | cons top below =>
        by_cases matching : top.name = name
        · by_cases named : name = wanted
          · simp [nest, ih, matching, named, Function.comp_def, Option.bind_map]
          · simp [nest, ih, matching, named, Function.comp_def]
        · simp [nest, matching]

theorem nest_below {stack left base : List Element} {events : List Event} {found : List Chars}
    (nested : nest wanted stack events = some (left, found)) :
    nest wanted (stack ++ base) events = some (left ++ base, found) := by
  induction events generalizing stack found with
  | nil =>
    obtain ⟨rfl, rfl⟩ := Prod.mk.inj (Option.some.inj nested)
    rfl
  | cons event rest ih =>
    cases event with
    | opened name => exact ih nested
    | data char =>
      cases stack with
      | nil => cases nested
      | cons top below => exact ih nested
    | closed name =>
      cases stack with
      | nil => cases nested
      | cons top below =>
        by_cases matching : top.name = name
        · simp only [nest, if_pos matching, List.cons_append] at nested ⊢
          obtain ⟨read, inner, same⟩ := Option.map_eq_some_iff.mp nested
          obtain ⟨rfl, rfl⟩ := Prod.mk.inj same
          rw [ih inner]
          rfl
        · simp only [nest, if_neg matching] at nested
          cases nested

/-! ## Pieces of a document -/

variable (wanted clean) in
/-- What a piece of a document does, which has only allowed characters when the texts are clean:
where it leaves the reader, the elements it leaves open and the texts it completes. -/
structure Writes (start : State) (stack : List Element) (text : Chars) (final : State)
    (left : List Element) (found : List Chars) : Prop where
  final : (scanner.run start text).2 = final
  nested : nest wanted stack (scanner.run start text).1 = some (left, found)
  legal : clean → text.all isXmlChar = true

section Writes

variable {start middle final : State} {stack between left base : List Element}
  {text front back : Chars} {found first second : List Chars}

theorem Writes.nil : Writes wanted clean start stack [] start stack [] :=
  ⟨rfl, rfl, fun _ => rfl⟩

theorem Writes.append (one : Writes wanted clean start stack front middle between first)
    (two : Writes wanted clean middle between back final left second) :
    Writes wanted clean start stack (front ++ back) final left (first ++ second) := by
  constructor
  · rw [run_append, one.final, two.final]
  · rw [run_append, nest_append, one.final, one.nested]
    simp [two.nested]
  · intro isClean
    rw [List.all_append, one.legal isClean, two.legal isClean]
    rfl

theorem Writes.followed (one : Writes wanted clean start stack front middle between found)
    (two : Writes wanted clean middle between back final left []) :
    Writes wanted clean start stack (front ++ back) final left found := by
  have both := one.append two
  rwa [List.append_nil] at both

theorem Writes.below (writes : Writes wanted clean start stack text final left found)
    (base : List Element) :
    Writes wanted clean start (stack ++ base) text final (left ++ base) found :=
  ⟨writes.final, nest_below writes.nested, writes.legal⟩

theorem Writes.flatMap {Item : Type} {items : List Item} {texts : Item → Chars}
    {result : Item → List Chars}
    (each : ∀ item ∈ items, Writes wanted clean start stack (texts item) start stack (result item)) :
    Writes wanted clean start stack (items.flatMap texts) start stack (items.flatMap result) := by
  induction items with
  | nil => exact .nil
  | cons item rest ih =>
    rw [List.flatMap_cons, List.flatMap_cons]
    exact (each item List.mem_cons_self).append
      (ih fun other member => each other (List.mem_cons_of_mem _ member))

theorem writes_literal {literal : String} {chars : Chars} (spelled : literal = String.ofList chars)
    (read : (scanner.run start chars).2 = final ∧
      nest wanted stack (scanner.run start chars).1 = some (left, found) ∧
      chars.all isXmlChar = true) :
    Writes wanted clean start stack literal.toList final left found := by
  rw [spelled, String.toList_ofList]
  exact ⟨read.1, read.2.1, fun _ => read.2.2⟩

/-- A character of a value that needs no reference. -/
def isValueChar (char : Char) : Bool :=
  !(char == '"' || char == '&' || char == '<') && isXmlChar char

theorem writes_value {name : Chars} {keys : List Chars} (plain : text.all isValueChar = true) :
    Writes wanted clean (.value name keys) stack text (.value name keys) stack [] := by
  have silent : scanner.run (.value name keys) text = ([], .value name keys) := by
    apply run_silent
    intro char member
    have simple := List.all_eq_true.mp plain char member
    simp only [isValueChar, Bool.and_eq_true, Bool.not_eq_true', Bool.or_eq_false_iff,
      beq_eq_false_iff_ne] at simple
    show step (.value name keys) char = _
    simp [step, simple]
  constructor
  · rw [silent]
  · rw [silent]
    rfl
  · intro _
    apply List.all_eq_true.mpr
    intro char member
    exact (Bool.and_eq_true_iff.mp (List.all_eq_true.mp plain char member)).2

end Writes

theorem writes_end {literal : String} {chars : Chars} (spelled : literal = String.ofList chars)
    (read : scanner.run .text chars = ([.closed wanted], .text) ∧ chars.all isXmlChar = true)
    (text : Chars) (below : List Element) :
    Writes wanted clean .text (⟨wanted, text⟩ :: below) literal.toList .text below [text] := by
  rw [spelled, String.toList_ofList]
  refine ⟨by rw [read.1], ?_, fun _ => read.2⟩
  rw [read.1]
  simp [nest]

/-! ## Escaped texts -/

/-- The reference that is written for a character, or the character. -/
def escape (char : Char) : Chars :=
  if char = '&' then "&amp;".toList
  else if char = '<' then "&lt;".toList
  else if char = '>' then "&gt;".toList
  else if char = '"' then "&quot;".toList
  else if char = '\'' then "&apos;".toList
  else [char]

theorem run_escape (char : Char) : scanner.run .text (escape char) = ([.data char], .text) := by
  unfold escape
  split_ifs with ampersand less greater quote apostrophe
  · subst ampersand
    rfl
  · subst less
    rfl
  · subst greater
    rfl
  · subst quote
    rfl
  · subst apostrophe
    rfl
  · simp [run, scanner, step, ampersand, less, greater]

theorem run_escape_value (char : Char) (name : Chars) (keys : List Chars) :
    scanner.run (.value name keys) (escape char) = ([], .value name keys) := by
  unfold escape
  split_ifs with ampersand less greater quote apostrophe
  · rfl
  · rfl
  · rfl
  · rfl
  · rfl
  · simp [run, scanner, step, ampersand, less, quote]

theorem escape_legal {char : Char} (legal : isXmlChar char = true) :
    (escape char).all isXmlChar = true := by
  unfold escape
  split_ifs
  · decide
  · decide
  · decide
  · decide
  · decide
  · simpa using legal

section Escaped

variable {name : Chars} {keys : List Chars} {text : Chars} {stack : List Element}

theorem escaped_legal (legal : text.all isXmlChar = true) :
    (text.flatMap escape).all isXmlChar = true := by
  simp only [List.all_flatMap, List.all_eq_true] at legal ⊢
  intro char member
  exact List.all_eq_true.mp (escape_legal (legal char member))

theorem writes_escaped (sofar : Chars) (legal : clean → text.all isXmlChar = true) :
    Writes wanted clean .text (⟨name, sofar⟩ :: stack) (text.flatMap escape) .text
      (⟨name, sofar ++ text⟩ :: stack) [] := by
  have run : scanner.run .text (text.flatMap escape) = (text.map .data, .text) := by
    clear legal
    induction text with
    | nil => rfl
    | cons char rest ih => rw [List.flatMap_cons, run_append, run_escape, ih]; rfl
  constructor
  · rw [run]
  · rw [run]
    clear run legal
    induction text generalizing sofar with
    | nil => simp [nest]
    | cons char rest ih => simpa [nest] using ih (sofar ++ [char])
  · exact fun isClean => escaped_legal (legal isClean)

theorem writes_escaped_value (legal : clean → text.all isXmlChar = true) :
    Writes wanted clean (.value name keys) stack (text.flatMap escape) (.value name keys) stack
      [] := by
  have run : scanner.run (.value name keys) (text.flatMap escape) = ([], .value name keys) := by
    clear legal
    induction text with
    | nil => rfl
    | cons char rest ih => rw [List.flatMap_cons, run_append, run_escape_value, ih]; rfl
  constructor
  · rw [run]
  · rw [run]
    rfl
  · exact fun isClean => escaped_legal (legal isClean)

end Escaped

/-! ## Documents -/

theorem tag_literal {literal : String} {chars : Chars} {event : Event}
    (spelled : literal = String.ofList chars)
    (read : scanner.run .text chars = ([event], .text) ∧ chars.all isXmlChar = true) :
    scanner.run .text literal.toList = ([event], .text) ∧ literal.toList.all isXmlChar = true := by
  rw [spelled, String.toList_ofList]
  exact read

-- A document is its declaration and one element.
theorem documentTexts_root {root opening inner closing : Chars} {found : List Chars}
    (opens : scanner.run .text opening = ([.opened root], .text))
    (writes : Writes wanted clean .text [] inner .text [] found)
    (closes : scanner.run .text closing = ([.closed root], .text)) :
    documentTexts wanted (declaration ++ (opening ++ (inner ++ closing))) = some found := by
  have run : scanner.run .text (opening ++ (inner ++ closing)) =
      (.opened root :: ((scanner.run .text inner).1 ++ [.closed root]), .text) := by
    rw [run_append, opens, run_append, writes.final, closes]
    rfl
  rw [documentTexts, stripPrefix_append, Option.bind_some, run]
  simp [writes.nested]

end Onetcli.Xml
