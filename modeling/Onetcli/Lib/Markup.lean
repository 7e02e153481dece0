import Onetcli.Lib.Chars

/-!
The tags of a text of markup, with their attributes. Written markup is read back piece by
piece: what a reader finds in two texts after one another is what it finds in each.
-/

namespace Onetcli.Markup

open Chars

structure Tag where
  /-- The name, with the slash of a tag that ends an element. -/
  name : Chars
  attributes : List (Chars × Chars) := []
  deriving DecidableEq

def Tag.add (tag : Tag) (key value : Chars) : Tag :=
  { tag with attributes := tag.attributes ++ [(key, value)] }

/-- Where the reader stands. Only a quote ends a value. -/
inductive State where
  | text
  | name (sofar : Chars)
  | inside (tag : Tag) (key : Chars)
  | value (tag : Tag) (key sofar : Chars)
  deriving DecidableEq

def State.step : State → Char → State × Option Tag
  | .text, char => if char = '<' then (.name [], none) else (.text, none)
  | .name sofar, char =>
    if char = '>' then (.text, some ⟨sofar, []⟩)
    else if char = ' ' then (.inside ⟨sofar, []⟩ [], none)
    else (.name (sofar ++ [char]), none)
  | .inside tag key, char =>
    if char = '>' then (.text, some tag)
    else if char = '"' then (.value tag key [], none)
    else if char = ' ' then (.inside tag [], none)
    else if char = '=' then (.inside tag key, none)
    else (.inside tag (key ++ [char]), none)
  | .value tag key sofar, char =>
    if char = '"' then (.inside (tag.add key sofar) [], none)
    else (.value tag key (sofar ++ [char]), none)

def read : State → Chars → State × List Tag
  | state, [] => (state, [])
  | state, char :: rest =>
    let next := state.step char
    let more := read next.1 rest
    (more.1, next.2.toList ++ more.2)

def tags (text : Chars) : List Tag := (read .text text).2

theorem read_append (state : State) (front back : Chars) : read state (front ++ back) =
      ((read (read state front).1 back).1,
        (read state front).2 ++ (read (read state front).1 back).2) := by
  induction front generalizing state with
  | nil => rfl
  | cons char rest ih => simp only [List.cons_append, read, ih, List.append_assoc]

section Yields

variable {Found : Type} {found : Tag → List Found}

structure Yields (found : Tag → List Found) (start : State) (text : Chars) (final : State)
    (result : List Found) : Prop where
  final : (read start text).1 = final
  found : (read start text).2.flatMap found = result

theorem Yields.tags {text : Chars} {final : State} {result : List Found}
    (yields : Yields found .text text final result) :
    (Markup.tags text).flatMap found = result := yields.found

theorem Yields.nil {state : State} : Yields found state [] state [] := ⟨rfl, rfl⟩

theorem Yields.append {start middle final : State} {front back : Chars}
    {first second : List Found} (one : Yields found start front middle first)
    (two : Yields found middle back final second) :
    Yields found start (front ++ back) final (first ++ second) := by
  constructor
  · rw [read_append, one.final, two.final]
  · rw [read_append, List.flatMap_append, one.found, one.final, two.found]

theorem spelled_append {first second : String} {front back : Chars}
    (one : first = String.ofList front) (two : second = String.ofList back) :
    first ++ second = String.ofList (front ++ back) := by
  rw [one, two, String.ofList_append]

theorem yields_literal {start final : State} {text : String} {chars : Chars}
    {result : List Found} (spelled : text = String.ofList chars)
    (ends : (read start chars).1 = final) (gives : (read start chars).2.flatMap found = result) :
    Yields found start text.toList final result := by
  rw [spelled, String.toList_ofList]
  exact ⟨ends, gives⟩

theorem Yields.followed {start middle final : State} {front back : Chars}
    {result : List Found} (before : Yields found start front middle result)
    (nothing : Yields found middle back final []) :
    Yields found start (front ++ back) final result := by
  have both := before.append nothing
  rwa [List.append_nil] at both

theorem Yields.flatMap {Item : Type} {items : List Item} {text : Item → Chars}
    {result : Item → List Found} {state : State}
    (each : ∀ item ∈ items, Yields found state (text item) state (result item)) :
    Yields found state (items.flatMap text) state (items.flatMap result) := by
  induction items with
  | nil => exact .nil
  | cons item rest ih =>
    rw [List.flatMap_cons, List.flatMap_cons]
    exact (each item List.mem_cons_self).append
      (ih fun other member => each other (List.mem_cons_of_mem _ member))

theorem Yields.flatMap_nil {Item : Type} {items : List Item} {text : Item → Chars} {state : State}
    (each : ∀ item ∈ items, Yields found state (text item) state []) :
    Yields found state (items.flatMap text) state [] := by
  have all := Yields.flatMap each
  rwa [List.flatMap_eq_nil_iff.mpr fun _ _ => rfl] at all

theorem yields_text {text : Chars} (plain : '<' ∉ text) : Yields found .text text .text [] := by
  induction text with
  | nil => exact .nil
  | cons char rest ih =>
    rw [List.mem_cons, not_or] at plain
    have step : State.step .text char = (.text, none) := if_neg (Ne.symm plain.1)
    have tail := ih plain.2
    constructor
    · rw [read, step]
      exact tail.final
    · rw [read, step]
      exact tail.found

theorem yields_value {tag : Tag} {key sofar text : Chars} (plain : '"' ∉ text) :
    Yields found (.value tag key sofar) text (.value tag key (sofar ++ text)) [] := by
  induction text generalizing sofar with
  | nil =>
    rw [List.append_nil]
    exact .nil
  | cons char rest ih =>
    rw [List.mem_cons, not_or] at plain
    have step : State.step (.value tag key sofar) char = (.value tag key (sofar ++ [char]), none) :=
      if_neg (Ne.symm plain.1)
    have tail : Yields found (.value tag key (sofar ++ [char])) rest
        (.value tag key (sofar ++ [char] ++ rest)) [] := ih plain.2
    rw [List.append_assoc, List.singleton_append] at tail
    constructor
    · rw [read, step]
      exact tail.final
    · rw [read, step]
      exact tail.found

def isKeyChar (char : Char) : Bool :=
  !(char == ' ' || char == '=' || char == '"' || char == '>')

theorem yields_key {tag : Tag} {sofar key : Chars} (clean : key.all isKeyChar = true) :
    Yields found (.inside tag sofar) key (.inside tag (sofar ++ key)) [] := by
  induction key generalizing sofar with
  | nil =>
    rw [List.append_nil]
    exact .nil
  | cons char rest ih =>
    rw [List.all_cons, Bool.and_eq_true] at clean
    have apart := clean.1
    simp only [isKeyChar, Bool.not_eq_true', Bool.or_eq_false_iff, beq_eq_false_iff_ne] at apart
    rcases apart with ⟨⟨⟨space, equals⟩, quote⟩, angle⟩
    have step : State.step (.inside tag sofar) char = (.inside tag (sofar ++ [char]), none) := by
      rw [State.step, if_neg angle, if_neg quote, if_neg space, if_neg equals]
    have tail : Yields found (.inside tag (sofar ++ [char])) rest
        (.inside tag (sofar ++ [char] ++ rest)) [] := ih clean.2
    rw [List.append_assoc, List.singleton_append] at tail
    constructor
    · rw [read, step]
      exact tail.final
    · rw [read, step]
      exact tail.found

section Values

variable {start : State} {tag : Tag} {key sofar front : Chars} {result : List Found}
  (before : Yields found start front (.value tag key sofar) result)
include before

theorem Yields.value {value : Chars} (plain : '"' ∉ value) :
    Yields found start (front ++ value) (.value tag key (sofar ++ value)) result :=
  before.followed (yields_value plain)

-- A piece that ends a value and begins that of the next attribute.
theorem Yields.next (piece : String) {chars : Chars}
    (spelled : piece = String.ofList ('"' :: ' ' :: chars)) (name value : Chars)
    (named : chars = name ++ '=' :: '"' :: value) (clean : name.all isKeyChar = true)
    (plain : '"' ∉ value) :
    Yields found start (front ++ piece.toList) (.value (tag.add key sofar) name value) result := by
  have quote : Yields found (.value tag key sofar) ['"', ' ']
      (.inside (tag.add key sofar) []) [] := ⟨rfl, rfl⟩
  have opened : Yields found (.inside (tag.add key sofar) name) ['=', '"']
      (.value (tag.add key sofar) name []) [] := ⟨rfl, rfl⟩
  rw [spelled, String.toList_ofList, named]
  exact before.followed (quote.append ((yields_key clean).append (opened.append
    (yields_value plain))))

-- A piece that ends a value and an empty element; what follows it gives nothing.
theorem Yields.close (piece : String) {chars : Chars}
    (spelled : piece = String.ofList ('"' :: '/' :: '>' :: chars)) {here : List Found}
    (given : found (tag.add key sofar) = here) (final : State)
    (ends : (read .text chars).1 = final) (nothing : (read .text chars).2.flatMap found = []) :
    Yields found start (front ++ piece.toList) final (result ++ here) := by
  have closed : Yields found (.value tag key sofar) ['"', '/', '>'] .text here := by
    rw [← given]
    exact ⟨rfl, List.append_nil _⟩
  have rest : Yields found .text chars final [] := ⟨ends, nothing⟩
  rw [spelled, String.toList_ofList]
  exact before.append (closed.followed rest)

end Values

end Yields

end Onetcli.Markup
