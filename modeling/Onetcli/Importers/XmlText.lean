import Onetcli.Importers.SecureCrt.Xml
import Onetcli.Importers.DatabaseClients

/-!
What the XML importers keep of the text of an element. The reader gives a text in pieces, a
reference being one of its own; both importers overwrite the value at each piece of text
and skip references, so they have the whole text exactly if one piece of text is all of it.
-/

namespace Onetcli.Importers

open Chars

/-! ## Pieces of a text -/

inductive TextPiece where
  | text (content : Chars) (clean : '&' ∉ content)
  | reference (name : Chars)

def TextPiece.event : TextPiece → XmlEvent
  | .text content _ => .text content
  | .reference name => .reference name

def elementEvents (tag : Chars) (attributes : List (Chars × Option Chars))
    (pieces : List TextPiece) : List XmlEvent :=
  .start tag attributes :: (pieces.map TextPiece.event ++ [.finish tag])

section Pieces

variable (resolve : Chars → Chars)

def TextPiece.resolved : TextPiece → Chars
  | .text content _ => content
  | .reference name => resolve name

def wholeText (pieces : List TextPiece) : Chars := pieces.flatMap (TextPiece.resolved resolve)

def AllBlank (pieces : List TextPiece) : Prop :=
  ∀ piece ∈ pieces, Blank (piece.resolved resolve)

variable {resolve}

theorem wholeText_blank_iff {pieces : List TextPiece} :
    Blank (wholeText resolve pieces) ↔ AllBlank resolve pieces := by
  constructor
  · intro blank piece member char among
    exact blank char (List.mem_flatMap.mpr ⟨piece, member, among⟩)
  · intro blank char among
    rcases List.mem_flatMap.mp among with ⟨piece, member, inside⟩
    exact blank piece member char inside

theorem trim_wholeText_iff (before after : List TextPiece) {content : Chars}
    (clean : '&' ∉ content) :
    trim content = trim (wholeText resolve (before ++ .text content clean :: after)) ↔
      AllBlank resolve before ∧ AllBlank resolve after := by
  have split : wholeText resolve (before ++ .text content clean :: after) =
      wholeText resolve before ++ (content ++ wholeText resolve after) := by
    simp [wholeText, TextPiece.resolved]
  rw [split, eq_comm, trim_append_iff, wholeText_blank_iff, wholeText_blank_iff]

end Pieces

/-! ## Values that are overwritten -/

section Overwriting

variable (kept : TextPiece → Option Chars)

def lastKept (pieces : List TextPiece) : Option Chars := pieces.reverse.findSome? kept

variable {kept}

theorem lastKept_cons (piece : TextPiece) (rest : List TextPiece) (before : Option Chars) :
    (lastKept kept rest).or ((kept piece).or before) = (lastKept kept (piece :: rest)).or before := by
  rw [lastKept, lastKept, List.reverse_cons, List.findSome?_append, Option.or_assoc]
  simp

theorem lastKept_split {pieces : List TextPiece} {value : Chars}
    (last : lastKept kept pieces = some value) : ∃ before piece after,
      pieces = before ++ piece :: after ∧ kept piece = some value ∧
        ∀ other ∈ after, kept other = none := by
  rcases List.findSome?_eq_some_iff.mp last with ⟨later, piece, earlier, split, here, none⟩
  refine ⟨earlier.reverse, piece, later.reverse, ?_, here, ?_⟩
  · rw [← List.reverse_reverse pieces, split]
    simp
  · intro other member
    exact none other (List.mem_reverse.mp member)

theorem lastKept_none_iff {pieces : List TextPiece} :
    lastKept kept pieces = none ↔ ∀ piece ∈ pieces, kept piece = none := by
  rw [lastKept, List.findSome?_eq_none_iff]
  simp

theorem lastKept_append (before after : List TextPiece) {piece : TextPiece} {value : Chars}
    (here : kept piece = some value) (none : ∀ other ∈ after, kept other = none) :
    lastKept kept (before ++ piece :: after) = some value := by
  have later : after.reverse.findSome? kept = Option.none := by
    rw [List.findSome?_eq_none_iff]
    intro other member
    exact none other (List.mem_reverse.mp member)
  rw [lastKept, List.reverse_append, List.reverse_cons, List.findSome?_append,
    List.findSome?_append, later]
  simp [here]

end Overwriting

/-! ## SecureCRT -/

namespace SecureCrt

/-- Every piece of text is stored, with no blanks around it. -/
def kept : TextPiece → Option Chars
  | .text content _ => some (trim content)
  | .reference _ => none

def XmlState.valueOf (state : XmlState) (name : Chars) : Option Chars :=
  state.stack.head?.bind fun frame => frame.fields.lookup (toAsciiLowercase name)

structure XmlState.Reads (state : XmlState) (name : Chars) : Prop where
  current : state.currentField = some name
  isOpen : state.stack ≠ []

variable {path : Chars} {credentials : List (Chars × CredentialMetadata)}
  {library : XmlLibrary}

theorem insertField_valueOf {state : XmlState} {name : Chars} (reads : state.Reads name)
    (value : Chars) : (state.insertField name value).valueOf name = some value := by
  rcases List.exists_cons_of_ne_nil reads.isOpen with ⟨frame, below, stack⟩
  have fields : (frame.insertField name value).fields =
      (toAsciiLowercase name, value) :: frame.fields := rfl
  rw [XmlState.insertField, stack, XmlState.valueOf]
  simp [fields]

theorem insertField_reads {state : XmlState} {name : Chars} (reads : state.Reads name)
    (value : Chars) : (state.insertField name value).Reads name := by
  rcases List.exists_cons_of_ne_nil reads.isOpen with ⟨frame, below, stack⟩
  rw [XmlState.insertField, stack]
  exact ⟨reads.current, List.cons_ne_nil _ _⟩

theorem insertField_ignoredDepth (state : XmlState) (name value : Chars) :
    (state.insertField name value).ignoredDepth = state.ignoredDepth := by
  rw [XmlState.insertField]
  split
  · rfl
  · rfl

-- What the pieces of a text leave in the field that is being read.
theorem pieces_valueOf (plain : ∀ text, '&' ∉ text → library.unescape text = some text)
    {state : XmlState} {name : Chars} (reads : state.Reads name) (pieces : List TextPiece) :
    ((pieces.map TextPiece.event).foldl (XmlState.step path credentials library) state).valueOf
        name = (lastKept kept pieces).or (state.valueOf name) ∧
      ((pieces.map TextPiece.event).foldl (XmlState.step path credentials library)
        state).ignoredDepth = state.ignoredDepth := by
  induction pieces generalizing state with
  | nil => exact ⟨(Option.none_or).symm, rfl⟩
  | cons piece rest ih =>
    rw [List.map_cons, List.foldl_cons, ← lastKept_cons]
    cases piece with
    | reference name => exact ih reads
    | text content clean =>
      have stored : state.step path credentials library (.text content) =
          state.insertField name (trim content) := by
        simp only [XmlState.step, XmlState.text, reads.current, XmlLibrary.textOf,
          plain content clean, Option.getD_some]
      have tail := ih (insertField_reads reads (trim content))
      rw [insertField_valueOf reads, insertField_ignoredDepth] at tail
      rw [TextPiece.event, stored]
      exact tail

theorem isFieldTag_not_key {tag : Chars} (isField : isFieldTag tag = true) :
    tag ≠ "key".toList := by
  rintro rfl
  exact absurd isField (by decide)

theorem start_field {state : XmlState} (unignored : state.ignoredDepth = 0) {tag : Chars}
    (isField : isFieldTag (tagName tag) = true) (attributes : List (Chars × Option Chars)) :
    state.start tag attributes =
      { state with currentField := attributeOf attributes "name".toList } := by
  simp only [XmlState.start, unignored, Nat.lt_irrefl, if_false,
    if_neg (isFieldTag_not_key isField), isField, if_true]

theorem finish_field {state : XmlState} (unignored : state.ignoredDepth = 0) {tag : Chars}
    (isField : isFieldTag (tagName tag) = true) :
    state.finish path credentials tag = { state with currentField := none } := by
  simp only [XmlState.finish, unignored, Nat.lt_irrefl, if_false, isField, if_true]

theorem element_valueOf (plain : ∀ text, '&' ∉ text → library.unescape text = some text)
    {state : XmlState} (unignored : state.ignoredDepth = 0) (isOpen : state.stack ≠ [])
    {tag name : Chars} (isField : isFieldTag (tagName tag) = true)
    {attributes : List (Chars × Option Chars)}
    (named : attributeOf attributes "name".toList = some name) (pieces : List TextPiece) :
    ((elementEvents tag attributes pieces).foldl (XmlState.step path credentials library)
        state).valueOf name = (lastKept kept pieces).or (state.valueOf name) := by
  let reading : XmlState := { state with currentField := some name }
  have reads : reading.Reads name := ⟨rfl, isOpen⟩
  have started : state.step path credentials library (.start tag attributes) = reading := by
    rw [XmlState.step, start_field unignored isField, named]
  rcases @pieces_valueOf path credentials library plain reading name reads pieces with
    ⟨value, depth⟩
  rw [elementEvents, List.foldl_cons, started, List.foldl_append, List.foldl_cons, List.foldl_nil,
    XmlState.step, finish_field (depth.trans unignored) isField]
  exact value

/-- One piece of text is the whole, or the element has none and its field keeps a value
that is the whole text anyway. -/
def Keeps (resolve : Chars → Chars) (before : Option Chars) (pieces : List TextPiece) : Prop :=
  (∃ front content clean back, pieces = front ++ .text content clean :: back ∧
    (∀ other ∈ back, kept other = none) ∧ AllBlank resolve front ∧ AllBlank resolve back) ∨
  (∀ piece ∈ pieces, kept piece = none) ∧ before = some (trim (wholeText resolve pieces))

theorem lastKept_whole_iff (resolve : Chars → Chars) (before : Option Chars)
    (pieces : List TextPiece) :
    (lastKept kept pieces).or before = some (trim (wholeText resolve pieces)) ↔
      Keeps resolve before pieces := by
  constructor
  · intro whole
    cases last : lastKept kept pieces with
    | none =>
      rw [last, Option.none_or] at whole
      exact Or.inr ⟨lastKept_none_iff.mp last, whole⟩
    | some value =>
      rcases lastKept_split last with ⟨front, piece, back, rfl, here, none⟩
      cases piece with
      | reference name => cases here
      | text content clean =>
        rw [last, Option.some_or, ← here, kept, Option.some.injEq,
          trim_wholeText_iff front back clean] at whole
        exact Or.inl ⟨front, content, clean, back, rfl, none, whole⟩
  · rintro (⟨front, content, clean, back, rfl, none, blank⟩ | ⟨none, value⟩)
    · rw [lastKept_append front back rfl none, Option.some_or,
        (trim_wholeText_iff front back clean).mpr blank]
    · rw [lastKept_none_iff.mpr none, Option.none_or, value]

end SecureCrt

/-! ## JetBrains -/

namespace JetBrains

def kept : TextPiece → Option Chars
  | .text content _ => nonEmpty (some content)
  | .reference _ => none

def isTextTag (tag : Chars) : Bool :=
  ["driver-ref".toList, "jdbc-url".toList, "user-name".toList, "username".toList].contains tag

def DataSource.valueOf (source : DataSource) (tag : Chars) : Option Chars :=
  if tag = "driver-ref".toList then source.driverRef
  else if tag = "jdbc-url".toList then source.jdbcUrl
  else source.username

variable {library : XmlLibrary}

theorem set_valueOf {tag : Chars} (isText : isTextTag tag = true) (source : DataSource)
    (value : Chars) : (source.set tag value).valueOf tag = some value := by
  rw [isTextTag, List.contains_iff_mem] at isText
  rw [DataSource.set, DataSource.valueOf]
  -- Only the tags being different matters.
  generalize "driver-ref".toList = driverRef at *
  generalize "jdbc-url".toList = jdbcUrl at *
  split
  · rfl
  · split
    · rfl
    · rename_i notDriver notUrl
      have user : tag = "user-name".toList ∨ tag = "username".toList := by
        simpa [notDriver, notUrl] using isText
      rw [if_pos user]

def Reader.valueOf (reader : Reader) (tag : Chars) : Option Chars :=
  reader.current.bind fun source => source.valueOf tag

structure Reader.Reads (reader : Reader) (tag : Chars) : Prop where
  isOpen : reader.current.isSome = true
  current : reader.currentTag = some tag

-- What the pieces of a text leave in the data source.
theorem pieces_valueOf (plain : ∀ text, '&' ∉ text → library.unescape text = some text)
    {reader : Reader} {tag : Chars} (isText : isTextTag tag = true) (reads : reader.Reads tag)
    (pieces : List TextPiece) :
    ((pieces.map TextPiece.event).foldl (Reader.step library) reader).valueOf tag =
      (lastKept kept pieces).or (reader.valueOf tag) := by
  induction pieces generalizing reader with
  | nil => exact (Option.none_or).symm
  | cons piece rest ih =>
    rw [List.map_cons, List.foldl_cons, ← lastKept_cons]
    cases piece with
    | reference name => exact ih reads
    | text content clean =>
      rcases Option.isSome_iff_exists.mp reads.isOpen with ⟨source, isOpen⟩
      have stored : reader.step library (.text content) =
          if (trim content).isEmpty then reader
          else { reader with current := some (source.set tag (trim content)) } := by
        simp only [Reader.step, isOpen, reads.current, XmlLibrary.textOf, plain content clean,
          Option.getD_some]
      rw [TextPiece.event, stored]
      split
      · rename_i empty
        have skipped : kept (.text content clean) = none := by
          simp [kept, nonEmpty, List.isEmpty_iff.mp empty]
        rw [ih reads, skipped, Option.none_or]
      · rename_i filled
        have taken : kept (.text content clean) = some (trim content) := by
          simpa [kept, nonEmpty] using filled
        let next : Reader := { reader with current := some (source.set tag (trim content)) }
        have value : next.valueOf tag = some (trim content) :=
          set_valueOf isText source (trim content)
        have nextReads : next.Reads tag := ⟨rfl, reads.current⟩
        rw [ih nextReads, value, taken, Option.some_or]

-- The value that an element leaves in the data source.
theorem element_valueOf (plain : ∀ text, '&' ∉ text → library.unescape text = some text)
    {reader : Reader} (isOpen : reader.current.isSome = true) {tag : Chars}
    (isText : isTextTag (tagName tag) = true) (attributes : List (Chars × Option Chars))
    (pieces : List TextPiece) :
    ((elementEvents tag attributes pieces).foldl (Reader.step library) reader).valueOf
        (tagName tag) = (lastKept kept pieces).or (reader.valueOf (tagName tag)) := by
  have other : tagName tag ≠ "data-source".toList := by
    intro same
    rw [same] at isText
    exact absurd isText (by decide)
  let reading : Reader := { reader with currentTag := some (tagName tag) }
  have reads : reading.Reads (tagName tag) := ⟨isOpen, rfl⟩
  have started : reader.step library (.start tag attributes) = reading := by
    simp only [Reader.step, if_neg other, isOpen, if_true]
    rfl
  have finished (last : Reader) : last.step library (.finish tag) =
      { last with currentTag := none } := by
    simp only [Reader.step, if_neg other]
  rw [elementEvents, List.foldl_cons, started, List.foldl_append, List.foldl_cons, List.foldl_nil,
    finished]
  exact pieces_valueOf plain isText reads pieces

/-- At most one piece of text is not blank and all references are, or no piece of text is
kept and the data source has the whole text anyway. -/
def Keeps (resolve : Chars → Chars) (before : Option Chars) (pieces : List TextPiece) : Prop :=
  AllBlank resolve pieces ∨
  (∃ front content clean back, pieces = front ++ .text content clean :: back ∧
    AllBlank resolve front ∧ AllBlank resolve back) ∨
  (∀ piece ∈ pieces, kept piece = none) ∧ before = some (trim (wholeText resolve pieces))

theorem kept_of_blank {resolve : Chars → Chars} {pieces : List TextPiece}
    (blank : AllBlank resolve pieces) : ∀ piece ∈ pieces, kept piece = none := by
  intro piece member
  cases piece with
  | reference name => rfl
  | text content clean => exact nonEmpty_of_blank (blank _ member)

theorem lastKept_whole_iff (resolve : Chars → Chars) (before : Option Chars)
    (pieces : List TextPiece) : (lastKept kept pieces).or before =
        (nonEmpty (some (wholeText resolve pieces))).or before ↔ Keeps resolve before pieces := by
  by_cases blank : AllBlank resolve pieces
  · rw [nonEmpty_of_blank (wholeText_blank_iff.mpr blank),
      lastKept_none_iff.mpr (kept_of_blank blank)]
    exact iff_of_true rfl (Or.inl blank)
  · have filled : ¬Blank (wholeText resolve pieces) := by rwa [wholeText_blank_iff]
    rw [nonEmpty_of_filled filled, Option.some_or]
    constructor
    · intro whole
      apply Or.inr
      cases last : lastKept kept pieces with
      | none =>
        rw [last, Option.none_or] at whole
        exact Or.inr ⟨lastKept_none_iff.mp last, whole⟩
      | some value =>
        rcases lastKept_split last with ⟨front, piece, back, rfl, here, none⟩
        cases piece with
        | reference name => cases here
        | text content clean =>
          have contentFilled : ¬Blank content := by
            intro empty
            rw [kept, nonEmpty_of_blank empty] at here
            cases here
          rw [kept, nonEmpty_of_filled contentFilled] at here
          rw [last, Option.some_or, ← here, Option.some.injEq,
            trim_wholeText_iff front back clean] at whole
          exact Or.inl ⟨front, content, clean, back, rfl, whole⟩
    · rintro (nothing | ⟨front, content, clean, back, rfl, blankFront, blankBack⟩ | ⟨none, value⟩)
      · exact absurd nothing blank
      · have whole := (trim_wholeText_iff front back clean).mpr ⟨blankFront, blankBack⟩
        have contentFilled : ¬Blank content := by
          intro empty
          rw [← trim_eq_nil_iff, whole, trim_eq_nil_iff] at empty
          exact filled empty
        have here : kept (.text content clean) = some (trim content) :=
          nonEmpty_of_filled contentFilled
        rw [lastKept_append front back here (kept_of_blank blankBack), Option.some_or, whole]
      · rw [lastKept_none_iff.mpr none, Option.none_or, value]

end JetBrains

/-! ## Both importers -/

/-- For every element whose text is stored, SecureCRT stores the whole text, trimmed,
exactly if one piece of text is all of it; JetBrains does, an empty text being no value,
exactly if no two pieces of text and no reference have more than blanks. -/
theorem elements_whole_iff (library : XmlLibrary) (resolve : Chars → Chars)
    (plain : ∀ text, '&' ∉ text → library.unescape text = some text)
    (tag : Chars) (attributes : List (Chars × Option Chars)) (pieces : List TextPiece) :
    (∀ (path : Chars) (credentials : List (Chars × SecureCrt.CredentialMetadata))
        (state : SecureCrt.XmlState) (name : Chars), state.ignoredDepth = 0 → state.stack ≠ [] →
        SecureCrt.isFieldTag (tagName tag) = true →
        SecureCrt.attributeOf attributes "name".toList = some name →
      (((elementEvents tag attributes pieces).foldl
            (SecureCrt.XmlState.step path credentials library) state).valueOf name =
          some (trim (wholeText resolve pieces)) ↔
        SecureCrt.Keeps resolve (state.valueOf name) pieces)) ∧
    (∀ reader : JetBrains.Reader, reader.current.isSome = true →
        JetBrains.isTextTag (tagName tag) = true →
      (((elementEvents tag attributes pieces).foldl (JetBrains.Reader.step library)
            reader).valueOf (tagName tag) =
          (nonEmpty (some (wholeText resolve pieces))).or (reader.valueOf (tagName tag)) ↔
        JetBrains.Keeps resolve (reader.valueOf (tagName tag)) pieces)) := by
  constructor
  · intro path credentials state name unignored isOpen isField named
    rw [SecureCrt.element_valueOf plain unignored isOpen isField named]
    exact SecureCrt.lastKept_whole_iff resolve _ pieces
  · intro reader isOpen isText
    rw [JetBrains.element_valueOf plain isOpen isText]
    exact JetBrains.lastKept_whole_iff resolve _ pieces

def noLibrary : XmlLibrary := ⟨fun _ => ⟨[], false⟩, fun text => some text⟩

def nameAttribute (name : String) : List (Chars × Option Chars) :=
  [("name".toList, some name.toList)]

def onePiece : List TextPiece := [.text "root".toList (by decide)]

/-- One piece of text in a field of a session, and in a data source. -/
theorem elements_whole_onePiece :
    (∀ text, '&' ∉ text → noLibrary.unescape text = some text) ∧
    ((elementEvents "string".toList (nameAttribute "Username") onePiece).foldl
        (SecureCrt.XmlState.step [] [] noLibrary) { stack := [{ name := "web".toList }] }).valueOf
          "Username".toList = some "root".toList ∧
    ((elementEvents "user-name".toList [] onePiece).foldl (JetBrains.Reader.step noLibrary)
        { current := some {} }).valueOf "user-name".toList = some "root".toList := by
  have plain : ∀ text, '&' ∉ text → noLibrary.unescape text = some text := fun _ _ => rfl
  have whole : trim (wholeText (fun name => name) onePiece) = "root".toList := by decide
  have field := (elements_whole_iff noLibrary (fun name => name) plain "string".toList
    (nameAttribute "Username") onePiece).1 [] [] { stack := [{ name := "web".toList }] }
    "Username".toList rfl (List.cons_ne_nil _ _) (by decide) (by decide)
  have source := (elements_whole_iff noLibrary (fun name => name) plain "user-name".toList []
    onePiece).2 { current := some {} } rfl (by decide)
  refine ⟨plain, ?_, ?_⟩
  · rw [← whole]
    exact field.mpr (Or.inl ⟨[], _, _, [], rfl, by rintro _ ⟨⟩, by rintro _ ⟨⟩, by rintro _ ⟨⟩⟩)
  · have expected : (nonEmpty (some (wholeText (fun name => name) onePiece))).or none =
        some "root".toList := by decide
    rw [← expected]
    exact source.mpr (Or.inr (Or.inl ⟨[], _, _, [], rfl, by rintro _ ⟨⟩, by rintro _ ⟨⟩⟩))

/-- The pieces of `a&amp;b`. -/
def cutText : List TextPiece :=
  [.text ['a'] (by decide), .reference "amp".toList, .text ['b'] (by decide)]

/-- Of `a&amp;b` both importers keep the `b`. -/
theorem elements_cut :
    wholeText (fun _ => ['&']) cutText = "a&b".toList ∧
    ((elementEvents "string".toList (nameAttribute "Username") cutText).foldl
        (SecureCrt.XmlState.step [] [] noLibrary) { stack := [{ name := "web".toList }] }).valueOf
          "Username".toList = some ['b'] ∧
    ((elementEvents "user-name".toList [] cutText).foldl (JetBrains.Reader.step noLibrary)
        { current := some {} }).valueOf "user-name".toList = some ['b'] := by
  refine ⟨?_, ?_, ?_⟩
  · decide +kernel
  · decide +kernel
  · decide +kernel

end Onetcli.Importers
