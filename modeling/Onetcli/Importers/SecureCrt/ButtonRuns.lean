import Onetcli.Importers.SecureCrt.DepthLimit
import Onetcli.Lib.Occurrences

/-!
Runs of the machine of xml.rs over exports with button bars: what each key leaves at its
end, from the parts of a button up to the whole export. Keys that are no buttons make
records of sessions only.
-/

namespace Onetcli.Importers.SecureCrt

open Chars Nesting Occurrences

/-! ## Exports -/

structure KeyStart where
  tag : Chars
  attributes : List (Chars × Option Chars)
  isKey : isKey tag = true

def KeyStart.name (key : KeyStart) : Chars := (attributeOf key.attributes "name".toList).getD []

structure FieldStart where
  tag : Chars
  attributes : List (Chars × Option Chars)
  name : Chars
  isField : isFieldTag (tagName tag) = true
  named : attributeOf attributes "name".toList = some name

/-- An empty element that writes to the innermost key. -/
def isEmptyField (tag : Chars) (attributes : List (Chars × Option Chars)) : Bool :=
  isFieldTag (tagName tag) && (attributeOf attributes "name".toList).isSome

/-- An event between the fields of a key that the machine passes over. -/
def isAside : XmlEvent → Bool
  | .start tag attributes => !isKey tag && !isEmptyField tag attributes
  | .empty tag attributes => !isEmptyField tag attributes
  | .finish tag => !isKey tag
  | _ => true

def isInside : XmlEvent → Bool
  | .start tag _ => !isKey tag && !isFieldTag (tagName tag)
  | .empty tag attributes => !isEmptyField tag attributes
  | .finish tag => !isKey tag && !isFieldTag (tagName tag)
  | _ => true

inductive KeyPart where
  | field (start : FieldStart) (content : List XmlEvent) (inside : content.all isInside = true)
  | empty (start : FieldStart)
  | aside (event : XmlEvent) (passed : isAside event = true)

structure ButtonKey where
  key : KeyStart
  parts : List KeyPart

def KeyPart.name : KeyPart → Option Chars
  | .field start _ _ => some start.name
  | .empty start => some start.name
  | .aside _ _ => none

/-- A field of a bar that tells the name of a button in the bar itself. -/
def KeyPart.namesButton (part : KeyPart) : Bool :=
  part.name.any fun name => endsWith (toAsciiLowercase name) "/name".toList

inductive BarItem where
  | button (button : ButtonKey)
  | part (part : KeyPart) (plain : part.namesButton = false)

structure BarKey where
  key : KeyStart
  items : List BarItem

inductive BarsItem where
  | bar (bar : BarKey)
  | part (part : KeyPart)

def opensBars : XmlEvent → Bool
  | .start tag attributes =>
    isKey tag && isButtonBarKey ((attributeOf attributes "name".toList).getD [])
  | _ => false

/-- A part of an export: a key of button bars, anything without such a key, or an event
between them. -/
inductive ExportPart where
  | bars (key : KeyStart) (isBars : isButtonBarKey key.name = true) (items : List BarsItem)
  | nodes (nodes : List XmlNode)
      (noBars : ∀ event ∈ eventsOf xmlReading nodes, opensBars event = false)
  | aside (event : XmlEvent) (passed : isAside event = true)

def KeyStart.around (key : KeyStart) (inner : List XmlEvent) : List XmlEvent :=
  .start key.tag key.attributes :: (inner ++ [.finish key.tag])

def KeyPart.events : KeyPart → List XmlEvent
  | .field start content _ => .start start.tag start.attributes :: (content ++ [.finish start.tag])
  | .empty start => [.empty start.tag start.attributes]
  | .aside event _ => [event]

def ButtonKey.events (button : ButtonKey) : List XmlEvent :=
  button.key.around (button.parts.flatMap KeyPart.events)

def BarItem.events : BarItem → List XmlEvent
  | .button item => item.events
  | .part own _ => own.events

def BarKey.events (bar : BarKey) : List XmlEvent :=
  bar.key.around (bar.items.flatMap BarItem.events)

def BarsItem.events : BarsItem → List XmlEvent
  | .bar item => item.events
  | .part own => own.events

def ExportPart.events : ExportPart → List XmlEvent
  | .bars key _ items => key.around (items.flatMap BarsItem.events)
  | .nodes forest _ => eventsOf xmlReading forest
  | .aside event _ => [event]

/-! ## Buttons -/

def BarItem.button? : BarItem → Option ButtonKey
  | .button item => some item
  | .part _ _ => none

def BarKey.buttons (bar : BarKey) : List ButtonKey := bar.items.filterMap BarItem.button?

structure Place where
  bar : Chars
  button : ButtonKey
  number : Nat

def buttonKey (button : ButtonKey) : Chars := toAsciiLowercase button.key.name

def BarKey.places (bar : BarKey) : List Place :=
  (numbered buttonKey [] bar.buttons).map fun entry => ⟨bar.key.name, entry.1, entry.2⟩

def BarsItem.places : BarsItem → List Place
  | .bar item => item.places
  | .part _ => []

def ExportPart.places : ExportPart → List Place
  | .bars _ _ items => items.flatMap BarsItem.places
  | .nodes _ _ => []
  | .aside _ _ => []

def isSessionsKey (name : Chars) : Bool := eqIgnoreAsciiCase name "Sessions".toList

/-- A key that is named like the key of the sessions ends as one of them. -/
def reaches (bar : Chars) (button : ButtonKey) : Bool :=
  !isSessionsKey bar && !isSessionsKey button.key.name

def Place.reached (place : Place) : Bool := reaches place.bar place.button

section Texts

variable (library : XmlLibrary)

def KeyPart.texts : KeyPart → List (Chars × Chars)
  | .field start content _ =>
    (content.filterMap (storedText library)).map fun value => (start.name, value)
  | .empty start => [(start.name, [])]
  | .aside _ _ => []

def storeTexts (frame : KeyFrame) (texts : List (Chars × Chars)) : KeyFrame :=
  texts.foldl (fun frame text => frame.insertField text.1 text.2) frame

def ButtonKey.fields (button : ButtonKey) : Fields :=
  ((button.parts.flatMap (KeyPart.texts library)).map fun text =>
    (toAsciiLowercase text.1, text.2)).reverse

def ButtonKey.frame (button : ButtonKey) : KeyFrame :=
  storeTexts { name := button.key.name } (button.parts.flatMap (KeyPart.texts library))

def Place.label (place : Place) : Chars :=
  (field (place.button.fields library) "Name".toList).getD place.button.key.name

def Place.command (place : Place) : Option Chars :=
  field (place.button.fields library) "Command".toList

def Place.isSend (place : Place) : Bool :=
  eqIgnoreAsciiCase ((field (place.button.fields library) "Function".toList).getD [])
    "SEND".toList

def Place.wanted (place : Place) : Bool := place.isSend library && (place.command library).isSome

def Place.sourceId (path : Chars) (place : Place) : Chars :=
  path ++ "#Button Bar/".toList ++ place.bar ++
    '/' :: marked '~' place.button.key.name place.number

def Place.record (path : Chars) (place : Place) (count : Nat) : ImportRecord :=
  quickCommandRecord (place.sourceId path) place.bar (place.label library)
    (decodeCommand ((place.command library).getD [])) (min count i32Max)

def quickRecords (path : Chars) (count : Nat) (places : List Place) : List ImportRecord :=
  (places.zipIdx count).map fun entry => entry.1.record library path entry.2

theorem storeTexts_append (frame : KeyFrame) (first second : List (Chars × Chars)) :
    storeTexts frame (first ++ second) = storeTexts (storeTexts frame first) second :=
  List.foldl_append

theorem storeTexts_fields (frame : KeyFrame) (texts : List (Chars × Chars)) :
    (storeTexts frame texts).fields =
      (texts.map fun text => (toAsciiLowercase text.1, text.2)).reverse ++ frame.fields := by
  induction texts generalizing frame with
  | nil => rfl
  | cons text rest ih =>
    rw [storeTexts, List.foldl_cons]
    refine (ih (frame.insertField text.1 text.2)).trans ?_
    rw [List.map_cons, List.reverse_cons, List.append_assoc]
    rfl

theorem storeTexts_same (frame : KeyFrame) (texts : List (Chars × Chars)) :
    (storeTexts frame texts).name = frame.name ∧
      (storeTexts frame texts).childButtons = frame.childButtons := by
  induction texts generalizing frame with
  | nil => exact ⟨rfl, rfl⟩
  | cons text rest ih => exact ih (frame.insertField text.1 text.2)

theorem storeTexts_order {frame : KeyFrame} {texts : List (Chars × Chars)} {key : Chars}
    (member : key ∈ (storeTexts frame texts).fieldOrder) :
    key ∈ frame.fieldOrder ∨ ∃ text ∈ texts, key = toAsciiLowercase text.1 := by
  induction texts generalizing frame with
  | nil => exact Or.inl member
  | cons text rest ih =>
    -- The first text is a field of the frame by now.
    have moved : key ∈ (storeTexts (frame.insertField text.1 text.2) rest).fieldOrder := member
    rcases ih moved with before | ⟨later, among, is⟩
    · rw [KeyFrame.insertField] at before
      dsimp only at before
      split at before
      · rcases List.mem_append.mp before with known | new
        · exact Or.inl known
        · exact Or.inr ⟨text, List.mem_cons_self, List.mem_singleton.mp new⟩
      · exact Or.inl before
    · exact Or.inr ⟨later, List.mem_cons_of_mem _ among, is⟩

theorem frame_fields (button : ButtonKey) : (button.frame library).fields = button.fields library ∧
      (button.frame library).name = button.key.name := by
  refine ⟨?_, (storeTexts_same _ _).1⟩
  rw [ButtonKey.frame, storeTexts_fields, List.append_nil]
  rfl

theorem texts_name {part : KeyPart} {text : Chars × Chars} (member : text ∈ part.texts library) :
    part.name = some text.1 := by
  cases part with
  | field start content inside =>
    obtain ⟨value, _, is⟩ := List.mem_map.mp member
    rw [← is]
    rfl
  | empty start =>
    rw [List.mem_singleton.mp member]
    rfl
  | aside event passed => cases member

end Texts

/-! ## Runs of a button -/

/-- No key is only counted, and no field is being read. -/
structure Idle (state : XmlState) : Prop where
  ignored : state.ignoredDepth = 0
  field : state.currentField = none

theorem Idle.start : Idle {} := ⟨rfl, rfl⟩

variable {state : XmlState}

theorem Idle.onStack (idle : Idle state) (stack : List KeyFrame) :
    Idle { state with stack := stack } :=
  ⟨idle.ignored, idle.field⟩

theorem XmlState.stack_onStack (state : XmlState) (stack : List KeyFrame) :
    XmlState.stack { state with stack := stack } = stack := rfl

section Runs

variable (path : Chars) (credentials : List (Chars × CredentialMetadata)) (library : XmlLibrary)

def runFrom (state : XmlState) (events : List XmlEvent) : XmlState :=
  events.foldl (XmlState.step path credentials library) state

theorem runFrom_append (state : XmlState) (first second : List XmlEvent) :
    runFrom path credentials library state (first ++ second) =
      runFrom path credentials library (runFrom path credentials library state first) second :=
  List.foldl_append

theorem counts_all (ignored : state.ignoredDepth = 0) : ¬0 < state.ignoredDepth := by
  rw [ignored]
  exact Nat.lt_irrefl 0

theorem start_key (idle : Idle state) (room : state.stack.length < maxXmlDepth)
    (key : KeyStart) :
    state.start key.tag key.attributes =
      { state with stack := { name := key.name } :: state.stack } := by
  rw [XmlState.start, if_neg (counts_all idle.ignored), if_pos ((isKey_iff key.tag).mp key.isKey),
    XmlState.pushKey, if_neg (Nat.not_le_of_gt room)]
  rfl

theorem finish_key (idle : Idle state) (key : KeyStart) :
    state.finish path credentials key.tag = state.finishKey path credentials := by
  have named := (isKey_iff key.tag).mp key.isKey
  have other : ¬isFieldTag (tagName key.tag) = true := fun field => field_not_key field named
  rw [XmlState.finish, if_neg (counts_all idle.ignored), if_neg other, if_pos named]

theorem run_around (idle : Idle state)
    (room : state.stack.length < maxXmlDepth) (key : KeyStart) (inner : List XmlEvent)
    (idleInside : Idle (runFrom path credentials library
      { state with stack := { name := key.name } :: state.stack } inner)) :
    runFrom path credentials library state (key.around inner) =
      (runFrom path credentials library
        { state with stack := { name := key.name } :: state.stack } inner).finishKey
          path credentials := by
  have start := start_key idle room key
  rw [KeyStart.around, runFrom, List.foldl_cons, XmlState.step, start]
  change runFrom path credentials library _ (inner ++ [.finish key.tag]) = _
  rw [runFrom_append]
  exact finish_key path credentials idleInside key

theorem step_aside (idle : Idle state) {event : XmlEvent}
    (passed : isAside event = true) : state.step path credentials library event = state := by
  have unread : { state with currentField := none } = state := by
    rw [← idle.field]
  cases event with
  | start tag attributes =>
    rw [isAside, Bool.and_eq_true, Bool.not_eq_true', Bool.not_eq_true'] at passed
    have other : ¬tagName tag = "key".toList := fun named => by
      rw [(isKey_iff tag).mpr named] at passed
      cases passed.1
    rw [XmlState.step, XmlState.start, if_neg (counts_all idle.ignored), if_neg other]
    split
    · -- A field without a name reads nothing.
      rename_i field
      have unnamed := passed.2
      rw [isEmptyField, field, Bool.true_and, Option.isSome_eq_false_iff,
        Option.isNone_iff_eq_none] at unnamed
      rw [unnamed]
      exact unread
    · rfl
  | empty tag attributes =>
    rw [isAside, Bool.not_eq_true', isEmptyField] at passed
    rw [XmlState.step, XmlState.empty]
    split
    · rename_i field
      rw [field, Bool.true_and, Option.isSome_eq_false_iff, Option.isNone_iff_eq_none] at passed
      rw [passed]
    · rfl
  | text content => rw [XmlState.step, XmlState.text, idle.field]
  | reference name => rfl
  | finish tag =>
    rw [isAside, Bool.not_eq_true'] at passed
    have other : ¬tagName tag = "key".toList := fun named => by
      rw [(isKey_iff tag).mpr named] at passed
      cases passed
    rw [XmlState.step, XmlState.finish, if_neg (counts_all idle.ignored), if_neg other]
    split
    · exact unread
    · rfl
  | other => rfl

theorem step_inside (ignored : state.ignoredDepth = 0) {name : Chars}
    (current : state.currentField = some name) {frame : KeyFrame} {below : List KeyFrame}
    (shape : state.stack = frame :: below) {event : XmlEvent} (inside : isInside event = true) :
    state.step path credentials library event = { state with
        stack := storeTexts frame ((storedText library event).toList.map fun value =>
          (name, value)) :: below } := by
  have same : { state with stack := frame :: below } = state := by
    rw [← shape]
  cases event with
  | start tag attributes =>
    rw [isInside, Bool.and_eq_true, Bool.not_eq_true', Bool.not_eq_true'] at inside
    have other : ¬tagName tag = "key".toList := fun named => by
      rw [(isKey_iff tag).mpr named] at inside
      cases inside.1
    have plain : ¬isFieldTag (tagName tag) = true := by
      rw [inside.2]
      exact Bool.false_ne_true
    rw [XmlState.step, XmlState.start, if_neg (counts_all ignored), if_neg other, if_neg plain]
    exact same.symm
  | empty tag attributes =>
    rw [isInside, Bool.not_eq_true', isEmptyField] at inside
    rw [XmlState.step, XmlState.empty]
    split
    · rename_i field
      rw [field, Bool.true_and, Option.isSome_eq_false_iff, Option.isNone_iff_eq_none] at inside
      rw [inside]
      exact same.symm
    · exact same.symm
  | text content =>
    rw [XmlState.step, XmlState.text, current]
    dsimp only
    rw [XmlState.insertField, shape, ← current]
    rfl
  | reference name => exact same.symm
  | finish tag =>
    rw [isInside, Bool.and_eq_true, Bool.not_eq_true', Bool.not_eq_true'] at inside
    have other : ¬tagName tag = "key".toList := fun named => by
      rw [(isKey_iff tag).mpr named] at inside
      cases inside.1
    have plain : ¬isFieldTag (tagName tag) = true := by
      rw [inside.2]
      exact Bool.false_ne_true
    rw [XmlState.step, XmlState.finish, if_neg (counts_all ignored), if_neg plain, if_neg other]
    exact same.symm
  | other => exact same.symm

theorem run_inside (ignored : state.ignoredDepth = 0) {name : Chars}
    (current : state.currentField = some name) {frame : KeyFrame} {below : List KeyFrame}
    (shape : state.stack = frame :: below) {content : List XmlEvent}
    (inside : content.all isInside = true) : runFrom path credentials library state content =
      { state with
        stack := storeTexts frame ((content.filterMap (storedText library)).map fun value =>
          (name, value)) :: below } := by
  induction content generalizing state frame with
  | nil =>
    change state = { state with stack := frame :: below }
    rw [← shape]
  | cons event rest ih =>
    rw [List.all_cons, Bool.and_eq_true] at inside
    have first := step_inside path credentials library ignored current shape inside.1
    rw [runFrom, List.foldl_cons, first]
    refine (ih (by exact ignored) (by exact current) rfl inside.2).trans ?_
    rw [← storeTexts_append, ← List.map_append]
    cases stored : storedText library event with
    | none => rw [List.filterMap_cons_none stored]; rfl
    | some value => rw [List.filterMap_cons_some stored]; rfl

theorem run_part (idle : Idle state) {frame : KeyFrame} {below : List KeyFrame}
    (shape : state.stack = frame :: below) (part : KeyPart) :
    runFrom path credentials library state part.events =
      { state with stack := storeTexts frame (part.texts library) :: below } := by
  cases part with
  | field start content inside =>
    have opened : state.start start.tag start.attributes =
        { state with currentField := some start.name } := by
      rw [XmlState.start, if_neg (counts_all idle.ignored),
        if_neg (field_not_key start.isField), if_pos start.isField, start.named]
    have ignored : XmlState.ignoredDepth { state with currentField := some start.name } = 0 :=
      idle.ignored
    have read := run_inside path credentials library ignored rfl shape inside
    rw [KeyPart.events, runFrom, List.foldl_cons, XmlState.step, opened]
    change runFrom path credentials library _ (content ++ [.finish start.tag]) = _
    rw [runFrom_append, read, runFrom, List.foldl_cons, XmlState.step, XmlState.finish,
      if_neg (counts_all (by exact idle.ignored)), if_pos start.isField]
    rw [List.foldl_nil, KeyPart.texts, ← idle.field]
  | empty start =>
    rw [KeyPart.events, runFrom, List.foldl_cons, XmlState.step, XmlState.empty,
      if_pos start.isField, start.named]
    dsimp only
    rw [XmlState.insertField, shape]
    rfl
  | aside event passed =>
    rw [KeyPart.events, runFrom, List.foldl_cons,
      step_aside path credentials library idle passed]
    change state = { state with stack := frame :: below }
    rw [← shape]

theorem run_parts (idle : Idle state) {frame : KeyFrame}
    {below : List KeyFrame} (shape : state.stack = frame :: below) (parts : List KeyPart) :
    runFrom path credentials library state (parts.flatMap KeyPart.events) = { state with
        stack := storeTexts frame (parts.flatMap (KeyPart.texts library)) :: below } := by
  induction parts generalizing state frame with
  | nil =>
    change state = { state with stack := frame :: below }
    rw [← shape]
  | cons part rest ih =>
    have later := ih (idle.onStack (storeTexts frame (part.texts library) :: below)) rfl
    rw [List.flatMap_cons, runFrom_append, run_part path credentials library idle shape, later,
      List.flatMap_cons, storeTexts_append]

theorem run_button (idle : Idle state)
    (room : state.stack.length < maxXmlDepth) (button : ButtonKey) :
    runFrom path credentials library state button.events =
      { state with stack := button.frame library :: state.stack }.finishKey path credentials := by
  have parts := run_parts path credentials library
    (idle.onStack ({ name := button.key.name } :: state.stack)) rfl button.parts
  have whole := run_around path credentials library idle room button.key
    (button.parts.flatMap KeyPart.events) (by
      rw [parts]
      exact ⟨idle.ignored, idle.field⟩)
  rw [parts] at whole
  exact whole

end Runs

end Onetcli.Importers.SecureCrt
