import Onetcli.Importers.SecureCrt.SecretRuns
import Onetcli.Lib.Nesting

/-!
The limit on nested keys in the XML exports of SecureCRT, xml.rs. Below the deepest key that
is kept the machine counts keys and leaves its stack alone, but an empty field still writes
to that key, and so does a text while a field is being read. Where neither happens, the run
is that of the document without the keys that are nested too deep.
-/

namespace Onetcli.Importers.SecureCrt

open Chars Nesting

/-! ## Documents -/

/-- What an element of a document has between its tags besides elements. -/
inductive XmlLeaf where
  | empty (tag : Chars) (attributes : List (Chars × Option Chars))
  | text (content : Chars)
  | reference (name : Chars)
  | other

def XmlLeaf.event : XmlLeaf → XmlEvent
  | .empty tag attributes => .empty tag attributes
  | .text content => .text content
  | .reference name => .reference name
  | .other => .other

abbrev XmlNode := Node (Chars × List (Chars × Option Chars)) XmlLeaf

def isKey (rawTag : Chars) : Bool := tagName rawTag == "key".toList

/-- The keys are the levels of a document, those without content too. -/
def xmlReading : Reading (Chars × List (Chars × Option Chars)) XmlLeaf XmlEvent where
  start tag := .start tag.1 tag.2
  finish tag := .finish tag.1
  leaf := XmlLeaf.event
  level tag := isKey tag.1
  bare
    | .empty tag _ => isKey tag
    | _ => false

def keyCounter : Counter xmlReading where
  next depth
    | .start tag _ => if isKey tag then depth + 1 else depth
    | .finish tag => if isKey tag then depth - 1 else depth
    | _ => depth
  peak depth
    | .start tag _ | .empty tag _ => if isKey tag then depth + 1 else depth
    | _ => depth
  next_start _ _ := rfl
  peak_start _ _ := rfl
  next_finish _ _ := rfl
  peak_finish _ _ := rfl
  next_leaf _ leaf := by cases leaf <;> rfl
  peak_leaf _ leaf := by cases leaf <;> rfl

theorem isKey_iff (rawTag : Chars) : isKey rawTag = true ↔ tagName rawTag = "key".toList :=
  beq_iff_eq

theorem isFieldTag_key : isFieldTag "key".toList = false := by decide

theorem field_not_key {rawTag : Chars} (field : isFieldTag (tagName rawTag) = true) :
    tagName rawTag ≠ "key".toList := by
  intro named
  rw [named, isFieldTag_key] at field
  cases field

/-! ## What the limit leaves alone -/

/-- A state but for what is known of the limit. -/
def XmlState.core (state : XmlState) : XmlState :=
  { state with depthExceeded := false, ignoredDepth := 0, depthWarning := none }

theorem insertField_core (state : XmlState) (name value : Chars) :
    (state.insertField name value).core = state.core.insertField name value := by
  rcases state with ⟨stack, currentField⟩
  cases stack with
  | nil => rfl
  | cons frame rest => rfl

theorem pushButton_core (path groupName : Chars) (state : XmlState) (fields : Fields)
    (beginning buttonKey sourceKey : Chars) :
    (state.pushButton path groupName fields beginning buttonKey sourceKey).core =
      state.core.pushButton path groupName fields beginning buttonKey sourceKey := by
  rw [XmlState.pushButton, XmlState.pushButton]
  split
  · rfl
  · split
    · rfl
    · rfl

theorem pushChildren_core (path groupName : Chars) (state : XmlState) (seen : List Chars)
    (buttons : List KeyFrame) : (state.pushChildren path groupName seen buttons).core =
      state.core.pushChildren path groupName seen buttons := by
  induction buttons generalizing state seen with
  | nil => rfl
  | cons button rest ih => rw [XmlState.pushChildren, XmlState.pushChildren, ih, pushButton_core]

theorem finishButtonBar_core (path : Chars) (state : XmlState) (frame : KeyFrame)
    (names : List Chars) : (state.finishButtonBar path frame names).core =
      state.core.finishButtonBar path frame names := by
  rw [XmlState.finishButtonBar, XmlState.finishButtonBar]
  split
  · rfl
  · split
    · rfl
    · rename_i groupName _
      rw [← pushChildren_core]
      generalize XmlState.pushChildren path groupName state [] frame.childButtons = sofar
      induction orderedNames frame.fieldOrder "Name".toList generalizing sofar with
      | nil => rfl
      | cons key rest ih => rw [List.foldl_cons, List.foldl_cons, ih, pushButton_core]

section Machine

variable (path : Chars) (credentials : List (Chars × CredentialMetadata)) (library : XmlLibrary)

theorem finishKey_core (state : XmlState) :
    (state.finishKey path credentials).core = state.core.finishKey path credentials := by
  rcases state with ⟨stack, currentField⟩
  cases stack with
  | nil => rfl
  | cons frame below =>
    rw [XmlState.finishKey, XmlState.finishKey]
    dsimp only [XmlState.core]
    split
    · split
      · rfl
      · rfl
    · split
      · rfl
      · exact finishButtonBar_core path _ frame _

theorem addChild_length (child : KeyFrame) (stack : List KeyFrame) :
    (addChild child stack).length = stack.length := by
  cases stack with
  | nil => rfl
  | cons parent rest => rfl

theorem finishButtonBar_stack (state : XmlState) (frame : KeyFrame) (names : List Chars) :
    (state.finishButtonBar path frame names).stack = state.stack := by
  have button (groupName : Chars) (sofar : XmlState) (fields : Fields)
      (beginning buttonKey sourceKey : Chars) :
      (sofar.pushButton path groupName fields beginning buttonKey sourceKey).stack =
        sofar.stack := by
    rw [XmlState.pushButton]
    split
    · rfl
    · split
      · rfl
      · rfl
  have children (groupName : Chars) (sofar : XmlState) (seen : List Chars)
      (buttons : List KeyFrame) :
      (sofar.pushChildren path groupName seen buttons).stack = sofar.stack := by
    induction buttons generalizing sofar seen with
    | nil => rfl
    | cons first rest ih => rw [XmlState.pushChildren, ih, button]
  rw [XmlState.finishButtonBar]
  split
  · rfl
  · split
    · rfl
    · rename_i groupName _
      -- The children go first, then the names that the fields tell; both only add records.
      refine Eq.trans ?_ (children groupName state [] frame.childButtons)
      generalize XmlState.pushChildren path groupName state [] frame.childButtons = sofar
      induction orderedNames frame.fieldOrder "Name".toList generalizing sofar with
      | nil => rfl
      | cons key rest ih => rw [List.foldl_cons, ih, button]

theorem finishKey_length (state : XmlState) :
    (state.finishKey path credentials).stack.length = state.stack.length - 1 := by
  rw [XmlState.finishKey]
  split
  · rename_i none
    rw [none]
    rfl
  · rename_i frame below shape
    rw [shape]
    dsimp only
    split
    · split
      · rfl
      · rfl
    · split
      · exact addChild_length frame below
      · rw [finishButtonBar_stack]
        rfl

theorem insertField_length (state : XmlState) (name value : Chars) :
    (state.insertField name value).stack.length = state.stack.length := by
  rcases state with ⟨stack, currentField⟩
  cases stack with
  | nil => rfl
  | cons frame rest => rfl

/-! ## In step with the nesting -/

/-- The stack has the keys that are open up to the limit, and the rest is counted. -/
structure InStep (depth : Nat) (reading : Bool) (state : XmlState) : Prop where
  stack : state.stack.length = min depth maxXmlDepth
  ignored : state.ignoredDepth = depth - maxXmlDepth
  reading : state.currentField.isSome = reading

def readingAfter (depth : Nat) (reading : Bool) : XmlEvent → Bool
  | .start tag attributes =>
    if depth ≤ maxXmlDepth ∧ isFieldTag (tagName tag) = true then
      (attributeOf attributes "name".toList).isSome
    else reading
  | .finish tag =>
    if depth ≤ maxXmlDepth ∧ isFieldTag (tagName tag) = true then false else reading
  | _ => reading

/-- An event that writes to the innermost key of the stack, whatever the limit says. -/
def writes (reading : Bool) : XmlEvent → Bool
  | .empty tag attributes =>
    isFieldTag (tagName tag) && (attributeOf attributes "name".toList).isSome
  | .text _ => reading
  | _ => false

/-- Nothing is written below the deepest key that is kept. -/
def quiet (depth : Nat) (reading : Bool) : List XmlEvent → Bool
  | [] => true
  | event :: rest =>
    !(maxXmlDepth < depth && writes reading event) &&
      quiet (keyCounter.next depth event) (readingAfter depth reading event) rest

section Steps

variable {path credentials library} {depth : Nat} {reading : Bool} {state : XmlState}

theorem InStep.shallow (inStep : InStep depth reading state) (within : depth ≤ maxXmlDepth) :
    state.ignoredDepth = 0 ∧ state.stack.length = depth :=
  ⟨inStep.ignored.trans (Nat.sub_eq_zero_of_le within),
    inStep.stack.trans (Nat.min_eq_left within)⟩

theorem InStep.deep (inStep : InStep depth reading state) (deep : maxXmlDepth < depth) :
    0 < state.ignoredDepth := by
  rw [inStep.ignored]
  omega

theorem InStep.start (inStep : InStep depth reading state) (tag : Chars)
    (attributes : List (Chars × Option Chars)) :
    InStep (keyCounter.next depth (.start tag attributes))
      (readingAfter depth reading (.start tag attributes)) (state.start tag attributes) := by
  obtain ⟨stack, ignored, read⟩ := inStep
  change InStep (if isKey tag then depth + 1 else depth)
    (if depth ≤ maxXmlDepth ∧ isFieldTag (tagName tag) = true then
      (attributeOf attributes "name".toList).isSome else reading) (state.start tag attributes)
  unfold XmlState.start
  dsimp only
  by_cases deep : maxXmlDepth < depth
  · have counted : 0 < state.ignoredDepth := by omega
    rw [if_pos counted, if_neg (show ¬(depth ≤ maxXmlDepth ∧ _) by omega)]
    by_cases key : isKey tag = true
    · rw [if_pos key, if_pos ((isKey_iff tag).mp key)]
      exact ⟨by dsimp only; omega, by dsimp only; omega, read⟩
    · rw [if_neg key, if_neg (mt (isKey_iff tag).mpr key)]
      exact ⟨stack, ignored, read⟩
  · have counted : ¬0 < state.ignoredDepth := by omega
    rw [if_neg counted]
    by_cases key : isKey tag = true
    · have named := (isKey_iff tag).mp key
      have other : ¬(depth ≤ maxXmlDepth ∧ isFieldTag (tagName tag) = true) :=
        fun field => field_not_key field.2 named
      rw [if_pos key, if_neg other, if_pos named, XmlState.pushKey]
      split
      · -- The stack is full: the key is the first that is only counted.
        exact ⟨by dsimp only; omega, by dsimp only; omega, read⟩
      · exact ⟨by dsimp only [List.length_cons]; omega, by dsimp only; omega, read⟩
    · rw [if_neg key, if_neg (mt (isKey_iff tag).mpr key)]
      by_cases field : isFieldTag (tagName tag) = true
      · rw [if_pos field, if_pos ⟨by omega, field⟩]
        exact ⟨stack, ignored, rfl⟩
      · rw [if_neg field, if_neg fun both => field both.2]
        exact ⟨stack, ignored, read⟩

theorem InStep.finish (inStep : InStep depth reading state) (tag : Chars) :
    InStep (keyCounter.next depth (.finish tag)) (readingAfter depth reading (.finish tag))
      (state.finish path credentials tag) := by
  have same := finishKey_same path credentials state
  have popped := finishKey_length path credentials state
  obtain ⟨stack, ignored, read⟩ := inStep
  change InStep (if isKey tag then depth - 1 else depth)
    (if depth ≤ maxXmlDepth ∧ isFieldTag (tagName tag) = true then false else reading)
    (state.finish path credentials tag)
  unfold XmlState.finish
  dsimp only
  by_cases deep : maxXmlDepth < depth
  · have counted : 0 < state.ignoredDepth := by omega
    rw [if_pos counted, if_neg (show ¬(depth ≤ maxXmlDepth ∧ _) by omega)]
    by_cases key : isKey tag = true
    · rw [if_pos key, if_pos ((isKey_iff tag).mp key)]
      exact ⟨by dsimp only; omega, by dsimp only; omega, read⟩
    · rw [if_neg key, if_neg (mt (isKey_iff tag).mpr key)]
      exact ⟨stack, ignored, read⟩
  · have counted : ¬0 < state.ignoredDepth := by omega
    rw [if_neg counted]
    by_cases field : isFieldTag (tagName tag) = true
    · have other : ¬isKey tag = true := fun key => field_not_key field ((isKey_iff tag).mp key)
      rw [if_pos field, if_neg other, if_pos ⟨by omega, field⟩]
      exact ⟨stack, ignored, rfl⟩
    · have unread : ¬(depth ≤ maxXmlDepth ∧ isFieldTag (tagName tag) = true) :=
        fun both => field both.2
      rw [if_neg field, if_neg unread]
      by_cases key : isKey tag = true
      · rw [if_pos key, if_pos ((isKey_iff tag).mp key)]
        exact ⟨by omega, by rw [same.ignoredDepth]; omega, by rw [same.currentField]; exact read⟩
      · rw [if_neg key, if_neg (mt (isKey_iff tag).mpr key)]
        exact ⟨stack, ignored, read⟩

theorem InStep.insertField (inStep : InStep depth reading state) (name value : Chars) :
    InStep depth reading (state.insertField name value) := by
  have same := insertField_same state name value
  refine ⟨?_, ?_, ?_⟩
  · rw [insertField_length]
    exact inStep.stack
  · rw [same.ignoredDepth]
    exact inStep.ignored
  · rw [same.currentField]
    exact inStep.reading

variable (path credentials library) in
theorem InStep.step (inStep : InStep depth reading state) (event : XmlEvent) :
    InStep (keyCounter.next depth event) (readingAfter depth reading event)
      (state.step path credentials library event) := by
  cases event with
  | start tag attributes => exact inStep.start tag attributes
  | empty tag attributes =>
    change InStep depth reading (state.empty tag attributes)
    rw [XmlState.empty]
    split
    · split
      · exact inStep
      · exact inStep.insertField _ _
    · exact inStep
  | text content =>
    change InStep depth reading (state.text library content)
    rw [XmlState.text]
    split
    · exact inStep
    · exact inStep.insertField _ _
  | reference name => exact inStep
  | finish tag => exact inStep.finish tag
  | other => exact inStep

theorem InStep.dropped (inStep : InStep depth reading state) {event : XmlEvent}
    (deep : maxXmlDepth < keyCounter.peak depth event)
    (silent : maxXmlDepth < depth → writes reading event = false) :
    (state.step path credentials library event).core = state.core := by
  cases event with
  | start tag attributes =>
    change maxXmlDepth < (if isKey tag then depth + 1 else depth) at deep
    change (state.start tag attributes).core = state.core
    unfold XmlState.start
    dsimp only
    by_cases counted : 0 < state.ignoredDepth
    · rw [if_pos counted]
      split
      · rfl
      · rfl
    · -- Only the key that finds the stack full is dropped where none is counted.
      have level : depth ≤ maxXmlDepth := by
        have ignored := inStep.ignored
        omega
      have key : isKey tag = true := by
        by_contra other
        rw [if_neg other] at deep
        omega
      have full : maxXmlDepth ≤ state.stack.length := by
        rw [if_pos key] at deep
        have stack := (inStep.shallow level).2
        omega
      rw [if_neg counted, if_pos ((isKey_iff tag).mp key), XmlState.pushKey, if_pos full]
      rfl
  | empty tag attributes =>
    change maxXmlDepth < (if isKey tag then depth + 1 else depth) at deep
    change (state.empty tag attributes).core = state.core
    rw [XmlState.empty]
    split
    · rename_i field
      have other : ¬isKey tag = true := fun key => field_not_key field ((isKey_iff tag).mp key)
      rw [if_neg other] at deep
      have unwritten := silent deep
      rw [writes, field, Bool.true_and] at unwritten
      split
      · rfl
      · rename_i name named
        rw [named] at unwritten
        cases unwritten
    · rfl
  | text content =>
    have unread := inStep.reading.trans (silent deep)
    change (state.text library content).core = state.core
    rw [XmlState.text]
    split
    · rfl
    · rename_i name current
      rw [current] at unread
      cases unread
  | reference name => rfl
  | finish tag =>
    change (state.finish path credentials tag).core = state.core
    rw [XmlState.finish, if_pos (inStep.deep deep)]
    split
    · rfl
    · rfl
  | other => rfl

theorem InStep.kept (inStep : InStep depth reading state) {event : XmlEvent}
    (within : keyCounter.peak depth event ≤ maxXmlDepth) :
    (state.step path credentials library event).core =
      state.core.step path credentials library event := by
  cases event with
  | start tag attributes =>
    change (if isKey tag then depth + 1 else depth) ≤ maxXmlDepth at within
    have level : depth ≤ maxXmlDepth := by
      split at within <;> omega
    obtain ⟨none, stack⟩ := inStep.shallow level
    change (state.start tag attributes).core = state.core.start tag attributes
    have coreNone : ¬0 < state.core.ignoredDepth := Nat.lt_irrefl 0
    rw [XmlState.start, XmlState.start, if_neg (show ¬0 < state.ignoredDepth by omega), if_neg coreNone]
    by_cases key : isKey tag = true
    · rw [if_pos key] at within
      have room : ¬maxXmlDepth ≤ state.stack.length := by omega
      have named := (isKey_iff tag).mp key
      rw [if_pos named, if_pos named, XmlState.pushKey, XmlState.pushKey, if_neg room]
      exact (if_neg room).symm
    · have unnamed := mt (isKey_iff tag).mpr key
      rw [if_neg unnamed, if_neg unnamed]
      split
      · rfl
      · rfl
  | empty tag attributes =>
    change (state.empty tag attributes).core = state.core.empty tag attributes
    rw [XmlState.empty, XmlState.empty]
    split
    · split
      · rfl
      · exact insertField_core state _ _
    · rfl
  | text content =>
    change (state.text library content).core = state.core.text library content
    rw [XmlState.text, XmlState.text]
    rcases state with ⟨stack, currentField⟩
    cases currentField with
    | none => rfl
    | some name => exact insertField_core _ _ _
  | reference name => rfl
  | finish tag =>
    have none := (inStep.shallow within).1
    have coreNone : ¬0 < state.core.ignoredDepth := Nat.lt_irrefl 0
    change (state.finish path credentials tag).core = state.core.finish path credentials tag
    rw [XmlState.finish, XmlState.finish, if_neg (show ¬0 < state.ignoredDepth by omega), if_neg coreNone]
    split
    · rfl
    · split
      · exact finishKey_core path credentials state
      · rfl
  | other => rfl

end Steps

/-! ## Runs -/

section Runs

variable {path credentials library} {depth : Nat} {reading : Bool} {state : XmlState}

variable (path credentials library) in
theorem InStep.run (inStep : InStep depth reading state) (events : List XmlEvent) :
    ∃ after, InStep (keyCounter.depthAfter depth events) after
      (events.foldl (XmlState.step path credentials library) state) := by
  induction events generalizing depth reading state with
  | nil => exact ⟨reading, inStep⟩
  | cons event rest ih => exact ih (inStep.step path credentials library event)

variable (path credentials library) in
-- A run is that of the events that are not too deep, but for the count of the others.
theorem InStep.run_core (inStep : InStep depth reading state) {events : List XmlEvent}
    (silent : quiet depth reading events = true) :
    (events.foldl (XmlState.step path credentials library) state).core =
      (keyCounter.kept maxXmlDepth depth events).foldl (XmlState.step path credentials library)
        state.core := by
  induction events generalizing depth reading state with
  | nil => rfl
  | cons event rest ih =>
    rw [quiet, Bool.and_eq_true, Bool.not_eq_true', Bool.and_eq_false_imp] at silent
    have later := ih (inStep.step path credentials library event) silent.2
    have unwritten (deep : maxXmlDepth < depth) : writes reading event = false :=
      silent.1 (decide_eq_true deep)
    rw [List.foldl_cons, later, Counter.kept]
    split
    · rename_i deep
      rw [inStep.dropped deep unwritten]
    · rename_i within
      rw [List.foldl_cons, inStep.kept (Nat.le_of_not_lt within)]

end Runs

theorem quiet_append {depth : Nat} {reading : Bool} {first second : List XmlEvent}
    (silent : quiet depth reading (first ++ second) = true) : quiet depth reading first = true := by
  induction first generalizing depth reading with
  | nil => rfl
  | cons event rest ih =>
    rw [List.cons_append, quiet, Bool.and_eq_true] at silent
    rw [quiet, silent.1, ih silent.2]
    rfl

theorem inStep_start : InStep 0 false {} := ⟨rfl, rfl, rfl⟩

def stateAfter (events : List XmlEvent) : XmlState :=
  events.foldl (XmlState.step path credentials library) {}

/-- The limit only takes away the keys that are too deep, as long as nothing is written below
the deepest key that is kept: the records are those of the document without these keys, the
keys that are open always have the fields that they have without them, and the stack and
the count are in step with the nesting. -/
theorem depth_limit_only_removes (nodes : List XmlNode)
    (silent : quiet 0 false (eventsOf xmlReading nodes) = true) :
    (stateAfter path credentials library (eventsOf xmlReading nodes)).records =
        (stateAfter path credentials library
          (eventsOf xmlReading (withinAll xmlReading maxXmlDepth 0 nodes))).records ∧
      ∀ before, before <+: eventsOf xmlReading nodes →
        (stateAfter path credentials library before).stack =
            (stateAfter path credentials library
              (keyCounter.kept maxXmlDepth 0 before)).stack ∧
          (stateAfter path credentials library before).stack.length =
            min (keyCounter.depthAfter 0 before) maxXmlDepth ∧
          (stateAfter path credentials library before).ignoredDepth =
            keyCounter.depthAfter 0 before - maxXmlDepth := by
  constructor
  · -- A whole document ends at the level where it began, so what is kept is a document.
    have whole := inStep_start.run_core path credentials library silent
    rw [keyCounter.kept_events (Nat.zero_le maxXmlDepth)] at whole
    have records := congrArg XmlState.records whole
    exact records
  · rintro before ⟨after, split⟩
    rw [← split] at silent
    have part := inStep_start.run_core path credentials library (quiet_append silent)
    obtain ⟨reading, inStep⟩ := inStep_start.run path credentials library before
    have stack := congrArg XmlState.stack part
    exact ⟨stack, inStep.stack, inStep.ignored⟩

end Machine

/-! ## A session at the deepest level -/

def namedKey (name : String) (children : List XmlNode) : XmlNode :=
  .element ("key".toList, namedBy name) children

def fieldNode (name : String) (content : Chars) : XmlNode :=
  .element ("string".toList, namedBy name) [.leaf (.text content)]

def levels : Nat → List XmlNode → List XmlNode
  | 0, nodes => nodes
  | count + 1, nodes => [namedKey "web" (levels count nodes)]

def deepestSession (deep : List XmlNode) : List XmlNode :=
  [namedKey "Sessions" (levels 63
    [fieldNode "Hostname" "db".toList, fieldNode "Protocol Name" "SSH2".toList,
      namedKey "old" deep])]

def hostsOf (nodes : List XmlNode) : List (Option Chars) :=
  (stateAfter [] [] (tableLibrary []) (eventsOf xmlReading nodes)).records.map fun record =>
    record.ssh.map fun ssh => ssh.host

/-- A field with a text below the last level is left out. -/
theorem depth_limit_plain_field :
    (stateAfter [] [] (tableLibrary []) (eventsOf xmlReading
      (deepestSession [fieldNode "Hostname" "other".toList]))).records =
        (stateAfter [] [] (tableLibrary []) (eventsOf xmlReading
          (withinAll xmlReading maxXmlDepth 0
            (deepestSession [fieldNode "Hostname" "other".toList])))).records :=
  (depth_limit_only_removes [] [] (tableLibrary [])
    (deepestSession [fieldNode "Hostname" "other".toList]) (by decide +kernel)).1

/-- An empty field below the last level takes the host of the session away. -/
theorem deep_empty_field_written :
    (stateAfter [] [] (tableLibrary []) (eventsOf xmlReading
      (deepestSession [.leaf (.empty "string".toList (namedBy "Hostname"))]))).records ≠
        (stateAfter [] [] (tableLibrary []) (eventsOf xmlReading
          (withinAll xmlReading maxXmlDepth 0
            (deepestSession [.leaf (.empty "string".toList (namedBy "Hostname"))])))).records := by
  have differ : hostsOf (deepestSession [.leaf (.empty "string".toList (namedBy "Hostname"))]) ≠
      hostsOf (withinAll xmlReading maxXmlDepth 0
        (deepestSession [.leaf (.empty "string".toList (namedBy "Hostname"))])) := by
    decide +kernel
  intro same
  exact differ (by rw [hostsOf, hostsOf, same])

end Onetcli.Importers.SecureCrt
