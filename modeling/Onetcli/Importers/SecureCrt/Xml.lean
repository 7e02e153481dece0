import Onetcli.Importers.SecureCrt.Ini

/-!
The XML exports of SecureCRT, xml.rs: a machine over the events of a reader, with the keys
that are open and the field that is being read.
-/

namespace Onetcli.Importers.SecureCrt

open Chars

def maxXmlDepth : Nat := 64

def attributeOf (attributes : List (Chars × Option Chars)) (key : Chars) : Option Chars :=
  attributes.findSome? fun found => if tagName found.1 = key then found.2 else none

structure KeyFrame where
  name : Chars
  fields : Fields := []
  fieldNames : List (Chars × Chars) := []
  fieldOrder : List Chars := []
  childButtons : List KeyFrame := []

structure XmlState where
  /-- The keys that are open, the innermost first. -/
  stack : List KeyFrame := []
  currentField : Option Chars := none
  records : List ImportRecord := []
  depthExceeded : Bool := false
  ignoredDepth : Nat := 0
  buttonCount : Nat := 0
  depthWarning : Option ImportWarning := none
  warnings : List ImportWarning := []

def XmlState.warn (state : XmlState) (warnings : List ImportWarning) : XmlState :=
  { state with warnings := state.warnings ++ warnings }

/-! ## Fields -/

def KeyFrame.insertField (frame : KeyFrame) (name value : Chars) : KeyFrame :=
  let normalized := toAsciiLowercase name
  { frame with
    fieldOrder :=
      if (frame.fieldNames.lookup normalized).isNone then frame.fieldOrder ++ [normalized]
      else frame.fieldOrder
    fieldNames := (normalized, name) :: frame.fieldNames
    fields := (normalized, value) :: frame.fields }

def XmlState.insertField (state : XmlState) (name value : Chars) : XmlState :=
  match state.stack with
  | [] => state
  | frame :: rest => { state with stack := frame.insertField name value :: rest }

def isFieldTag (tag : Chars) : Bool := ["string".toList, "dword".toList].contains tag

def XmlState.text (library : XmlLibrary) (state : XmlState) (content : Chars) : XmlState :=
  match state.currentField with
  | none => state
  | some name => state.insertField name (trim (library.textOf content))

/-! ## Keys -/

def XmlState.pushKey (state : XmlState) (attributes : List (Chars × Option Chars)) : XmlState :=
  if maxXmlDepth ≤ state.stack.length then
    { state with
      ignoredDepth := 1
      depthExceeded := true
      depthWarning :=
        if state.depthExceeded then state.depthWarning
        else
          some (warning "securecrt_xml_depth_exceeded"
            ("SecureCRT XML export exceeded the supported nesting depth: ".toList ++
              (toString maxXmlDepth).toList)) }
  else
    { state with
      stack := { name := (attributeOf attributes "name".toList).getD [] } :: state.stack }

def XmlState.start (state : XmlState) (rawTag : Chars)
    (attributes : List (Chars × Option Chars)) : XmlState :=
  let tag := tagName rawTag
  if 0 < state.ignoredDepth then
    if tag = "key".toList then { state with ignoredDepth := state.ignoredDepth + 1 } else state
  else if tag = "key".toList then state.pushKey attributes
  else if isFieldTag tag then
    { state with currentField := attributeOf attributes "name".toList }
  else state

def XmlState.empty (state : XmlState) (rawTag : Chars)
    (attributes : List (Chars × Option Chars)) : XmlState :=
  if isFieldTag (tagName rawTag) then
    match attributeOf attributes "name".toList with
    | none => state
    | some name => state.insertField name []
  else state

/-! ## Buttons -/

def isButtonBarKey (name : Chars) : Bool :=
  eqIgnoreAsciiCase name "Button Bar".toList || eqIgnoreAsciiCase name "Button Bars".toList

def buttonBarIndex (names : List Chars) : Option Nat := names.findIdx? isButtonBarKey

def orderedName (suffix : Chars) (names : List Chars) (key : Chars) : List Chars :=
  match stripSuffix suffix key with
  | none => names
  | some beginning =>
    let name := lastPart (· == '/') beginning
    if names.any fun other => eqIgnoreAsciiCase other name then names else names ++ [name]

def orderedNames (fieldOrder : List Chars) (leaf : Chars) : List Chars :=
  fieldOrder.foldl (orderedName (toAsciiLowercase ('/' :: leaf))) []

def XmlState.pushQuickCommand (state : XmlState)
    (path groupName buttonKey buttonName command : Chars) : XmlState :=
  let sortOrder := min state.buttonCount i32Max
  let sourceId := path ++ "#Button Bar/".toList ++ groupName ++ '/' :: buttonKey
  { state with
    records := state.records ++
      [quickCommandRecord sourceId groupName buttonName (decodeCommand command) sortOrder]
    buttonCount := state.buttonCount + 1 }

def XmlState.pushButton (path groupName : Chars) (state : XmlState) (fields : Fields)
    (beginning buttonKey sourceKey : Chars) : XmlState :=
  let label := (field fields (beginning ++ "Name".toList)).getD buttonKey
  let command := field fields (beginning ++ "Command".toList)
  let action := (field fields (beginning ++ "Function".toList)).getD []
  if !eqIgnoreAsciiCase action "SEND".toList then
    state.warn
      [warning "securecrt_button_action_not_imported"
        ("A non-SEND action in SecureCRT button bar ".toList ++ groupName ++
          " was skipped.".toList)]
  else
    match command with
    | none => state
    | some command => state.pushQuickCommand path groupName sourceKey label command

/-- The buttons that are keys of their own; a key that comes again has a number. -/
def XmlState.pushChildren (path groupName : Chars) (state : XmlState) (seen : List Chars) :
    List KeyFrame → XmlState
  | [] => state
  | button :: rest =>
    let key := toAsciiLowercase button.name
    let occurrence := seen.count key + 1
    let sourceKey := if occurrence = 1 then button.name
      else button.name ++ '~' :: (toString occurrence).toList
    (state.pushButton path groupName button.fields [] button.name sourceKey).pushChildren
      path groupName (key :: seen) rest

def XmlState.finishButtonBar (path : Chars) (state : XmlState) (frame : KeyFrame)
    (names : List Chars) : XmlState :=
  match buttonBarIndex names with
  | none => state
  | some barIndex =>
    match names[barIndex + 1]? with
    | none => state
    | some groupName =>
      (orderedNames frame.fieldOrder "Name".toList).foldl
        (fun state buttonKey =>
          state.pushButton path groupName frame.fields
            (toAsciiLowercase buttonKey ++ ['/']) buttonKey buttonKey)
        (state.pushChildren path groupName [] frame.childButtons)

/-! ## The end of a key -/

def xmlPort (fields : Fields) (sourceId : Chars) : Option Nat × List ImportWarning :=
  portOf (fun value => parseU16 (trim value)) fields sourceId
    ["[ssh2] port".toList, "[ssh1] port".toList, "[ssh] port".toList, "port".toList]

def addChild (child : KeyFrame) : List KeyFrame → List KeyFrame
  | [] => []
  | parent :: rest => { parent with childButtons := parent.childButtons ++ [child] } :: rest

variable (path : Chars) (credentials : List (Chars × CredentialMetadata))

def XmlState.finishSession (state : XmlState) (frame : KeyFrame) (names : List Chars)
    (sessionIndex : Nat) : XmlState :=
  let fields := enrichFromCredential frame.fields credentials
  let sourceId := path ++ '#' :: ['/'].intercalate (names.drop sessionIndex)
  let group := ['/'].intercalate ((names.take (names.length - 1)).drop (sessionIndex + 1))
  let port := xmlPort fields sourceId
  let made := sshRecord sourceId (if group.isEmpty then none else some group) frame.name fields
    port.1
  { state with
    records := state.records ++ made.1.toList
    warnings := state.warnings ++ port.2 ++ made.2 }

def XmlState.finishKey (state : XmlState) : XmlState :=
  match state.stack with
  | [] => state
  | frame :: below =>
    let names := (below.map KeyFrame.name).reverse ++ [frame.name]
    match names.findIdx? fun name => eqIgnoreAsciiCase name "Sessions".toList with
    | some sessionIndex =>
      if names.length ≤ sessionIndex + 1 then { state with stack := below }
      else
        { state with stack := below }.finishSession path credentials frame names sessionIndex
    | none =>
      if (buttonBarIndex names).any fun barIndex => barIndex + 2 < names.length then
        { state with stack := addChild frame below }
      else { state with stack := below }.finishButtonBar path frame names

def XmlState.finish (state : XmlState) (rawTag : Chars) : XmlState :=
  let tag := tagName rawTag
  if 0 < state.ignoredDepth then
    if tag = "key".toList then { state with ignoredDepth := state.ignoredDepth - 1 } else state
  else if isFieldTag tag then { state with currentField := none }
  else if tag = "key".toList then state.finishKey path credentials
  else state

/-! ## Exports -/

variable (library : XmlLibrary)

def XmlState.step (state : XmlState) : XmlEvent → XmlState
  | .start tag attributes => state.start tag attributes
  | .empty tag attributes => state.empty tag attributes
  | .text content => state.text library content
  | .finish tag => state.finish path credentials tag
  | .reference _ => state
  | .other => state

/-- Whether a key or a field is open. -/
def XmlState.unfinished (state : XmlState) : Bool :=
  !state.stack.isEmpty || state.currentField.isSome || 0 < state.ignoredDepth

def xmlParseFailed (path : Chars) : ImportWarning :=
  warning "securecrt_xml_parse_failed"
    ("SecureCRT XML export could not be parsed: ".toList ++ path)

def parseExport (text : Chars) : List ImportRecord × List ImportWarning :=
  let reading := library.read text
  let state := reading.events.foldl (XmlState.step path credentials library) {}
  let failed := reading.failed || state.unfinished
  (if failed then [] else state.records,
    state.warnings ++ (if failed then [xmlParseFailed path] else []) ++
      state.depthWarning.toList)

end Onetcli.Importers.SecureCrt
