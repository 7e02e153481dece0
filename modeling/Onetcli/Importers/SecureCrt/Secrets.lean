import Onetcli.Importers.SecureCrt.Preview
import Onetcli.Lib.Encodings
import Onetcli.Lib.Lookups

/-!
Passwords of SecureCRT have no influence on a preview: two runs on sources that differ in
the values of password fields, none of them blank, end with the same records and warnings.
What the importer asks of a password is whether it is blank, so lists of fields agree if
they have the same other fields and both have or both lack each password.
-/

namespace Onetcli.Importers.SecureCrt

open Chars Lookups

/-! ## Fields that agree -/

def secretKeys : List Chars := ["password".toList, "password v2".toList]

structure Agree (first second : Fields) : Prop where
  shown : ∀ key, key ∉ secretKeys → first.lookup key = second.lookup key
  secret : ∀ key ∈ secretKeys,
    (nonEmpty (first.lookup key)).isSome = (nonEmpty (second.lookup key)).isSome

theorem Agree.refl (fields : Fields) : Agree fields fields := ⟨fun _ _ => rfl, fun _ _ => rfl⟩

section Agreement

variable {first second : Fields} (agree : Agree first second)
include agree

theorem Agree.cons (key value : Chars) :
    Agree ((key, value) :: first) ((key, value) :: second) := by
  constructor
  · intro other shown
    by_cases same : other = key
    · rw [same, lookup_same, lookup_same]
    · rw [lookup_other same, lookup_other same, agree.shown other shown]
  · intro other secret
    by_cases same : other = key
    · rw [same, lookup_same, lookup_same]
    · rw [lookup_other same, lookup_other same, agree.secret other secret]

theorem Agree.field {key : Chars} (shown : toAsciiLowercase key ∉ secretKeys) :
    SecureCrt.field first key = SecureCrt.field second key := by
  rw [SecureCrt.field, SecureCrt.field, agree.shown _ shown]

theorem Agree.hasValue (key : Chars) :
    SecureCrt.hasValue first key = SecureCrt.hasValue second key := by
  rw [SecureCrt.hasValue, SecureCrt.hasValue]
  by_cases secret : toAsciiLowercase key ∈ secretKeys
  · exact agree.secret _ secret
  · rw [agree.field secret]

theorem Agree.portOf (parse : Chars → Option Nat) (sourceId : Chars) {keys : List Chars}
    (shown : ∀ key ∈ keys, key ∉ secretKeys) :
    SecureCrt.portOf parse first sourceId keys = SecureCrt.portOf parse second sourceId keys := by
  induction keys with
  | nil => rfl
  | cons key rest ih =>
    have tail := ih fun other member => shown other (List.mem_cons_of_mem _ member)
    rw [SecureCrt.portOf, SecureCrt.portOf, agree.shown key (shown key List.mem_cons_self), tail]

theorem Agree.enrich (credentials : List (Chars × CredentialMetadata)) :
    Agree (enrichFromCredential first credentials) (enrichFromCredential second credentials) := by
  have title := agree.field (show toAsciiLowercase "Credential Title".toList ∉ secretKeys by decide)
  have username := agree.field (show toAsciiLowercase "Username".toList ∉ secretKeys by decide)
  rw [enrichFromCredential, enrichFromCredential, title, username]
  split
  · exact agree
  · split
    · exact agree
    · rename_i credential _
      -- The user of the credential comes to both or to none, and so does the mark.
      have marked {one other : Fields} (named : Agree one other) :
          Agree (if credential.encryptedPassword then
              ("credential encrypted password".toList, "present".toList) :: one else one)
            (if credential.encryptedPassword then
              ("credential encrypted password".toList, "present".toList) :: other else other) := by
        split
        · exact named.cons _ _
        · exact named
      apply marked
      split
      · split
        · exact agree
        · exact agree.cons _ _
      · exact agree

theorem Agree.sshRecord (sourceId : Chars) (groupPath : Option Chars) (name : Chars)
    (port : Option Nat) : SecureCrt.sshRecord sourceId groupPath name first port =
      SecureCrt.sshRecord sourceId groupPath name second port := by
  have protocol := agree.field (show toAsciiLowercase "Protocol Name".toList ∉ secretKeys by decide)
  have host := agree.field (show toAsciiLowercase "Hostname".toList ∉ secretKeys by decide)
  have username := agree.field (show toAsciiLowercase "Username".toList ∉ secretKeys by decide)
  have identity := agree.field
    (show toAsciiLowercase "Identity Filename V2".toList ∉ secretKeys by decide)
  have file := agree.field (show toAsciiLowercase "Identity File".toList ∉ secretKeys by decide)
  delta SecureCrt.sshRecord
  rw [protocol, host, username, identity, file, agree.hasValue "Password V2".toList,
    agree.hasValue "Password".toList, agree.hasValue "Credential Encrypted Password".toList]

end Agreement

theorem Agree.secret_cons {first second : Fields} (agree : Agree first second) {key : Chars}
    (isSecret : key ∈ secretKeys) {value other : Chars} (filled : ¬Blank value)
    (otherFilled : ¬Blank other) : Agree ((key, value) :: first) ((key, other) :: second) := by
  constructor
  · intro name shown
    have differ : name ≠ key := by
      rintro rfl
      exact shown isSecret
    rw [lookup_other differ, lookup_other differ, agree.shown name shown]
  · intro name secret
    by_cases same : name = key
    · rw [same, lookup_same, lookup_same, nonEmpty_of_filled filled,
        nonEmpty_of_filled otherFilled]
      rfl
    · rw [lookup_other same, lookup_other same, agree.secret name secret]

/-! ## INI files -/

/-- The key of a line, of what stands before its first `=`. -/
def fieldKey (front : Chars) : Option Chars :=
  (((stripPrefix "S:\"".toList (trim front)).or (stripPrefix "D:\"".toList (trim front))).bind
    fun quoted => stripSuffix ['"'] quoted).map toAsciiLowercase

theorem decodeValue_trimEnd (value : Chars) : decodeValue (trimEnd value) = decodeValue value := by
  rw [decodeValue, decodeValue, trim_trimEnd]

theorem parseField_line {front : Chars} (clean : '=' ∉ front) (value : Chars) :
    parseField (front ++ '=' :: value) =
      (fieldKey front).map fun key => (key, decodeValue value) := by
  have separate : ∀ char ∈ trimStart front, (char == '=') = false := by
    intro char member
    rw [beq_eq_false_iff_ne]
    rintro rfl
    exact clean ((List.dropWhile_sublist _).subset member)
  rw [parseField, trim_separated (by decide), splitOnce_append separate (by decide)]
  simp only [Option.bind_eq_bind, Option.bind_some, trim_trimStart, decodeValue_trimEnd]
  rw [fieldKey]
  cases (stripPrefix "S:\"".toList (trim front)).or (stripPrefix "D:\"".toList (trim front)) with
  | none => rfl
  | some quoted =>
    rw [Option.bind_some, Option.bind_some]
    cases stripSuffix ['"'] quoted with
    | none => rfl
    | some key => rfl

inductive LineReplaced : Chars → Chars → Prop where
  | same (line : Chars) : LineReplaced line line
  | secret (front value other key : Chars) (clean : '=' ∉ front)
      (isKey : fieldKey front = some key) (isSecret : key ∈ secretKeys)
      (filled : ¬Blank (decodeValue value)) (otherFilled : ¬Blank (decodeValue other)) :
      LineReplaced (front ++ '=' :: value) (front ++ '=' :: other)

theorem agree_lines {first second : List Chars} (replaced : List.Forall₂ LineReplaced first second)
    {known otherKnown : Fields} (agree : Agree known otherKnown) :
    Agree ((first.filterMap parseField).reverse ++ known)
      ((second.filterMap parseField).reverse ++ otherKnown) := by
  induction replaced generalizing known otherKnown with
  | nil => exact agree
  | @cons line _ _ _ here _ ih =>
    cases here with
    | same =>
      rw [List.filterMap_cons, List.filterMap_cons]
      cases parseField line with
      | none => exact ih agree
      | some found =>
        have tail := ih (agree.cons found.1 found.2)
        simpa using tail
    | secret front value other key clean isKey isSecret filled otherFilled =>
      have tail := ih (agree.secret_cons isSecret filled otherFilled)
      rw [List.filterMap_cons, List.filterMap_cons, parseField_line clean, parseField_line clean,
        isKey]
      simpa using tail

theorem agree_parseFields {text other : Chars}
    (replaced : List.Forall₂ LineReplaced (lines text) (lines other)) :
    Agree (parseFields text) (parseFields other) := by
  have agree := agree_lines replaced (Agree.refl [])
  rwa [List.append_nil, List.append_nil] at agree

theorem credentialMetadata_same {text other : Chars}
    (replaced : List.Forall₂ LineReplaced (lines text) (lines other)) :
    credentialMetadata text = credentialMetadata other := by
  have agree := agree_parseFields replaced
  have username := agree.field (show toAsciiLowercase "Username".toList ∉ secretKeys by decide)
  have newer := agree.hasValue "Password V2".toList
  have older := agree.hasValue "Password".toList
  rw [hasValue, hasValue] at newer older
  delta credentialMetadata
  dsimp only
  rw [username, newer, older]

theorem parseSession_same (path : Chars) {text other : Chars}
    (replaced : List.Forall₂ LineReplaced (lines text) (lines other))
    (credentials : List (Chars × CredentialMetadata)) :
    parseSession path text credentials = parseSession path other credentials := by
  have agree := (agree_parseFields replaced).enrich credentials
  have protocol := agree.field (show toAsciiLowercase "Protocol Name".toList ∉ secretKeys by decide)
  have port (name sourceId : Chars) :
      protocolPort (enrichFromCredential (parseFields text) credentials) name sourceId =
        protocolPort (enrichFromCredential (parseFields other) credentials) name sourceId := by
    apply agree.portOf
    intro key member
    rcases List.mem_pair.mp member with rfl | rfl
    · intro secret
      rcases List.mem_pair.mp secret with same | same
      · exact absurd (List.cons.inj same).1 (by decide)
      · exact absurd (List.cons.inj same).1 (by decide)
    · decide
  delta parseSession
  dsimp only
  rw [protocol, port, agree.sshRecord]

/-! ## XML exports -/

structure ButtonAgree (first second : KeyFrame) : Prop where
  name : first.name = second.name
  fields : Agree first.fields second.fields

structure FrameAgree (first second : KeyFrame) : Prop extends ButtonAgree first second where
  fieldNames : ∀ key, (first.fieldNames.lookup key).isNone = (second.fieldNames.lookup key).isNone
  fieldOrder : first.fieldOrder = second.fieldOrder
  childButtons : List.Forall₂ ButtonAgree first.childButtons second.childButtons

/-- States that differ in passwords of open keys only. -/
inductive StateAgree : XmlState → XmlState → Prop where
  | intro (state : XmlState) {stack other : List KeyFrame}
      (aligned : List.Forall₂ FrameAgree stack other) :
      StateAgree { state with stack := stack } { state with stack := other }

theorem lookup_isNone_cons (key name : Chars) {first second : List (Chars × Chars)}
    (same : ∀ key, (first.lookup key).isNone = (second.lookup key).isNone) (other : Chars) :
    (List.lookup other ((key, name) :: first)).isNone =
      (List.lookup other ((key, name) :: second)).isNone := by
  by_cases equal : other = key
  · rw [equal, lookup_same, lookup_same]
  · rw [lookup_other equal, lookup_other equal, same]

theorem FrameAgree.insertField {first second : KeyFrame} (agree : FrameAgree first second)
    (name value : Chars) :
    FrameAgree (first.insertField name value) (second.insertField name value) where
  name := agree.name
  fields := agree.fields.cons _ _
  fieldNames := lookup_isNone_cons _ _ agree.fieldNames
  fieldOrder := by
    delta KeyFrame.insertField
    dsimp only
    rw [agree.fieldNames, agree.fieldOrder]
  childButtons := agree.childButtons

theorem FrameAgree.new (name : Chars) : FrameAgree { name := name } { name := name } where
  name := rfl
  fields := Agree.refl []
  fieldNames := fun _ => rfl
  fieldOrder := rfl
  childButtons := .nil

section Steps

variable {first second : XmlState} (agree : StateAgree first second)
include agree

theorem StateAgree.insertField (name value : Chars) :
    StateAgree (first.insertField name value) (second.insertField name value) := by
  cases agree with
  | intro state aligned =>
    cases aligned with
    | nil => exact .intro state .nil
    | cons top below => exact .intro state (.cons (top.insertField name value) below)

theorem StateAgree.empty (tag : Chars) (attributes : List (Chars × Option Chars)) :
    StateAgree (first.empty tag attributes) (second.empty tag attributes) := by
  rw [XmlState.empty, XmlState.empty]
  split
  · split
    · exact agree
    · exact agree.insertField _ _
  · exact agree

theorem StateAgree.text (library : XmlLibrary) (content : Chars) :
    StateAgree (first.text library content) (second.text library content) := by
  have current : first.currentField = second.currentField := by
    cases agree
    rfl
  rw [XmlState.text, XmlState.text, current]
  split
  · exact agree
  · exact agree.insertField _ _

theorem StateAgree.pushKey (attributes : List (Chars × Option Chars)) :
    StateAgree (first.pushKey attributes) (second.pushKey attributes) := by
  cases agree with
  | intro state aligned =>
    rw [XmlState.pushKey, XmlState.pushKey]
    dsimp only
    rw [aligned.length_eq]
    split
    · exact .intro { state with
        ignoredDepth := 1, depthExceeded := true, depthWarning := _ } aligned
    · exact .intro state (.cons (FrameAgree.new _) aligned)

theorem StateAgree.start (tag : Chars) (attributes : List (Chars × Option Chars)) :
    StateAgree (first.start tag attributes) (second.start tag attributes) := by
  have pushed := agree.pushKey attributes
  cases agree with
  | intro state aligned =>
    rw [XmlState.start, XmlState.start]
    dsimp only
    split
    · split
      · exact .intro { state with ignoredDepth := state.ignoredDepth + 1 } aligned
      · exact .intro state aligned
    · split
      · exact pushed
      · split
        · exact .intro { state with currentField := _ } aligned
        · exact .intro state aligned

end Steps

/-! ### Buttons -/

theorem button_shown {leaf : Chars} (member : leaf ∈ ["name".toList, "command".toList,
    "function".toList]) (beginning : Chars) : beginning ++ leaf ∉ secretKeys := by
  have apart : ∀ key ∈ secretKeys, ∀ leaf ∈ ["name".toList, "command".toList,
      "function".toList], leaf.isSuffixOf key = false := by decide
  intro secret
  have ends := List.isSuffixOf_iff_suffix.mpr (List.suffix_append beginning leaf)
  rw [apart _ secret leaf member] at ends
  cases ends

theorem button_field {first second : Fields} (agree : Agree first second) {leaf : Chars}
    (member : toAsciiLowercase leaf ∈ ["name".toList, "command".toList, "function".toList])
    (beginning : Chars) : field first (beginning ++ leaf) = field second (beginning ++ leaf) := by
  apply agree.field
  have lower : toAsciiLowercase (beginning ++ leaf) =
      toAsciiLowercase beginning ++ toAsciiLowercase leaf := List.map_append
  rw [lower]
  exact button_shown member _

section Buttons

variable (path groupName : Chars)

variable {first second : XmlState}

theorem StateAgree.warn (agree : StateAgree first second)
    (warnings : List ImportWarning) : StateAgree (first.warn warnings) (second.warn warnings) := by
  cases agree with
  | intro state aligned => exact .intro (state.warn warnings) aligned

theorem StateAgree.pushQuickCommand (agree : StateAgree first second)
    (buttonKey buttonName command : Chars) :
    StateAgree (first.pushQuickCommand path groupName buttonKey buttonName command)
      (second.pushQuickCommand path groupName buttonKey buttonName command) := by
  cases agree with
  | intro state aligned =>
    exact .intro (state.pushQuickCommand path groupName buttonKey buttonName command) aligned

theorem StateAgree.pushButton (agree : StateAgree first second)
    {fields other : Fields} (fieldsAgree : Agree fields other)
    (beginning buttonKey sourceKey : Chars) :
    StateAgree (first.pushButton path groupName fields beginning buttonKey sourceKey)
      (second.pushButton path groupName other beginning buttonKey sourceKey) := by
  have label := button_field fieldsAgree (show toAsciiLowercase "Name".toList ∈ _ by decide)
    beginning
  have command := button_field fieldsAgree (show toAsciiLowercase "Command".toList ∈ _ by decide)
    beginning
  have action := button_field fieldsAgree (show toAsciiLowercase "Function".toList ∈ _ by decide)
    beginning
  rw [XmlState.pushButton, XmlState.pushButton, label, command, action]
  split
  · exact agree.warn _
  · cases field other (beginning ++ "Command".toList) with
    | none => exact agree
    | some found => exact agree.pushQuickCommand path groupName _ _ _

theorem StateAgree.pushChildren (agree : StateAgree first second)
    {buttons others : List KeyFrame} (aligned : List.Forall₂ ButtonAgree buttons others)
    (seen : List Chars) : StateAgree (first.pushChildren path groupName seen buttons)
      (second.pushChildren path groupName seen others) := by
  induction aligned generalizing first second seen with
  | nil => exact agree
  | cons button _ ih =>
    rw [XmlState.pushChildren, XmlState.pushChildren, button.name]
    exact ih (agree.pushButton path groupName button.fields _ _ _) _

theorem StateAgree.pushOrdered (agree : StateAgree first second)
    {fields other : Fields} (fieldsAgree : Agree fields other) (keys : List Chars) : StateAgree
      (keys.foldl (fun state buttonKey => state.pushButton path groupName fields
        (toAsciiLowercase buttonKey ++ ['/']) buttonKey buttonKey) first)
      (keys.foldl (fun state buttonKey => state.pushButton path groupName other
        (toAsciiLowercase buttonKey ++ ['/']) buttonKey buttonKey) second) := by
  induction keys generalizing first second with
  | nil => exact agree
  | cons key rest ih => exact ih (agree.pushButton path groupName fieldsAgree _ _ _)

theorem StateAgree.finishButtonBar (agree : StateAgree first second)
    {frame other : KeyFrame} (frames : FrameAgree frame other) (names : List Chars) :
    StateAgree (first.finishButtonBar path frame names)
      (second.finishButtonBar path other names) := by
  rw [XmlState.finishButtonBar, XmlState.finishButtonBar, frames.fieldOrder]
  split
  · exact agree
  · split
    · exact agree
    · exact (agree.pushChildren path _ frames.childButtons []).pushOrdered path _ frames.fields _

end Buttons

/-! ### Keys -/

section Keys

variable (path : Chars) (credentials : List (Chars × CredentialMetadata))

variable {first second : XmlState}

theorem StateAgree.add (agree : StateAgree first second)
    (records : List ImportRecord) (port made : List ImportWarning) : StateAgree { first with
        records := first.records ++ records, warnings := first.warnings ++ port ++ made }
      { second with
        records := second.records ++ records, warnings := second.warnings ++ port ++ made } := by
  cases agree with
  | intro state aligned =>
    exact .intro { state with
      records := state.records ++ records, warnings := state.warnings ++ port ++ made } aligned

theorem StateAgree.finishSession (agree : StateAgree first second)
    {frame other : KeyFrame} (frames : FrameAgree frame other) (names : List Chars)
    (sessionIndex : Nat) :
    StateAgree (first.finishSession path credentials frame names sessionIndex)
      (second.finishSession path credentials other names sessionIndex) := by
  have fields := frames.fields.enrich credentials
  have port (sourceId : Chars) : xmlPort (enrichFromCredential frame.fields credentials) sourceId =
      xmlPort (enrichFromCredential other.fields credentials) sourceId :=
    fields.portOf _ sourceId (by decide)
  delta XmlState.finishSession
  dsimp only
  rw [port, fields.sshRecord, frames.name]
  exact agree.add _ _ _

theorem addChild_agree {child other : KeyFrame} (children : ButtonAgree child other)
    {stack others : List KeyFrame} (aligned : List.Forall₂ FrameAgree stack others) :
    List.Forall₂ FrameAgree (addChild child stack) (addChild other others) := by
  cases aligned with
  | nil => exact .nil
  | cons top below =>
    have more := List.rel_append top.childButtons (.cons children .nil)
    exact .cons ⟨⟨top.name, top.fields⟩, top.fieldNames, top.fieldOrder, more⟩ below

theorem names_agree {stack other : List KeyFrame} (aligned : List.Forall₂ FrameAgree stack other) :
    stack.map KeyFrame.name = other.map KeyFrame.name := by
  induction aligned with
  | nil => rfl
  | cons top _ ih => rw [List.map_cons, List.map_cons, top.name, ih]

theorem StateAgree.finishKey (agree : StateAgree first second) :
    StateAgree (first.finishKey path credentials) (second.finishKey path credentials) := by
  cases agree with
  | intro state aligned =>
    cases aligned with
    | nil => exact .intro state .nil
    | cons top below =>
      delta XmlState.finishKey
      dsimp only
      rw [names_agree below, top.name]
      split
      · split
        · exact .intro state below
        · exact (StateAgree.intro state below).finishSession path credentials top _ _
      · split
        · exact .intro state (addChild_agree top.toButtonAgree below)
        · exact (StateAgree.intro state below).finishButtonBar path top _

theorem StateAgree.finish (agree : StateAgree first second) (tag : Chars) :
    StateAgree (first.finish path credentials tag) (second.finish path credentials tag) := by
  have finished := agree.finishKey path credentials
  cases agree with
  | intro state aligned =>
    rw [XmlState.finish, XmlState.finish]
    dsimp only
    split
    · split
      · exact .intro { state with ignoredDepth := state.ignoredDepth - 1 } aligned
      · exact .intro state aligned
    · split
      · exact .intro { state with currentField := none } aligned
      · split
        · exact finished
        · exact .intro state aligned

theorem StateAgree.step (library : XmlLibrary)
    (agree : StateAgree first second) (event : XmlEvent) :
    StateAgree (first.step path credentials library event)
      (second.step path credentials library event) := by
  cases event with
  | start tag attributes => exact agree.start tag attributes
  | empty tag attributes => exact agree.empty tag attributes
  | text content => exact agree.text library content
  | finish tag => exact agree.finish path credentials tag
  | reference name => exact agree
  | other => exact agree

end Keys

/-! ### Password elements -/

def isContent : XmlEvent → Bool
  | .text _ => true
  | .reference _ => true
  | .other => true
  | _ => false

section Content

variable (library : XmlLibrary)

def storedText : XmlEvent → Option Chars
  | .text content => some (trim (library.textOf content))
  | _ => none

/-- The last text of an element, which its field has in the end. -/
def lastText (content : List XmlEvent) : Option Chars := content.reverse.findSome? (storedText library)

structure Filled (content : List XmlEvent) : Prop where
  isContent : content.all isContent = true
  filled : ∃ value, lastText library content = some value ∧ ¬Blank value

def insertText (name : Chars) (frame : KeyFrame) (event : XmlEvent) : KeyFrame :=
  match storedText library event with
  | none => frame
  | some value => frame.insertField name value

def insertTexts (name : Chars) (content : List XmlEvent) : List KeyFrame → List KeyFrame
  | [] => []
  | frame :: below => content.foldl (insertText library name) frame :: below

theorem step_content (path : Chars) (credentials : List (Chars × CredentialMetadata))
    (state : XmlState) {content : List XmlEvent} (only : content.all isContent = true) :
    content.foldl (XmlState.step path credentials library) state =
      match state.currentField with
      | none => state
      | some name => { state with stack := insertTexts library name content state.stack } := by
  induction content generalizing state with
  | nil =>
    rcases state with ⟨stack, currentField, _⟩
    cases currentField with
    | none => rfl
    | some name => cases stack <;> rfl
  | cons event rest ih =>
    rw [List.all_cons, Bool.and_eq_true] at only
    rw [List.foldl_cons, ih _ only.2]
    rcases state with ⟨stack, currentField, _⟩
    cases event with
    | text content =>
      cases currentField with
      | none => rfl
      | some name => cases stack <;> rfl
    | reference name | other => cases currentField <;> cases stack <;> rfl
    | start tag attributes => cases only.1
    | empty tag attributes => cases only.1
    | finish tag => cases only.1

end Content

structure Stored (key value : Chars) (frame next : KeyFrame) : Prop where
  name : next.name = frame.name
  childButtons : next.childButtons = frame.childButtons
  value : next.fields.lookup key = some value
  fields : ∀ other, other ≠ key → next.fields.lookup other = frame.fields.lookup other
  known : (next.fieldNames.lookup key).isNone = false
  fieldNames : ∀ other, other ≠ key →
    next.fieldNames.lookup other = frame.fieldNames.lookup other
  fieldOrder : next.fieldOrder =
    if (frame.fieldNames.lookup key).isNone then frame.fieldOrder ++ [key] else frame.fieldOrder

theorem Stored.first (name value : Chars) (frame : KeyFrame) :
    Stored (toAsciiLowercase name) value frame (frame.insertField name value) where
  name := rfl
  childButtons := rfl
  value := lookup_same _ _ _
  fields := fun _ differ => lookup_other differ _ _
  known := by
    delta KeyFrame.insertField
    dsimp only
    rw [lookup_same]
    rfl
  fieldNames := fun _ differ => lookup_other differ _ _
  fieldOrder := rfl

theorem Stored.again {name before : Chars} {frame next : KeyFrame}
    (stored : Stored (toAsciiLowercase name) before frame next) (value : Chars) :
    Stored (toAsciiLowercase name) value frame (next.insertField name value) where
  name := stored.name
  childButtons := stored.childButtons
  value := lookup_same _ _ _
  fields := fun other differ => (lookup_other differ _ _).trans (stored.fields other differ)
  known := (Stored.first name value next).known
  fieldNames := fun other differ =>
    (lookup_other differ _ _).trans (stored.fieldNames other differ)
  fieldOrder := by
    rw [(Stored.first name value next).fieldOrder, stored.known]
    exact stored.fieldOrder

theorem insertTexts_stored (library : XmlLibrary) (name : Chars) (frame : KeyFrame)
    (content : List XmlEvent) :
    match lastText library content with
    | none => content.foldl (insertText library name) frame = frame
    | some value => Stored (toAsciiLowercase name) value frame
        (content.foldl (insertText library name) frame) := by
  induction content using List.reverseRecOn with
  | nil => rfl
  | append_singleton before event ih =>
    have last : lastText library (before ++ [event]) =
        (storedText library event).or (lastText library before) := by
      rw [lastText, lastText, List.reverse_append, List.reverse_singleton, List.findSome?_append,
        List.findSome?_singleton]
    rw [last, List.foldl_append, List.foldl_cons, List.foldl_nil, insertText]
    cases storedText library event with
    | none => exact ih
    | some value =>
      cases earlier : lastText library before with
      | none =>
        rw [earlier] at ih
        dsimp only at ih ⊢
        rw [ih]
        exact Stored.first name value frame
      | some old =>
        rw [earlier] at ih
        exact ih.again value

theorem Stored.agree {key value other : Chars} {frame next first last : KeyFrame}
    (stored : Stored key value frame next) (otherStored : Stored key other first last)
    (agree : FrameAgree frame first) (isSecret : key ∈ secretKeys) (filled : ¬Blank value)
    (otherFilled : ¬Blank other) : FrameAgree next last := by
  refine ⟨⟨?_, ⟨?_, ?_⟩⟩, ?_, ?_, ?_⟩
  · rw [stored.name, otherStored.name, agree.name]
  · intro name shown
    have differ : name ≠ key := by
      rintro rfl
      exact shown isSecret
    rw [stored.fields name differ, otherStored.fields name differ, agree.fields.shown name shown]
  · intro name secret
    by_cases same : name = key
    · rw [same, stored.value, otherStored.value, nonEmpty_of_filled filled,
        nonEmpty_of_filled otherFilled]
      rfl
    · rw [stored.fields name same, otherStored.fields name same, agree.fields.secret name secret]
  · intro name
    by_cases same : name = key
    · rw [same, stored.known, otherStored.known]
    · rw [stored.fieldNames name same, otherStored.fieldNames name same, agree.fieldNames]
  · rw [stored.fieldOrder, otherStored.fieldOrder, agree.fieldNames, agree.fieldOrder]
  · rw [stored.childButtons, otherStored.childButtons]
    exact agree.childButtons

theorem insertTexts_agree {library : XmlLibrary} {name : Chars}
    (isSecret : toAsciiLowercase name ∈ secretKeys) {content other : List XmlEvent}
    (filled : Filled library content) (otherFilled : Filled library other)
    {stack others : List KeyFrame} (aligned : List.Forall₂ FrameAgree stack others) :
    List.Forall₂ FrameAgree (insertTexts library name content stack)
      (insertTexts library name other others) := by
  rcases filled.filled with ⟨value, last, black⟩
  rcases otherFilled.filled with ⟨otherValue, otherLast, otherBlack⟩
  cases aligned with
  | nil => exact .nil
  | @cons frame first _ _ top below =>
    have stored := insertTexts_stored library name frame content
    have otherStored := insertTexts_stored library name first other
    rw [last] at stored
    rw [otherLast] at otherStored
    exact .cons (stored.agree otherStored top isSecret black otherBlack) below

/-! ### Fields that contain no elements -/

/-- Whether a field is open after an event; none where an element is inside of one. -/
def leafAfter (inField : Bool) : XmlEvent → Option Bool
  | .start tag _ => if inField then none else some (isFieldTag (tagName tag))
  | .empty _ _ => if inField then none else some false
  | .finish tag => some (inField && !isFieldTag (tagName tag))
  | _ => some inField

def leafFields : Bool → List XmlEvent → Bool
  | _, [] => true
  | inField, event :: rest =>
    match leafAfter inField event with
    | none => false
    | some next => leafFields next rest

/-- A field is read only where one is open and keys are not ignored. -/
def Leaf (inField : Bool) (state : XmlState) : Prop :=
  state.currentField.isSome = true → inField = true ∧ state.ignoredDepth = 0

theorem leaf_none {inField : Bool} {state : XmlState} (unread : state.currentField = none) :
    Leaf inField state := by
  intro reads
  rw [unread] at reads
  cases reads

theorem pushKey_currentField (state : XmlState) (attributes : List (Chars × Option Chars)) :
    (state.pushKey attributes).currentField = state.currentField := by
  rw [XmlState.pushKey]
  split
  · rfl
  · rfl

/-- What the end of a key leaves as it was. -/
structure SameField (before after : XmlState) : Prop where
  currentField : after.currentField = before.currentField
  ignoredDepth : after.ignoredDepth = before.ignoredDepth

theorem SameField.trans {first second third : XmlState} (one : SameField first second)
    (two : SameField second third) : SameField first third :=
  ⟨two.currentField.trans one.currentField, two.ignoredDepth.trans one.ignoredDepth⟩

theorem SameField.leaf {before after : XmlState} (same : SameField before after)
    {inField : Bool} (leaf : Leaf inField before) : Leaf inField after := by
  intro reads
  rw [same.currentField] at reads
  rw [same.ignoredDepth]
  exact leaf reads

theorem insertField_same (state : XmlState) (name value : Chars) :
    SameField state (state.insertField name value) := by
  rw [XmlState.insertField]
  split
  · exact ⟨rfl, rfl⟩
  · exact ⟨rfl, rfl⟩

theorem pushButton_same (path groupName : Chars) (state : XmlState) (fields : Fields)
    (beginning buttonKey sourceKey : Chars) :
    SameField state (state.pushButton path groupName fields beginning buttonKey sourceKey) := by
  rw [XmlState.pushButton]
  split
  · exact ⟨rfl, rfl⟩
  · split
    · exact ⟨rfl, rfl⟩
    · exact ⟨rfl, rfl⟩

theorem pushChildren_same (path groupName : Chars) (state : XmlState) (seen : List Chars)
    (buttons : List KeyFrame) :
    SameField state (state.pushChildren path groupName seen buttons) := by
  induction buttons generalizing state seen with
  | nil => exact ⟨rfl, rfl⟩
  | cons button rest ih =>
    rw [XmlState.pushChildren]
    exact (pushButton_same path groupName state button.fields _ _ _).trans (ih _ _)

theorem finishButtonBar_same (path : Chars) (state : XmlState) (frame : KeyFrame)
    (names : List Chars) : SameField state (state.finishButtonBar path frame names) := by
  rw [XmlState.finishButtonBar]
  split
  · exact ⟨rfl, rfl⟩
  · split
    · exact ⟨rfl, rfl⟩
    · exact List.foldlRecOn _ _ (pushChildren_same path _ state [] frame.childButtons)
        fun sofar same key _ => same.trans (pushButton_same path _ sofar frame.fields _ _ _)

section Leaves

variable (path : Chars) (credentials : List (Chars × CredentialMetadata))

theorem finishKey_same (state : XmlState) : SameField state (state.finishKey path credentials) := by
  rw [XmlState.finishKey]
  split
  · exact ⟨rfl, rfl⟩
  · rename_i frame below _
    have popped : SameField state { state with stack := below } := ⟨rfl, rfl⟩
    dsimp only
    split
    · split
      · exact popped
      · exact ⟨rfl, rfl⟩
    · split
      · exact ⟨rfl, rfl⟩
      · exact popped.trans (finishButtonBar_same path _ frame _)

theorem step_leaf (library : XmlLibrary) {state : XmlState} {event : XmlEvent}
    {inField next : Bool} (after : leafAfter inField event = some next) (leaf : Leaf inField state) :
    Leaf next (state.step path credentials library event) := by
  have unread (outside : inField = false) : state.currentField = none := by
    cases current : state.currentField with
    | none => rfl
    | some name =>
      have inside := (leaf (by rw [current]; rfl)).1
      rw [outside] at inside
      cases inside
  cases event with
  | start tag attributes =>
    cases inField with
    | true => cases after
    | false =>
      have current := unread rfl
      cases after
      rw [XmlState.step, XmlState.start]
      split
      · split
        · exact leaf_none current
        · exact leaf_none current
      · rename_i read
        split
        · exact leaf_none ((pushKey_currentField state attributes).trans current)
        · split
          · rename_i fieldTag
            exact fun _ => ⟨fieldTag, Nat.eq_zero_of_not_pos read⟩
          · exact leaf_none current
  | empty tag attributes =>
    cases inField with
    | true => cases after
    | false =>
      cases after
      rw [XmlState.step, XmlState.empty]
      split
      · split
        · exact leaf
        · exact (insertField_same state _ _).leaf leaf
      · exact leaf
  | text content =>
    cases after
    rw [XmlState.step, XmlState.text]
    split
    · exact leaf
    · exact (insertField_same state _ _).leaf leaf
  | reference name =>
    cases after
    exact leaf
  | finish tag =>
    cases after
    rw [XmlState.step, XmlState.finish]
    split
    · rename_i ignored
      -- Nothing is read where keys are ignored.
      have current : state.currentField = none := by
        cases current : state.currentField with
        | none => rfl
        | some name =>
          have read := (leaf (by rw [current]; rfl)).2
          omega
      split
      · exact leaf_none current
      · exact leaf_none current
    · split
      · exact leaf_none rfl
      · rename_i other
        rw [Bool.not_eq_true] at other
        rw [other, Bool.not_false, Bool.and_true]
        split
        · exact (finishKey_same path credentials state).leaf leaf
        · exact leaf
  | other =>
    cases after
    exact leaf

end Leaves

end Onetcli.Importers.SecureCrt
