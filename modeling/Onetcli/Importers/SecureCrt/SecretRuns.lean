import Onetcli.Importers.SecureCrt.Secrets

/-!
Two previews of sources that differ in password values: each export, each file and at last
the whole preview gives the same.
-/

namespace Onetcli.Importers.SecureCrt

open Chars Lookups

/-! ## Exports -/

/-- Events that differ in what password elements contain. -/
inductive SecretsReplaced (library : XmlLibrary) : List XmlEvent → List XmlEvent → Prop where
  | nil : SecretsReplaced library [] []
  | same (event : XmlEvent) {rest others : List XmlEvent}
      (more : SecretsReplaced library rest others) :
      SecretsReplaced library (event :: rest) (event :: others)
  | secret (tag : Chars) (attributes : List (Chars × Option Chars)) (name : Chars)
      (isField : isFieldTag (tagName tag) = true)
      (named : attributeOf attributes "name".toList = some name)
      (isSecret : toAsciiLowercase name ∈ secretKeys) {content other : List XmlEvent}
      (filled : Filled library content) (otherFilled : Filled library other)
      {rest others : List XmlEvent} (more : SecretsReplaced library rest others) :
      SecretsReplaced library (.start tag attributes :: (content ++ .finish tag :: rest))
        (.start tag attributes :: (other ++ .finish tag :: others))

theorem leafFields_content {inField : Bool} {content : List XmlEvent}
    (only : content.all isContent = true) (rest : List XmlEvent) :
    leafFields inField (content ++ rest) = leafFields inField rest := by
  induction content with
  | nil => rfl
  | cons event others ih =>
    rw [List.all_cons, Bool.and_eq_true] at only
    cases event with
    | text content => exact ih only.2
    | reference name => exact ih only.2
    | other => exact ih only.2
    | start tag attributes => cases only.1
    | empty tag attributes => cases only.1
    | finish tag => cases only.1

-- A field without elements in it, and what comes after it.
theorem leafFields_field {inField : Bool} {tag : Chars}
    {attributes : List (Chars × Option Chars)} (isField : isFieldTag (tagName tag) = true)
    {content : List XmlEvent} (only : content.all isContent = true) {rest : List XmlEvent}
    (leafs : leafFields inField (.start tag attributes :: (content ++ .finish tag :: rest)) = true) :
    inField = false ∧ leafFields false rest = true := by
  cases inField with
  | true => cases leafs
  | false =>
    rw [leafFields, leafAfter, if_neg Bool.false_ne_true, isField] at leafs
    dsimp only at leafs
    rw [leafFields_content only, leafFields, leafAfter, isField] at leafs
    exact ⟨rfl, leafs⟩

section Exports

variable (path : Chars) (credentials : List (Chars × CredentialMetadata)) {library : XmlLibrary}

-- The start of a password opens its field, or nothing is read where keys are ignored.
theorem start_secret {state : XmlState} (leaf : Leaf false state) {tag name : Chars}
    {attributes : List (Chars × Option Chars)} (isField : isFieldTag (tagName tag) = true)
    (named : attributeOf attributes "name".toList = some name) :
    (state.start tag attributes).currentField = none ∨
      (state.start tag attributes).currentField = some name := by
  have notKey : tagName tag ≠ "key".toList := by
    intro same
    rw [same] at isField
    exact absurd isField (by decide)
  have unread : state.currentField = none := by
    cases current : state.currentField with
    | none => rfl
    | some reading => cases (leaf (by rw [current]; rfl)).1
  rw [XmlState.start]
  split
  · exact Or.inl unread
  · exact Or.inr named

theorem StateAgree.currentField {first second : XmlState} (agree : StateAgree first second) :
    first.currentField = second.currentField := by
  cases agree
  rfl

theorem step_reading {content : List XmlEvent} (only : content.all isContent = true)
    {state : XmlState} {name : Chars} (reading : state.currentField = some name) :
    content.foldl (XmlState.step path credentials library) state =
      { state with stack := insertTexts library name content state.stack } := by
  rw [step_content library path credentials state only, reading]

theorem secret_agree {first second : XmlState} (agree : StateAgree first second)
    {name : Chars} (isSecret : toAsciiLowercase name ∈ secretKeys)
    (current : first.currentField = none ∨ first.currentField = some name)
    {content other : List XmlEvent} (filled : Filled library content)
    (otherFilled : Filled library other) :
    StateAgree (content.foldl (XmlState.step path credentials library) first)
      (other.foldl (XmlState.step path credentials library) second) := by
  have otherCurrent := agree.currentField
  rcases current with unread | reading
  · rw [step_content library path credentials first filled.isContent,
      step_content library path credentials second otherFilled.isContent, ← otherCurrent, unread]
    exact agree
  · rw [step_reading path credentials filled.isContent reading,
      step_reading path credentials otherFilled.isContent (otherCurrent ▸ reading)]
    cases agree with
    | intro state aligned =>
      exact .intro state (insertTexts_agree isSecret filled otherFilled aligned)

theorem leaf_content (library : XmlLibrary) {inField : Bool} {state : XmlState} (leaf : Leaf inField state)
    {content : List XmlEvent} (only : content.all isContent = true) :
    Leaf inField (content.foldl (XmlState.step path credentials library) state) := by
  rw [step_content library path credentials state only]
  split
  · exact leaf
  · rename_i name _
    have same : SameField state
      { state with stack := insertTexts library name content state.stack } := ⟨rfl, rfl⟩
    exact same.leaf leaf

-- The run over an export, event by event and password by password.
theorem replaced_agree {events others : List XmlEvent}
    (replaced : SecretsReplaced library events others) {inField : Bool}
    (leafs : leafFields inField events = true) {first second : XmlState}
    (leaf : Leaf inField first) (agree : StateAgree first second) :
    StateAgree (events.foldl (XmlState.step path credentials library) first)
      (others.foldl (XmlState.step path credentials library) second) := by
  induction replaced generalizing inField first second with
  | nil => exact agree
  | same event more ih =>
    rw [leafFields] at leafs
    cases after : leafAfter inField event with
    | none =>
      rw [after] at leafs
      cases leafs
    | some next =>
      rw [after] at leafs
      exact ih leafs (step_leaf path credentials library after leaf)
        (agree.step path credentials library event)
  | secret tag attributes name isField named isSecret filled otherFilled more ih =>
    rcases leafFields_field isField filled.isContent leafs with ⟨rfl, rest⟩
    have current := start_secret leaf isField named
    have opened := agree.start tag attributes
    have inside := secret_agree path credentials opened isSecret current filled otherFilled
    have closed := inside.finish path credentials tag
    -- The field is closed again when the element is over.
    have leafStart : leafAfter false (.start tag attributes) = some true := congrArg some isField
    have leafFinish : leafAfter true (.finish tag) = some false := by
      rw [leafAfter, isField]
      rfl
    have leafInside := leaf_content path credentials library
      (step_leaf path credentials library leafStart leaf) filled.isContent
    have leafAgain := step_leaf path credentials library leafFinish leafInside
    rw [List.foldl_cons, List.foldl_append, List.foldl_cons, List.foldl_cons, List.foldl_append,
      List.foldl_cons]
    exact ih rest leafAgain closed

theorem parseExport_same {text other : Chars}
    (replaced : SecretsReplaced library (library.read text).events (library.read other).events)
    (failed : (library.read text).failed = (library.read other).failed)
    (leafs : leafFields false (library.read text).events = true) :
    parseExport path credentials library text = parseExport path credentials library other := by
  have agree := replaced_agree path credentials replaced leafs (leaf_none rfl)
    (StateAgree.intro {} .nil)
  delta parseExport
  dsimp only
  rw [failed]
  revert agree
  generalize (library.read text).events.foldl (XmlState.step path credentials library) {} = first
  generalize (library.read other).events.foldl (XmlState.step path credentials library) {} = second
  intro agree
  cases agree with
  | @intro state stack others aligned =>
    have unfinished : XmlState.unfinished { state with stack := stack } =
        XmlState.unfinished { state with stack := others } := by
      cases aligned with
      | nil => rfl
      | cons _ _ => rfl
    rw [unfinished]

end Exports

/-! ## Sources -/

/-- Files that differ in passwords. A file among the credentials is read as an INI file. -/
inductive SourceReplaced (library : XmlLibrary) :
    Chars × List UInt8 → Chars × List UInt8 → Prop where
  | same (source : Chars × List UInt8) : SourceReplaced library source source
  | ini (path : Chars)
      (isIni : isCredentialPath path = true ∨ classifySource path = some .sessionIni)
      {bytes others : List UInt8} {text other : Chars} (decoded : decodeText bytes = some text)
      (otherDecoded : decodeText others = some other)
      (replaced : List.Forall₂ LineReplaced (lines text) (lines other)) :
      SourceReplaced library (path, bytes) (path, others)
  | xml (path : Chars) (isXml : classifySource path = some .xml)
      (notCredential : isCredentialPath path = false)
      {bytes others : List UInt8} {text other : Chars} (decoded : decodeText bytes = some text)
      (otherDecoded : decodeText others = some other)
      (replaced : SecretsReplaced library (library.read text).events (library.read other).events)
      (failed : (library.read text).failed = (library.read other).failed)
      (leafs : leafFields false (library.read text).events = true) :
      SourceReplaced library (path, bytes) (path, others)

section Previews

variable {library : XmlLibrary}

def SameParsed (library : XmlLibrary) (first second : DecodedSource) : Prop :=
  ∀ credentials, parseSource library credentials first = parseSource library credentials second

structure ReaderAgree (library : XmlLibrary) (first second : SourceReader) : Prop where
  warnings : first.warnings = second.warnings
  credentials : first.credentials = second.credentials
  decodedSources : List.Forall₂ (SameParsed library) first.decodedSources second.decodedSources

theorem ReaderAgree.refl (reader : SourceReader) : ReaderAgree library reader reader :=
  ⟨rfl, rfl, List.forall₂_same.mpr fun _ _ _ => rfl⟩

theorem ReaderAgree.decoded {first second : SourceReader}
    (agree : ReaderAgree library first second) {one other : DecodedSource}
    (same : SameParsed library one other) :
    ReaderAgree library { first with decodedSources := first.decodedSources ++ [one] }
      { second with decodedSources := second.decodedSources ++ [other] } :=
  ⟨agree.warnings, agree.credentials, List.rel_append agree.decodedSources (.cons same .nil)⟩

theorem ReaderAgree.read {first second : SourceReader} (agree : ReaderAgree library first second)
    {source other : Chars × List UInt8} (replaced : SourceReplaced library source other) :
    ReaderAgree library (first.read source) (second.read other) := by
  cases replaced with
  | same =>
    rw [SourceReader.read, SourceReader.read]
    split
    · exact agree
    · split
      · exact ⟨by rw [agree.warnings], agree.credentials, agree.decodedSources⟩
      · split
        · exact ⟨agree.warnings, by rw [agree.credentials], agree.decodedSources⟩
        · exact agree.decoded fun _ => rfl
  | ini path isIni decoded otherDecoded lines =>
    rw [SourceReader.read, SourceReader.read]
    dsimp only
    rw [decoded, otherDecoded]
    dsimp only
    split
    · exact agree
    · rename_i kind isKind
      split
      · rw [credentialMetadata_same lines]
        exact ⟨agree.warnings, by rw [agree.credentials], agree.decodedSources⟩
      · rename_i notCredential
        rcases isIni with isCredential | isSession
        · exact absurd isCredential notCredential
        · rw [isKind, Option.some.injEq] at isSession
          subst isSession
          apply agree.decoded
          intro credentials
          rw [parseSource, parseSource, parseSession_same path lines]
  | xml path isXml notCredential decoded otherDecoded replaced failed leafs =>
    rw [SourceReader.read, SourceReader.read]
    dsimp only
    rw [isXml, decoded, otherDecoded, notCredential]
    apply agree.decoded
    intro credentials
    exact parseExport_same path credentials replaced failed leafs

theorem sources_agree {sources others : List (Chars × List UInt8)}
    (replaced : List.Forall₂ (SourceReplaced library) sources others)
    {first second : SourceReader} (agree : ReaderAgree library first second) :
    ReaderAgree library (sources.foldl SourceReader.read first)
      (others.foldl SourceReader.read second) := by
  induction replaced generalizing first second with
  | nil => exact agree
  | cons here _ ih => exact ih (agree.read here)

theorem addSources_same {sources others : List DecodedSource}
    (same : List.Forall₂ (SameParsed library) sources others)
    (credentials : List (Chars × CredentialMetadata)) (writer : ResultWriter) :
    sources.foldl (ResultWriter.addSource library credentials) writer =
      others.foldl (ResultWriter.addSource library credentials) writer := by
  induction same generalizing writer with
  | nil => rfl
  | @cons source other _ _ here _ ih =>
    have added : writer.addSource library credentials source =
        writer.addSource library credentials other := by
      rw [ResultWriter.addSource, ResultWriter.addSource, here credentials]
    rw [List.foldl_cons, List.foldl_cons, added, ih]

end Previews

/-! ## Encodings -/

/-- How a text may be written in a file. -/
inductive Encoding where
  | utf8
  | utf8Mark
  | utf16 (lowFirst : Bool)

def Encoding.bytes : Encoding → Chars → List UInt8
  | .utf8, text => toUtf8 text
  | .utf8Mark, text => 0xef :: 0xbb :: 0xbf :: toUtf8 text
  | .utf16 true, text => 0xff :: 0xfe :: utf16Bytes true text
  | .utf16 false, text => 0xfe :: 0xff :: utf16Bytes false text

/-- Whether a text is read back: without a byte order mark it has no zero character. -/
def Encoding.Holds : Encoding → Chars → Prop
  | .utf8, text => '\x00' ∉ text ∧ text.head? ≠ some '\ufeff'
  | _, _ => True

theorem decodeUtf16Units_bytes (lowFirst : Bool) (text : Chars) :
    decodeUtf16Units (utf16Bytes lowFirst text) lowFirst = some text := by
  have even : (utf16Bytes lowFirst text).length % 2 = 0 := by
    rw [utf16Bytes, unitBytes_length]
    omega
  rw [decodeUtf16Units, if_pos even, utf16Units_utf16Bytes, decodeUtf16_encode]

theorem toUtf8_first {text : Chars} {first : UInt8} {rest : List UInt8}
    (start : toUtf8 text = first :: rest) : first.toNat < 0xf8 := by
  have member : first ∈ toUtf8 text := by
    rw [start]
    exact List.mem_cons_self
  exact (toUtf8_byte first member).1

theorem decodeText_bytes {encoding : Encoding} {text : Chars} (holds : encoding.Holds text) :
    decodeText (encoding.bytes text) = some text := by
  cases encoding with
  | utf8 =>
    have noZero : (toUtf8 text).contains 0 = false := by
      cases found : (toUtf8 text).contains 0 with
      | false => rfl
      | true =>
        have member := List.contains_iff_mem.mp found
        exact absurd ((toUtf8_byte 0 member).2 rfl) holds.1
    rw [Encoding.bytes, decodeText.eq_def]
    -- No text starts with a mark of UTF-16, and this one not with that of UTF-8.
    split
    · rename_i start
      exact absurd (toUtf8_first start) (by decide)
    · rename_i start
      exact absurd (toUtf8_first start) (by decide)
    · rename_i start
      exact absurd (toUtf8_mark start) holds.2
    · rw [noZero]
      exact fromUtf8_toUtf8 text
  | utf8Mark => exact fromUtf8_toUtf8 text
  | utf16 lowFirst =>
    cases lowFirst with
    | true => exact decodeUtf16Units_bytes true text
    | false => exact decodeUtf16Units_bytes false text

/-! ## Previews -/

/-- Sources that differ in passwords only have the same preview; and the file of a text
with another password is read as that text in each encoding with a byte order mark, and in
UTF-8 without one if no character is zero. -/
theorem secrets_without_influence (library : XmlLibrary)
    {sources others : List (Chars × List UInt8)}
    (replaced : List.Forall₂ (SourceReplaced library) sources others) (includePasswords : Bool) :
    previewRecordsFromSources library sources includePasswords =
        previewRecordsFromSources library others includePasswords ∧
      ∀ (encoding : Encoding) (text : Chars), encoding.Holds text →
        decodeText (encoding.bytes text) = some text := by
  have agree := sources_agree replaced (ReaderAgree.refl {})
  constructor
  · delta previewRecordsFromSources
    dsimp only
    rw [agree.warnings, agree.credentials, addSources_same agree.decodedSources]
  · exact fun _ _ holds => decodeText_bytes holds

/-! ## Passwords that are seen -/

def tableLibrary (table : List (Chars × List XmlEvent)) : XmlLibrary where
  read text :=
    match table.lookup text with
    | some events => ⟨events, false⟩
    | none => ⟨[], true⟩
  unescape text := some text

theorem tableLibrary_first (text : Chars) (events : List XmlEvent)
    (rest : List (Chars × List XmlEvent)) :
    (tableLibrary ((text, events) :: rest)).read text = ⟨events, false⟩ := by
  rw [tableLibrary]
  dsimp only
  rw [lookup_same]

theorem tableLibrary_second {first second : Chars} (differ : second ≠ first)
    (passed events : List XmlEvent) :
    (tableLibrary [(first, passed), (second, events)]).read second = ⟨events, false⟩ := by
  rw [tableLibrary]
  dsimp only
  rw [lookup_other differ, lookup_same]

def namedBy (name : String) : List (Chars × Option Chars) := [("name".toList, some name.toList)]

def fieldEvents (name : String) (content : List XmlEvent) : List XmlEvent :=
  .start "string".toList (namedBy name) :: (content ++ [.finish "string".toList])

def keyEvents (name : String) (content : List XmlEvent) : List XmlEvent :=
  .start "key".toList (namedBy name) :: (content ++ [.finish "key".toList])

def fieldText (name : String) (content : Chars) : Chars :=
  "<string name=\"".toList ++ name.toList ++ "\">".toList ++ content ++ "</string>".toList

def keyText (name : String) (content : Chars) : Chars :=
  "<key name=\"".toList ++ name.toList ++ "\">".toList ++ content ++ "</key>".toList

theorem fieldText_clean {name : String} (named : '\x00' ∉ name.toList) {content : Chars}
    (clean : '\x00' ∉ content) : '\x00' ∉ fieldText name content := by
  have opening : '\x00' ∉ "<string name=\"".toList := not_mem_literal rfl rfl
  have middle : '\x00' ∉ "\">".toList := not_mem_literal rfl rfl
  have closing : '\x00' ∉ "</string>".toList := not_mem_literal rfl rfl
  unfold fieldText
  exact List.not_mem_append (List.not_mem_append (List.not_mem_append
    (List.not_mem_append opening named) middle) clean) closing

theorem keyText_clean {name : String} (named : '\x00' ∉ name.toList) {content : Chars}
    (clean : '\x00' ∉ content) : '\x00' ∉ keyText name content := by
  have opening : '\x00' ∉ "<key name=\"".toList := not_mem_literal rfl rfl
  have middle : '\x00' ∉ "\">".toList := not_mem_literal rfl rfl
  have closing : '\x00' ∉ "</key>".toList := not_mem_literal rfl rfl
  unfold keyText
  exact List.not_mem_append (List.not_mem_append (List.not_mem_append
    (List.not_mem_append opening named) middle) clean) closing

theorem head_append {front back : Chars} {first : Char} (start : front.head? = some first) :
    (front ++ back).head? = some first := by
  cases front with
  | nil => cases start
  | cons => exact start

theorem keyText_holds {name : String} (named : '\x00' ∉ name.toList) {content : Chars}
    (clean : '\x00' ∉ content) : Encoding.utf8.Holds (keyText name content) := by
  have opening : "<key name=\"".toList.head? = some '<' := rfl
  have first : (keyText name content).head? = some '<' := by
    unfold keyText
    exact head_append (head_append (head_append (head_append opening)))
  constructor
  · exact keyText_clean named clean
  · rw [first]
    decide

def sessionIni (password : Chars) : Chars :=
  "S:\"Hostname\"=h\nS:\"Protocol Name\"=SSH2\nS:\"Password V2\"=".toList ++ password

def sessionText (password : Chars) : Chars :=
  keyText "Sessions" (keyText "web" (fieldText "Hostname" ['h'] ++
    fieldText "Protocol Name" "SSH2".toList ++ fieldText "Password" password))

def sessionEvents (password : Chars) : List XmlEvent :=
  keyEvents "Sessions" (keyEvents "web" (fieldEvents "Hostname" [.text ['h']] ++
    fieldEvents "Protocol Name" [.text "SSH2".toList] ++ fieldEvents "Password" [.text password]))

def sessionLibrary : XmlLibrary :=
  tableLibrary [(sessionText ['x'], sessionEvents ['x']), (sessionText ['y'], sessionEvents ['y'])]

def sessionSources (password other : Chars) : List (Chars × List UInt8) :=
  [("Sessions/a.ini".toList, toUtf8 (sessionIni password)),
    ("b.xml".toList, toUtf8 (sessionText other))]

theorem sessionIni_replaced : List.Forall₂ LineReplaced (lines (sessionIni "ab".toList))
    (lines (sessionIni "cd".toList)) := by
  have front : lines (sessionIni "ab".toList) = ["S:\"Hostname\"=h".toList,
      "S:\"Protocol Name\"=SSH2".toList, "S:\"Password V2\"".toList ++ '=' :: "ab".toList] := by
    rfl
  have back : lines (sessionIni "cd".toList) = ["S:\"Hostname\"=h".toList,
      "S:\"Protocol Name\"=SSH2".toList, "S:\"Password V2\"".toList ++ '=' :: "cd".toList] := by
    rfl
  have filled (value : Chars) (here : trim (decodeValue value) ≠ []) : ¬Blank (decodeValue value) :=
    fun blank => here (trim_eq_nil_iff.mpr blank)
  rw [front, back]
  exact .cons (.same _) (.cons (.same _) (.cons (.secret _ _ _ "password v2".toList
    (by decide +kernel) (by decide +kernel) (by decide +kernel) (filled _ (by decide +kernel))
    (filled _ (by decide +kernel))) .nil))

theorem session_read : sessionLibrary.read (sessionText ['x']) = ⟨sessionEvents ['x'], false⟩ ∧
    sessionLibrary.read (sessionText ['y']) = ⟨sessionEvents ['y'], false⟩ := by
  have differ : sessionText ['y'] ≠ sessionText ['x'] := by decide +kernel
  exact ⟨tableLibrary_first _ _ _, tableLibrary_second differ _ _⟩

theorem sessionEvents_replaced (library : XmlLibrary)
    (plain : ∀ text, library.unescape text = some text) :
    SecretsReplaced library (sessionEvents ['x']) (sessionEvents ['y']) := by
  have filled (char : Char) (visible : trim (trim [char]) ≠ []) :
      Filled library [.text [char]] := by
    refine ⟨rfl, trim [char], ?_, fun blank => visible (trim_eq_nil_iff.mpr blank)⟩
    rw [lastText, List.reverse_singleton, List.findSome?_singleton, storedText, XmlLibrary.textOf,
      plain, Option.getD_some]
  have closed : SecretsReplaced library
      [.finish "key".toList, .finish "key".toList] [.finish "key".toList, .finish "key".toList] :=
    .same _ (.same _ .nil)
  have password : SecretsReplaced library
      (fieldEvents "Password" [.text ['x']] ++ [.finish "key".toList, .finish "key".toList])
      (fieldEvents "Password" [.text ['y']] ++ [.finish "key".toList, .finish "key".toList]) :=
    .secret _ _ "Password".toList (by decide +kernel) (by decide +kernel) (by decide +kernel)
      (filled 'x' (by decide +kernel)) (filled 'y' (by decide +kernel)) closed
  -- Two keys and two fields stand before the password.
  exact .same _ (.same _ (.same _ (.same _ (.same _ (.same _ (.same _ (.same _ password)))))))

/-- A session with another password, in an INI file and in an export. -/
theorem secrets_without_influence_session :
    previewRecordsFromSources sessionLibrary (sessionSources "ab".toList ['x']) true =
      previewRecordsFromSources sessionLibrary (sessionSources "cd".toList ['y']) true := by
  have isIni : classifySource "Sessions/a.ini".toList = some .sessionIni := rfl
  have isXml : classifySource "b.xml".toList = some .xml := rfl
  have other : isCredentialPath "b.xml".toList = false := rfl
  have decoded {text : Chars} (holds : Encoding.utf8.Holds text) := decodeText_bytes holds
  have events := sessionEvents_replaced sessionLibrary fun _ => rfl
  rcases session_read with ⟨first, second⟩
  have here : SourceReplaced sessionLibrary
      ("Sessions/a.ini".toList, Encoding.utf8.bytes (sessionIni "ab".toList))
      ("Sessions/a.ini".toList, Encoding.utf8.bytes (sessionIni "cd".toList)) := 
    .ini _ (Or.inr isIni) (decoded ⟨by decide +kernel, by decide +kernel⟩)
      (decoded ⟨by decide +kernel, by decide +kernel⟩) sessionIni_replaced
  have there : SourceReplaced sessionLibrary
      ("b.xml".toList, Encoding.utf8.bytes (sessionText ['x']))
      ("b.xml".toList, Encoding.utf8.bytes (sessionText ['y'])) := by
    apply SourceReplaced.xml _ isXml other (decoded ⟨by decide +kernel, by decide +kernel⟩)
      (decoded ⟨by decide +kernel, by decide +kernel⟩)
    · rw [first, second]
      exact events
    · rw [first, second]
    · rw [first]
      rfl
  exact (secrets_without_influence sessionLibrary (.cons here (.cons there .nil)) true).1

/-! ### Where passwords are seen -/

def deepText (password : Chars) : Chars :=
  keyText "Sessions" ((List.range 63).foldl (fun inner _ => keyText "web" inner)
    (fieldText "Hostname" (keyText "deep" (fieldText "Password" password)) ++
      fieldText "Protocol Name" "SSH2".toList))

def deepEvents (password : Chars) : List XmlEvent :=
  keyEvents "Sessions" ((List.range 63).foldl (fun inner _ => keyEvents "web" inner)
    (fieldEvents "Hostname" (keyEvents "deep" (fieldEvents "Password" [.text password])) ++
      fieldEvents "Protocol Name" [.text "SSH2".toList]))

def deepLibrary : XmlLibrary :=
  tableLibrary [(deepText ['x'], deepEvents ['x']), (deepText ['y'], deepEvents ['y'])]

def deepSources (password : Chars) : List (Chars × List UInt8) :=
  [("deep.xml".toList, toUtf8 (deepText password))]

def credentialText (password : Chars) : Chars :=
  keyText "web" ("<string name=\"Password\">\n".toList ++ password ++ "\n</string>".toList)

def credentialSources (password : Chars) : List (Chars × List UInt8) :=
  [("Credentials/c.xml".toList, toUtf8 (credentialText password)),
    ("Sessions/a.ini".toList, toUtf8
      "S:\"Hostname\"=h\nS:\"Protocol Name\"=SSH2\nS:\"Credential Title\"=c.xml".toList)]

def logins (result : PreviewResult) : List (Option (Chars × Chars)) :=
  result.records.map fun record => record.ssh.map fun ssh => (ssh.host, ssh.username)

theorem previews_differ {first second : PreviewResult} (differ : logins first ≠ logins second) :
    first ≠ second := by
  rintro rfl
  exact differ rfl

/-- A text is written between two others, whatever it is. -/
def Framed (write : Chars → Chars) : Prop :=
  ∃ front back, ∀ content, write content = front ++ content ++ back

theorem Framed.comp {outer inner : Chars → Chars} (outside : Framed outer) (inside : Framed inner) :
    Framed fun content => outer (inner content) := by
  obtain ⟨front, back, whole⟩ := outside
  obtain ⟨start, ending, part⟩ := inside
  refine ⟨front ++ start, ending ++ back, fun content => ?_⟩
  beta_reduce
  rw [whole, part, List.append_assoc, List.append_assoc, List.append_assoc, List.append_assoc,
    List.append_assoc]

theorem Framed.inj {write : Chars → Chars} (framed : Framed write) {content other : Chars}
    (same : write content = write other) : content = other := by
  obtain ⟨front, back, whole⟩ := framed
  rw [whole, whole] at same
  exact List.append_cancel_left (List.append_cancel_right same)

theorem keyText_framed (name : String) : Framed (keyText name) := ⟨_, _, fun _ => rfl⟩

theorem fieldText_framed (name : String) : Framed (fieldText name) := ⟨_, _, fun _ => rfl⟩

theorem levels_framed (levels : List Nat) :
    Framed (levels.foldl fun inner _ => keyText "web" inner) := by
  induction levels with
  | nil => exact ⟨[], [], fun _ => (List.append_nil _).symm⟩
  | cons level rest ih => exact ih.comp (keyText_framed "web")

theorem deepText_framed : Framed deepText := by
  have followed (rest : Chars) : Framed (· ++ rest) := ⟨[], rest, fun _ => rfl⟩
  exact (keyText_framed "Sessions").comp ((levels_framed (List.range 63)).comp
    ((followed _).comp ((fieldText_framed "Hostname").comp
      ((keyText_framed "deep").comp (fieldText_framed "Password")))))

theorem deepText_holds {password : Chars} (clean : '\x00' ∉ password) :
    Encoding.utf8.Holds (deepText password) := by
  have levels {inner : Chars} (within : '\x00' ∉ inner) (count : List Nat) :
      '\x00' ∉ count.foldl (fun inner _ => keyText "web" inner) inner := by
    induction count generalizing inner with
    | nil => exact within
    | cons level rest ih => exact ih (keyText_clean (not_mem_literal rfl rfl) within)
  have host : '\x00' ∉ fieldText "Hostname" (keyText "deep" (fieldText "Password" password)) :=
    fieldText_clean (not_mem_literal rfl rfl) (keyText_clean (not_mem_literal rfl rfl)
      (fieldText_clean (not_mem_literal rfl rfl) clean))
  have protocol : '\x00' ∉ fieldText "Protocol Name" "SSH2".toList :=
    fieldText_clean (not_mem_literal rfl rfl) (not_mem_literal rfl rfl)
  exact keyText_holds (not_mem_literal rfl rfl) (levels (List.not_mem_append host protocol) _)

theorem deep_read : deepLibrary.read (deepText ['x']) = ⟨deepEvents ['x'], false⟩ ∧
    deepLibrary.read (deepText ['y']) = ⟨deepEvents ['y'], false⟩ := by
  have differ : deepText ['y'] ≠ deepText ['x'] := by
    intro same
    exact absurd (deepText_framed.inj same) (by decide)
  unfold deepLibrary
  exact ⟨tableLibrary_first _ _ _, tableLibrary_second differ _ _⟩

def parsedEvents (library : XmlLibrary) (path : Chars) (events : List XmlEvent) :
    List ImportRecord × List ImportWarning :=
  let state := events.foldl (XmlState.step path [] library) {}
  (if state.unfinished then [] else state.records,
    state.warnings ++ (if state.unfinished then [xmlParseFailed path] else []) ++
      state.depthWarning.toList)

theorem parseSource_export {library : XmlLibrary} {path text : Chars} {events : List XmlEvent}
    (read : library.read text = ⟨events, false⟩) :
    parseSource library [] ⟨path, text, .xml⟩ = parsedEvents library path events := by
  rw [parseSource]
  dsimp only
  rw [parseExport, read]
  dsimp only
  rw [Bool.false_or, parsedEvents]

theorem read_export {path text : Chars} (isXml : classifySource path = some .xml)
    (other : isCredentialPath path = false) (holds : Encoding.utf8.Holds text) :
    [(path, toUtf8 text)].foldl SourceReader.read {} =
      { decodedSources := [⟨path, text, .xml⟩] } := by
  have decoded := decodeText_bytes holds
  rw [Encoding.bytes] at decoded
  rw [List.foldl_cons, List.foldl_nil, SourceReader.read]
  dsimp only
  rw [isXml, decoded, other]
  rfl

theorem read_deep {password : Chars} (holds : Encoding.utf8.Holds (deepText password)) :
    (deepSources password).foldl SourceReader.read {} =
      { decodedSources := [⟨"deep.xml".toList, deepText password, .xml⟩] } := by
  unfold deepSources
  exact read_export rfl rfl holds

/-- A password with a zero character makes a file without a byte order mark one of UTF-16;
a password below the deepest key, inside of another field, becomes the value of that
field; and an export among the credentials is read as an INI file. -/
theorem secrets_seen :
    (decodeValue "ab".toList = "ab".toList ∧ decodeValue "a\x00".toList = "a\x00".toList ∧
      previewRecordsFromSources sessionLibrary
          [("Sessions/a.ini".toList, toUtf8 (sessionIni "ab".toList))] true ≠
        previewRecordsFromSources sessionLibrary
          [("Sessions/a.ini".toList, toUtf8 (sessionIni "a\x00".toList))] true) ∧
    previewRecordsFromSources deepLibrary (deepSources ['x']) true ≠
      previewRecordsFromSources deepLibrary (deepSources ['y']) true ∧
    previewRecordsFromSources sessionLibrary (credentialSources ['v']) true ≠
      previewRecordsFromSources sessionLibrary
        (credentialSources "S:\"Username\"=bob".toList) true := by
  refine ⟨⟨rfl, rfl, ?_⟩, ?_, ?_⟩
  · exact previews_differ (by decide +kernel)
  · have first : Encoding.utf8.Holds (deepText ['x']) := deepText_holds (by decide)
    have second : Encoding.utf8.Holds (deepText ['y']) := deepText_holds (by decide)
    apply previews_differ
    rw [previewRecordsFromSources, previewRecordsFromSources, read_deep first, read_deep second]
    dsimp only
    rw [List.foldl_cons, List.foldl_nil, List.foldl_cons, List.foldl_nil, ResultWriter.addSource,
      ResultWriter.addSource, parseSource_export deep_read.1, parseSource_export deep_read.2]
    decide +kernel
  · exact previews_differ (by decide +kernel)

end Onetcli.Importers.SecureCrt
