import Mathlib
import Onetcli.Importers.SecureCrt.Xml

/-!
Previews of SecureCRT sources, securecrt.rs: first the credentials of all sources are read,
then the sessions, folders, exports and buttons; a record whose id came before is skipped
with a warning.
-/

namespace Onetcli.Importers.SecureCrt

open Chars

/-! ## Paths -/

def isCredentialPath (path : Chars) : Bool :=
  ((replaceChar '\\' '/' path).splitOn '/').reverse.tail.any fun part =>
    eqIgnoreAsciiCase part "Credentials".toList

/-- `trim_end_matches` of a text, which may come several times. -/
def trimEndText (ending : Chars) : Nat → Chars → Chars
  | 0, text => text
  | times + 1, text =>
    match stripSuffix ending text with
    | some front => trimEndText ending times front
    | none => text

def credentialKey (path : Chars) : Chars :=
  let name := lastPart isSlash path
  let lower := trimEndText ".ini".toList name.length name
  toAsciiLowercase (trimEndText ".INI".toList lower.length lower)

/-! ## Folders -/

def pathsUpTo (current : Chars) : List Chars → List Chars
  | [] => []
  | part :: rest =>
    let next := if current.isEmpty then part else current ++ '/' :: part
    next :: pathsUpTo next rest

def workspacePathAncestors (path : Chars) : List Chars :=
  match normalizeWorkspacePath path with
  | none => []
  | some path => pathsUpTo [] (path.splitOn '/')

structure FolderReader where
  records : List ImportRecord := []
  seen : List Chars := []

def FolderReader.add (path : Chars) (reader : FolderReader) (workspacePath : Chars) :
    FolderReader :=
  if workspacePath ∈ reader.seen then reader
  else
    ⟨reader.records ++
        [workspaceRecord (replaceChar '\\' '/' path ++ '#' :: workspacePath) workspacePath],
      workspacePath :: reader.seen⟩

def folderWorkspacePath (path folder : Chars) : Option Chars :=
  match sessionFileGroupPath path with
  | some parent => normalizeWorkspacePath (parent ++ '/' :: folder)
  | none => normalizeWorkspacePath folder

def folderDataRecords (path text : Chars) : List ImportRecord :=
  (((parseFolderNames text).filterMap (folderWorkspacePath path)).flatMap
    workspacePathAncestors).foldl (FolderReader.add path) {} |>.records

/-! ## Previews -/

structure DecodedSource where
  path : Chars
  text : Chars
  kind : SourceKind

/-- What the first pass over the sources has read. -/
structure SourceReader where
  warnings : List ImportWarning := []
  credentials : List (Chars × CredentialMetadata) := []
  decodedSources : List DecodedSource := []

def credentialMetadata (text : Chars) : CredentialMetadata :=
  let fields := parseFields text
  ⟨field fields "Username".toList,
    (field fields "Password V2".toList).isSome || (field fields "Password".toList).isSome⟩

def decodeFailed (path : Chars) : ImportWarning :=
  warning "securecrt_source_decode_failed"
    ("SecureCRT source could not be decoded: ".toList ++ path)

def SourceReader.read (reader : SourceReader) (source : Chars × List UInt8) : SourceReader :=
  match classifySource source.1 with
  | none => reader
  | some kind =>
    match decodeText source.2 with
    | none => { reader with warnings := reader.warnings ++ [decodeFailed source.1] }
    | some text =>
      if isCredentialPath source.1 then
        { reader with credentials :=
            (credentialKey source.1, credentialMetadata text) :: reader.credentials }
      else
        { reader with decodedSources := reader.decodedSources ++ [⟨source.1, text, kind⟩] }

variable (library : XmlLibrary)

def parseSource (credentials : List (Chars × CredentialMetadata)) (source : DecodedSource) :
    List ImportRecord × List ImportWarning :=
  match source.kind with
  | .sessionIni =>
    let parsed := parseSession source.path source.text credentials
    (parsed.1.toList, parsed.2)
  | .folderData => (folderDataRecords source.path source.text, [])
  | .xml => parseExport source.path credentials library source.text
  | .buttonBar => parseButtonBar source.path source.text

structure ResultWriter where
  result : PreviewResult := {}
  seen : List Chars := []

def duplicateRecord (record : ImportRecord) : ImportWarning :=
  warning "securecrt_duplicate_record_id"
    ("A duplicate SecureCRT import record was skipped: ".toList ++
      record.sourceId.getD record.id)

def ResultWriter.add (writer : ResultWriter) (record : ImportRecord) : ResultWriter :=
  if record.id ∈ writer.seen then
    { writer with result := { writer.result with
        warnings := writer.result.warnings ++ [duplicateRecord record] } }
  else
    ⟨{ writer.result with records := writer.result.records ++ [record] },
      record.id :: writer.seen⟩

def ResultWriter.addSource (credentials : List (Chars × CredentialMetadata))
    (writer : ResultWriter) (source : DecodedSource) : ResultWriter :=
  let parsed := parseSource library credentials source
  parsed.1.foldl ResultWriter.add
    { writer with result := { writer.result with
        warnings := writer.result.warnings ++ parsed.2 } }

def previewRecordsFromSources (sources : List (Chars × List UInt8))
    (_includePasswords : Bool) : PreviewResult :=
  let reader := sources.foldl SourceReader.read {}
  (reader.decodedSources.foldl (ResultWriter.addSource library reader.credentials)
    { result := { warnings := reader.warnings } }).result

end Onetcli.Importers.SecureCrt
