import Onetcli.Importers.Records

/-!
What the importer of SecureCRT makes records of: model.rs, text.rs and source.rs. A
session is a list of fields; its password is never read, only whether it is there.
-/

namespace Onetcli.Importers.SecureCrt

open Chars

structure QuickCommandImportRecord where
  name : Chars
  command : Chars
  groupName : Option Chars
  description : Option Chars
  sortOrder : Nat
  deriving DecidableEq

structure ImportRecord where
  id : Chars
  importerId : Chars
  sourceLabel : Chars
  sourceId : Option Chars
  kind : Chars
  displayName : Chars
  ssh : Option SshImportRecord := none
  quickCommand : Option QuickCommandImportRecord := none
  workspace : Option Chars := none
  passwordStatus : Chars
  warnings : List ImportWarning := []
  deriving DecidableEq

structure PreviewResult where
  records : List ImportRecord := []
  warnings : List ImportWarning := []
  deriving DecidableEq

structure CredentialMetadata where
  username : Option Chars
  encryptedPassword : Bool
  deriving DecidableEq

/-- The fields of a session by their keys in lower case, the last one first. -/
abbrev Fields : Type := List (Chars × Chars)

def warning (code : String) (message : Chars) : ImportWarning := ⟨code.toList, message⟩

/-! ## Fields -/

def field (fields : Fields) (key : Chars) : Option Chars :=
  nonEmpty (fields.lookup (toAsciiLowercase key))

def hasValue (fields : Fields) (key : Chars) : Bool := (field fields key).isSome

/-- The user of a credential with the title of the session, where the session has none,
and a mark that the credential has a password. -/
def enrichFromCredential (fields : Fields) (credentials : List (Chars × CredentialMetadata)) :
    Fields :=
  match field fields "Credential Title".toList with
  | none => fields
  | some title =>
    match credentials.lookup (toAsciiLowercase title) with
    | none => fields
    | some credential =>
      let named :=
        match field fields "Username".toList, credential.username with
        | none, some username =>
          if username.isEmpty then fields else ("username".toList, username) :: fields
        | _, _ => fields
      if credential.encryptedPassword then
        ("credential encrypted password".toList, "present".toList) :: named
      else named

/-! ## Ids -/

/-- FNV-1a over the bytes of a text. -/
def stableHash (value : Chars) : Nat :=
  (toUtf8 value).foldl
    (fun hash byte => (hash ^^^ byte.toNat) * 0x100000001b3 % 2 ^ 64) 0xcbf29ce484222325

def hexDigits (value : Nat) : Chars :=
  let digits := Nat.toDigits 16 value
  List.replicate (16 - digits.length) '0' ++ digits

def recordId (kind : String) (sourceId : Chars) : Chars :=
  "securecrt:".toList ++ slug "record".toList sourceId ++
    ':' :: hexDigits (stableHash (kind.toList ++ '\x00' :: sourceId))

/-! ## Records -/

def isSshProtocol (protocol : Chars) : Bool :=
  ["ssh1".toList, "ssh2".toList, "ssh".toList].contains (toAsciiLowercase (trim protocol))

def encryptedPasswordWarning : ImportWarning :=
  warning "securecrt_encrypted_password_not_imported"
    ("SecureCRT encrypted password was not imported because this importer does not decrypt " ++
      "configuration passwords.").toList

def sshRecord (sourceId : Chars) (groupPath : Option Chars) (name : Chars) (fields : Fields)
    (port : Option Nat) : Option ImportRecord × List ImportWarning :=
  let protocol := (field fields "Protocol Name".toList).getD []
  if !isSshProtocol protocol then (none, [])
  else
    match field fields "Hostname".toList with
    | none =>
      (none, [warning "securecrt_ssh_hostname_missing"
        ("A SecureCRT SSH session without a hostname was skipped: ".toList ++ sourceId)])
    | some host =>
      let username := (field fields "Username".toList).getD []
      let encryptedPassword := hasValue fields "Password V2".toList ||
        hasValue fields "Password".toList ||
        hasValue fields "Credential Encrypted Password".toList
      let identity := (field fields "Identity Filename V2".toList).or
        (field fields "Identity File".toList)
      let authMethod : SshImportAuthMethod :=
        match identity, encryptedPassword with
        | some keyPath, _ => .privateKey keyPath none
        | none, true => .password none
        | none, false => .autoPublicKey
      (some
        { id := recordId "ssh" sourceId
          importerId := "securecrt".toList
          sourceLabel := "SecureCRT".toList
          sourceId := some sourceId
          kind := "ssh".toList
          displayName := name
          ssh := some
            { name := name
              host := host
              port := port
              username := username
              groupPath := groupPath
              authMethod := authMethod }
          passwordStatus :=
            if encryptedPassword then "unsupported".toList else "missing".toList
          warnings := if encryptedPassword then [encryptedPasswordWarning] else [] }, [])

def quickCommandRecord (sourceId groupName name command : Chars) (sortOrder : Nat) :
    ImportRecord where
  id := recordId "quick_command" sourceId
  importerId := "securecrt".toList
  sourceLabel := "SecureCRT".toList
  sourceId := some sourceId
  kind := "quick_command".toList
  displayName := name
  quickCommand := some
    { name := name
      command := command
      groupName := some groupName
      description := some "Imported from SecureCRT quick commands".toList
      sortOrder := sortOrder }
  passwordStatus := "missing".toList

def workspaceRecord (sourceId path : Chars) : ImportRecord where
  id := recordId "workspace" path
  importerId := "securecrt".toList
  sourceLabel := "SecureCRT".toList
  sourceId := some sourceId
  kind := "workspace".toList
  displayName :=
    let last := lastPart (· == '/') path
    if last.isEmpty then path else last
  workspace := some path
  passwordStatus := "missing".toList

/-! ## Files -/

/-- A byte order mark tells the encoding; without one, a zero byte makes it UTF-16 if that
can be read. -/
def decodeText (bytes : List UInt8) : Option Chars :=
  match bytes with
  | 0xff :: 0xfe :: rest => decodeUtf16Units rest true
  | 0xfe :: 0xff :: rest => decodeUtf16Units rest false
  | 0xef :: 0xbb :: 0xbf :: rest => fromUtf8 rest
  | _ =>
    if bytes.contains 0 then (decodeUtf16Units bytes true).or (fromUtf8 bytes)
    else fromUtf8 bytes

inductive SourceKind where
  | sessionIni
  | folderData
  | xml
  | buttonBar
  deriving DecidableEq

def isSlash (char : Char) : Bool := char == '/' || char == '\\'

def splitPath (path : Chars) : List Chars := path.splitOnP isSlash

def isTemplate (name : Chars) : Bool :=
  ["default.ini".toList, "default_rdp.ini".toList, "default_serial.ini".toList,
    "default_localshell.ini".toList].contains name

def endsWith (text ending : Chars) : Bool := ending.isSuffixOf text

def isCommandManagerList (path lowerName : Chars) : Bool :=
  lowerName == "__commands__.ini".toList &&
    (splitPath path).reverse.tail.any fun part => eqIgnoreAsciiCase part "Commands".toList

def classifySource (path : Chars) : Option SourceKind :=
  let lowerName := toAsciiLowercase (lastPart isSlash path)
  if endsWith lowerName ".xml".toList then some .xml
  else if ["__folderdata__.ini".toList, "__folderdata.ini".toList].contains lowerName then
    some .folderData
  else if !endsWith lowerName ".ini".toList || isTemplate lowerName then none
  else if "buttonbar".toList.isPrefixOf lowerName || isCommandManagerList path lowerName then
    some .buttonBar
  else some .sessionIni

def normalizeWorkspacePath (path : Chars) : Option Chars :=
  let parts := ((splitPath path).map trim).filter fun part => !part.isEmpty
  if parts.isEmpty || parts.any fun part => part == ['.'] || part == ['.', '.'] then none
  else some (['/'].intercalate parts)

def sessionRelativePath (path : Chars) (excludeLeaf : Bool) : Option Chars :=
  let components := ((splitPath path).map trim).filter fun part => !part.isEmpty
  match components.findIdx? fun part => eqIgnoreAsciiCase part "Sessions".toList with
  | none => none
  | some sessionsIndex =>
    let stop := components.length - (if excludeLeaf then 1 else 0)
    if stop ≤ sessionsIndex + 1 then none
    else
      normalizeWorkspacePath
        (['/'].intercalate ((components.take stop).drop (sessionsIndex + 1)))

def sessionFileGroupPath (path : Chars) : Option Chars := sessionRelativePath path true

/-- The folders of a list of commands below the last `Commands`. -/
def commandManagerFolder (path : Chars) : Option Chars :=
  let parts := (splitPath path).filter fun part => !part.isEmpty
  if !(parts.getLast?.any fun name => eqIgnoreAsciiCase name "__Commands__.ini".toList) then none
  else
    match parts.reverse.findIdx? fun part => eqIgnoreAsciiCase part "Commands".toList with
    | none => none
    | some fromEnd =>
      let folders := (parts.take (parts.length - 1)).drop (parts.length - fromEnd)
      if folders.isEmpty then none else some (['/'].intercalate folders)

def quickCommandGroupName (path declaredGroup : Chars) : Chars :=
  match commandManagerFolder path with
  | none => declaredGroup
  | some folder =>
    if eqIgnoreAsciiCase declaredGroup "default".toList then folder
    else folder ++ '/' :: declaredGroup

end Onetcli.Importers.SecureCrt
