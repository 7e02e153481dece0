import Onetcli.Importers.Records

/-!
The importers of terminal clients: MobaXterm, WindTerm and Xshell.
-/

/-!
The importer of MobaXterm sessions, mobaxterm.rs: bookmark sections of an INI file with
one session a line. A preview keeps the first record of every id.
-/

namespace Onetcli.Importers.MobaXterm

open Chars Slugs

def maxSessions : Nat := 8192

structure SectionFields where
  sessions : List (Chars × Chars) := []
  metadata : List (Chars × Chars) := []

structure SectionReader where
  sections : List (Chars × SectionFields) := []
  current : Option (Chars × SectionFields) := none

def SectionFields.insert (fields : SectionFields) (key value : Chars) : SectionFields :=
  if eqIgnoreAsciiCase key "subrep".toList || eqIgnoreAsciiCase key "imgnum".toList then
    { fields with metadata := (toAsciiLowercase key, value) :: fields.metadata }
  else { fields with sessions := fields.sessions ++ [(key, value)] }

def SectionReader.finish (reader : SectionReader) : List (Chars × SectionFields) :=
  reader.sections ++ reader.current.toList

def SectionReader.read (reader : SectionReader) (rawLine : Chars) : SectionReader :=
  let line := trim rawLine
  if line.isEmpty || line.head? == some ';' || line.head? == some '#' then reader
  else
    match (stripPrefix ['['] line).bind (stripSuffix [']']) with
    | some name => ⟨reader.finish, some (trim name, {})⟩
    | none =>
      match splitOnce (· == '=') line with
      | none => reader
      | some (key, value) =>
        { reader with
          current := reader.current.map fun (name, fields) =>
            (name, fields.insert (trim key) (trim value)) }

def parseSections (text : Chars) : List (Chars × SectionFields) :=
  ((lines text).foldl SectionReader.read {}).finish

def isBookmarkSection (rawSection : Chars) : Bool :=
  let name := trim rawSection
  eqIgnoreAsciiCase name "bookmarks".toList || eqIgnoreAsciiCase name "bookmarks2".toList ||
    eqIgnoreAsciiCase name "bookmark".toList ||
    ("bookmarks_".toList.isPrefixOf (toAsciiLowercase name) &&
      (name.drop "bookmarks_".length).all isAsciiDigit)

def joinSlash (parts : List Chars) : Chars := ['/'].intercalate parts

def normalizeGroup (subrep : Option Chars) : Option Chars :=
  let parts := ((replaceChar '\\' '/' (subrep.getD [])).splitOn '/').map trim
  let normalized := joinSlash (parts.filter fun part => !part.isEmpty)
  if normalized.isEmpty then none else some normalized

/-! ## Sessions -/

structure SessionFields where
  host : Chars := []
  port : Option Nat := none
  username : Chars := []
  passwordPresent : Bool := false

def isStandardPrefix (value : Chars) : Bool :=
  let trimmed := trim value
  let rest := match stripPrefix [';'] trimmed with
    | some rest => trimStart rest
    | none => trimmed
  let rest := match stripPrefix "logout".toList rest with
    | some rest => trimStart rest
    | none => rest
  match rest with
  | '#' :: digits => !(digits.takeWhile isAsciiDigit).isEmpty
  | _ => false

def parseStandardSession (value : Chars) : Option SessionFields :=
  match value.splitOn '#' with
  | _ :: _ :: session :: _ =>
    if isStandardPrefix value then
      let fields := session.splitOn '%'
      if trim (fields.head?.getD []) ≠ ['0'] then some {}
      else
        let username := trim ((fields[3]?).getD [])
        some
          { host := trim ((fields[1]?).getD [])
            port := (((fields[2]?).bind fun port => parseU16 (trim port)).filter (· ≠ 0)).or
              (some 22)
            username := if username.isEmpty || username == "<default>".toList then [] else username
            passwordPresent := (fields[4]?).any fun password => !(trim password).isEmpty }
    else none
  | _ => none

structure ParsedTarget where
  host : Chars
  username : Option Chars
  port : Option Nat

def parseHostPort (rawValue : Chars) : Option (Chars × Option Nat) :=
  let value := trim rawValue
  match stripPrefix ['['] value with
  | some rest =>
    match splitOnce (· == ']') rest with
    | none => none
    | some (host, suffix) =>
      if host.isEmpty then none else some (host, (stripPrefix [':'] suffix).bind parseU16)
  | none =>
    let numbered := if value.count ':' = 1 then
        (rsplitOnce (· == ':') value).bind fun (host, port) =>
          (parseU16 port).map fun port => (host, some port)
      else none
    some (numbered.getD (value, none))

def parseTarget (rawValue : Chars) : Option ParsedTarget :=
  let value := (stripPrefix "ssh://".toList (trim rawValue)).getD (trim rawValue)
  let value := firstPart (· == '/') value
  let (userInfo, hostPort) := match rsplitOnce (· == '@') value with
    | some (user, host) => (some user, host)
    | none => (none, value)
  let username := (userInfo.map (firstPart (· == ':'))).filter fun user => !user.isEmpty
  (parseHostPort hostPort).map fun (host, port) => ⟨host, username, port⟩

def parseLegacySession (value : Chars) : Option SessionFields :=
  let tokens := ((value.splitOn '#').map trim).filter fun token => !token.isEmpty
  match tokens.findIdx? fun token => eqIgnoreAsciiCase token "ssh".toList with
  | none => none
  | some sshTokenIndex =>
    let fields : SessionFields := match (tokens.take sshTokenIndex).findSome? parseTarget with
      | some target => { host := target.host, username := target.username.getD [],
                         port := target.port }
      | none => {}
    if fields.host.isEmpty then none
    else
      match (tokens.drop (sshTokenIndex + 1)).findSome? parseU16 with
      | some numeric => some { fields with port := some numeric }
      | none => some fields

def sessionLabelAndGroup (key : Chars) : Chars × Option Chars :=
  let parts := ((replaceChar '\\' '/' key).splitOn '/').filter fun part => !part.isEmpty
  let groupParts := parts.dropLast
  (parts.getLast?.getD [], if groupParts.isEmpty then none else some (joinSlash groupParts))

def sourceId (path key : Chars) : Chars := path ++ '#' :: key

def encryptedPassword : ImportWarning where
  code := "mobaxterm_encrypted_password".toList
  message := ("MobaXterm stores passwords with its own encryption; the stored password " ++
    "was not imported.").toList

def sessionRecord (path key value : Chars) (group : Option Chars) : Option ImportRecord :=
  let (label, keyGroup) := sessionLabelAndGroup key
  match (parseStandardSession value).or (parseLegacySession value) with
  | none => none
  | some fields =>
    if fields.host.isEmpty then none
    else some
      { id := "mobaxterm:".toList ++ slug "session".toList (sourceId path key)
        importerId := "mobaxterm".toList
        sourceLabel := "MobaXterm".toList
        sourceId := some (sourceId path key)
        kind := "ssh".toList
        displayName := label
        ssh := some
          { name := label
            host := fields.host
            port := fields.port
            username := fields.username
            groupPath := keyGroup.or group
            authMethod := if fields.passwordPresent then .password none else .autoPublicKey }
        passwordStatus :=
          if fields.passwordPresent then "unsupported".toList else "missing".toList
        warnings := if fields.passwordPresent then [encryptedPassword] else [] }

/-! ## The preview -/

structure SessionLine where
  path : Chars
  sectionName : Chars
  key : Chars
  value : Chars
  group : Option Chars
  deriving DecidableEq

def SessionLine.record (line : SessionLine) : Option ImportRecord :=
  sessionRecord line.path line.key line.value line.group

def sessionLines (path text : Chars) : List SessionLine :=
  (parseSections text).flatMap fun (name, fields) =>
    if isBookmarkSection name then
      let group := normalizeGroup (fields.metadata.lookup "subrep".toList)
      fields.sessions.map fun (key, value) => ⟨path, name, key, value, group⟩
    else []

def parseIniSessions (path text : Chars) : List ImportRecord :=
  (sessionLines path text).filterMap SessionLine.record

def previewFrom (preview : Kept ImportRecord Chars) :
    List (Chars × List UInt8) → List ImportRecord
  | [] => preview.items
  | (path, bytes) :: rest =>
    match decodeText bytes with
    | none => previewFrom preview rest
    | some text =>
      let next := (parseIniSessions path text).foldl (Kept.insert ImportRecord.id) preview
      if maxSessions ≤ next.items.length then next.items else previewFrom next rest

def previewRecordsFromSources (sources : List (Chars × List UInt8)) (_includePasswords : Bool) :
    List ImportRecord :=
  previewFrom {} sources

end Onetcli.Importers.MobaXterm

/-!
The importer of WindTerm sessions, windterm.rs: JSON files with a list of sessions each.
Reading the JSON is a parameter. A preview keeps the first record of every id.
-/

namespace Onetcli.Importers.WindTerm

open Chars Slugs

structure WindTermSession where
  uuid : Option Chars := none
  protocol : Option Chars := none
  label : Option Chars := none
  group : Option Chars := none
  target : Option Chars := none
  port : Option Json := none
  user : Option Chars := none
  description : Option Chars := none
  autoLogin : Option Json := none
  sshAutoLogin : Option Json := none
  identityFilePath : Option Chars := none
  agent : Option Json := none
  authAgent : Option Json := none
  authPassword : Option Json := none
  autoExecution : Option Chars := none
  proxy : Option Json := none
  proxyHost : Option Chars := none
  jumpServer : Option Json := none
  tunnels : Option Json := none

structure ParsedTarget where
  host : Chars
  username : Option Chars
  port : Option Nat
  inlinePasswordIgnored : Bool

def trimmed (value : Option Chars) : Chars := trim (value.getD [])

def parseHostPort (rawValue : Chars) : Option (Chars × Option Nat) :=
  let value := trim rawValue
  match stripPrefix ['['] value with
  | some rest =>
    match splitOnce (· == ']') rest with
    | none => none
    | some (host, suffix) =>
      if host.isEmpty then none else some (host, (stripPrefix [':'] suffix).bind parseU16)
  | none =>
    let whole := (nonEmpty (some value)).map fun host => (host, none)
    if value.count ':' = 1 then
      match rsplitOnce (· == ':') value with
      | none => none
      | some (host, port) =>
        match parseU16 port with
        | some port => (nonEmpty (some host)).map fun host => (host, some port)
        | none => whole
    else whole

def parseTarget (rawValue : Chars) : Option ParsedTarget :=
  let value := trim rawValue
  if value.isEmpty then none
  else
    let value := ((stripPrefix "ssh://".toList value).or
      (stripPrefix "SSH://".toList value)).getD value
    let value := firstPart (· == '/') value
    let (userInfo, hostPort) := match rsplitOnce (· == '@') value with
      | some (user, host) => (some user, host)
      | none => (none, value)
    let (username, inlinePasswordIgnored) := match userInfo with
      | none => (none, false)
      | some userInfo =>
        match splitOnce (· == ':') userInfo with
        | some (user, _) => (nonEmpty (some user), true)
        | none => (nonEmpty (some userInfo), false)
    (parseHostPort hostPort).map fun (host, port) =>
      ⟨host, username, port, inlinePasswordIgnored⟩

def parsePort : Option Json → Option Nat
  | some (.number asU64) => asU64.bind u16OfU64
  | some (.string text) => parseU16 (trim text)
  | _ => none

def truthy : Option Json → Bool
  | some (.bool value) => value
  | some (.number asU64) => asU64.any (· ≠ 0)
  | some (.string text) =>
    let word := toAsciiLowercase (trim text)
    word == "1".toList || word == "true".toList || word == "yes".toList
  | _ => false

def hasData : Option Json → Bool
  | none => false
  | some .null => false
  | some (.bool value) => value
  | some (.number asU64) => asU64.any (· ≠ 0)
  | some (.string text) => !(trim text).isEmpty
  | some (.array items) => !items.isEmpty
  | some (.object fields) => !fields.isEmpty

def warning (code message : String) : ImportWarning := ⟨code.toList, message.toList⟩

def sourceId (path : Chars) (session : WindTermSession) (target : ParsedTarget) : Chars :=
  let port := ((parsePort session.port).or target.port).getD 22
  (nonEmpty session.uuid).getD
    (path ++ ':' :: (nonEmpty session.group).getD [] ++ ':' :: target.host ++
      ':' :: (toString port).toList)

def sessionSource (path : Chars) (session : WindTermSession) : Chars :=
  match parseTarget (trimmed session.target) with
  | some target => sourceId path session target
  | none => []

def authMethod (session : WindTermSession) : SshImportAuthMethod :=
  match nonEmpty session.identityFilePath with
  | some keyPath => .privateKey keyPath none
  | none =>
    if truthy session.agent || truthy session.authAgent then .agent
    else if truthy session.authPassword then .password none
    else .autoPublicKey

def warnings (session : WindTermSession) (target : ParsedTarget) (username : Chars) :
    List ImportWarning :=
  (if hasData session.autoLogin || hasData session.sshAutoLogin then
    [warning "windterm_encrypted_auto_login"
      "WindTerm auto-login data is encrypted and was not imported."] else []) ++
  (if target.inlinePasswordIgnored then
    [warning "windterm_inline_password_ignored"
      "A password embedded in the target was intentionally not imported."] else []) ++
  (if username.isEmpty then
    [warning "windterm_missing_username"
      "WindTerm did not expose a plaintext SSH username for this session."] else []) ++
  (if hasData session.proxy || (nonEmpty session.proxyHost).isSome then
    [warning "windterm_proxy_not_imported"
      "WindTerm proxy settings are not imported yet."] else []) ++
  (if hasData session.jumpServer then
    [warning "windterm_jump_server_not_imported"
      "WindTerm jump-server settings are not imported yet."] else []) ++
  (if hasData session.tunnels then
    [warning "windterm_tunnels_not_imported"
      "WindTerm SSH tunnel settings are not imported yet."] else [])

def recordFromSession (path : Chars) (session : WindTermSession) : Option ImportRecord :=
  if !eqIgnoreAsciiCase (trimmed session.protocol) "ssh".toList then none
  else
    (parseTarget (trimmed session.target)).map fun target =>
      let username := ((nonEmpty session.user).or target.username).getD []
      let displayName := ((nonEmpty session.label).or (nonEmpty session.description)).getD
        target.host
      let encryptedAutoLogin := hasData session.autoLogin || hasData session.sshAutoLogin
      { id := "windterm:".toList ++ slug "session".toList (sourceId path session target)
        importerId := "windterm".toList
        sourceLabel := "WindTerm".toList
        sourceId := some (sourceId path session target)
        kind := "ssh".toList
        displayName := displayName
        ssh := some
          { name := displayName
            host := target.host
            port := ((parsePort session.port).or target.port).or (some 22)
            username := username
            authMethod := authMethod session
            initScript := nonEmpty session.autoExecution }
        passwordStatus := if encryptedAutoLogin || target.inlinePasswordIgnored then
            "unsupported".toList else "missing".toList
        warnings := warnings session target username }

/-! ## The preview -/

variable (fromSlice : List UInt8 → Option (List WindTermSession))

def insertSession (preview : Kept ImportRecord Chars) (path : Chars)
    (session : WindTermSession) : Kept ImportRecord Chars :=
  match recordFromSession path session with
  | none => preview
  | some record => preview.insert ImportRecord.id record

def insertFile (preview : Kept ImportRecord Chars) (file : Chars × List UInt8) :
    Kept ImportRecord Chars :=
  match fromSlice file.2 with
  | none => preview
  | some sessions =>
    sessions.foldl (fun preview session => insertSession preview file.1 session) preview

def previewRecordsFromSessionFiles (files : List (Chars × List UInt8))
    (_includePasswords : Bool) : List ImportRecord :=
  (files.foldl (insertFile fromSlice) {}).items

end Onetcli.Importers.WindTerm

/-!
The importer of Xshell sessions, xshell.rs: session files, and archives of them. Reading
an archive and the decoding of names that are not UTF-8 are parameters.
-/

namespace Onetcli.Importers.Xshell

open Chars

def maxXtsSessionCount : Nat := 4096

def maxXshFileSize : Nat := 4 * 1024 * 1024

def maxXtsTotalSessionSize : Nat := 32 * 1024 * 1024

/-- The sections that a file has, and its values, the last one first. -/
structure Ini where
  sections : List Chars := []
  fields : List ((Chars × Chars) × Chars) := []

structure IniReader where
  ini : Ini := {}
  sectionName : Chars := []

def IniReader.read (reader : IniReader) (rawLine : Chars) : IniReader :=
  let line := trim rawLine
  if line.isEmpty || line.head? == some '#' || line.head? == some ';' then reader
  else
    match (stripPrefix ['['] line).bind (stripSuffix [']']) with
    | some name =>
      let sectionName := toAsciiLowercase (trim name)
      ⟨{ reader.ini with sections := sectionName :: reader.ini.sections }, sectionName⟩
    | none =>
      match splitOnce (· == '=') line with
      | none => reader
      | some (key, value) =>
        { reader with ini :=
            ⟨reader.sectionName :: reader.ini.sections,
              ((reader.sectionName, toAsciiLowercase (trim key)), trim value) ::
                reader.ini.fields⟩ }

def parseIni (text : Chars) : Ini := ((lines text).foldl IniReader.read {}).ini

def field (ini : Ini) (sectionName key : Chars) : Option Chars :=
  nonEmpty (ini.fields.lookup (sectionName, toAsciiLowercase key))

def stripXshExtension (path : Chars) : Chars :=
  if hasExtension path "xsh".toList then path.take (path.length - ".xsh".length) else path

def isSlash (char : Char) : Bool := char == '/' || char == '\\'

def sessionName (path : Chars) : Chars := stripXshExtension (lastPart isSlash path)

/-- What the id of a session is made of. -/
def stem (path : Chars) : Chars := trimMatches isSlash (stripXshExtension path)

def parseSession (path : Chars) (bytes : List UInt8) : Option ImportRecord := do
  let text ← decodeText bytes
  let ini := parseIni text
  if "connection".toList ∈ ini.sections then
    let protocol := (field ini "connection".toList "protocol".toList).getD "SSH".toList
    if !eqIgnoreAsciiCase protocol "ssh".toList then none
    else
      let host ← field ini "connection".toList "host".toList
      let port := ((field ini "connection".toList "port".toList).bind parseU16).or (some 22)
      let username :=
        (field ini "connection:authentication".toList "username".toList).getD []
      some
        { id := "xshell:".toList ++ slug "session".toList (stem path)
          importerId := "xshell".toList
          sourceLabel := "Xshell".toList
          sourceId := some path
          kind := "ssh".toList
          displayName := sessionName path
          ssh := some
            { name := sessionName path
              host := host
              port := port
              username := username
              authMethod := .autoPublicKey }
          passwordStatus := "unsupported".toList }
  else none

/-! ## Archives -/

structure ZipEntry where
  rawName : List UInt8
  name : Chars
  isDir : Bool
  size : Nat
  /-- The bytes, where they can be read. -/
  contents : Option (List UInt8)

structure Archives where
  /-- The entries of an archive, where it can be read; an entry may be unreadable. -/
  zipArchive : List UInt8 → Option (List (Option ZipEntry))
  /-- The name in GBK, unless it has errors. -/
  decodeGbk : List UInt8 → Option Chars

variable (archives : Archives)

def decodeXtsEntryName (rawName : List UInt8) (fallback : Chars) : Chars :=
  match fromUtf8 rawName with
  | some name => name
  | none => (archives.decodeGbk rawName).getD fallback

def isXtsSessionEntry (path : Chars) (isDir : Bool) : Bool :=
  !isDir && "xshell/".toList.isPrefixOf (toAsciiLowercase path) && hasExtension path "xsh".toList

/-- The sessions found so far and their size; no more are taken from the count on. -/
def collectSessions (archivePath : Chars) (sessions : List (Chars × List UInt8))
    (totalSize : Nat) : List (Option ZipEntry) → List (Chars × List UInt8)
  | [] => sessions
  | none :: rest => collectSessions archivePath sessions totalSize rest
  | some entry :: rest =>
    let entryName := decodeXtsEntryName archives entry.rawName entry.name
    if !isXtsSessionEntry entryName entry.isDir then
      collectSessions archivePath sessions totalSize rest
    else if maxXshFileSize < entry.size ∨ maxXtsTotalSessionSize < totalSize + entry.size then
      collectSessions archivePath sessions totalSize rest
    else
      match entry.contents with
      | none => collectSessions archivePath sessions totalSize rest
      | some session =>
        let sessions := sessions ++ [(archivePath ++ "!/".toList ++ entryName, session)]
        if maxXtsSessionCount ≤ sessions.length then sessions
        else collectSessions archivePath sessions (totalSize + entry.size) rest

def pathLe (first second : Chars × List UInt8) : Bool :=
  decide (first.1.map Char.toNat ≤ second.1.map Char.toNat)

def sessionsOf (path : Chars) (bytes : List UInt8) : List (Chars × List UInt8) :=
  if hasExtension path "xts".toList then
    match archives.zipArchive bytes with
    | none => []
    | some entries => (collectSessions archives path [] 0 entries).mergeSort pathLe
  else [(path, bytes)]

def previewEntries (sessions : List (Chars × List UInt8)) : List (Chars × ImportRecord) :=
  (sessions.flatMap fun (path, bytes) => sessionsOf archives path bytes).filterMap
    fun (path, bytes) => (parseSession path bytes).map fun record => (path, record)

def previewRecordsFromSessions (sessions : List (Chars × List UInt8))
    (_includePasswords : Bool) : List ImportRecord :=
  (previewEntries archives sessions).map Prod.snd

end Onetcli.Importers.Xshell
