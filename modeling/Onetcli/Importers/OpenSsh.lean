import Onetcli.Importers.Records

/-!
The importer of OpenSSH configurations, openssh_config.rs: the blocks of a configuration
with their aliases, and the hosts of known_hosts files that no block has.
-/

namespace Onetcli.Importers.OpenSsh

open Chars

structure HostBlock where
  aliases : List Chars := []
  hostName : Option Chars := none
  user : Option Chars := none
  port : Option Nat := none
  identityFile : Option Chars := none
  deriving DecidableEq

structure KnownHostEntry where
  host : Chars
  port : Nat
  deriving DecidableEq

/-! ## Lines -/

/-- A `#` outside of quotes starts a comment. -/
def stripCommentFrom : Bool → Chars → Chars
  | _, [] => []
  | quoted, char :: rest =>
    if char = '"' then char :: stripCommentFrom (!quoted) rest
    else if char = '#' ∧ quoted = false then []
    else char :: stripCommentFrom quoted rest

def stripComment (line : Chars) : Chars := stripCommentFrom false line

def splitDirective (line : Chars) : Option (Chars × Chars) :=
  ((splitOnce Text.isWhiteSpace line).map fun (key, value) => (trim key, trim value)).filter
    fun (key, value) => !key.isEmpty && !value.isEmpty

def unquote (rawValue : Chars) : Chars :=
  let value := trim rawValue
  ((stripPrefix ['"'] value).bind (stripSuffix ['"'])).getD value

def splitWords (value : Chars) : List Chars := (splitWhitespace value).map unquote

/-! ## Blocks -/

structure BlockReader where
  out : List HostBlock := []
  current : Option HostBlock := none

def HostBlock.set (block : HostBlock) (key value : Chars) : HostBlock :=
  let keyword := toAsciiLowercase key
  if keyword = "hostname".toList then { block with hostName := some (unquote value) }
  else if keyword = "user".toList then { block with user := some (unquote value) }
  else if keyword = "port".toList then { block with port := parseU16 (unquote value) }
  else if keyword = "identityfile".toList then
    if block.identityFile.isNone then { block with identityFile := some (unquote value) }
    else block
  else block

def BlockReader.finish (reader : BlockReader) : List HostBlock :=
  reader.out ++ reader.current.toList

def BlockReader.read (reader : BlockReader) (rawLine : Chars) : BlockReader :=
  let line := trim (stripComment rawLine)
  if line.isEmpty then reader
  else
    match splitDirective line with
    | none => reader
    | some (key, value) =>
      if eqIgnoreAsciiCase key "host".toList then
        ⟨reader.finish, some { aliases := splitWords value }⟩
      else { reader with current := reader.current.map fun block => block.set key value }

def parseBlocks (text : Chars) : List HostBlock :=
  ((lines text).foldl BlockReader.read {}).finish

def isPattern (text : Chars) : Bool := text.any fun char => char == '*' || char == '?' || char == '!'

def importableAliases (aliases : List Chars) : List Chars :=
  aliases.filter fun name => !isPattern name && !name.isEmpty

/-! ## Known hosts -/

def parseKnownHostPattern (rawPattern : Chars) : Option KnownHostEntry :=
  let pattern := trim rawPattern
  if pattern.isEmpty || pattern.head? == some '|' || isPattern pattern then none
  else
    match stripPrefix ['['] pattern with
    | some rest => do
      let (host, port) ← splitOnceText "]:".toList rest
      let port ← parseU16 port
      if host.isEmpty then none else some ⟨host, port⟩
    | none => some ⟨pattern, 22⟩

def parseKnownHosts (text : Chars) : List KnownHostEntry :=
  (lines text).flatMap fun rawLine =>
    let line := trim rawLine
    if line.isEmpty || line.head? == some '#' then []
    else
      match splitWhitespace line with
      | [] => []
      | hosts :: _ =>
        if hosts.head? == some '@' then []
        else (hosts.splitOn ',').filterMap parseKnownHostPattern

def isKnownHostsPath (path : Chars) : Bool :=
  eqIgnoreAsciiCase (lastPart (fun char => char == '/' || char == '\\') path) "known_hosts".toList

def digits (port : Nat) : Chars := (toString port).toList

def endpointKey (host : Chars) (port : Nat) : Chars := toAsciiLowercase host ++ ':' :: digits port

def endpointDisplay (host : Chars) (port : Nat) : Chars :=
  if port = 22 then host else host ++ ':' :: digits port

/-! ## Records -/

def blockRecord (path name : Chars) (block : HostBlock) : ImportRecord where
  id := "openssh-config:".toList ++ slug "host".toList name
  importerId := "openssh-config".toList
  sourceLabel := "OpenSSH Config".toList
  sourceId := some (path ++ ':' :: name)
  kind := "ssh".toList
  displayName := name
  ssh := some
    { name := name
      host := block.hostName.getD name
      port := some (block.port.getD 22)
      username := block.user.getD []
      authMethod := match block.identityFile with
        | some keyPath => .privateKey keyPath none
        | none => .autoPublicKey }
  passwordStatus := "unsupported".toList

def recordFromKnownHost (path : Chars) (entry : KnownHostEntry) : ImportRecord :=
  let endpoint := endpointDisplay entry.host entry.port
  { id := "openssh-config:known-hosts-".toList ++ slug "host".toList endpoint
    importerId := "openssh-config".toList
    sourceLabel := "OpenSSH Config".toList
    sourceId := some (path ++ ':' :: endpoint)
    kind := "ssh".toList
    displayName := endpoint
    ssh := some
      { name := endpoint
        host := entry.host
        port := some entry.port
        username := []
        authMethod := .autoPublicKey }
    passwordStatus := "unsupported".toList }

/-- Where a record comes from: the file, whether it lists known hosts, and the alias or
the endpoint. -/
structure Entry where
  path : Chars
  known : Bool
  name : Chars
  deriving DecidableEq

structure Preview where
  records : List (Entry × ImportRecord) := []
  seenEndpoints : List Chars := []

def Preview.addKnown (path : Chars) (preview : Preview) (entry : KnownHostEntry) : Preview :=
  let key := endpointKey entry.host entry.port
  if key ∈ preview.seenEndpoints then preview
  else
    ⟨preview.records ++ [(⟨path, true, endpointDisplay entry.host entry.port⟩,
        recordFromKnownHost path entry)], key :: preview.seenEndpoints⟩

def Preview.addAlias (path : Chars) (block : HostBlock) (preview : Preview) (name : Chars) :
    Preview :=
  ⟨preview.records ++ [(⟨path, false, name⟩, blockRecord path name block)],
    endpointKey (block.hostName.getD name) (block.port.getD 22) :: preview.seenEndpoints⟩

def Preview.addConfig (preview : Preview) (config : Chars × List UInt8) : Preview :=
  match fromUtf8 config.2 with
  | none => preview
  | some text =>
    if isKnownHostsPath config.1 then
      (parseKnownHosts text).foldl (Preview.addKnown config.1) preview
    else
      (parseBlocks text).foldl (fun preview block =>
        (importableAliases block.aliases).foldl (Preview.addAlias config.1 block) preview)
        preview

def previewEntries (configs : List (Chars × List UInt8)) : List (Entry × ImportRecord) :=
  (configs.foldl Preview.addConfig {}).records

def previewRecordsFromConfigs (configs : List (Chars × List UInt8)) (_includePasswords : Bool) :
    List ImportRecord :=
  (previewEntries configs).map Prod.snd

end Onetcli.Importers.OpenSsh
