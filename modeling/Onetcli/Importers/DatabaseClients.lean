import Onetcli.Importers.Records

/-!
The importers of database clients: TablePlus and DBeaver, JetBrains and MongoDB Compass.
-/

/-!
The importer of TablePlus connections, tableplus.rs: every object of a JSON or property
list file that describes a connection. Reading the two formats is a parameter.
-/

namespace Onetcli.Importers.TablePlus

open Chars

def texts (keys : List String) : List Chars := keys.map String.toList

/-- The first field of the name, in any letter case. -/
def fieldOf (value : Json) (key : Chars) : Option Json :=
  match value with
  | .object fields => (fields.find? fun field => eqIgnoreAsciiCase field.1 key).map Prod.snd
  | _ => none

def textField (value : Json) (keys : List Chars) : Option Chars :=
  keys.findSome? fun key => nonEmpty ((fieldOf value key).bind Json.asString)

def portField (value : Json) (keys : List Chars) : Option Nat :=
  keys.findSome? fun key =>
    match fieldOf value key with
    | some (.number asU64) => asU64.bind u16OfU64
    | some (.string text) => parseU16 (trim text)
    | _ => none

/-- The names of a type of database in the lower case with `_` for a blank, dash or dot. -/
def databaseTypes : List (List String × String) :=
  [(["mysql", "mariadb"], "my_sql"),
    (["postgres", "postgresql", "pgsql"], "postgre_sql"),
    (["sqlite", "sqlite3"], "sqlite"),
    (["duckdb"], "duck_db"),
    (["sqlserver", "sql_server", "mssql"], "sql_server"),
    (["oracle"], "oracle"),
    (["clickhouse", "click_house"], "click_house")]

def databaseTypeIn (types : List (List String × String)) (raw : Chars) : Option Chars :=
  let normalized := (toAsciiLowercase (trim raw)).map fun char =>
    if char = ' ' ∨ char = '-' ∨ char = '.' then '_' else char
  (types.find? fun names => (texts names.1).contains normalized).map fun names => names.2.toList

def databaseType (raw : Chars) : Option Chars := databaseTypeIn databaseTypes raw

def isSlash (char : Char) : Bool := char == '/' || char == '\\'

def fileStem (path : Chars) : Chars := firstPart (· == '.') (lastPart isSlash path)

/-- A record with the file, the place in it and the key that its id is made of. -/
structure Found where
  path : Chars
  keyPath : Chars
  recordKey : Chars
  record : ImportRecord

def childPath (keyPath child : Chars) : Chars :=
  if keyPath.isEmpty then child else keyPath ++ '/' :: child

def recordFromValue (path keyPath : Chars) (value : Json) : Option Found := do
  let rawType ← textField value (texts ["driver", "type", "databaseType", "adapter", "engine"])
  let databaseType ← databaseType rawType
  let host := ((textField value (texts ["host", "hostname", "server", "address", "path"])).or
    (textField value (texts ["databasePath", "databaseFile"]))).getD []
  if host.isEmpty && databaseType != "sqlite".toList then none
  else
    let sourceId := if keyPath.isEmpty then path else path ++ ':' :: keyPath
    let recordKey := (textField value (texts ["id", "uuid"])).getD (lastPart (· == '/') keyPath)
    let name := (textField value (texts ["name", "title", "displayName", "connectionName"])).getD
      recordKey
    some ⟨path, keyPath, recordKey,
      { id := "tableplus:".toList ++ slug "connection".toList (fileStem path) ++
          '-' :: slug "connection".toList recordKey
        importerId := "tableplus".toList
        sourceLabel := "TablePlus".toList
        sourceId := some sourceId
        kind := "database".toList
        displayName := name
        database := some
          { databaseType := databaseType
            name := name
            host := host
            port := portField value (texts ["port"])
            username := (textField value (texts ["user", "username", "userName", "uid"])).getD []
            password := none
            database := textField value (texts ["database", "databaseName", "schema"]) }
        passwordStatus := "unsupported".toList }⟩

mutual

def collectRecords (path keyPath : Chars) : Json → List Found
  | .object fields =>
    (recordFromValue path keyPath (.object fields)).toList ++ collectFields path keyPath fields
  | .array items =>
    (recordFromValue path keyPath (.array items)).toList ++ collectItems path keyPath 0 items
  | value => (recordFromValue path keyPath value).toList

def collectFields (path keyPath : Chars) : List (Chars × Json) → List Found
  | [] => []
  | (key, child) :: rest =>
    collectRecords path (childPath keyPath key) child ++ collectFields path keyPath rest

def collectItems (path keyPath : Chars) (index : Nat) : List Json → List Found
  | [] => []
  | child :: rest =>
    collectRecords path (childPath keyPath (toString index).toList) child ++
      collectItems path keyPath (index + 1) rest

end

/-- How JSON and property lists are read. -/
structure Readers where
  json : List UInt8 → Option Json
  plist : List UInt8 → Option Json

variable (readers : Readers)

def parseStructured (bytes : List UInt8) : Option Json :=
  (readers.json bytes).or (readers.plist bytes)

def previewEntries (files : List (Chars × List UInt8)) : List Found :=
  files.flatMap fun (path, bytes) =>
    match parseStructured readers bytes with
    | none => []
    | some value => collectRecords path [] value

def previewRecordsFromFiles (files : List (Chars × List UInt8)) (_includePasswords : Bool) :
    List ImportRecord :=
  (previewEntries readers files).map Found.record

end Onetcli.Importers.TablePlus

/-!
The importer of DBeaver connections, dbeaver.rs: the connections of one file, with the
passwords of a second one. Reading JSON and the decryption of the second file are
parameters.
-/

namespace Onetcli.Importers.DBeaver

open Chars TablePlus

def strField (value : Json) (keys : List Chars) : Option Chars :=
  keys.findSome? fun key => nonEmpty ((value.get key).bind Json.asString)

def numericField (value : Json) (keys : List Chars) : Option Nat :=
  keys.findSome? fun key =>
    match value.get key with
    | some (.number asU64) => asU64
    | _ => none

def ownedField (value : Json) (keys : List Chars) : Option Chars :=
  (strField value keys).or ((numericField value keys).map fun number => (toString number).toList)

def portField (value : Json) (keys : List Chars) : Option Nat :=
  keys.findSome? fun key =>
    match value.get key with
    | some (.number asU64) => asU64.bind u16OfU64
    | some (.string text) => parseU16 (trim text)
    | _ => none

def databaseTypes : List (List String × String) :=
  [(["mysql", "mariadb", "mysql8", "mysql5"], "my_sql"),
    (["postgres", "postgresql", "postgres_jdbc"], "postgre_sql"),
    (["sqlite", "sqlite3"], "sqlite"),
    (["duckdb"], "duck_db"),
    (["sqlserver", "sql_server", "mssql", "microsoft_sql_server"], "sql_server"),
    (["oracle", "oracle_thin"], "oracle"),
    (["clickhouse", "click_house"], "click_house")]

def databaseType (raw : Chars) : Option Chars := databaseTypeIn databaseTypes raw

structure Readers where
  json : List UInt8 → Option Json
  decryptCredentials : List UInt8 → Option (List UInt8)

variable (readers : Readers)

def parseCredentials (bytes : List UInt8) : Option Json :=
  (readers.json bytes).or ((readers.decryptCredentials bytes).bind readers.json)

def credentialPassword (credentials : Json) (connectionId : Chars) : Option Chars := do
  let direct ← credentials.get connectionId
  strField ((direct.get "#connection".toList).getD direct) (texts ["password"])

def connectionRecord (credentials : Option Json) (includePasswords : Bool)
    (connectionId : Chars) (connection : Json) : Option ImportRecord := do
  let config := (connection.get "configuration".toList).getD connection
  let kinds := texts ["provider", "driver", "type"]
  let rawType ← (strField connection kinds).or (strField config kinds)
  let databaseType ← databaseType rawType
  let name := ((strField connection (texts ["name"])).or (strField config (texts ["name"]))).getD
    connectionId
  let password := if includePasswords then
      (credentials.bind fun credentials => credentialPassword credentials connectionId).or
        (ownedField config (texts ["password"]))
    else none
  let passwordStatus := if !includePasswords then "unsupported".toList
    else if (password.getD []).isEmpty then "missing".toList
    else "included".toList
  some
    { id := "dbeaver:".toList ++ slug "connection".toList connectionId
      importerId := "dbeaver".toList
      sourceLabel := "DBeaver".toList
      kind := "database".toList
      displayName := name
      database := some
        { databaseType := databaseType
          name := name
          host := (ownedField config (texts ["host", "server", "hostname"])).getD []
          port := portField config (texts ["port"])
          username := (ownedField config (texts ["user", "username"])).getD []
          password := password
          database := ownedField config (texts ["database", "schema"]) }
      passwordStatus := passwordStatus }

def previewEntries (dataSourcesJson : List UInt8) (credentialsJson : Option (List UInt8))
    (includePasswords : Bool) : List (Chars × ImportRecord) :=
  match readers.json dataSourcesJson with
  | none => []
  | some root =>
    let credentials :=
      if includePasswords then credentialsJson.bind (parseCredentials readers) else none
    match root.get "connections".toList with
    | some (.object connections) =>
      connections.filterMap fun (connectionId, connection) =>
        (connectionRecord credentials includePasswords connectionId connection).map
          fun record => (connectionId, record)
    | _ => []

def previewRecords (dataSourcesJson : List UInt8) (credentialsJson : Option (List UInt8))
    (includePasswords : Bool) : List ImportRecord :=
  (previewEntries readers dataSourcesJson credentialsJson includePasswords).map Prod.snd

end Onetcli.Importers.DBeaver

/-!
The importer of JetBrains data sources, jetbrains.rs: the data sources of an XML file and
what their JDBC URLs say.
-/

namespace Onetcli.Importers.JetBrains

open Chars

structure DataSource where
  name : Option Chars := none
  uuid : Option Chars := none
  driverRef : Option Chars := none
  jdbcUrl : Option Chars := none
  username : Option Chars := none
  deriving DecidableEq

structure JdbcParts where
  databaseType : Chars
  host : Chars
  port : Option Nat
  database : Option Chars
  deriving DecidableEq

/-! ## JDBC URLs -/

def databaseTypes : List (List String × String) :=
  [(["mysql", "mysql_8", "mariadb"], "my_sql"),
    (["postgres", "postgresql", "pgsql"], "postgre_sql"),
    (["sqlite", "sqlite3"], "sqlite"),
    (["duckdb"], "duck_db"),
    (["sqlserver", "sql_server", "mssql"], "sql_server"),
    (["oracle", "oracle_thin"], "oracle"),
    (["clickhouse", "click_house"], "click_house")]

def databaseType (raw : Chars) : Option Chars :=
  let normalized := (toAsciiLowercase (trim raw)).map fun char =>
    if char = ' ' ∨ char = '-' ∨ char = '.' then '_' else char
  (databaseTypes.find? fun names => (names.1.map String.toList).contains normalized).map
    fun names => names.2.toList

def databaseTypeFromJdbc (url : Chars) : Option Chars :=
  (stripPrefix "jdbc:".toList url).bind fun rest =>
    databaseType (trim (firstPart (fun char => char == ':' || char == '/') rest))

def splitHostPort (value : Chars) : Chars × Option Nat :=
  match rsplitOnce (· == ':') value with
  | none => (value, none)
  | some (host, port) =>
    match parseU16 port with
    | some port => (host, some port)
    | none => (value, none)

def semicolonParam (params key : Chars) : Option Chars :=
  (params.splitOn ';').findSome? fun part =>
    match splitOnce (· == '=') part with
    | none => none
    | some (candidate, value) =>
      if eqIgnoreAsciiCase candidate key then nonEmpty (some value) else none

/-- Host, port and the rest of an address; the parameters behind `?` are dropped. -/
def addressParts (separator : Char) (rest : Chars) : (Chars × Option Nat) × Chars :=
  let rest := firstPart (· == '?') rest
  match splitOnce (· == separator) rest with
  | some (hostPort, after) => (splitHostPort hostPort, after)
  | none => (splitHostPort rest, [])

def parseJdbcUrl (url : Chars) (driverRef : Option Chars) : Option JdbcParts := do
  let databaseType ← (databaseTypeFromJdbc url).or (driverRef.bind databaseType)
  if databaseType = "sqlite".toList then
    let path ← stripPrefix "jdbc:sqlite:".toList url
    some ⟨databaseType, path, none, some path⟩
  else
    match stripPrefix "jdbc:sqlserver://".toList url with
    | some rest =>
      let ((host, port), params) := addressParts ';' rest
      some ⟨databaseType, host, port, semicolonParam params "databaseName".toList⟩
    | none =>
      match stripPrefix "jdbc:oracle:thin:@//".toList url with
      | some rest =>
        let ((host, port), database) := addressParts '/' rest
        some ⟨databaseType, host, port, nonEmpty (some database)⟩
      | none => do
        let rest ← stripPrefix "jdbc:".toList url
        let (_, rest) ← splitOnceText "://".toList rest
        let ((host, port), database) := addressParts '/' rest
        some ⟨databaseType, host, port, nonEmpty (some database)⟩

/-! ## Data sources -/

structure Reader where
  current : Option DataSource := none
  currentTag : Option Chars := none
  out : List DataSource := []

def DataSource.addAttribute (source : DataSource) (found : Chars × Option Chars) : DataSource :=
  match found.2 with
  | none => source
  | some value =>
    if tagName found.1 = "name".toList then { source with name := some value }
    else if tagName found.1 = "uuid".toList then { source with uuid := some value }
    else source

def DataSource.set (source : DataSource) (tag value : Chars) : DataSource :=
  if tag = "driver-ref".toList then { source with driverRef := some value }
  else if tag = "jdbc-url".toList then { source with jdbcUrl := some value }
  else if tag = "user-name".toList ∨ tag = "username".toList then
    { source with username := some value }
  else source

variable (library : XmlLibrary)

def Reader.step (reader : Reader) : XmlEvent → Reader
  | .start rawTag attributes =>
    let tag := tagName rawTag
    if tag = "data-source".toList then
      { reader with current := some (attributes.foldl DataSource.addAttribute {})
                    currentTag := none }
    else if reader.current.isSome then { reader with currentTag := some tag }
    else reader
  | .text content =>
    match reader.current, reader.currentTag with
    | some source, some tag =>
      let value := trim (library.textOf content)
      if value.isEmpty then reader else { reader with current := some (source.set tag value) }
    | _, _ => reader
  | .finish rawTag =>
    if tagName rawTag = "data-source".toList then
      ⟨none, none, reader.out ++ reader.current.toList⟩
    else { reader with currentTag := none }
  | .empty _ _ => reader
  | .reference _ => reader
  | .other => reader

def parseDataSources (text : Chars) : List DataSource :=
  ((library.read text).events.foldl (Reader.step library) {}).out

/-! ## Records -/

def fileStem (path : Chars) : Chars :=
  Text.replaceFrom ".xml".toList [] 0 path

def sourceRecord (path : Chars) (source : DataSource) : Option ImportRecord := do
  let jdbcUrl ← source.jdbcUrl
  let parts ← parseJdbcUrl jdbcUrl source.driverRef
  let sourceKey := source.uuid.getD
    ((source.name.filter fun value => !value.isEmpty).getD "data-source".toList)
  let name := source.name.getD sourceKey
  some
    { id := "jetbrains:".toList ++ slug "connection".toList (fileStem path) ++
        '-' :: slug "connection".toList sourceKey
      importerId := "jetbrains".toList
      sourceLabel := "JetBrains".toList
      sourceId := some (path ++ ':' :: sourceKey)
      kind := "database".toList
      displayName := name
      database := some
        { databaseType := parts.databaseType
          name := name
          host := parts.host
          port := parts.port
          username := source.username.getD []
          password := none
          database := parts.database }
      passwordStatus := "unsupported".toList }

def previewRecordsFromXmlFiles (files : List (Chars × List UInt8)) (_includePasswords : Bool) :
    List ImportRecord :=
  files.flatMap fun (path, bytes) =>
    match fromUtf8 bytes with
    | none => []
    | some text => (parseDataSources library text).filterMap (sourceRecord path)

end Onetcli.Importers.JetBrains

/-!
The importer of MongoDB Compass connections, mongodb_compass.rs: the objects of JSON files
that hold a connection string, and the string that is kept of it. Reading the JSON is a
parameter; the fields of an object come in the order its map gives them.
-/

namespace Onetcli.Importers.Compass

open Chars

structure CompassRecord extends ImportRecord where
  extraParams : List (Chars × Chars)

structure CompassConnection where
  id : Option Chars
  name : Option Chars
  uri : Chars

structure MongoUri where
  scheme : Chars
  username : Option Chars
  host : Chars
  port : Option Nat
  database : Option Chars
  query : Option Chars

/-! ## Connection strings -/

def hexDigitValue (byte : UInt8) : Option Nat :=
  let code := byte.toNat
  if 48 ≤ code ∧ code ≤ 57 then some (code - 48)
  else if 65 ≤ code ∧ code ≤ 70 then some (code - 55)
  else if 97 ≤ code ∧ code ≤ 102 then some (code - 87)
  else none

/-- `from_str_radix` takes a plus sign in front of the digits. -/
def hexByte (high low : UInt8) : Option UInt8 :=
  if high = 43 then (hexDigitValue low).map UInt8.ofNat
  else
    match hexDigitValue high, hexDigitValue low with
    | some high, some low => some (UInt8.ofNat (high * 16 + low))
    | _, _ => none

/-- The byte that two digits behind a `%` stand for. -/
def escapedByte (byte : UInt8) : List UInt8 → Option UInt8
  | high :: low :: _ => if byte = 37 then hexByte high low else none
  | _ => none

def percentDecodeBytes : List UInt8 → List UInt8
  | [] => []
  | byte :: rest =>
    match escapedByte byte rest with
    | some decoded => decoded :: percentDecodeBytes (rest.drop 2)
    | none => byte :: percentDecodeBytes rest
termination_by bytes => bytes.length
decreasing_by all_goals simp; try omega

def percentDecode (value : Chars) : Option Chars := fromUtf8 (percentDecodeBytes (toUtf8 value))

def upperHexDigit (value : Nat) : Char :=
  if value < 10 then Char.ofNat (48 + value) else Char.ofNat (55 + value)

def percentEncodeUserinfo (value : Chars) : Chars :=
  (toUtf8 value).flatMap fun byte =>
    let char := Char.ofNat byte.toNat
    if isAsciiAlphanumeric char || char == '-' || char == '.' || char == '_' || char == '~' then
      [char]
    else ['%', upperHexDigit (byte.toNat / 16), upperHexDigit (byte.toNat % 16)]

def isBracket (char : Char) : Bool := char == '[' || char == ']'

def splitHostPort (rawValue : Chars) : Chars × Option Nat :=
  let value := trim rawValue
  match rsplitOnce (· == ':') value with
  | none => (value, none)
  | some (host, port) =>
    match parseU16 port with
    | some port => (trimMatches isBracket host, some port)
    | none => (trimMatches isBracket value, none)

def parseMongoUri (uri : Chars) : Option MongoUri :=
  match splitOnceText "://".toList uri with
  | none => none
  | some (scheme, rest) =>
    if scheme ≠ "mongodb".toList ∧ scheme ≠ "mongodb+srv".toList then none
    else
      let (authorityAndPath, query) := match splitOnce (· == '?') rest with
        | some (left, right) => (left, some right)
        | none => (rest, none)
      let (authority, database) := match splitOnce (· == '/') authorityAndPath with
        | some (left, right) => (left, nonEmpty (some (firstPart (· == '/') right)))
        | none => (authorityAndPath, none)
      let (userinfo, hosts) := match rsplitOnce (· == '@') authority with
        | some (userinfo, hosts) => (some userinfo, hosts)
        | none => (none, authority)
      let username := (userinfo.map (firstPart (· == ':'))).bind percentDecode
      let (host, port) := splitHostPort (trim (firstPart (· == ',') hosts))
      if host.isEmpty then none else some ⟨scheme, username, host, port, database, query⟩

def filled (value : Option Chars) : Option Chars := value.filter fun text => !text.isEmpty

def sanitizeUri (uri : MongoUri) : Chars :=
  uri.scheme ++ "://".toList ++
    ((filled uri.username).map fun username => percentEncodeUserinfo username ++ ['@']).getD [] ++
    uri.host ++
    (uri.port.map fun port => ':' :: (toString port).toList).getD [] ++
    ((filled uri.database).map fun database => '/' :: database).getD [] ++
    ((filled uri.query).map fun query => '?' :: query).getD []

/-! ## Connections -/

def findStringField (value : Json) (keys : List String) : Option Chars :=
  match value with
  | .object fields => keys.findSome? fun key =>
    nonEmpty ((fields.find? fun field => eqIgnoreAsciiCase field.1 key.toList).bind
      fun field => field.2.asString)
  | _ => none

def uriFields : List String := ["connectionString", "connection_string", "uri"]

def findConnectionUri (value : Json) : Option Chars :=
  (findStringField value uriFields).or
    ((value.get "connectionOptions".toList).bind fun options => findStringField options uriFields)

def connectionOf (value : Json) : Option CompassConnection :=
  (findConnectionUri value).map fun uri =>
    { id := findStringField value ["id", "uuid"]
      name := (findStringField value ["name", "title"]).or
        ((value.get "favorite".toList).bind fun favorite =>
          findStringField favorite ["name", "title"])
      uri := uri }

mutual

def collectConnections : Json → List CompassConnection
  | .object fields =>
    match connectionOf (.object fields) with
    | some connection => [connection]
    | none => collectFields fields
  | .array items => collectItems items
  | _ => []

def collectFields : List (Chars × Json) → List CompassConnection
  | [] => []
  | (_, child) :: rest => collectConnections child ++ collectFields rest

def collectItems : List Json → List CompassConnection
  | [] => []
  | child :: rest => collectConnections child ++ collectItems rest

end

def isSlash (char : Char) : Bool := char == '/' || char == '\\'

def fileStem (path : Chars) : Chars := firstPart (· == '.') (lastPart isSlash path)

def connectionRecord (path : Chars) (connection : CompassConnection) : Option CompassRecord :=
  (parseMongoUri connection.uri).map fun uri =>
    let key := connection.id.getD (fileStem path)
    let name := connection.name.getD key
    { id := "mongodb-compass:".toList ++ slug "connection".toList key
      importerId := "mongodb-compass".toList
      sourceLabel := "MongoDB Compass".toList
      sourceId := some path
      kind := "database".toList
      displayName := name
      database := some
        { databaseType := "mongodb".toList
          name := name
          host := uri.host
          port := uri.port
          username := uri.username.getD []
          password := none
          database := uri.database }
      passwordStatus := "unsupported".toList
      extraParams := [("connection_string".toList, sanitizeUri uri)] }

def previewRecordsFromConnectionFiles (fromSlice : List UInt8 → Option Json)
    (files : List (Chars × List UInt8)) (_includePasswords : Bool) : List CompassRecord :=
  files.flatMap fun (path, bytes) =>
    ((fromSlice bytes).map collectConnections).getD [] |>.filterMap (connectionRecord path)

end Onetcli.Importers.Compass
