import Mathlib.Data.List.Nodup
import Onetcli.Importers.SecureCrt.Model
import Onetcli.Lib.Occurrences

/-!
The importer of Navicat, navicat.rs: dictionaries of connections in property lists, and the
`Connection` elements of an NCX file, whose names are numbered where they come again.
Reading a property list is a parameter.
-/

namespace Onetcli.Importers.Navicat

open Chars Occurrences

/-- A number is known by its value, if it is not negative. -/
inductive PlistValue where
  | text (value : Chars)
  | integer (asUnsigned : Option Nat)
  | dictionary (entries : List (Chars × PlistValue))
  | other

/-- The entries in the order in which they came first. -/
abbrev Dictionary : Type := List (Chars × PlistValue)

def insertEntry (key : Chars) (value : PlistValue) : Dictionary → Dictionary
  | [] => [(key, value)]
  | entry :: rest =>
    if entry.1 = key then (key, value) :: rest else entry :: insertEntry key value rest

/-! ## Fields -/

def dictValue (dict : Dictionary) (keys : List String) : Option PlistValue :=
  keys.findSome? fun key =>
    (dict.lookup key.toList).or
      ((dict.find? fun entry => eqIgnoreAsciiCase entry.1 key.toList).map Prod.snd)

def valueText : PlistValue → Option Chars
  | .text value => some value
  | _ => none

def textField (dict : Dictionary) (keys : List String) : Option Chars :=
  nonEmpty ((dictValue dict keys).bind valueText)

def portField (dict : Dictionary) (keys : List String) : Option Nat :=
  keys.findSome? fun key =>
    match dictValue dict [key] with
    | some (.integer asUnsigned) => asUnsigned.bind u16OfU64
    | some (.text value) => parseU16 (trim value)
    | _ => none

def isParameterDict (keyPath : Chars) : Bool :=
  (keyPath.splitOn '/').any fun segment =>
    ["ssh_param".toList, "http_param".toList, "ssl_param".toList,
      "compatibility_param".toList].contains (toAsciiLowercase segment)

def databaseType (raw : Chars) : Option Chars :=
  let normalized := (toAsciiLowercase (trim raw)).map fun char =>
    if char = ' ' ∨ char = '-' ∨ char = '.' then '_' else char
  if ["mysql".toList, "mariadb".toList, "mysql8".toList, "mysql5".toList].contains normalized then
    some "my_sql".toList
  else if ["postgres".toList, "postgresql".toList, "pgsql".toList,
      "postgres_jdbc".toList].contains normalized then some "postgre_sql".toList
  else if ["sqlite".toList, "sqlite3".toList].contains normalized then some "sqlite".toList
  else if ["oracle".toList, "oci".toList, "oracle_thin".toList].contains normalized then
    some "oracle".toList
  else if ["sqlserver".toList, "sql_server".toList, "mssql".toList,
      "microsoft_sql_server".toList].contains normalized then some "sql_server".toList
  else none

def databaseTypeFromKeyPath (keyPath : Chars) : Option Chars :=
  (keyPath.splitOn '/').reverse.find? fun segment => (databaseType segment).isSome

def fileKeys : List String :=
  ["DatabaseFile", "DatabaseFileName", "FilePath", "dbfilename", "savepath"]

def hostKeys : List String := ["Host", "Hostname", "Server", "IP", "SocketHost", "host"]

def databaseHost (dict : Dictionary) (databaseType : Chars) : Chars :=
  if databaseType = "sqlite".toList then
    ((textField dict fileKeys).or (textField dict hostKeys)).getD []
  else ((textField dict hostKeys).or (textField dict fileKeys)).getD []

/-! ## Records -/

/-- `str::replace` by nothing. -/
def removeText (part text : Chars) : Chars := Text.replaceFrom part [] 0 text

def recordId (sourceId : Chars) : Chars :=
  "navicat:".toList ++
    slug "connection".toList (removeText ".ncx".toList (removeText ".plist".toList sourceId)) ++
    ':' :: SecureCrt.hexDigits (SecureCrt.stableHash sourceId)

def sourceIdOf (path keyPath : Chars) : Chars :=
  if keyPath.isEmpty then path else path ++ ':' :: keyPath

def rawTypeOf (keyPath : Chars) (dict : Dictionary) : Option Chars :=
  ((textField dict
    ["ConnType", "Type", "DatabaseType", "DBType", "Driver", "serviceprovider"]).filter
      fun value => !eqIgnoreAsciiCase value "default".toList).or (databaseTypeFromKeyPath keyPath)

/-- What a connection is called that has no name. -/
def fallbackName (path keyPath : Chars) : Chars :=
  let last := lastPart (· == '/') keyPath
  if last.isEmpty then path else last

def databaseRecord (path keyPath : Chars) (dict : Dictionary) (databaseType : Chars) :
    DatabaseImportRecord where
  databaseType := databaseType
  name := (textField dict
    ["Name", "Title", "ConnectionName", "DisplayName", "name", "title", "connectionname",
      "displayname"]).getD (fallbackName path keyPath)
  host := databaseHost dict databaseType
  port := portField dict ["Port", "port"]
  username := (textField dict ["UserName", "Username", "User", "UID", "username"]).getD []
  password := none
  database := textField dict
    ["Database", "DatabaseName", "InitialDatabase", "Schema", "defaultdatabase"]

def recordFromDict (path keyPath : Chars) (dict : Dictionary) : Option ImportRecord :=
  if isParameterDict keyPath then none
  else
    match (rawTypeOf keyPath dict).bind databaseType with
    | none => none
    | some databaseType =>
      let database := databaseRecord path keyPath dict databaseType
      if database.host.isEmpty && databaseType != "sqlite".toList then none
      else
        some
          { id := recordId (sourceIdOf path keyPath)
            importerId := "navicat".toList
            sourceLabel := "Navicat".toList
            sourceId := some (sourceIdOf path keyPath)
            kind := "database".toList
            displayName := database.name
            database := some database
            passwordStatus := "unsupported".toList }

mutual

def collectRecords (path keyPath : Chars) : PlistValue → List ImportRecord
  | .dictionary entries =>
    (recordFromDict path keyPath entries).toList ++ collectEntries path keyPath entries
  | _ => []

def collectEntries (path keyPath : Chars) : List (Chars × PlistValue) → List ImportRecord
  | [] => []
  | (key, child) :: rest =>
    collectRecords path (if keyPath.isEmpty then key else keyPath ++ '/' :: key) child ++
      collectEntries path keyPath rest

end

/-! ## NCX files -/

/-- The name without its namespace, in the letter case it has. -/
def localName (raw : Chars) : Chars := lastPart (· == ':') raw

def addAttribute (dict : Dictionary) (found : Chars × Option Chars) : Dictionary :=
  match found.2 with
  | some value => insertEntry (localName found.1) (.text value) dict
  | none => dict

def connectionOf : XmlEvent → Option Dictionary
  | .start tag attributes | .empty tag attributes =>
    if localName tag = "Connection".toList then some (attributes.foldl addAttribute []) else none
  | _ => none

def connectionName (dict : Dictionary) : Chars :=
  (textField dict ["ConnectionName"]).getD "connection".toList

def ncxKeyPath (connectionName : Chars) (occurrence : Nat) : Chars :=
  if occurrence = 1 then "Connections/".toList ++ connectionName
  else "Connections/".toList ++ connectionName ++ '#' :: digits occurrence

/-- `seen` holds the names of the connections before. -/
def connectionRecords (path : Chars) (seen : List Chars) : List Dictionary → List ImportRecord
  | [] => []
  | dict :: rest =>
    let occurrence := seen.count (connectionName dict) + 1
    (recordFromDict path (ncxKeyPath (connectionName dict) occurrence) dict).toList ++
      connectionRecords path (connectionName dict :: seen) rest

/-- An error of the reader ends the records, it does not take them back. -/
def ncxConnections (library : XmlLibrary) (text : Chars) : List Dictionary :=
  (library.read text).events.filterMap connectionOf

def recordsFromNcx (library : XmlLibrary) (path text : Chars) : List ImportRecord :=
  connectionRecords path [] (ncxConnections library text)

def previewRecordsFromPlists (fromReader : List UInt8 → Option PlistValue) (library : XmlLibrary)
    (plists : List (Chars × List UInt8)) (_includePasswords : Bool) : List ImportRecord :=
  plists.flatMap fun (path, bytes) =>
    match fromReader bytes with
    | some value => collectRecords path [] value
    | none => ((fromUtf8 bytes).map (recordsFromNcx library path)).getD []

/-! ## Ids -/

theorem recordFromDict_sourceId {path keyPath : Chars} {dict : Dictionary} {record : ImportRecord}
    (made : recordFromDict path keyPath dict = some record) :
    record.sourceId = some (sourceIdOf path keyPath) := by
  rw [recordFromDict] at made
  split at made
  · cases made
  · split at made
    · cases made
    · dsimp only at made
      split at made
      · cases made
      · cases made
        rfl

theorem ncxKeyPath_marked (name : Chars) (occurrence : Nat) :
    ncxKeyPath name occurrence = "Connections/".toList ++ marked '#' name occurrence := by
  rw [ncxKeyPath, marked]
  split
  · rfl
  · rw [List.append_assoc]

theorem sourceIdOf_inj (path : Chars) {first second : Chars} {number other : Nat}
    (same : sourceIdOf path (ncxKeyPath first number) = sourceIdOf path (ncxKeyPath second other)) :
    marked '#' first number = marked '#' second other := by
  have filled (name : Chars) (occurrence : Nat) :
      sourceIdOf path (ncxKeyPath name occurrence) =
        path ++ ':' :: ("Connections/".toList ++ marked '#' name occurrence) := by
    rw [ncxKeyPath_marked]
    rfl
  rw [filled, filled] at same
  have behind := List.append_cancel_left same
  exact List.append_cancel_left (List.cons.inj behind).2

def isImported (path : Chars) (entry : Dictionary × Nat) : Bool :=
  (recordFromDict path (ncxKeyPath (connectionName entry.1) entry.2) entry.1).isSome

/-- The connections of a file that records are made of, with the numbers of their names. -/
def importedConnections (path : Chars) (connections : List Dictionary) : List (Dictionary × Nat) :=
  (numbered connectionName [] connections).filter (isImported path)

def entryId (path : Chars) (entry : Dictionary × Nat) : Option Chars :=
  some (sourceIdOf path (ncxKeyPath (connectionName entry.1) entry.2))

theorem connectionRecords_ids (path : Chars) (seen : List Chars) (connections : List Dictionary) :
    (connectionRecords path seen connections).map ImportRecord.sourceId =
      ((numbered connectionName seen connections).filter (isImported path)).map (entryId path) := by
  -- The names seen so far number a connection in both lists.
  induction connections generalizing seen with
  | nil => rfl
  | cons dict rest ih =>
    rw [connectionRecords, numbered, List.filter_cons, List.map_append, ih]
    cases made : recordFromDict path
        (ncxKeyPath (connectionName dict) (seen.count (connectionName dict) + 1)) dict with
    | none => simp [isImported, made]
    | some record =>
      have named := recordFromDict_sourceId made
      simp [isImported, made, named, entryId]

def NamesApart (path : Chars) (connections : List Dictionary) : Prop :=
  ∀ first ∈ importedConnections path connections,
    ∀ again ∈ importedConnections path connections, first.2 = 1 → again.2 ≠ 1 →
      connectionName first.1 ≠ connectionName again.1 ++ '#' :: digits again.2

theorem entryId_eq_iff {path : Chars} {first second : Dictionary × Nat} :
    entryId path first = entryId path second ↔ marked '#' (connectionName first.1) first.2 =
        marked '#' (connectionName second.1) second.2 := by
  constructor
  · intro same
    exact sourceIdOf_inj path (Option.some.inj same)
  · intro same
    rw [entryId, entryId, ncxKeyPath_marked, ncxKeyPath_marked, same]

/-- The connections of an NCX file have different ids exactly if no numbered name is the
own name of another connection. -/
theorem ncx_ids_distinct_iff (library : XmlLibrary) (path text : Chars) :
    ((recordsFromNcx library path text).map ImportRecord.sourceId).Nodup ↔
      NamesApart path (ncxConnections library text) := by
  rw [recordsFromNcx, connectionRecords_ids]
  change ((importedConnections path (ncxConnections library text)).map (entryId path)).Nodup ↔ _
  have numbers : (numbered connectionName [] (ncxConnections library text)).Pairwise
      fun first second => connectionName first.1 = connectionName second.1 → first.2 < second.2 :=
    numbered_pairwise [] (ncxConnections library text)
  have apart := numbers.sublist (List.filter_sublist (p := isImported path))
  constructor
  · intro distinct first firstIn again againIn single further same
    have equal : entryId path first = entryId path again := by
      rw [entryId_eq_iff, marked_eq_iff (by decide)]
      exact Or.inr (Or.inl ⟨single, further, same⟩)
    have one := List.inj_on_of_nodup_map distinct firstIn againIn equal
    rw [one] at single
    exact further single
  · intro names
    rw [List.Nodup, List.pairwise_map]
    refine List.Pairwise.imp_of_mem ?_ apart
    intro first second firstIn secondIn later equal
    rw [entryId_eq_iff, marked_eq_iff (by decide)] at equal
    -- One name with one number, or a first of its name beside a numbered one.
    rcases equal with ⟨name, number⟩ | ⟨single, further, same⟩ | ⟨further, single, same⟩
    · have less := later name
      omega
    · exact names first firstIn second secondIn single further same
    · exact names second secondIn first firstIn single further same

/-- An NCX element of a connection to a MySQL server. -/
def mysqlEvent (name : String) : XmlEvent :=
  .empty "Connection".toList
    [("ConnectionName".toList, some name.toList), ("ConnType".toList, some "MYSQL".toList),
      ("Host".toList, some "db".toList)]

/-- The second `a` gets the name that the third connection has. -/
theorem numbered_name_taken :
    ¬((recordsFromNcx
        ⟨fun _ => ⟨[mysqlEvent "a", mysqlEvent "a", mysqlEvent "a#2"], false⟩, some⟩
        "connection.ncx".toList []).map ImportRecord.sourceId).Nodup := by
  rw [recordsFromNcx, connectionRecords_ids]
  decide +kernel

end Onetcli.Importers.Navicat
