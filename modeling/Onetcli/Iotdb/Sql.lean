import Onetcli.Lib.Chars

/-!
Device paths and the statements that name them, internal/drivers/iotdb/server.go and
sql.go. A place in a text is a number of characters here and a number of bytes there; the
letters whose lower case has another length in bytes are left out.
-/

namespace Onetcli.Iotdb

open Chars Text

/-! ## Paths -/

def defaultDB : Chars := "root".toList

/-- The first of schema, database and storage group that is not blank. -/
def effectivePrefix (defaultPrefix database schema : Chars) : Chars :=
  (([schema, database, defaultPrefix].map trim).find? fun text => !text.isEmpty).getD defaultDB

def relativePath (path rawPrefix : Chars) : Chars :=
  let group := trim rawPrefix
  if group.isEmpty then path else (stripPrefix (group ++ ['.']) path).getD path

/-- What a connection and a schema request say about the place of a table. -/
structure SchemaRequest where
  storageGroup : Chars
  database : Chars
  schema : Chars

def SchemaRequest.group (request : SchemaRequest) : Chars :=
  effectivePrefix request.storageGroup request.database request.schema

def objectsQuery (request : SchemaRequest) : Chars :=
  "SHOW DEVICES ".toList ++ request.group ++ ".**".toList

/-- The table names of `schema/objects`, for the devices that the query gave. -/
def objectNames (request : SchemaRequest) (devices : List Chars) : List Chars :=
  devices.map fun device => relativePath device request.group

def toLower (text : Chars) : Chars := text.map lowerRune

/-- The case folding of `strings.EqualFold`, on what folds to ASCII letters. -/
def foldRune (char : Char) : Char := if char = 'ſ' then 's' else lowerRune char

def equalFold (first second : Chars) : Bool := first.map foldRune == second.map foldRune

def isIdentifierChar (char : Char) : Bool := char == '_' || isAsciiAlphanumeric char

def isSpace (char : Char) : Bool := char == ' ' || char == '\t' || char == '\n' || char == '\r'

inductive Scan where
  | code
  | string
  | escaped
  deriving DecidableEq

def Scan.next (scan : Scan) (char : Char) (rest : Chars) : Scan :=
  match scan with
  | .code => if char = '\'' then .string else .code
  | .string =>
    if char ≠ '\'' then .string
    else if rest.head? = some '\'' then .escaped
    else .code
  | .escaped => .string

section Values

-- `isInt` or `isFloat` of a text
variable (isNumber : Chars → Bool)

def insertText (table : Chars) (columns values : List Chars) : Chars :=
  "INSERT INTO ".toList ++ table ++ "(".toList ++ (", ".toList).intercalate columns ++
    ") VALUES (".toList ++ (", ".toList).intercalate values ++ ")".toList

end Values

end Onetcli.Iotdb
