import Onetcli.Lib.Text

/-!
The driver description of internal/dbipc/config.go and the host version check of
internal/dbipc/host_version.go. `World` is the outside of the driver process: the
two hooks of a driver that may talk to a server take it and return it.
-/

namespace Onetcli.DbIpc

open Text

/-- A `*sql.DB`. -/
abbrev Db := Nat

structure Config where
  host : String
  port : Int
  username : String
  password : String
  database : String
  service : String
  sid : String
  protocol : String
  extra : List (String × String)

/-- The metadata statements of a driver; `none` is a nil function field. -/
structure SchemaSQL where
  databases : Option (Config → String) := none
  schemas : Option (Config → String → String) := none
  objects : Option (Config → String → String → List String → String) := none
  columns : Option (Config → String → String → String → String) := none
  indexes : Option (Config → String → String → String → String) := none
  foreignKeys : Option (Config → String → String → String → String) := none
  views : Option (Config → String → String → String) := none
  functions : Option (Config → String → String → String) := none
  procedures : Option (Config → String → String → String) := none
  triggers : Option (Config → String → String → String → String) := none
  sequences : Option (Config → String → String → String) := none
  viewDefinition : Option (Config → String → String → String → String) := none
  dumpDDL : Option (Config → String → String → String → String) := none

/-- `DumpDDL` is not among the fields the source looks at. -/
def schemaSQLIsEmpty (schemaSQL : SchemaSQL) : Bool :=
  schemaSQL.databases.isNone && schemaSQL.schemas.isNone && schemaSQL.objects.isNone &&
    schemaSQL.columns.isNone && schemaSQL.indexes.isNone && schemaSQL.foreignKeys.isNone &&
    schemaSQL.views.isNone && schemaSQL.functions.isNone && schemaSQL.procedures.isNone &&
    schemaSQL.triggers.isNone && schemaSQL.sequences.isNone && schemaSQL.viewDefinition.isNone

abbrev AdaptSchemaSQL (World : Type) :=
  Db → SchemaSQL → World → World × Except String SchemaSQL

structure ConnectionSpec (World : Type) where
  driverName : String
  dsn : String
  identifierQuoteLeft : String := ""
  identifierQuoteRight : String := ""
  schemaSQL : SchemaSQL := {}
  adaptSchemaSQL : Option (AdaptSchemaSQL World) := none

structure DriverSpec (World : Type) where
  id : String
  name : String
  sqlDriverName : String
  identifierQuoteLeft : String
  identifierQuoteRight : String
  supportsComments : Bool
  buildDSN : Config → Except String String
  resolveConnection : Option (Config → World → World × Except String (ConnectionSpec World)) := none
  schemaSQL : SchemaSQL := {}
  adaptSchemaSQL : Option (AdaptSchemaSQL World) := none

section HostVersion

def minimumHostVersion : String := "0.10.0"

/-- `req.Params` of `init`: nothing or `null`, undecodable, or decoded. -/
inductive InitParams where
  | absent
  | invalid (cause : String)
  | decoded (hostVersion : String)

def isIdentifierChar (c : Char) : Bool := c.isDigit || c.isAlpha || c == '-'

/-- `(0|[1-9][0-9]*)` at the front, with the rest. -/
def numericIdentifier (chars : List Char) : Option (List Char × List Char) :=
  match chars.takeWhile Char.isDigit, chars.dropWhile Char.isDigit with
  | [], _ => none
  | ['0'], rest => some (['0'], rest)
  | first :: digits, rest => if first = '0' then none else some (first :: digits, rest)

/-- `[0-9A-Za-z-]+(\.[0-9A-Za-z-]+)*` over the whole text. -/
def isDotted (chars : List Char) : Bool :=
  (chars.splitOn '.').all fun part => !part.isEmpty && part.all isIdentifierChar

/-- What follows the patch number: pre-release text (empty when absent), or a
mismatch. Neither part contains a `+`. -/
def semverSuffix (chars : List Char) : Option String :=
  let release := chars.takeWhile (· != '+')
  let build := chars.dropWhile (· != '+')
  let buildMatches := match build with
    | [] => true
    | _ :: metadata => isDotted metadata
  if !buildMatches then none else
    match release with
    | [] => some ""
    | '-' :: prerelease =>
      if isDotted prerelease then some (String.ofList prerelease) else none
    | _ => none

def decimalValue (digits : List Char) : Nat :=
  digits.foldl (fun value c => value * 10 + (c.toNat - 48)) 0

/-- `strconv.ParseInt(text, 10, 32)` on a text of digits. -/
def parseInt32 (digits : List Char) : Option Nat :=
  if decimalValue digits < 2 ^ 31 then some (decimalValue digits) else none

/-- Major and minor number and the pre-release text. -/
def parseSemver (value : String) : Option (Nat × Nat × String) :=
  match numericIdentifier value.toList with
  | some (major, '.' :: afterMajor) =>
    match numericIdentifier afterMajor with
    | some (minor, '.' :: afterMinor) =>
      match numericIdentifier afterMinor with
      | some (patch, suffix) =>
        match semverSuffix suffix, parseInt32 major, parseInt32 minor, parseInt32 patch with
        | some prerelease, some major, some minor, some _ => some (major, minor, prerelease)
        | _, _, _, _ => none
      | _ => none
    | _ => none
  | _ => none

def validateHostVersion : InitParams → Option String
  | .absent =>
    some ("this driver requires Navop >= " ++ minimumHostVersion ++ "; host_version is missing")
  | .invalid cause => some ("invalid init params: " ++ cause)
  | .decoded hostVersion =>
    match parseSemver hostVersion with
    | none => some ("this driver requires Navop >= " ++ minimumHostVersion ++
        "; invalid host_version " ++ quoted hostVersion)
    | some (major, minor, prerelease) =>
      if prerelease ≠ "" ∨ (major = 0 ∧ minor < 10) then
        some ("this driver requires Navop >= " ++ minimumHostVersion ++
          "; current host version is " ++ hostVersion ++ ". Please upgrade Navop")
      else none

end HostVersion

end Onetcli.DbIpc
