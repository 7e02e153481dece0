import Mathlib
import Onetcli.DbIpc.Messages

/-!
The metadata requests of the server. They read one connection: each builds a
statement from the driver's `SchemaSQL`, runs it on the pool and turns every row
into an object. None of them changes the server.
-/

namespace Onetcli.DbIpc

open Text

variable {World : Type}

structure ConnectionState (World : Type) where
  config : Config
  db : Db
  ddlSpec : DriverSpec World
  schemaSQL : SchemaSQL

/-! ## Cells -/

/-- `fmt.Sprint` of a value that is not a byte slice, `string(raw)` of one that
is; bytes that are not UTF-8 become a replacement character. -/
def SqlValue.sprint : SqlValue → String
  | .null => "<nil>"
  | .bool value => if value then "true" else "false"
  | .int value => toString value
  | .float printed _ => printed
  | .bytes raw => (String.fromUTF8? ⟨raw.toArray⟩).getD "\ufffd"
  | .text value => value
  | .other printed => printed

/-- The cell at an index; `none` when it is out of range or NULL. -/
def cellAt (values : List SqlValue) (index : Nat) : Option SqlValue :=
  match values[index]? with
  | some .null => none
  | cell => cell

def stringCell (values : List SqlValue) (index : Nat) : String :=
  match cellAt values index with
  | none => ""
  | some cell => cell.sprint

def nullableString (values : List SqlValue) (index : Nat) : Field :=
  match cellAt values index with
  | none => .missing
  | some cell => .text cell.sprint

/-- `strconv.Atoi` with its error dropped: a text that is no number is 0, and a
number out of range is the nearest 64-bit integer. -/
def atoi (text : String) : Int :=
  let clamp (value : Int) : Int := max (-(2 ^ 63)) (min value (2 ^ 63 - 1))
  let digits (chars : List Char) : Option Int :=
    if chars ≠ [] ∧ chars.all Char.isDigit then some (decimalValue chars) else none
  match text.toList with
  | '-' :: rest => clamp (-((digits rest).getD 0))
  | '+' :: rest => clamp ((digits rest).getD 0)
  | chars => clamp ((digits chars).getD 0)

def intCell (values : List SqlValue) (index : Nat) : Int :=
  match cellAt values index with
  | none => 0
  | some (.int value) => value
  | some cell => atoi cell.sprint

def parseNullable (value : String) : Bool :=
  match toUpper (trimSpace value) with
  | "N" | "NO" | "0" | "FALSE" => false
  | _ => true

def boolCell (values : List SqlValue) (index : Nat) : Bool :=
  match cellAt values index with
  | none => true
  | some (.bool value) => value
  | some cell => parseNullable cell.sprint

def splitListCell (values : List SqlValue) (index : Nat) : List String :=
  let raw := stringCell values index
  if isBlank raw then []
  else (((raw.toList.splitOn ',').map fun part => trimSpace (String.ofList part)).filter (· ≠ ""))

/-! ## Queries -/

/-- `queryObjects` and `queryObjectViewRows`, which differ in what a row becomes. -/
def queryObjects {Object : Type} (rt : Runtime World) (db : Db) (sqlText : String)
    (mapRow : List SqlValue → Object) (world : World) : World × Except String (List Object) :=
  match rt.queryDb db sqlText [] world with
  | (world, .error err) => (world, .error err)
  | (world, .ok rows) => (world, do
      let _ ← rows.columns
      let values ← rows.readAll
      pure (values.map mapRow))

/-- Run a metadata statement and answer with its objects. -/
def answerObjects {Object : Type} (rt : Runtime World) (db : Db) (sqlText : String)
    (mapRow : List SqlValue → Object) (result : List Object → Info) (world : World) :
    World × Answer :=
  match queryObjects rt db sqlText mapRow world with
  | (world, .error err) => (world, .error (refuse errSQLSyntax err))
  | (world, .ok objects) => (world, .ok (result objects))

/-- A list of objects from an optional statement; without one, `absent`. -/
def schemaList (rt : Runtime World) (conn : ConnectionState World) (sqlText : Option String)
    (absent : List SchemaObject) (mapRow : List SqlValue → SchemaObject) (world : World) :
    World × Answer :=
  match sqlText with
  | none => (world, .ok (.objects absent))
  | some sqlText => answerObjects rt conn.db sqlText mapRow .objects world

def viewRows (rt : Runtime World) (conn : ConnectionState World) (title : String)
    (absentColumns columns : List (String × String)) (sqlText : Option String)
    (absent : List (List String)) (mapRow : List SqlValue → List String) (world : World) :
    World × Answer :=
  match sqlText with
  | none => (world, .ok (.objectView title absentColumns absent))
  | some sqlText => answerObjects rt conn.db sqlText mapRow (.objectView title columns) world

def missingParameter (name : String) : ProtocolError :=
  refuse errInvalidParams ("missing required parameter `" ++ name ++ "`")

/-! ## The handlers of single connections -/

def handleSchemaDatabases (rt : Runtime World) (conn : ConnectionState World) (world : World) :
    World × Answer :=
  let sqlText := (conn.schemaSQL.databases.map fun build => build conn.config).filter (· ≠ "")
  schemaList rt conn sqlText [[("name", .text conn.config.database)]]
    (fun cols => [("name", .text (stringCell cols 0))]) world

def handleSchemaSchemas (rt : Runtime World) (conn : ConnectionState World) (p : SchemaParams)
    (world : World) : World × Answer :=
  schemaList rt conn (conn.schemaSQL.schemas.map fun build => build conn.config p.database)
    [[("name", .text conn.config.username)]]
    (fun cols => [("name", .text (stringCell cols 0)), ("owner", .text (stringCell cols 1))]) world

def handleSchemaObjects (rt : Runtime World) (conn : ConnectionState World) (p : SchemaParams)
    (world : World) : World × Answer :=
  schemaList rt conn
    (conn.schemaSQL.objects.map fun build => build conn.config p.database p.schema p.kinds) []
    (fun cols => [("name", .text (stringCell cols 0)), ("kind", .text (stringCell cols 1)),
      ("comment", .text (stringCell cols 2)), ("schema", .text (stringCell cols 3))]) world

def handleSchemaColumns (rt : Runtime World) (conn : ConnectionState World) (p : SchemaParams)
    (world : World) : World × Answer :=
  if p.table = "" then (world, .error (missingParameter "table")) else
    schemaList rt conn
      (conn.schemaSQL.columns.map fun build => build conn.config p.database p.schema p.table) []
      (fun cols => [("ordinal", .number (intCell cols 0 % 2 ^ 32)),
        ("name", .text (stringCell cols 1)), ("type", .text (stringCell cols 2)),
        ("raw_type", .text (stringCell cols 2)), ("nullable", .flag (boolCell cols 3)),
        ("default", nullableString cols 4), ("is_primary", .flag false),
        ("is_unique", .flag false), ("comment", .text (stringCell cols 5))]) world

def handleSchemaIndexes (rt : Runtime World) (conn : ConnectionState World) (p : SchemaParams)
    (world : World) : World × Answer :=
  if p.table = "" then (world, .error (missingParameter "table")) else
    schemaList rt conn
      (conn.schemaSQL.indexes.map fun build => build conn.config p.database p.schema p.table) []
      (fun cols => [("name", .text (stringCell cols 0)), ("columns", .texts (splitListCell cols 1)),
        ("is_unique", .flag (boolCell cols 2)), ("is_primary", .flag (boolCell cols 3)),
        ("kind", .text (stringCell cols 4)), ("type", .text (stringCell cols 4))]) world

def handleSchemaForeignKeys (rt : Runtime World) (conn : ConnectionState World)
    (p : SchemaParams) (world : World) : World × Answer :=
  if p.table = "" then (world, .error (missingParameter "table")) else
    schemaList rt conn
      (conn.schemaSQL.foreignKeys.map fun build => build conn.config p.database p.schema p.table) []
      (fun cols => [("name", .text (stringCell cols 0)),
        ("from_columns", .texts (splitListCell cols 1)), ("columns", .texts (splitListCell cols 1)),
        ("referenced_schema", .text (stringCell cols 2)), ("to_table", .text (stringCell cols 3)),
        ("referenced_table", .text (stringCell cols 3)),
        ("to_columns", .texts (splitListCell cols 4)),
        ("referenced_columns", .texts (splitListCell cols 4)),
        ("on_update", .text (stringCell cols 5)), ("on_delete", .text (stringCell cols 6))]) world

def handleSchemaViews (rt : Runtime World) (conn : ConnectionState World) (p : SchemaParams)
    (world : World) : World × Answer :=
  schemaList rt conn
    (conn.schemaSQL.views.map fun build => build conn.config p.database p.schema) []
    (fun cols =>
      let isMaterialized := boolCell cols 3
      [("name", .text (stringCell cols 0)), ("schema", .text (stringCell cols 1)),
        ("kind", .text (if isMaterialized then "materialized_view" else "view")),
        ("definition_sql", .text (stringCell cols 4)), ("comment", .text (stringCell cols 2)),
        ("is_materialized", .flag isMaterialized)]) world

def handleSchemaFunctions (rt : Runtime World) (conn : ConnectionState World) (p : SchemaParams)
    (world : World) : World × Answer :=
  schemaList rt conn
    (conn.schemaSQL.functions.map fun build => build conn.config p.database p.schema) []
    (fun cols => [("name", .text (stringCell cols 0)), ("schema", .text (stringCell cols 1)),
      ("return_type", nullableString cols 2), ("returns", .text (stringCell cols 2)),
      ("language", .text (stringCell cols 3)), ("comment", .text (stringCell cols 4))]) world

def handleSchemaProcedures (rt : Runtime World) (conn : ConnectionState World) (p : SchemaParams)
    (world : World) : World × Answer :=
  schemaList rt conn
    (conn.schemaSQL.procedures.map fun build => build conn.config p.database p.schema) []
    (fun cols => [("name", .text (stringCell cols 0)), ("schema", .text (stringCell cols 1)),
      ("return_type", nullableString cols 2), ("language", .text (stringCell cols 3)),
      ("comment", .text (stringCell cols 4))]) world

def handleSchemaTriggers (rt : Runtime World) (conn : ConnectionState World) (p : SchemaParams)
    (world : World) : World × Answer :=
  schemaList rt conn
    (conn.schemaSQL.triggers.map fun build => build conn.config p.database p.schema p.table) []
    (fun cols => [("name", .text (stringCell cols 0)), ("table", .text (stringCell cols 1)),
      ("timing", .text (stringCell cols 2)), ("event", .text (stringCell cols 3)),
      ("definition", nullableString cols 4)]) world

def handleSchemaSequences (rt : Runtime World) (conn : ConnectionState World) (p : SchemaParams)
    (world : World) : World × Answer :=
  schemaList rt conn
    (conn.schemaSQL.sequences.map fun build => build conn.config p.database p.schema) []
    (fun cols => [("name", .text (stringCell cols 0)), ("min_value", .number (intCell cols 1)),
      ("max_value", .number (intCell cols 2)), ("increment", .number (intCell cols 3)),
      ("current_value", .number (intCell cols 4)), ("cycle", .flag (boolCell cols 6))]) world

def handleSchemaViewDefinition (rt : Runtime World) (conn : ConnectionState World)
    (p : SchemaParams) (world : World) : World × Answer :=
  if p.view = "" then (world, .error (missingParameter "view")) else
    match conn.schemaSQL.viewDefinition with
    | none => (world, .ok (.viewDefinition "" false))
    | some build =>
      answerObjects rt conn.db (build conn.config p.database p.schema p.view)
        (fun cols => (stringCell cols 0, boolCell cols 1))
        (fun rows => .viewDefinition (String.join (rows.map Prod.fst)) (rows.any Prod.snd)) world

def isTableKind (kind : String) : Bool :=
  match toLower (trimSpace kind) with
  | "table" | "base_table" => true
  | _ => false

def dumpObjects (rt : Runtime World) (conn : ConnectionState World)
    (dumpDDL : Config → String → String → String → String) :
    List DumpObject → List String → World → World × List String
  | [], statements, world => (world, statements)
  | object :: rest, statements, world =>
    let sqlText := dumpDDL conn.config object.database object.schema object.name
    if !isTableKind object.kind || isBlank object.name || isBlank sqlText then
      dumpObjects rt conn dumpDDL rest statements world
    else
      match queryObjects rt conn.db sqlText
          (fun cols => if cols = [] then "" else stringCell cols (cols.length - 1)) world with
      | (world, .error _) => (world, [])
      | (world, .ok rows) =>
        dumpObjects rt conn dumpDDL rest (statements ++ rows.filter (!isBlank ·)) world

def handleSchemaDumpDDL (rt : Runtime World) (conn : ConnectionState World) (p : DumpParams)
    (world : World) : World × Answer :=
  match conn.schemaSQL.dumpDDL with
  | none => (world, .ok (.statements none [] [] []))
  | some dumpDDL =>
    let answer := dumpObjects rt conn dumpDDL p.objects [] world
    (answer.1, .ok (.statements none answer.2 [] []))

/-! ## Object views -/

def listColumns : List (String × String) :=
  [("name", "Name"), ("kind", "Kind"), ("comment", "Comment")]

def handleObjectListView (rt : Runtime World) (conn : ConnectionState World) (p : SchemaParams)
    (title : String) (kinds : List String) (world : World) : World × Answer :=
  viewRows rt conn title listColumns listColumns
    (conn.schemaSQL.objects.map fun build => build conn.config p.database p.schema kinds) []
    (fun cols => [stringCell cols 0, stringCell cols 1, stringCell cols 2]) world

/-- Keys and titles of the columns; their widths and alignment are left out. -/
def columnObjectViewColumns : List (String × String) :=
  [("name", "Field"), ("type", "Type"), ("nullable", "Null?"), ("default", "Default"),
    ("comment", "Comment")]

def indexObjectViewColumns : List (String × String) :=
  [("name", "Name"), ("columns", "Columns"), ("unique", "Unique?"), ("primary", "Primary?"),
    ("type", "Type")]

def handleSchemaObjectView (rt : Runtime World) (conn : ConnectionState World) (p : SchemaParams)
    (world : World) : World × Answer :=
  let sql := conn.schemaSQL
  let cells (indexes : List Nat) (cols : List SqlValue) := indexes.map (stringCell cols)
  let shown (value : Bool) := if value then "true" else "false"
  match p.view with
  | "databases" => viewRows rt conn "Databases" [("name", "Name")] [("name", "Name")]
      (sql.databases.map fun build => build conn.config) [[conn.config.database]]
      (cells [0]) world
  | "schemas" => viewRows rt conn "Schemas" [("name", "Name")]
      [("name", "Name"), ("owner", "Owner")]
      (sql.schemas.map fun build => build conn.config p.database) [[conn.config.username]]
      (cells [0, 1]) world
  | "tables" => handleObjectListView rt conn p "Tables" ["table"] world
  | "views" => viewRows rt conn "Views" listColumns listColumns
      (sql.views.map fun build => build conn.config p.database p.schema) [] (cells [0, 1, 2]) world
  | "columns" =>
    if p.table = "" then (world, .error (missingParameter "table")) else
      viewRows rt conn "Columns" columnObjectViewColumns columnObjectViewColumns
        (sql.columns.map fun build => build conn.config p.database p.schema p.table) []
        (fun cols => [stringCell cols 1, stringCell cols 2, shown (boolCell cols 3),
          stringCell cols 4, ""]) world
  | "indexes" =>
    if p.table = "" then (world, .error (missingParameter "table")) else
      viewRows rt conn "Indexes" indexObjectViewColumns indexObjectViewColumns
        (sql.indexes.map fun build => build conn.config p.database p.schema p.table) []
        (fun cols => [stringCell cols 0, String.intercalate ", " (splitListCell cols 1),
          shown (boolCell cols 2), shown (boolCell cols 3), stringCell cols 4]) world
  | "functions" =>
    let columns := [("name", "Name"), ("returns", "Returns"), ("language", "Language"),
      ("comment", "Comment")]
    viewRows rt conn "Functions" columns columns
      (sql.functions.map fun build => build conn.config p.database p.schema) []
      (cells [0, 2, 3, 4]) world
  | "procedures" =>
    let columns := [("name", "Name"), ("status", "Status"), ("created", "Created"),
      ("modified", "Modified")]
    viewRows rt conn "Procedures" columns columns
      (sql.procedures.map fun build => build conn.config p.database p.schema) []
      (cells [0, 5, 6, 7]) world
  | "triggers" =>
    let columns := [("name", "Name"), ("table", "Table"), ("event", "Event"), ("type", "Type"),
      ("status", "Status")]
    viewRows rt conn "Triggers" columns columns
      (sql.triggers.map fun build => build conn.config p.database p.schema p.table) []
      (cells [0, 1, 3, 2, 5]) world
  | "sequences" =>
    let columns := [("name", "Name"), ("min", "Min"), ("max", "Max"), ("increment", "Increment"),
      ("last", "Last Value"), ("cache", "Cache"), ("cycle", "Cycle")]
    viewRows rt conn "Sequences" columns columns
      (sql.sequences.map fun build => build conn.config p.database p.schema) []
      (cells [0, 1, 2, 3, 4, 5, 6]) world
  | view => (world, .error (refuse errNotSupported ("unsupported object view " ++ quoted view)))

/-- The `schema/` request on a known connection. -/
def handleSchema (rt : Runtime World) (conn : ConnectionState World) (p : SchemaParams)
    (call : SchemaCall) (world : World) : World × Answer :=
  match call with
  | .objectView => handleSchemaObjectView rt conn p world
  | .databases => handleSchemaDatabases rt conn world
  | .schemas => handleSchemaSchemas rt conn p world
  | .objects => handleSchemaObjects rt conn p world
  | .columns => handleSchemaColumns rt conn p world
  | .indexes => handleSchemaIndexes rt conn p world
  | .foreignKeys => handleSchemaForeignKeys rt conn p world
  | .views => handleSchemaViews rt conn p world
  | .functions => handleSchemaFunctions rt conn p world
  | .procedures => handleSchemaProcedures rt conn p world
  | .triggers => handleSchemaTriggers rt conn p world
  | .sequences => handleSchemaSequences rt conn p world
  | .viewDefinition => handleSchemaViewDefinition rt conn p world
  -- `handleEmptySchemaList`
  | .checks | .types => (world, .ok (.objects []))

end Onetcli.DbIpc
