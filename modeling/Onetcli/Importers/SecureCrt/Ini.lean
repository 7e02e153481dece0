import Onetcli.Importers.SecureCrt.Model

/-!
The INI files of SecureCRT, ini.rs and button_bar.rs: sessions and credentials as fields,
lists of folders, and lists of buttons.
-/

namespace Onetcli.Importers.SecureCrt

open Chars

/-! ## Values -/

def isAsciiHexdigit (char : Char) : Bool :=
  isAsciiDigit char || (97 ≤ char.toNat && char.toNat ≤ 102) ||
    (65 ≤ char.toNat && char.toNat ≤ 70)

def hexNibble (char : Char) : Nat :=
  if isAsciiDigit char then char.toNat - 48
  else if 97 ≤ char.toNat && char.toNat ≤ 102 then char.toNat - 97 + 10
  else if 65 ≤ char.toNat && char.toNat ≤ 70 then char.toNat - 65 + 10
  else 0

/-- `from_str_radix` with 16 on `u32`: digits, with a plus sign in front or not. -/
def parseHex (text : Chars) : Option Nat :=
  let digits := match text with
    | '+' :: rest => rest
    | _ => text
  if digits.isEmpty || !digits.all isAsciiHexdigit then none
  else
    let value := digits.foldl (fun value digit => value * 16 + hexNibble digit) 0
    if value < 2 ^ 32 then some value else none

/-- The bytes of pairs of hexadecimal digits. -/
def hexBytes : Chars → List UInt8
  | high :: low :: rest => UInt8.ofNat (hexNibble high * 16 + hexNibble low) :: hexBytes rest
  | _ => []

def trimEndMatches (removed : Char) (text : Chars) : Chars :=
  (text.reverse.dropWhile (· == removed)).reverse

def decodeValue (rawValue : Chars) : Chars :=
  let value := trim rawValue
  match splitWhitespace value with
  | [] => []
  | [_length, hex] =>
    if hex.length % 2 ≠ 0 || !hex.all isAsciiHexdigit then value
    else
      let bytes := hexBytes hex
      if bytes.length % 2 ≠ 0 then value
      else
        trimEndMatches '\x00' ((decodeUtf16 (utf16Units true bytes)).getD value)
  | _ => value

/-! ## Fields -/

def parseField (rawLine : Chars) : Option (Chars × Chars) := do
  let (rawKey, value) ← splitOnce (· == '=') (trim rawLine)
  let quoted ← (stripPrefix "S:\"".toList (trim rawKey)).or
    (stripPrefix "D:\"".toList (trim rawKey))
  let key ← stripSuffix ['"'] quoted
  some (toAsciiLowercase key, decodeValue value)

def parseFields (text : Chars) : Fields := ((lines text).filterMap parseField).reverse

/-! ## Sessions -/

def parseHexPort (value : Chars) : Option Nat := (parseHex (trim value)).bind u16OfU64

def portInvalid (sourceId : Chars) : ImportWarning :=
  warning "securecrt_ssh_port_invalid"
    ("A SecureCRT SSH session had an invalid port and defaulted to 22: ".toList ++ sourceId)

def portOf (parse : Chars → Option Nat) (fields : Fields) (sourceId : Chars) :
    List Chars → Option Nat × List ImportWarning
  | [] => (some 22, [])
  | key :: rest =>
    match fields.lookup key with
    | none => portOf parse fields sourceId rest
    | some value =>
      match parse value with
      | some port => (some port, [])
      | none => (some 22, [portInvalid sourceId])

def protocolPort (fields : Fields) (protocol sourceId : Chars) :
    Option Nat × List ImportWarning :=
  portOf parseHexPort fields sourceId
    ['[' :: toAsciiLowercase protocol ++ "] port".toList, "port".toList]

def stripIni (name : Chars) : Chars :=
  ((stripSuffix ".ini".toList name).or (stripSuffix ".INI".toList name)).getD name

def sessionName (path : Chars) : Chars := stripIni (lastPart isSlash path)

def parseSession (path text : Chars) (credentials : List (Chars × CredentialMetadata)) :
    Option ImportRecord × List ImportWarning :=
  let fields := enrichFromCredential (parseFields text) credentials
  let protocol := (field fields "Protocol Name".toList).getD []
  let sourceId := replaceChar '\\' '/' path
  let port := protocolPort fields protocol sourceId
  let made := sshRecord sourceId (sessionFileGroupPath path) (sessionName path) fields port.1
  (made.1, port.2 ++ made.2)

/-! ## Folders -/

def listKeyName (key : Chars) : Option Chars :=
  (splitOnceText ":\"".toList (trim key)).bind fun parts => stripSuffix ['"'] parts.2

def charsLe (first second : Chars) : Bool :=
  decide (first.map Char.toNat ≤ second.map Char.toNat)

def folderNames : List Chars → List Chars
  | [] => []
  | rawLine :: rest =>
    match splitOnce (· == '=') (trim (rawLine.dropWhile (· == '\ufeff'))) with
    | none => folderNames rest
    | some (key, count) =>
      match listKeyName key with
      | none => folderNames rest
      | some keyName =>
        if !eqIgnoreAsciiCase keyName "Folder List V2".toList then folderNames rest
        else
          match parseHex (trim count) with
          | none => []
          | some count =>
            (((rest.take (min count 4096)).filterMap normalizeWorkspacePath).dedup).mergeSort
              charsLe

def parseFolderNames (text : Chars) : List Chars := folderNames (lines text)

/-! ## Buttons -/

structure CsvReader where
  fields : List Chars := []
  current : Chars := []
  quoted : Bool := false
  /-- Whether the next character is the second quote of a doubled one. -/
  skip : Bool := false

def CsvReader.ended (reader : CsvReader) : List Chars := reader.fields ++ [trim reader.current]

def CsvReader.read (reader : CsvReader) : Chars → List Chars
  | [] => reader.ended
  | char :: rest =>
    if reader.skip then ({ reader with skip := false } : CsvReader).read rest
    else if char = '"' ∧ reader.quoted = true ∧ rest.head? = some '"' then
      ({ reader with current := reader.current ++ ['"'], skip := true } : CsvReader).read rest
    else if char = '"' then ({ reader with quoted := !reader.quoted } : CsvReader).read rest
    else if char = ',' ∧ reader.quoted = false then
      ({ reader with fields := reader.ended, current := [] } : CsvReader).read rest
    else ({ reader with current := reader.current ++ [char] } : CsvReader).read rest

def parseCsvFields (line : Chars) : List Chars := CsvReader.read {} line

def parseGroupName (line : Chars) : Option Chars :=
  (stripPrefix "Z:\"".toList line).bind fun rest =>
    (splitOnceText "\"=".toList rest).bind fun parts => nonEmpty (some parts.1)

def isAsciiAlphabetic (char : Char) : Bool :=
  (65 ≤ char.toNat && char.toNat ≤ 90) || (97 ≤ char.toNat && char.toNat ≤ 122)

def isIniMetadataLine (line : Chars) : Bool :=
  match line with
  | start :: ':' :: '"' :: _ =>
    isAsciiAlphabetic start && (splitOnceText "\"=".toList line).isSome
  | _ => false

def fallbackGroupName (path : Chars) : Chars :=
  (commandManagerFolder path).getD (stripIni (lastPart isSlash path))

def escapeOf (char : Char) : Option Chars :=
  if char = 'r' ∨ char = 'R' then some ['\r']
  else if char = 'p' ∨ char = 'P' then some ['\\', 'p']
  else none

/-- One or two backslashes before an `r` or a `p` are an escape. -/
def decodeCommand : Chars → Chars
  | '\\' :: '\\' :: char :: rest =>
    match escapeOf char with
    | some decoded => decoded ++ decodeCommand rest
    | none => '\\' :: decodeCommand ('\\' :: char :: rest)
  | '\\' :: char :: rest =>
    match escapeOf char with
    | some decoded => decoded ++ decodeCommand rest
    | none => '\\' :: decodeCommand (char :: rest)
  | char :: rest => char :: decodeCommand rest
  | [] => []

def i32Max : Nat := 2147483647

structure ButtonReader where
  groupName : Chars
  records : List ImportRecord := []
  warnings : List ImportWarning := []

def ButtonReader.readButton (path : Chars) (reader : ButtonReader) (line : Chars) :
    ButtonReader :=
  match parseCsvFields line with
  | [] => reader
  | action :: fields =>
    if action.isEmpty then reader
    else if !eqIgnoreAsciiCase action "SEND".toList then
      { reader with warnings := reader.warnings ++
          [warning "securecrt_button_action_not_imported"
            ("A non-SEND action in SecureCRT quick commands ".toList ++ reader.groupName ++
              " was skipped.".toList)] }
    else
      let command := fields[0]?.getD []
      if command.isEmpty then reader
      else
        let name := ((fields[1]?).filter fun value => !value.isEmpty).getD "Command".toList
        let sortOrder := min reader.records.length i32Max
        let sourceId := path ++ '#' :: reader.groupName ++ '/' :: (toString sortOrder).toList
        { reader with records := reader.records ++
            [quickCommandRecord sourceId reader.groupName name (decodeCommand command)
              sortOrder] }

def ButtonReader.read (path : Chars) (reader : ButtonReader) (rawLine : Chars) : ButtonReader :=
  let line := trim rawLine
  if line.isEmpty then reader
  else
    match parseGroupName line with
    | some name => { reader with groupName := quickCommandGroupName path name }
    | none => if isIniMetadataLine line then reader else reader.readButton path line

def parseButtonBar (path text : Chars) : List ImportRecord × List ImportWarning :=
  let reader := (lines text).foldl (ButtonReader.read path) { groupName := fallbackGroupName path }
  (reader.records, reader.warnings)

end Onetcli.Importers.SecureCrt
