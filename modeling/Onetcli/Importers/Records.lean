import Onetcli.Lib.Chars
import Onetcli.Lib.Slugs

/-!
What the importers of connections share: the records of a preview, the ids they make of
names, and JSON. Every importer has its own copy of these in the source. Fields that no
importer of this development sets (port forwarding, jump servers, proxies) are left out.
-/

namespace Onetcli.Importers

open Chars Slugs

structure ImportWarning where
  code : Chars
  message : Chars
  deriving DecidableEq

inductive SshImportAuthMethod where
  | password (password : Option Chars)
  | privateKey (keyPath : Chars) (passphrase : Option Chars)
  | agent
  | autoPublicKey
  deriving DecidableEq

structure SshImportRecord where
  name : Chars
  host : Chars
  port : Option Nat
  username : Chars
  groupPath : Option Chars := none
  authMethod : SshImportAuthMethod
  initScript : Option Chars := none
  deriving DecidableEq

structure DatabaseImportRecord where
  databaseType : Chars
  name : Chars
  host : Chars
  port : Option Nat
  username : Chars
  password : Option Chars
  database : Option Chars
  deriving DecidableEq

structure ImportRecord where
  id : Chars
  importerId : Chars
  sourceLabel : Chars
  sourceId : Option Chars := none
  kind : Chars
  displayName : Chars
  database : Option DatabaseImportRecord := none
  ssh : Option SshImportRecord := none
  passwordStatus : Chars
  warnings : List ImportWarning := []
  deriving DecidableEq

/-! ## Ids -/

/-- `char::to_lowercase` as far as the result has ASCII letters or digits; two letters
outside ASCII have one, and the rest stays outside. -/
def toLowercase (char : Char) : Chars :=
  if char = '\u212a' then ['k']
  else if char = 'İ' then ['i', '\u0307']
  else [char.toLower]

def asciiWords : Alphabet Char := ⟨isAsciiAlphanumeric, '-', rfl⟩

/-- The id of a text; `fallback` is that of a text without ASCII letters and digits. -/
def slug (fallback : Chars) (value : Chars) : Chars :=
  Slugs.slug asciiWords fallback (value.flatMap toLowercase)

/-- The runs of ASCII letters and digits in the text in lower case. -/
def idWords (fallback : Chars) (value : Chars) : List Chars :=
  namedWords asciiWords fallback (value.flatMap toLowercase)

theorem slug_inj {fallback : Chars} (isWord : IsWord asciiWords fallback) (first second : Chars) :
    slug fallback first = slug fallback second ↔ idWords fallback first = idWords fallback second :=
  slug_eq_iff isWord _ _

/-! ## Texts of files -/

def nonEmpty (value : Option Chars) : Option Chars :=
  (value.map trim).filter fun value => !value.isEmpty

theorem nonEmpty_of_blank {text : Chars} (blank : Blank text) : nonEmpty (some text) = none := by
  simp [nonEmpty, trim_blank blank]

theorem nonEmpty_of_filled {text : Chars} (filled : ¬Blank text) :
    nonEmpty (some text) = some (trim text) := by
  have some : trim text ≠ [] := fun empty => filled (trim_eq_nil_iff.mp empty)
  simpa [nonEmpty] using some

def hasExtension (path extension : Chars) : Bool :=
  match rsplitOnce (· == '.') path with
  | some (_, suffix) => eqIgnoreAsciiCase suffix extension
  | none => false

def decodeUtf16Units (bytes : List UInt8) (lowFirst : Bool) : Option Chars :=
  if bytes.length % 2 = 0 then decodeUtf16 (utf16Units lowFirst bytes) else none

def decodeText (bytes : List UInt8) : Option Chars :=
  match bytes with
  | 0xff :: 0xfe :: rest => decodeUtf16Units rest true
  | 0xfe :: 0xff :: rest => decodeUtf16Units rest false
  | _ => (fromUtf8 bytes).map fun text => text.dropWhile (· == '\ufeff')

/-! ## JSON -/

/-- A number is known by what `as_u64` gives of it. -/
inductive Json where
  | null
  | bool (value : Bool)
  | number (asU64 : Option Nat)
  | string (text : Chars)
  | array (items : List Json)
  | object (fields : List (Chars × Json))

def Json.asString : Json → Option Chars
  | .string text => some text
  | _ => none

def Json.get (value : Json) (key : Chars) : Option Json :=
  match value with
  | .object fields => (fields.find? fun field => field.1 == key).map Prod.snd
  | _ => none

def u16OfU64 (value : Nat) : Option Nat := if value < 65536 then some value else none

end Onetcli.Importers

/-!
What the importers of XML files get from their reader, quick-xml: a list of events. The
reader, and how it unescapes a text, are parameters.
-/

namespace Onetcli.Importers

open Chars

/-- An event of the reader. The value of an attribute may not be readable; `other` stands
for comments, declarations and sections of characters. -/
inductive XmlEvent where
  | start (tag : Chars) (attributes : List (Chars × Option Chars))
  | empty (tag : Chars) (attributes : List (Chars × Option Chars))
  | text (content : Chars)
  | reference (name : Chars)
  | finish (tag : Chars)
  | other

/-- What the reader gives of a text: the events, and whether an error ends them. -/
structure XmlReading where
  events : List XmlEvent
  failed : Bool

structure XmlLibrary where
  read : Chars → XmlReading
  unescape : Chars → Option Chars

def tagName (raw : Chars) : Chars := toAsciiLowercase (lastPart (· == ':') raw)

def XmlLibrary.textOf (library : XmlLibrary) (content : Chars) : Chars :=
  (library.unescape content).getD content

end Onetcli.Importers
