import Onetcli.Importers.TerminalClients
import Onetcli.Importers.OpenSsh
import Onetcli.Importers.DatabaseClients

/-!
Whether the ids of a preview tell its records apart. An id keeps the runs of ASCII letters
and digits of the key it is made of and nothing else of it, so two records have one id
exactly if these words are the same, and sources whose keys have the same words are mixed
up: two files with one alias, or two names that differ in punctuation.
-/

namespace Onetcli.Importers

open Chars Slugs

/-! ## Ids and words -/

theorem idWords_words {fallback : Chars} (isWord : IsWord asciiWords fallback) (value : Chars) :
    ∀ word ∈ idWords fallback value, IsWord asciiWords word :=
  namedWords_words isWord _

theorem idWords_nonempty (fallback value : Chars) : idWords fallback value ≠ [] :=
  namedWords_nonempty _ _

theorem slug_joined (fallback value : Chars) :
    slug fallback value = joined asciiWords (idWords fallback value) :=
  slug_words _ _

section Marked

variable {Item Source : Type} {source : Item → Source} {id : Item → Chars}
  {keyWords : Item → List Chars} {label : Chars} {items : List Item}

-- Ids that are written from words tell items apart as far as the words do.
theorem ids_distinguished_iff
    (written : ∀ item ∈ items, id item = label ++ joined asciiWords (keyWords item))
    (isWords : ∀ item ∈ items, ∀ word ∈ keyWords item, IsWord asciiWords word)
    (filled : ∀ item ∈ items, keyWords item ≠ []) :
    Distinguished source id items ↔ Distinguished source keyWords items := by
  apply distinguished_congr
  intro first firstIn second secondIn
  rw [written first firstIn, written second secondIn, List.append_cancel_left_eq]
  exact joined_injective (isWords first firstIn) (isWords second secondIn)
    (filled first firstIn) (filled second secondIn)

end Marked

/-! ## Xshell -/

namespace Xshell

variable (archives : Archives)

theorem session_isWord : IsWord asciiWords "session".toList := isWord_of_all rfl rfl

theorem parseSession_id {path : Chars} {bytes : List UInt8} {record : ImportRecord}
    (found : parseSession path bytes = some record) :
    record.id = "xshell:".toList ++ slug "session".toList (stem path) := by
  simp only [parseSession, Option.bind_eq_bind, Option.bind_eq_some_iff] at found
  rcases found with ⟨text, _, rest⟩
  split at rest
  · split at rest
    · cases rest
    · rcases Option.bind_eq_some_iff.mp rest with ⟨host, _, made⟩
      cases made
      rfl
  · cases rest

theorem ids_iff (sessions : List (Chars × List UInt8)) :
    Distinguished Prod.fst (fun entry => entry.2.id) (previewEntries archives sessions) ↔
      Distinguished Prod.fst (fun entry => idWords "session".toList (stem entry.1))
        (previewEntries archives sessions) := by
  apply ids_distinguished_iff
  · intro entry member
    rcases List.mem_filterMap.mp member with ⟨⟨path, bytes⟩, _, made⟩
    rcases Option.map_eq_some_iff.mp made with ⟨record, parsed, rfl⟩
    rw [parseSession_id parsed, slug_joined]
  · intro entry _
    exact idWords_words session_isWord _
  · intro entry _
    exact idWords_nonempty _ _

end Xshell

/-! ## OpenSSH -/

namespace OpenSsh

theorem host_isWord : IsWord asciiWords "host".toList := isWord_of_all rfl rfl

def entryWords (entry : Entry) : List Chars :=
  (if entry.known then ["known".toList, "hosts".toList] else []) ++
    idWords "host".toList entry.name

theorem entryWords_words (entry : Entry) : ∀ word ∈ entryWords entry, IsWord asciiWords word := by
  intro word member
  rcases List.mem_append.mp member with prefixed | named
  · split at prefixed
    · rcases List.mem_pair.mp prefixed with rfl | rfl
      · exact isWord_of_all rfl rfl
      · exact isWord_of_all rfl rfl
    · cases prefixed
  · exact idWords_words host_isWord _ word named

def Preview.Named (preview : Preview) : Prop :=
  ∀ found ∈ preview.records,
    found.2.id = "openssh-config:".toList ++ joined asciiWords (entryWords found.1)

theorem alias_id (path name : Chars) (block : HostBlock) : (blockRecord path name block).id =
      "openssh-config:".toList ++ joined asciiWords (entryWords ⟨path, false, name⟩) := by
  rw [entryWords, if_neg Bool.false_ne_true, List.nil_append, ← slug_joined]
  rfl

theorem known_id (path : Chars) (entry : KnownHostEntry) : (recordFromKnownHost path entry).id =
      "openssh-config:".toList ++
        joined asciiWords (entryWords ⟨path, true, endpointDisplay entry.host entry.port⟩) := by
  have split := @joined_append Char asciiWords ["known".toList, "hosts".toList]
    (idWords "host".toList (endpointDisplay entry.host entry.port)) (by simp)
    (idWords_nonempty _ _)
  have label : "openssh-config:known-hosts-".toList = "openssh-config:".toList ++
      (joined asciiWords ["known".toList, "hosts".toList] ++ ['-']) := by decide
  have id : (recordFromKnownHost path entry).id = "openssh-config:known-hosts-".toList ++
      slug "host".toList (endpointDisplay entry.host entry.port) := rfl
  rw [id, slug_joined, entryWords, if_pos rfl, split, label]
  simp [asciiWords]

theorem Preview.Named.add {preview : Preview} (named : preview.Named) {entry : Entry}
    {record : ImportRecord} {seen : List Chars}
    (id : record.id = "openssh-config:".toList ++ joined asciiWords (entryWords entry)) :
    Preview.Named ⟨preview.records ++ [(entry, record)], seen⟩ := by
  intro found member
  rcases List.mem_append.mp member with old | new
  · exact named found old
  · rw [List.mem_singleton.mp new]
    exact id

theorem Preview.Named.addKnown {preview : Preview} (named : preview.Named) (path : Chars)
    (entry : KnownHostEntry) : (preview.addKnown path entry).Named := by
  rw [Preview.addKnown]
  split
  · exact named
  · exact named.add (known_id path entry)

theorem Preview.Named.addConfig {preview : Preview} (named : preview.Named)
    (config : Chars × List UInt8) : (preview.addConfig config).Named := by
  rw [Preview.addConfig]
  split
  · exact named
  · split
    · exact List.foldlRecOn _ _ named fun _ before entry _ => before.addKnown config.1 entry
    · refine List.foldlRecOn _ _ named fun _ before block _ => ?_
      exact List.foldlRecOn _ _ before fun _ sofar name _ =>
        sofar.add (alias_id config.1 name block)

theorem previewEntries_named (configs : List (Chars × List UInt8)) :
    ∀ found ∈ previewEntries configs,
      found.2.id = "openssh-config:".toList ++ joined asciiWords (entryWords found.1) := by
  have start : Preview.Named {} := by rintro _ ⟨⟩
  exact List.foldlRecOn configs Preview.addConfig start fun _ before config _ =>
    before.addConfig config

theorem ids_iff (configs : List (Chars × List UInt8)) :
    Distinguished Prod.fst (fun found => found.2.id) (previewEntries configs) ↔
      Distinguished Prod.fst (fun found => entryWords found.1) (previewEntries configs) := by
  apply ids_distinguished_iff (previewEntries_named configs)
  · intro found _
    exact entryWords_words found.1
  · intro found _ empty
    exact idWords_nonempty _ _ (List.append_eq_nil_iff.mp empty).2

end OpenSsh

/-! ## TablePlus -/

namespace TablePlus

theorem connection_isWord : IsWord asciiWords "connection".toList := isWord_of_all rfl rfl

def Found.words (found : Found) : List Chars :=
  idWords "connection".toList (fileStem found.path) ++
    idWords "connection".toList found.recordKey

def Found.Named (found : Found) : Prop :=
  found.record.id = "tableplus:".toList ++ joined asciiWords found.words

theorem recordFromValue_named {path keyPath : Chars} {value : Json} {found : Found}
    (made : recordFromValue path keyPath value = some found) : found.Named := by
  simp only [recordFromValue, Option.bind_eq_bind, Option.bind_eq_some_iff] at made
  rcases made with ⟨rawType, _, databaseType, _, rest⟩
  split at rest
  · cases rest
  · cases rest
    rw [Found.Named, Found.words, joined_append (idWords_nonempty _ _) (idWords_nonempty _ _),
      slug_joined, slug_joined]
    simp [asciiWords]

mutual

theorem collectRecords_named (path keyPath : Chars) (value : Json) :
    ∀ found ∈ collectRecords path keyPath value, found.Named := by
  have own : ∀ found ∈ (recordFromValue path keyPath value).toList, found.Named := by
    intro found member
    exact recordFromValue_named (Option.mem_toList.mp member)
  match value with
  | .object fields =>
    rw [collectRecords]
    intro found member
    rcases List.mem_append.mp member with here | below
    · exact own found here
    · exact collectFields_named path keyPath fields found below
  | .array items =>
    rw [collectRecords]
    intro found member
    rcases List.mem_append.mp member with here | below
    · exact own found here
    · exact collectItems_named path keyPath 0 items found below
  | .null => exact own
  | .bool _ => exact own
  | .number _ => exact own
  | .string _ => exact own

theorem collectFields_named (path keyPath : Chars) (fields : List (Chars × Json)) :
    ∀ found ∈ collectFields path keyPath fields, found.Named := by
  match fields with
  | [] => rintro _ ⟨⟩
  | (key, child) :: rest =>
    rw [collectFields]
    intro found member
    rcases List.mem_append.mp member with here | later
    · exact collectRecords_named path _ child found here
    · exact collectFields_named path keyPath rest found later

theorem collectItems_named (path keyPath : Chars) (index : Nat) (items : List Json) :
    ∀ found ∈ collectItems path keyPath index items, found.Named := by
  match items with
  | [] => rintro _ ⟨⟩
  | child :: rest =>
    rw [collectItems]
    intro found member
    rcases List.mem_append.mp member with here | later
    · exact collectRecords_named path _ child found here
    · exact collectItems_named path keyPath (index + 1) rest found later

end

theorem ids_iff (readers : Readers) (files : List (Chars × List UInt8)) :
    Distinguished (fun found => (found.path, found.keyPath)) (fun found => found.record.id)
        (previewEntries readers files) ↔
      Distinguished (fun found => (found.path, found.keyPath)) Found.words
        (previewEntries readers files) := by
  apply ids_distinguished_iff
  · intro found member
    rcases List.mem_flatMap.mp member with ⟨⟨path, bytes⟩, _, inFile⟩
    dsimp only at inFile
    split at inFile
    · cases inFile
    · exact collectRecords_named path [] _ found inFile
  · intro found _ word member
    rcases List.mem_append.mp member with ofFile | ofKey
    · exact idWords_words connection_isWord _ word ofFile
    · exact idWords_words connection_isWord _ word ofKey
  · intro found _ empty
    exact idWords_nonempty _ _ (List.append_eq_nil_iff.mp empty).1

end TablePlus

/-! ## DBeaver -/

namespace DBeaver

open TablePlus

theorem connectionRecord_id {credentials : Option Json} {includePasswords : Bool}
    {connectionId : Chars} {connection : Json} {record : ImportRecord}
    (made : connectionRecord credentials includePasswords connectionId connection = some record) :
    record.id = "dbeaver:".toList ++ slug "connection".toList connectionId := by
  simp only [connectionRecord, Option.bind_eq_bind, Option.bind_eq_some_iff] at made
  rcases made with ⟨rawType, _, databaseType, _, rest⟩
  cases rest
  rfl

theorem ids_iff (readers : Readers) (dataSourcesJson : List UInt8)
    (credentialsJson : Option (List UInt8)) (includePasswords : Bool) :
    Distinguished Prod.fst (fun entry => entry.2.id)
        (previewEntries readers dataSourcesJson credentialsJson includePasswords) ↔
      Distinguished Prod.fst (fun entry => idWords "connection".toList entry.1)
        (previewEntries readers dataSourcesJson credentialsJson includePasswords) := by
  apply ids_distinguished_iff
  · intro entry member
    rw [previewEntries] at member
    split at member
    · cases member
    · dsimp only at member
      split at member
      · rcases List.mem_filterMap.mp member with ⟨⟨connectionId, connection⟩, _, made⟩
        rcases Option.map_eq_some_iff.mp made with ⟨record, found, rfl⟩
        rw [connectionRecord_id found, slug_joined]
      · cases member
  · intro entry _
    exact idWords_words connection_isWord _
  · intro entry _
    exact idWords_nonempty _ _

end DBeaver

/-! ## All importers -/

/-- In every preview of the four importers, records of different sources have different
ids exactly if the keys of different sources have different words. -/
theorem previews_distinct_ids_iff (archives : Xshell.Archives)
    (sessions configs files : List (Chars × List UInt8)) (readers : TablePlus.Readers)
    (jsonReaders : DBeaver.Readers) (dataSourcesJson : List UInt8)
    (credentialsJson : Option (List UInt8)) (includePasswords : Bool) :
    (Distinguished Prod.fst (fun entry => entry.2.id)
        (Xshell.previewEntries archives sessions) ↔
      Distinguished Prod.fst (fun entry => idWords "session".toList (Xshell.stem entry.1))
        (Xshell.previewEntries archives sessions)) ∧
    (Distinguished Prod.fst (fun found => found.2.id) (OpenSsh.previewEntries configs) ↔
      Distinguished Prod.fst (fun found => OpenSsh.entryWords found.1)
        (OpenSsh.previewEntries configs)) ∧
    (Distinguished (fun found => (found.path, found.keyPath)) (fun found => found.record.id)
        (TablePlus.previewEntries readers files) ↔
      Distinguished (fun found => (found.path, found.keyPath)) TablePlus.Found.words
        (TablePlus.previewEntries readers files)) ∧
    (Distinguished Prod.fst (fun entry => entry.2.id)
        (DBeaver.previewEntries jsonReaders dataSourcesJson credentialsJson includePasswords) ↔
      Distinguished Prod.fst (fun entry => idWords "connection".toList entry.1)
        (DBeaver.previewEntries jsonReaders dataSourcesJson credentialsJson
          includePasswords)) :=
  ⟨Xshell.ids_iff archives sessions, OpenSsh.ids_iff configs, TablePlus.ids_iff readers files,
    DBeaver.ids_iff jsonReaders dataSourcesJson credentialsJson includePasswords⟩

def sessionFile : List UInt8 := toUtf8 "[CONNECTION]\nHost=h\n".toList

def hostConfig : List UInt8 := toUtf8 "Host web\n".toList

/-- What a reader gives of `\x7b"driver":"mysql","host":"h"\x7d`. -/
def oneConnection : Json :=
  .object [("driver".toList, .string "mysql".toList), ("host".toList, .string "h".toList)]

def oneConnectionFile : List UInt8 :=
  toUtf8 "\x7b\"driver\":\"mysql\",\"host\":\"h\"\x7d".toList

def twoConnections : Json :=
  .object [("connections".toList,
    .object [("a b".toList, oneConnection), ("a-b".toList, oneConnection)])]

def twoConnectionsFile : List UInt8 :=
  toUtf8 ("\x7b\"connections\":\x7b" ++
    "\"a b\":\x7b\"driver\":\"mysql\",\"host\":\"h\"\x7d," ++
    "\"a-b\":\x7b\"driver\":\"mysql\",\"host\":\"h\"\x7d\x7d\x7d").toList

/-- Two sources with one id for each importer: a space and a dash in file names, one alias
in two files, two directories, a space and a dash in connection ids. -/
theorem ids_merged :
    (Xshell.previewEntries ⟨fun _ => none, fun _ => none⟩
        [("a b.xsh".toList, sessionFile), ("a-b.xsh".toList, sessionFile)]).map
          (fun entry => (entry.1, entry.2.id)) =
        [("a b.xsh".toList, "xshell:a-b".toList), ("a-b.xsh".toList, "xshell:a-b".toList)] ∧
      (OpenSsh.previewEntries
        [("first/config".toList, hostConfig), ("second/config".toList, hostConfig)]).map
          (fun found => (found.1.path, found.1.name, found.2.id)) =
        [("first/config".toList, "web".toList, "openssh-config:web".toList),
          ("second/config".toList, "web".toList, "openssh-config:web".toList)] ∧
      (TablePlus.previewEntries ⟨fun _ => some oneConnection, fun _ => none⟩
        [("first/x.json".toList, oneConnectionFile),
          ("second/x.json".toList, oneConnectionFile)]).map
          (fun found => (found.path, found.keyPath, found.record.id)) =
        [("first/x.json".toList, [], "tableplus:x-connection".toList),
          ("second/x.json".toList, [], "tableplus:x-connection".toList)] ∧
      (DBeaver.previewEntries ⟨fun _ => some twoConnections, fun _ => none⟩
        twoConnectionsFile none false).map (fun entry => (entry.1, entry.2.id)) =
        [("a b".toList, "dbeaver:a-b".toList), ("a-b".toList, "dbeaver:a-b".toList)] := by
  refine ⟨?_, ?_, ?_, ?_⟩
  · decide +kernel
  · decide +kernel
  · decide +kernel
  · decide +kernel

end Onetcli.Importers
