import Onetcli.Importers.SecureCrt.ButtonBars
import Onetcli.Lib.Admission

/-!
The buttons of an export in the preview of it. Every button that sends a command has its
quick command, in order and under an id of its own, exactly if it is reached, the ids tell
the buttons apart, and there are not more of them than a sort order can count.
-/

namespace Onetcli.Importers.SecureCrt

open Chars Nesting Occurrences Admission

/-! ## Ids of buttons -/

/-- A place as its id spells it, without the number. -/
def Place.spelled (place : Place) : Chars := place.bar ++ '/' :: place.button.key.name

def Place.Mimics (second first : Place) : Prop :=
  first.number ≠ 1 ∧ second.number = 1 ∧
    second.spelled = first.spelled ++ '~' :: digits first.number

/-- Two places that their ids do not tell apart. -/
def Place.Clash (first second : Place) : Prop :=
  (first.spelled = second.spelled ∧ first.number = second.number) ∨
    first.Mimics second ∨ second.Mimics first

instance (second first : Place) : Decidable (second.Mimics first) :=
  inferInstanceAs (Decidable (_ ∧ _ ∧ _))

instance (first second : Place) : Decidable (first.Clash second) :=
  inferInstanceAs (Decidable (_ ∨ _ ∨ _))

theorem sourceId_spelled (path : Chars) (place : Place) : place.sourceId path =
      path ++ ("#Button Bar/".toList ++ marked '~' place.spelled place.number) := by
  have inside : place.bar ++ '/' :: marked '~' place.button.key.name place.number =
      marked '~' place.spelled place.number := by
    rw [marked, marked, Place.spelled]
    split
    · rfl
    · rw [List.append_assoc, List.cons_append]
  rw [Place.sourceId, List.append_assoc, inside, List.append_assoc]

theorem sourceId_eq_iff (path : Chars) (first second : Place) :
    first.sourceId path = second.sourceId path ↔ first.Clash second := by
  rw [sourceId_spelled, sourceId_spelled, List.append_cancel_left_eq,
    List.append_cancel_left_eq, marked_eq_iff (by decide), Place.Clash, Place.Mimics,
    Place.Mimics]
  have turned : (first.number = 1 ∧ second.number ≠ 1 ∧
        first.spelled = second.spelled ++ '~' :: digits second.number) ↔
      (second.number ≠ 1 ∧ first.number = 1 ∧
        first.spelled = second.spelled ++ '~' :: digits second.number) := by
    tauto
  rw [turned]

theorem button_not_session {path : Chars} {place : Place} {record : ImportRecord}
    (session : IsSession path record) : record.sourceId ≠ some (place.sourceId path) := by
  obtain ⟨first, rest, source, lower⟩ := session
  intro same
  rw [source, Option.some.injEq, sourceId_spelled, List.append_cancel_left_eq] at same
  have behind := congrArg (fun text : Chars => text.tail.head?) same
  have char : first = 'B' := Option.some.inj behind
  rw [char] at lower
  exact absurd lower (by decide)

/-! ## What a preview has of the buttons -/

section Previews

variable (library : XmlLibrary)

def QuickCommandImportRecord.content (quick : QuickCommandImportRecord) :
    Chars × Chars × Option Chars :=
  (quick.name, quick.command, quick.groupName)

def quickCommands (records : List ImportRecord) : List QuickCommandImportRecord :=
  records.filterMap ImportRecord.quickCommand

/-- What the quick command of a button says. -/
def Place.content (place : Place) : Chars × Chars × Option Chars :=
  (place.label library, decodeCommand ((place.command library).getD []), some place.bar)

/-- The quick commands are those of the wanted buttons, one for each, in order and under
ids of their own. -/
structure ButtonsImported (wanted : List Place) (records : List ImportRecord) : Prop where
  each : (quickCommands records).map QuickCommandImportRecord.content =
    wanted.map (Place.content library)
  order : (quickCommands records).Pairwise fun first second => first.sortOrder < second.sortOrder
  sources : (records.filter isQuick).Pairwise fun first second =>
    first.sourceId ≠ second.sourceId

/-- The condition under which the buttons that are wanted are imported. -/
structure Importable (path : Chars) (wanted : List Place) : Prop where
  asExport : isCredentialPath path = true → wanted = []
  reached : ∀ place ∈ wanted, place.reached = true
  apart : wanted.Pairwise fun first second => ¬first.Clash second
  few : wanted.length ≤ i32Max + 1

/-- The buttons of an export whose function is SEND and whose command is not blank. -/
def wantedPlaces (parts : List ExportPart) : List Place :=
  (parts.flatMap ExportPart.places).filter (Place.wanted library)

theorem quickCommands_filter (records : List ImportRecord) :
    quickCommands (records.filter isQuick) = quickCommands records := by
  rw [quickCommands, List.filterMap_filter]
  apply List.filterMap_congr
  intro record _
  rw [isQuick]
  cases record.quickCommand with
  | none => rfl
  | some quick => rfl

theorem quickCommands_length (records : List ImportRecord) :
    (quickCommands records).length = (records.filter isQuick).length := by
  rw [quickCommands, List.length_filterMap_eq_countP, List.countP_eq_length_filter]
  rfl

/-! ### Quick commands of places -/

theorem quickRecords_content (path : Chars) (count : Nat) (places : List Place) :
    (quickCommands (quickRecords library path count places)).map QuickCommandImportRecord.content =
      places.map (Place.content library) := by
  induction places generalizing count with
  | nil => rfl
  | cons place rest ih =>
    rw [quickRecords, List.zipIdx_cons, List.map_cons, List.map_cons, ← ih (count + 1)]
    rfl

theorem quickRecords_sources (path : Chars) (count : Nat) (places : List Place) :
    ((quickRecords library path count places).Pairwise fun first second =>
        first.sourceId ≠ second.sourceId) ↔
      places.Pairwise fun first second => ¬first.Clash second := by
  have sources : (quickRecords library path count places).map ImportRecord.sourceId =
      places.map fun place => some (place.sourceId path) := by
    induction places generalizing count with
    | nil => rfl
    | cons place rest ih =>
      rw [quickRecords, List.zipIdx_cons, List.map_cons, List.map_cons, List.map_cons,
        ← ih (count + 1)]
      rfl
  rw [← List.pairwise_map (f := ImportRecord.sourceId) (R := (· ≠ ·)), sources,
    List.pairwise_map]
  constructor
  · intro apart
    exact apart.imp fun differ clash =>
      differ (congrArg some ((sourceId_eq_iff path _ _).mpr clash))
  · intro apart
    exact apart.imp fun noClash same =>
      noClash ((sourceId_eq_iff path _ _).mp (Option.some.inj same))

theorem quickRecords_order (path : Chars) (count : Nat) (places : List Place) :
    ((quickCommands (quickRecords library path count places)).Pairwise fun first second =>
        first.sortOrder < second.sortOrder) ↔
      places.length ≤ 1 ∨ count + places.length ≤ i32Max + 1 := by
  have orders (count : Nat) (places : List Place) :
      (quickCommands (quickRecords library path count places)).map
          QuickCommandImportRecord.sortOrder =
        (List.range' count places.length).map fun order => min order i32Max := by
    induction places generalizing count with
    | nil => rfl
    | cons place rest ih =>
      rw [quickRecords, List.zipIdx_cons, List.map_cons, List.length_cons, List.range'_succ,
        List.map_cons, ← ih (count + 1)]
      rfl
  rw [← List.pairwise_map (f := QuickCommandImportRecord.sortOrder) (R := (· < ·)), orders,
    List.pairwise_map, List.pairwise_iff_getElem]
  simp only [List.length_range', List.getElem_range', Nat.one_mul]
  constructor
  · intro grows
    by_contra many
    -- Were there more, the last two orders would both be the largest.
    have last := grows (places.length - 2) (places.length - 1) (by omega) (by omega) (by omega)
    omega
  · intro few first second inFirst inSecond before
    omega

/-! ### Records of an export -/

-- The records of an export: the quick commands of the places that send, and sessions.
theorem parseExport_records {path text : Chars} {parts : List ExportPart}
    (read : library.read text = ⟨parts.flatMap ExportPart.events, false⟩) :
    (parseExport path [] library text).1.filter isQuick =
        quickRecords library path 0 ((wantedPlaces library parts).filter Place.reached) ∧
      ∀ record ∈ (parseExport path [] library text).1, isQuick record = false →
        IsSession path record := by
  have arrived := run_export path [] library Idle.start rfl parts
  obtain ⟨made, records, quick, sessions⟩ := arrived.makes.made
  have finished : (runFrom path [] library {}
      (parts.flatMap ExportPart.events)).unfinished = false := by
    rw [XmlState.unfinished, arrived.stack, arrived.idle.field, arrived.idle.ignored]
    rfl
  have all : (parseExport path [] library text).1 = made := by
    rw [parseExport, read]
    change (if (false || (runFrom path [] library {}
      (parts.flatMap ExportPart.events)).unfinished) = true then []
      else (runFrom path [] library {} (parts.flatMap ExportPart.events)).records) = made
    rw [finished, records]
    rfl
  have sent : (parts.flatMap ExportPart.places).filter (Place.sent library) =
      (wantedPlaces library parts).filter Place.reached := by
    rw [wantedPlaces, List.filter_filter]
    rfl
  rw [all, quick, sent]
  exact ⟨rfl, sessions⟩

theorem addRecords (writer : ResultWriter) (records : List ImportRecord) :
    (records.foldl ResultWriter.add writer).result.records = writer.result.records ++
        admitted ImportRecord.id (fun _ => true) writer.seen records := by
  induction records generalizing writer with
  | nil => exact (List.append_nil _).symm
  | cons record rest ih =>
    rw [List.foldl_cons, ih, ResultWriter.add, admitted]
    by_cases known : record.id ∈ writer.seen
    · rw [if_pos known, if_pos ⟨rfl, known⟩]
    · rw [if_neg known, if_neg fun both => known both.2, List.append_assoc]
      rfl

theorem preview_export {path text : Chars} {bytes : List UInt8}
    (isXml : classifySource path = some .xml) (decoded : decodeText bytes = some text)
    (includePasswords : Bool) :
    (previewRecordsFromSources library [(path, bytes)] includePasswords).records =
      if isCredentialPath path = true then []
      else admitted ImportRecord.id (fun _ => true) [] (parseExport path [] library text).1 := by
  rw [previewRecordsFromSources, List.foldl_cons, List.foldl_nil, SourceReader.read, isXml,
    decoded]
  dsimp only
  split
  · rfl
  · rw [List.nil_append, List.foldl_cons, List.foldl_nil, ResultWriter.addSource, addRecords,
      parseSource]
    rfl

-- The quick commands of distinct ids are not taken for records that came before.
theorem admitted_quick {path text : Chars} {parts : List ExportPart}
    (read : library.read text = ⟨parts.flatMap ExportPart.events, false⟩)
    (told : ∀ first ∈ (parseExport path [] library text).1,
      ∀ second ∈ (parseExport path [] library text).1,
        first.id = second.id → first.sourceId = second.sourceId)
    (apart : ((wantedPlaces library parts).filter Place.reached).Pairwise fun first second =>
      ¬first.Clash second) : (admitted ImportRecord.id (fun _ => true) []
        (parseExport path [] library text).1).filter isQuick =
      quickRecords library path 0 ((wantedPlaces library parts).filter Place.reached) := by
  obtain ⟨quick, sessions⟩ := parseExport_records library read
  have sources := (quickRecords_sources library path 0 _).mpr apart
  rw [← quick, List.pairwise_filter] at sources
  have sourceOf {record : ImportRecord} (member : record ∈ (parseExport path [] library text).1)
      (isQuick : isQuick record = true) :
      ∃ place : Place, record.sourceId = some (place.sourceId path) := by
    have among : record ∈ quickRecords library path 0
        ((wantedPlaces library parts).filter Place.reached) :=
      quick ▸ List.mem_filter.mpr ⟨member, isQuick⟩
    obtain ⟨entry, _, rfl⟩ := List.mem_map.mp among
    exact ⟨entry.1, rfl⟩
  rw [← quick]
  apply admitted_filter
  · intro record _ _
    exact List.not_mem_nil
  · -- Two quick commands differ by their sources, and a session's source is no button's.
    refine sources.imp_of_mem ?_
    intro before after inBefore inAfter differ isQuickAfter same
    have source := told before inBefore after inAfter same
    cases quickBefore : isQuick before with
    | true => exact differ quickBefore isQuickAfter source
    | false =>
      obtain ⟨place, is⟩ := sourceOf inAfter isQuickAfter
      exact button_not_session (sessions before inBefore quickBefore) (source.trans is)

-- Where the wanted buttons are imported none is missing, so none was refused.
theorem importable_of_imported {path text : Chars} {bytes : List UInt8}
    {parts : List ExportPart} (isXml : classifySource path = some .xml)
    (decoded : decodeText bytes = some text)
    (read : library.read text = ⟨parts.flatMap ExportPart.events, false⟩) (includePasswords : Bool)
    (imported : ButtonsImported library (wantedPlaces library parts)
      (previewRecordsFromSources library [(path, bytes)] includePasswords).records) :
    Importable path (wantedPlaces library parts) := by
  rw [preview_export library isXml decoded includePasswords] at imported
  by_cases credential : isCredentialPath path = true
  · rw [if_pos credential] at imported
    have none : wantedPlaces library parts = [] := List.map_eq_nil_iff.mp imported.each.symm
    rw [none]
    exact ⟨fun _ => rfl, (fun _ member => nomatch member), .nil, Nat.zero_le _⟩
  · rw [if_neg credential] at imported
    have sublist := (admitted_sublist ImportRecord.id (fun _ => true) []
      (parseExport path [] library text).1).filter isQuick
    rw [(parseExport_records library read).1] at sublist
    have each := congrArg List.length imported.each
    rw [List.length_map, List.length_map, quickCommands_length] at each
    have made := sublist.length_le
    rw [quickRecords, List.length_map, List.length_zipIdx, each] at made
    -- As many quick commands as wanted buttons: every button is reached.
    have all : ((wantedPlaces library parts).filter Place.reached).length =
        (wantedPlaces library parts).length :=
      Nat.le_antisymm (List.length_filter_le _ _) made
    have reached : (wantedPlaces library parts).filter Place.reached =
        wantedPlaces library parts :=
      List.filter_eq_self.mpr (List.length_filter_eq_length_iff.mp all)
    rw [reached] at sublist
    have quick := sublist.eq_of_length (by
      rw [each, quickRecords, List.length_map, List.length_zipIdx])
    have sources := imported.sources
    have order := imported.order
    rw [quick] at sources
    rw [← quickCommands_filter, quick] at order
    refine ⟨fun is => absurd is credential, List.filter_eq_self.mp reached,
      (quickRecords_sources library path 0 _).mp sources, ?_⟩
    rcases (quickRecords_order library path 0 _).mp order with single | few
    · exact Nat.le_trans single (Nat.succ_le_succ (Nat.zero_le _))
    · rw [Nat.zero_add] at few
      exact few

/-- The wanted buttons of an export are imported exactly under the condition on their names:
every one of them is reached, no two of them are spelled alike with their numbers, and a
sort order can count them. -/
theorem buttons_imported_iff {path text : Chars} {bytes : List UInt8} {parts : List ExportPart}
    (isXml : classifySource path = some .xml) (decoded : decodeText bytes = some text)
    (read : library.read text = ⟨parts.flatMap ExportPart.events, false⟩)
    (told : ∀ first ∈ (parseExport path [] library text).1,
      ∀ second ∈ (parseExport path [] library text).1,
        first.id = second.id → first.sourceId = second.sourceId)
    (includePasswords : Bool) :
    ButtonsImported library (wantedPlaces library parts)
        (previewRecordsFromSources library [(path, bytes)] includePasswords).records ↔
      Importable path (wantedPlaces library parts) := by
  constructor
  · exact importable_of_imported library isXml decoded read includePasswords
  · intro importable
    rw [preview_export library isXml decoded includePasswords]
    split
    · rename_i credential
      rw [importable.asExport credential]
      exact ⟨rfl, .nil, .nil⟩
    · have reached : (wantedPlaces library parts).filter Place.reached =
          wantedPlaces library parts := List.filter_eq_self.mpr importable.reached
      have quick := admitted_quick library read told (by rw [reached]; exact importable.apart)
      rw [reached] at quick
      refine ⟨?_, ?_, ?_⟩
      · rw [← quickCommands_filter, quick]
        exact quickRecords_content library path 0 _
      · rw [← quickCommands_filter, quick]
        refine (quickRecords_order library path 0 _).mpr (Or.inr ?_)
        rw [Nat.zero_add]
        exact importable.few
      · rw [quick]
        exact (quickRecords_sources library path 0 _).mpr importable.apart

end Previews

/-! ## One bar -/

def keyNamed (name : String) : KeyStart := ⟨"key".toList, namedBy name, by decide⟩

def fieldNamed (name : String) : FieldStart :=
  ⟨"string".toList, namedBy name, name.toList, by decide, by
    have same : tagName "name".toList = "name".toList := by decide
    rw [attributeOf, namedBy, List.findSome?_cons]
    dsimp only
    rw [if_pos same]⟩

def fieldPart (name content : String) : KeyPart :=
  .field (fieldNamed name) [.text content.toList] rfl

def listButton (name : String) : BarItem :=
  .button ⟨keyNamed name, [fieldPart "Function" "SEND", fieldPart "Command" "ls"]⟩

def oneBar (names : List String) : List ExportPart :=
  [.bars (keyNamed "Button Bars") (by decide) [.bar ⟨keyNamed "Network", names.map listButton⟩]]

def barText (names : List String) : Chars :=
  keyText "Network" (names.flatMap fun name =>
    keyText name (fieldText "Function" "SEND".toList ++ fieldText "Command" "ls".toList))

def oneBarText (names : List String) : Chars := keyText "Button Bars" (barText names)

def oneBarLibrary (names : List String) : XmlLibrary :=
  tableLibrary [(oneBarText names, (oneBar names).flatMap ExportPart.events)]

def oneBarPreview (names : List String) : List ImportRecord :=
  (previewRecordsFromSources (oneBarLibrary names)
    [("export.xml".toList, toUtf8 (oneBarText names))] false).records

theorem oneBar_read (names : List String) : (oneBarLibrary names).read (oneBarText names) =
    ⟨(oneBar names).flatMap ExportPart.events, false⟩ :=
  tableLibrary_first _ _ _

theorem oneBar_decoded {names : List String} (clean : '\x00' ∉ barText names) :
    decodeText (toUtf8 (oneBarText names)) = some (oneBarText names) := by
  have named : '\x00' ∉ "Button Bars".toList := not_mem_literal rfl rfl
  have holds : Encoding.utf8.Holds (oneBarText names) := keyText_holds named clean
  exact decodeText_bytes holds

/-- Two buttons of one name. -/
theorem buttons_imported_twice :
    ButtonsImported (oneBarLibrary ["button", "Button"])
      (wantedPlaces (oneBarLibrary ["button", "Button"]) (oneBar ["button", "Button"]))
      (oneBarPreview ["button", "Button"]) := by
  have importable : Importable "export.xml".toList
      (wantedPlaces (oneBarLibrary ["button", "Button"]) (oneBar ["button", "Button"])) :=
    ⟨by decide +kernel, by decide +kernel, by decide +kernel, by decide +kernel⟩
  rw [oneBarPreview]
  exact (buttons_imported_iff (oneBarLibrary ["button", "Button"]) (by decide +kernel)
    (oneBar_decoded (by decide +kernel)) (oneBar_read ["button", "Button"])
    (by decide +kernel) false).mpr importable

/-- The second button of a name has the id of a button that is named with the number. -/
theorem marked_name_taken :
    ¬ButtonsImported (oneBarLibrary ["button", "button", "button~2"])
      (wantedPlaces (oneBarLibrary ["button", "button", "button~2"])
        (oneBar ["button", "button", "button~2"]))
      (oneBarPreview ["button", "button", "button~2"]) := by
  intro imported
  rw [oneBarPreview] at imported
  have importable := importable_of_imported (oneBarLibrary ["button", "button", "button~2"])
    (by decide +kernel) (oneBar_decoded (by decide +kernel))
    (oneBar_read ["button", "button", "button~2"]) false imported
  exact absurd importable.apart (by decide +kernel)

end Onetcli.Importers.SecureCrt
