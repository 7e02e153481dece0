import Onetcli.Importers.TerminalClients

/-!
Which sessions the previews of MobaXterm and WindTerm keep. Both drop a record whose id
was seen; the id is made of the words of a text, so two sessions fall together exactly if
these are the same, and every session is kept exactly if no two do.
-/

namespace Onetcli.Importers

open Chars Slugs

theorem session_isWord : IsWord asciiWords "session".toList :=
  isWord_of_all rfl rfl

-- A preview that drops records of one id drops none exactly if the words differ.
theorem kept_iff_words {Session : Type} {record : Session → Option ImportRecord}
    {source : Session → Chars} {label : Chars} (ids : ∀ session found, record session = some found →
      found.id = label ++ slug "session".toList (source session)) (sessions : List Session) :
    firsts ImportRecord.id [] (sessions.filterMap record) = sessions.filterMap record ↔
      ((sessions.filter fun session => (record session).isSome).map fun session =>
        idWords "session".toList (source session)).Nodup := by
  have sameIds : (sessions.filterMap record).map ImportRecord.id =
      (sessions.filter fun session => (record session).isSome).map fun session =>
        label ++ slug "session".toList (source session) := by
    induction sessions with
    | nil => rfl
    | cons session rest ih =>
      cases found : record session with
      | none => simp [found, ih]
      | some made => simp [found, ih, ids session made found]
  rw [firsts_all_iff, sameIds]
  have apart : ∀ first second : Session,
      label ++ slug "session".toList (source first) =
          label ++ slug "session".toList (source second) ↔
        idWords "session".toList (source first) = idWords "session".toList (source second) := by
    intro first second
    rw [List.append_cancel_left_eq, slug_inj session_isWord]
  simp only [List.Nodup, List.pairwise_map, ne_eq, apart]

/-! ## MobaXterm -/

namespace MobaXterm

def allLines (sources : List (Chars × List UInt8)) : List SessionLine :=
  sources.flatMap fun (path, bytes) =>
    match decodeText bytes with
    | some text => sessionLines path text
    | none => []

/-- An SSH session with a host. -/
def SessionLine.usable (line : SessionLine) : Bool := line.record.isSome

def SessionLine.words (line : SessionLine) : List Chars :=
  idWords "session".toList (sourceId line.path line.key)

theorem record_id {line : SessionLine} {made : ImportRecord} (found : line.record = some made) :
    made.id = "mobaxterm:".toList ++ slug "session".toList (sourceId line.path line.key) := by
  simp only [SessionLine.record, sessionRecord] at found
  split at found
  · cases found
  · split at found
    · cases found
    · cases found
      rfl

theorem previewFrom_fold (preview : Kept ImportRecord Chars) (sources : List (Chars × List UInt8))
    (room : preview.items.length + ((allLines sources).filterMap SessionLine.record).length ≤
      maxSessions) : previewFrom preview sources =
      (((allLines sources).filterMap SessionLine.record).foldl (Kept.insert ImportRecord.id)
        preview).items := by
  induction sources generalizing preview with
  | nil => rfl
  | cons source rest ih =>
    rcases source with ⟨path, bytes⟩
    have split : allLines ((path, bytes) :: rest) =
        (match decodeText bytes with
          | some text => sessionLines path text
          | none => []) ++ allLines rest := rfl
    rw [split] at room ⊢
    rw [previewFrom]
    cases decoded : decodeText bytes with
    | none =>
      simp only [decoded, List.nil_append] at room ⊢
      exact ih preview room
    | some text =>
      simp only [decoded, List.filterMap_append, List.length_append, List.foldl_append]
        at room ⊢
      rw [← parseIniSessions] at room ⊢
      have grown : ((parseIniSessions path text).foldl (Kept.insert ImportRecord.id)
          preview).items.length ≤
            preview.items.length + (parseIniSessions path text).length := by
        rw [Kept.foldl_items, List.length_append]
        exact Nat.add_le_add_left (firsts_length _ _) _
      split
      · rename_i full
        have nothing : (allLines rest).filterMap SessionLine.record = [] := by
          apply List.length_eq_zero_iff.mp
          omega
        rw [nothing]
        rfl
      · apply ih
        omega

theorem preview_firsts (sources : List (Chars × List UInt8)) (includePasswords : Bool)
    (room : ((allLines sources).filter SessionLine.usable).length ≤ maxSessions) :
    previewRecordsFromSources sources includePasswords =
      firsts ImportRecord.id [] ((allLines sources).filterMap SessionLine.record) := by
  have same : ((allLines sources).filterMap SessionLine.record).length =
      ((allLines sources).filter SessionLine.usable).length := by
    rw [List.length_filterMap_eq_countP, List.countP_eq_length_filter]
    rfl
  rw [previewRecordsFromSources, previewFrom_fold, Kept.foldl_items]
  · rfl
  · rw [same, List.length_nil, Nat.zero_add]
    exact room

end MobaXterm

/-! ## WindTerm -/

namespace WindTerm

variable (fromSlice : List UInt8 → Option (List WindTermSession))

def allSessions (files : List (Chars × List UInt8)) : List (Chars × WindTermSession) :=
  files.flatMap fun (path, bytes) =>
    match fromSlice bytes with
    | some sessions => sessions.map fun session => (path, session)
    | none => []

def recordOf (session : Chars × WindTermSession) : Option ImportRecord :=
  recordFromSession session.1 session.2

/-- An SSH session with a host. -/
def usable (session : Chars × WindTermSession) : Bool := (recordOf session).isSome

def sessionWords (session : Chars × WindTermSession) : List Chars :=
  idWords "session".toList (sessionSource session.1 session.2)

theorem record_id {session : Chars × WindTermSession} {made : ImportRecord}
    (found : recordOf session = some made) : made.id = "windterm:".toList ++
      slug "session".toList (sessionSource session.1 session.2) := by
  simp only [recordOf, recordFromSession] at found
  split at found
  · cases found
  · rw [sessionSource]
    cases parsed : parseTarget (trimmed session.2.target) with
    | none =>
      rw [parsed] at found
      cases found
    | some target =>
      rw [parsed] at found
      cases found
      rfl

theorem insertSession_fold (path : Chars) (sessions : List WindTermSession)
    (preview : Kept ImportRecord Chars) :
    sessions.foldl (fun preview session => insertSession preview path session) preview =
      ((sessions.map fun session => (path, session)).filterMap recordOf).foldl
        (Kept.insert ImportRecord.id) preview := by
  induction sessions generalizing preview with
  | nil => rfl
  | cons session rest ih =>
    rw [List.foldl_cons, ih, insertSession]
    cases found : recordFromSession path session with
    | none => simp [recordOf, found]
    | some made => simp [recordOf, found]

theorem files_fold (files : List (Chars × List UInt8)) (preview : Kept ImportRecord Chars) :
    files.foldl (insertFile fromSlice) preview =
      ((allSessions fromSlice files).filterMap recordOf).foldl (Kept.insert ImportRecord.id)
        preview := by
  induction files generalizing preview with
  | nil => rfl
  | cons file rest ih =>
    have split : allSessions fromSlice (file :: rest) =
        (match fromSlice file.2 with
          | some sessions => sessions.map fun session => (file.1, session)
          | none => []) ++ allSessions fromSlice rest := rfl
    rw [split, List.foldl_cons, ih, List.filterMap_append, List.foldl_append, insertFile]
    cases fromSlice file.2 with
    | none => rfl
    | some sessions =>
      simp only
      rw [insertSession_fold]

theorem preview_firsts (files : List (Chars × List UInt8)) (includePasswords : Bool) :
    previewRecordsFromSessionFiles fromSlice files includePasswords =
      firsts ImportRecord.id [] ((allSessions fromSlice files).filterMap recordOf) := by
  rw [previewRecordsFromSessionFiles, files_fold, Kept.foldl_items]
  rfl

end WindTerm

/-- Every session is kept exactly if no two have the same words in the text of their id. -/
theorem previews_keepSessions (sources : List (Chars × List UInt8))
    (fromSlice : List UInt8 → Option (List WindTerm.WindTermSession))
    (files : List (Chars × List UInt8)) (includePasswords : Bool) :
    (((MobaXterm.allLines sources).filter MobaXterm.SessionLine.usable).length ≤
          MobaXterm.maxSessions →
        (MobaXterm.previewRecordsFromSources sources includePasswords =
            (MobaXterm.allLines sources).filterMap MobaXterm.SessionLine.record ↔
          (((MobaXterm.allLines sources).filter MobaXterm.SessionLine.usable).map
            MobaXterm.SessionLine.words).Nodup)) ∧
      (WindTerm.previewRecordsFromSessionFiles fromSlice files includePasswords =
          (WindTerm.allSessions fromSlice files).filterMap WindTerm.recordOf ↔
        (((WindTerm.allSessions fromSlice files).filter WindTerm.usable).map
          WindTerm.sessionWords).Nodup) := by
  constructor
  · intro room
    rw [MobaXterm.preview_firsts sources includePasswords room]
    exact kept_iff_words (fun _ _ found => MobaXterm.record_id found) _
  · rw [WindTerm.preview_firsts]
    exact kept_iff_words (fun _ _ found => WindTerm.record_id found) _

def oneFile (text : String) : List (Chars × List UInt8) :=
  [("MobaXterm.ini".toList, toUtf8 text.toList)]

/-- Two keys in one section. -/
theorem previews_keepSessions_two :
    ((MobaXterm.allLines (oneFile "[Bookmarks]\na=#109#0%x%22%u\nb=#109#0%x%22%u\n")).filter
        MobaXterm.SessionLine.usable).length ≤ MobaXterm.maxSessions ∧
      MobaXterm.previewRecordsFromSources
          (oneFile "[Bookmarks]\na=#109#0%x%22%u\nb=#109#0%x%22%u\n") false =
        (MobaXterm.allLines (oneFile "[Bookmarks]\na=#109#0%x%22%u\nb=#109#0%x%22%u\n")).filterMap
          MobaXterm.SessionLine.record := by
  have room : ((MobaXterm.allLines (oneFile
      "[Bookmarks]\na=#109#0%x%22%u\nb=#109#0%x%22%u\n")).filter
        MobaXterm.SessionLine.usable).length ≤ MobaXterm.maxSessions := by
    decide +kernel
  refine ⟨room, ((previews_keepSessions _ (fun _ => none) [] false).1 room).mpr ?_⟩
  decide +kernel

def twoUsers : List WindTerm.WindTermSession :=
  [{ protocol := some "SSH".toList, target := some "h".toList, user := some "a".toList },
    { protocol := some "SSH".toList, target := some "h".toList, user := some "b".toList }]

def twoUsersFile : List UInt8 :=
  toUtf8 ("[\x7b\"session.protocol\":\"SSH\",\"session.target\":\"h\",\"session.user\":\"a\"\x7d," ++
    "\x7b\"session.protocol\":\"SSH\",\"session.target\":\"h\",\"session.user\":\"b\"\x7d]").toList

/-- One key in two sections, and two users on one host: one record of two is dropped. -/
theorem sessions_merged :
    (((MobaXterm.allLines (oneFile
        "[Bookmarks]\nweb=#109#0%a%22%u\n[Bookmarks_1]\nweb=#109#0%b%22%u\n")).filter
          MobaXterm.SessionLine.usable).map
            fun line => (line.path, line.sectionName, line.key)) =
        [("MobaXterm.ini".toList, "Bookmarks".toList, "web".toList),
          ("MobaXterm.ini".toList, "Bookmarks_1".toList, "web".toList)] ∧
      (MobaXterm.previewRecordsFromSources (oneFile
        "[Bookmarks]\nweb=#109#0%a%22%u\n[Bookmarks_1]\nweb=#109#0%b%22%u\n") false).length = 1 ∧
      (twoUsers.map fun session => (WindTerm.recordFromSession "user.sessions".toList session).map
        fun record => record.ssh.map SshImportRecord.username) =
          [some (some "a".toList), some (some "b".toList)] ∧
      (WindTerm.previewRecordsFromSessionFiles (fun _ => some twoUsers)
        [("user.sessions".toList, twoUsersFile)] false).length = 1 := by
  refine ⟨?_, ?_, ?_, ?_⟩
  · decide +kernel
  · decide +kernel
  · decide +kernel
  · decide +kernel

end Onetcli.Importers
