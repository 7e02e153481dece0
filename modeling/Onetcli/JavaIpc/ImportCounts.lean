import Onetcli.JavaIpc.Server

/-!
What `data/import_commit` answers about the rows of an import, in OscarIpcServer.java and in
GBase8sIpcServer.java. The connections are in auto-commit, so each row that was inserted
stays, while a chunk is counted at its end. The counters are `long`s of 64 bits, and no import
reaches their end.
-/

namespace Onetcli.JavaIpc

open Runs Tables

/-- How a row ends: it is inserted, the database rejects it, or it is no list of cells. -/
inductive ImportRow where
  | inserted
  | rejected
  | malformed
  deriving DecidableEq

structure ImportEntry extends ImportState where
  inserted : Nat := 0

/-- `stored` has the import of every row that was inserted. -/
structure ImportServer where
  connections : List Nat
  imports : Table String ImportEntry := ∅
  nextImportId : Nat := 1
  stored : List String := []

inductive ImportRequest where
  | begin (connId : Nat) (format schema : String) (table : Option String) (columns : List String)
  | chunk (importId : String) (rows : List ImportRow)
  | commit (importId : String)
  | abort (importId : String)

inductive ImportReply where
  | begun (importId : String)
  | chunk (inserted : Nat)
  | committed (inserted : Nat)
  | aborted
  | failed (reply : Reply)

/-- The rows that are inserted, up to the first that throws, and whether one does. -/
def insertEach : List ImportRow → Nat × Bool
  | [] => (0, false)
  | .inserted :: rest =>
    let others := insertEach rest
    (others.1 + 1, others.2)
  | .rejected :: _ | .malformed :: _ => (0, true)

namespace ImportServer

variable (s : ImportServer)

def importWords (driver : Driver) : String := driver.id ++ "-import-"

/-- The number of an import is used up also if its table is missing. -/
def handleDataImportBegin (driver : Driver) (connId : Nat) (format schema : String)
    (table : Option String) (columns : List String) : ImportServer × ImportReply :=
  if connId ∉ s.connections then (s, .failed (unknownConn connId))
  else if format ∉ importFormats then
    (s, .failed (invalidParams ("import format `" ++ format ++ "` is not supported")))
  else
    let importId := importWords driver ++ toString s.nextImportId
    let numbered := { s with nextImportId := s.nextImportId + 1 }
    match table with
    | none => (numbered, .failed (invalidParams "missing required parameter `table`"))
    | some table =>
      ({ numbered with imports := s.imports.insert importId { connId, schema, table, columns } },
        .begun importId)

def handleDataImportChunk (importId : String) (rows : List ImportRow) :
    ImportServer × ImportReply :=
  match s.imports.lookup importId with
  | none => (s, .failed (unknownImport importId))
  | some entry =>
    match insertSql entry.toImportState with
    | .error reply => (s, .failed reply)
    | .ok _ =>
      if entry.connId ∉ s.connections ∧ rows ≠ [] then (s, .failed .thrown)
      else
        let ran := insertEach rows
        let stored := s.stored ++ List.replicate ran.1 importId
        if ran.2 then ({ s with stored := stored }, .failed .thrown)
        else
          let counted := { entry with inserted := entry.inserted + ran.1 }
          ({ s with imports := s.imports.insert importId counted, stored := stored },
            .chunk ran.1)

def handleDataImportCommit (importId : String) : ImportServer × ImportReply :=
  match s.imports.lookup importId with
  | none => (s, .failed (unknownImport importId))
  | some entry =>
    ({ s with imports := s.imports.erase importId }, .committed entry.inserted)

def handleDataImportAbort (importId : String) : ImportServer × ImportReply :=
  ({ s with imports := s.imports.erase importId }, .aborted)

end ImportServer

def importMachine (driver : Driver) : Machine ImportServer ImportRequest ImportReply where
  step s request :=
    match request with
    | .begin connId format schema table columns =>
      s.handleDataImportBegin driver connId format schema table columns
    | .chunk importId rows => s.handleDataImportChunk importId rows
    | .commit importId => s.handleDataImportCommit importId
    | .abort importId => s.handleDataImportAbort importId

/-- A commit would answer how many rows of its import are stored. -/
def CommitsTrue (driver : Driver) (s : ImportServer) : Prop :=
  ∀ importId inserted, ((importMachine driver).step s (.commit importId)).2 = .committed inserted →
    inserted = s.stored.count importId

/-- All rows of a chunk are inserted, or its first is not, unless its import has no columns or no
connection. -/
def ChunkWhole (s : ImportServer) : ImportRequest → Prop
  | .chunk importId rows => ∀ entry, s.imports.lookup importId = some entry →
      entry.columns = [] ∨ entry.connId ∉ s.connections ∨
        (∀ row ∈ rows, row = .inserted) ∨ rows.head? ≠ some .inserted
  | _ => True

/-! ## Rows -/

theorem insertEach_whole_iff (rows : List ImportRow) :
    (insertEach rows).2 = false ∨ (insertEach rows).1 = 0 ↔
      (∀ row ∈ rows, row = .inserted) ∨ rows.head? ≠ some .inserted := by
  have whole (rows : List ImportRow) :
      (insertEach rows).2 = false ↔ ∀ row ∈ rows, row = .inserted := by
    induction rows with
    | nil => exact iff_of_true rfl fun _ member => absurd member List.not_mem_nil
    | cons row rest ih =>
      rw [List.forall_mem_cons]
      cases row with
      | inserted =>
        rw [← ih]
        exact (and_iff_right rfl).symm
      | rejected => simp [insertEach]
      | malformed => simp [insertEach]
  have none (rows : List ImportRow) :
      (insertEach rows).1 = 0 ↔ rows.head? ≠ some .inserted := by
    cases rows with
    | nil => simp [insertEach]
    | cons row rest => cases row <;> simp [insertEach]
  rw [whole, none]

theorem insertSql_ok (state : ImportState) :
    (∃ sql, insertSql state = .ok sql) ↔ state.columns ≠ [] := by
  rw [insertSql]
  split
  · rename_i none
    simp [none]
  · rename_i some
    simp [some]

/-! ## The count -/

def CountsRight (s : ImportServer) : Prop :=
  ∀ importId entry, s.imports.lookup importId = some entry →
    entry.inserted = s.stored.count importId

structure Numbered (driver : Driver) (s : ImportServer) : Prop where
  named : Named (ImportServer.importWords driver) s.nextImportId s.imports
  stored : ∀ importId ∈ s.stored, ∃ number < s.nextImportId,
    importId = ImportServer.importWords driver ++ toString number

variable {driver : Driver} {s : ImportServer}

theorem commitsTrue_iff : CommitsTrue driver s ↔ CountsRight s := by
  constructor
  · intro commits importId entry found
    apply commits importId
    change (s.handleDataImportCommit importId).2 = _
    rw [ImportServer.handleDataImportCommit, found]
  · intro right importId inserted answered
    change (s.handleDataImportCommit importId).2 = _ at answered
    rw [ImportServer.handleDataImportCommit] at answered
    split at answered
    · cases answered
    · rename_i entry found
      obtain rfl := ImportReply.committed.inj answered
      exact right importId entry found

theorem Numbered.fresh (numbered : Numbered driver s) :
    s.stored.count (ImportServer.importWords driver ++ toString s.nextImportId) = 0 := by
  rw [List.count_eq_zero]
  intro member
  obtain ⟨number, smaller, same⟩ := numbered.stored _ member
  have equal : s.nextImportId = number := Text.digits_injective ((String.append_right_inj _).mp same)
  omega

/-! ## Chunks -/

inductive ChunkEnds (s : ImportServer) (importId : String) (rows : List ImportRow) :
    ImportServer → Prop where
  | silent (idle : ∀ entry, s.imports.lookup importId = some entry →
      entry.columns = [] ∨ entry.connId ∉ s.connections) : ChunkEnds s importId rows s
  | failed (entry : ImportEntry) (found : s.imports.lookup importId = some entry)
      (given : entry.columns ≠ []) (connected : entry.connId ∈ s.connections)
      (throws : (insertEach rows).2 = true) :
      ChunkEnds s importId rows
        { s with stored := s.stored ++ List.replicate (insertEach rows).1 importId }
  | counted (entry : ImportEntry) (found : s.imports.lookup importId = some entry)
      (whole : (insertEach rows).2 = false) :
      ChunkEnds s importId rows
        { s with
          imports := s.imports.insert importId
            { entry with inserted := entry.inserted + (insertEach rows).1 }
          stored := s.stored ++ List.replicate (insertEach rows).1 importId }

theorem handleDataImportChunk_ends (importId : String) (rows : List ImportRow) :
    ChunkEnds s importId rows (s.handleDataImportChunk importId rows).1 := by
  unfold ImportServer.handleDataImportChunk
  split
  · rename_i unknown
    refine .silent fun entry found => ?_
    rw [unknown] at found
    cases found
  · rename_i entry found
    split
    · rename_i reply refused
      refine .silent fun other same => Or.inl ?_
      obtain rfl := Option.some.inj (found.symm.trans same)
      by_contra given
      obtain ⟨sql, made⟩ := (insertSql_ok _).mpr given
      rw [refused] at made
      cases made
    · rename_i sql made
      have given := (insertSql_ok _).mp ⟨sql, made⟩
      split
      · rename_i away
        refine .silent fun other same => Or.inr ?_
        obtain rfl := Option.some.inj (found.symm.trans same)
        exact away.1
      · rename_i here
        dsimp only
        split
        · rename_i throws
          refine .failed entry found given ?_ throws
          by_contra away
          apply here
          refine ⟨away, ?_⟩
          rintro rfl
          cases throws
        · rename_i whole
          exact .counted entry found (Bool.eq_false_iff.mpr whole)

theorem count_stored (importId other : String) (rows : Nat) :
    (s.stored ++ List.replicate rows importId).count other =
      s.stored.count other + if other = importId then rows else 0 := by
  rw [List.count_append, List.count_replicate]
  simp only [beq_iff_eq, @eq_comm _ importId other]

theorem chunk_numbered (numbered : Numbered driver s) (importId : String) (rows : List ImportRow) :
    Numbered driver (s.handleDataImportChunk importId rows).1 := by
  have stored {entry : ImportEntry} (found : s.imports.lookup importId = some entry)
      (count : Nat) : ∀ other ∈ s.stored ++ List.replicate count importId,
        ∃ number < s.nextImportId, other = ImportServer.importWords driver ++ toString number := by
    intro other member
    rcases List.mem_append.mp member with old | new
    · exact numbered.stored other old
    · obtain rfl := List.eq_of_mem_replicate new
      exact numbered.named other (mem_of_lookup found)
  have ends := handleDataImportChunk_ends (s := s) importId rows
  generalize (s.handleDataImportChunk importId rows).1 = next at ends ⊢
  cases ends with
  | silent => exact numbered
  | failed entry found => exact ⟨numbered.named, stored found _⟩
  | counted entry found =>
    refine ⟨?_, stored found _⟩
    intro other present
    rcases (AList.mem_insert _).mp present with rfl | old
    · exact numbered.named other (mem_of_lookup found)
    · exact numbered.named other old

theorem chunk_counts_iff (right : CountsRight s) (importId : String) (rows : List ImportRow) :
    CountsRight (s.handleDataImportChunk importId rows).1 ↔
      ChunkWhole s (.chunk importId rows) := by
  have ends := handleDataImportChunk_ends (s := s) importId rows
  generalize (s.handleDataImportChunk importId rows).1 = next at ends ⊢
  cases ends with
  | silent idle =>
    refine iff_of_true right fun entry found => ?_
    rcases idle entry found with none | away
    · exact Or.inl none
    · exact Or.inr (Or.inl away)
  | failed entry found given connected throws =>
    -- What was inserted before is stored and not counted.
    have lost : ChunkWhole s (.chunk importId rows) ↔ (insertEach rows).1 = 0 := by
      rw [ChunkWhole]
      simp only [found, Option.some.injEq, forall_eq', given, connected, not_true_eq_false,
        false_or]
      rw [← insertEach_whole_iff, throws]
      simp
    rw [lost]
    constructor
    · intro after
      have counted := after importId entry found
      rw [right importId entry found] at counted
      dsimp only at counted
      rw [count_stored, if_pos rfl] at counted
      omega
    · intro none other counted known
      rw [right other counted known]
      dsimp only
      rw [none, List.replicate_zero, List.append_nil]
  | counted entry found whole =>
    refine iff_of_true ?_ ?_
    · intro other counted known
      dsimp only at known ⊢
      rw [lookup_insert_if] at known
      rw [count_stored]
      split at known
      · rename_i same
        obtain rfl := Option.some.inj known
        rw [if_pos same, same, right importId entry found]
      · rename_i differs
        rw [if_neg differs]
        exact right other counted known
    · intro other same
      exact Or.inr (Or.inr ((insertEach_whole_iff rows).mp (Or.inl whole)))

/-! ## Runs -/

theorem begin_counts (numbered : Numbered driver s) (right : CountsRight s) (connId : Nat)
    (format schema : String) (table : Option String) (columns : List String) :
    Numbered driver (s.handleDataImportBegin driver connId format schema table columns).1 ∧
      CountsRight (s.handleDataImportBegin driver connId format schema table columns).1 := by
  have later : ∀ importId ∈ s.stored, ∃ number < s.nextImportId + 1,
      importId = ImportServer.importWords driver ++ toString number := by
    intro importId member
    obtain ⟨number, smaller, same⟩ := numbered.stored importId member
    exact ⟨number, Nat.lt_succ_of_lt smaller, same⟩
  unfold ImportServer.handleDataImportBegin
  split
  · exact ⟨numbered, right⟩
  · split
    · exact ⟨numbered, right⟩
    · dsimp only
      split
      · refine ⟨⟨fun importId present => ?_, later⟩, right⟩
        obtain ⟨number, smaller, same⟩ := numbered.named importId present
        exact ⟨number, Nat.lt_succ_of_lt smaller, same⟩
      · refine ⟨⟨numbered.named.insert_next, later⟩, ?_⟩
        intro importId entry found
        dsimp only at found ⊢
        rw [lookup_insert_if] at found
        split at found
        · rename_i same
          obtain rfl := Option.some.inj found
          rw [same]
          exact numbered.fresh.symm
        · exact right importId entry found

theorem forget_counts (numbered : Numbered driver s) (right : CountsRight s) (importId : String) :
    Numbered driver { s with imports := s.imports.erase importId } ∧
      CountsRight { s with imports := s.imports.erase importId } := by
  refine ⟨⟨numbered.named.erase, numbered.stored⟩, fun other entry found => ?_⟩
  dsimp only at found
  rw [lookup_erase_if] at found
  split at found
  · cases found
  · exact right other entry found

theorem commit_counts (numbered : Numbered driver s) (right : CountsRight s) (importId : String) :
    Numbered driver (s.handleDataImportCommit importId).1 ∧
      CountsRight (s.handleDataImportCommit importId).1 := by
  unfold ImportServer.handleDataImportCommit
  split
  · exact ⟨numbered, right⟩
  · exact forget_counts numbered right importId

/-- In every state of a run a commit answers how many rows of its import are stored, exactly if
each chunk is inserted as a whole or fails with its first row. -/
theorem imports_counted_iff (driver : Driver) (connections : List Nat)
    (requests : List ImportRequest) :
    (∀ reached ∈ (importMachine driver).visited { connections } requests,
      CommitsTrue driver reached) ↔
        (importMachine driver).Respects ChunkWhole { connections } requests := by
  have start : Numbered driver { connections } ∧ CountsRight { connections } :=
    ⟨⟨named_empty, fun _ member => absurd member List.not_mem_nil⟩, fun _ _ none => nomatch none⟩
  refine visited_property_iff (importMachine driver) ChunkWhole
    (fun s => Numbered driver s ∧ CountsRight s) (CommitsTrue driver)
    (fun _ sound => commitsTrue_iff.mpr sound.2) { connections } requests ?_ ?_ start
  · rintro s request _ ⟨numbered, right⟩ whole
    cases request with
    | begin connId format schema table columns =>
      exact begin_counts numbered right connId format schema table columns
    | chunk importId rows =>
      exact ⟨chunk_numbered numbered importId rows,
        (chunk_counts_iff right importId rows).mpr whole⟩
    | commit importId => exact commit_counts numbered right importId
    | abort importId => exact forget_counts numbered right importId
  · rintro s request _ ⟨numbered, right⟩ after
    cases request with
    | chunk importId rows =>
      exact (chunk_counts_iff right importId rows).mp (commitsTrue_iff.mp after)
    | _ => trivial

def rejectedImport : List ImportRequest :=
  [.begin 1 "csv" "" (some "t") ["a"], .chunk "oscar-import-1" [.inserted, .rejected],
    .commit "oscar-import-1"]

/-- The row before it is stored, and the commit answers that there are none. -/
theorem rejected_import_not_counted :
    ((importMachine .oscar).run { connections := [1] } rejectedImport).2.getLast? =
        some (.committed 0) ∧
      ((importMachine .oscar).run { connections := [1] } rejectedImport).1.stored =
        ["oscar-import-1"] ∧
      ¬∀ reached ∈ (importMachine .oscar).visited { connections := [1] } rejectedImport,
        CommitsTrue .oscar reached := by
  refine ⟨rfl, rfl, fun each => ?_⟩
  have last := each _ (List.mem_cons_of_mem _ (List.mem_cons_of_mem _ List.mem_cons_self))
  exact absurd (last "oscar-import-1" 0 rfl) (by decide)

end Onetcli.JavaIpc
