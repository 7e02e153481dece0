import Onetcli.OpenGauss.Handlers

/-!
The failure limit and the accounts of an openGauss import over all its chunks. A chunk counts the
failed rows that it lists, so it stops at the limit only when its import lists them and no row of
an earlier chunk failed, and a row of another width ends a chunk before the rest of its rows.
-/

namespace Onetcli.OpenGauss

open Tables Runs Protocol FailureLimits

variable {Cell World : Type} (client : RowClient Cell World) (importId : ImportId)

/-! ## One chunk -/

def outcomes (sql : String) (width : Nat) : World → List (List Cell) → List Outcome
  | _, [] => []
  | world, row :: rest =>
    if row.length ≠ width then .refused :: outcomes sql width world rest
    else
      match client.execute sql row world with
      | (world, .ok _) => .done :: outcomes sql width world rest
      | (world, .error _) => .failed :: outcomes sql width world rest

/-- An import after some of its rows. -/
structure SameTarget (imp after : ImportState) : Prop where
  sql : insertSql after = insertSql imp
  columns : after.columns = imp.columns
  options : after.options = imp.options

theorem SameTarget.trans {first second third : ImportState} (one : SameTarget first second)
    (two : SameTarget second third) : SameTarget first third :=
  ⟨two.sql.trans one.sql, two.columns.trans one.columns, two.options.trans one.options⟩

theorem recordInserted_target (imp : ImportState) : SameTarget imp imp.recordInserted :=
  ⟨rfl, rfl, rfl⟩

theorem recordFailed_tracked {imp : ImportState} (tracked : imp.options.trackFailedRows = true)
    (message : String) (code : Int) : imp.recordFailed message code = ({ imp with
          nextRow := saturatingSucc imp.nextRow
          failed := imp.failed ++ [⟨imp.nextRow, message, code⟩] },
        some ⟨imp.nextRow, message, code⟩) := by
  simp only [ImportState.recordFailed, tracked, if_true]

theorem recordFailed_untracked {imp : ImportState} (silent : imp.options.trackFailedRows = false)
    (message : String) (code : Int) :
    imp.recordFailed message code =
      ({ imp with nextRow := saturatingSucc imp.nextRow }, none) := by
  simp only [ImportState.recordFailed, silent, Bool.false_eq_true, if_false]

theorem recordFailed_target (imp : ImportState) (message : String) (code : Int) :
    SameTarget imp (imp.recordFailed message code).1 := by
  cases tracked : imp.options.trackFailedRows with
  | true =>
    rw [recordFailed_tracked tracked]
    exact ⟨rfl, rfl, rfl⟩
  | false =>
    rw [recordFailed_untracked tracked]
    exact ⟨rfl, rfl, rfl⟩

theorem recordFailed_inserted (imp : ImportState) (message : String) (code : Int) :
    (imp.recordFailed message code).1.inserted = imp.inserted := by
  cases tracked : imp.options.trackFailedRows with
  | true => rw [recordFailed_tracked tracked]
  | false => rw [recordFailed_untracked tracked]

def listed (options : ImportOptions) (count : Nat) : Nat :=
  if options.trackFailedRows then count else 0

theorem recordFailed_listed {imp : ImportState} {failed : List FailedRow} {count : Nat}
    (counts : failed.length = listed imp.options count) (message : String) (code : Int) :
    (failed ++ (imp.recordFailed message code).2.toList).length =
      listed imp.options (count + 1) := by
  cases tracked : imp.options.trackFailedRows with
  | true =>
    rw [recordFailed_tracked tracked]
    simpa [listed, tracked] using counts
  | false =>
    rw [recordFailed_untracked tracked]
    simpa [listed, tracked] using counts

structure Describes (imp : ImportState) (count : Nat) (rows : List (List Cell))
    (expected : List Outcome) (run : ChunkRun Cell World) : Prop where
  executed : run.executed =
    ran (fun failed => aborts imp.options (listed imp.options failed)) count expected
  left : run.left.length + run.executed.length = rows.length
  found : ∃ after, run.imports.lookup importId = some after ∧ SameTarget imp after ∧
    after.inserted = min (imp.inserted + run.executed.count .done) (2 ^ 64 - 1)

theorem outcomes_length (sql : String) (width : Nat) (world : World) (rows : List (List Cell)) :
    (outcomes client sql width world rows).length = rows.length := by
  fun_induction outcomes client sql width world rows with
  | case1 => rfl
  | case2 world row rest other ih => exact congrArg (· + 1) ih
  | case3 world row rest same world' count executed ih => exact congrArg (· + 1) ih
  | case4 world row rest same world' err executed ih => exact congrArg (· + 1) ih

-- A chunk whose first row had this outcome and whose others are described.
theorem Describes.after {imp next : ImportState} {count counted : Nat} {row : List Cell}
    {rest : List (List Cell)} {expected : List Outcome} {run : ChunkRun Cell World}
    {outcome : Outcome} (target : SameTarget imp next)
    (described : Describes importId next counted rest expected run)
    (goesOn : ran (fun failed => aborts imp.options (listed imp.options failed)) count
      (outcome :: expected) = outcome ::
          ran (fun failed => aborts imp.options (listed imp.options failed)) counted expected)
    (total : min (next.inserted + run.executed.count .done) (2 ^ 64 - 1) =
      min (imp.inserted + (outcome :: run.executed).count .done) (2 ^ 64 - 1)) :
    Describes importId imp count (row :: rest) (outcome :: expected) (run.after outcome) := by
  obtain ⟨after, found, same, inserted⟩ := described.found
  constructor
  · rw [goesOn, ← target.options, ← described.executed]
    rfl
  · have left := described.left
    simp only [ChunkRun.after, List.length_cons]
    omega
  · exact ⟨after, found, target.trans same, inserted.trans total⟩

-- By induction on the rows: each goes the way of its outcome.
theorem insertRows_describes (rows : List (List Cell)) (imports : Imports) (world : World)
    (inserted count : Nat) (failed : List FailedRow) (imp : ImportState)
    (found : imports.lookup importId = some imp) (bounded : imp.inserted ≤ 2 ^ 64 - 1)
    (counts : failed.length = listed imp.options count) : Describes importId imp count rows
      (outcomes client (insertSql imp) imp.columns.length world rows)
      (insertRows client importId rows imports world inserted failed) := by
  induction rows generalizing imports world inserted count failed imp with
  | nil =>
    refine ⟨rfl, rfl, imp, found, ⟨rfl, rfl, rfl⟩, ?_⟩
    simp only [insertRows, List.count_nil]
    omega
  | cons row rest ih =>
    by_cases width : row.length = imp.columns.length
    · have built : buildInsertSql imp row = .ok (insertSql imp, row) := by
        rw [buildInsertSql, if_neg (not_not.2 width)]
      rw [outcomes, if_neg (not_not.2 width)]
      simp only [insertRows, found, built]
      cases executed : client.execute (insertSql imp) row world with
      | mk world answer =>
        cases answer with
        | ok affected =>
          have target := recordInserted_target imp
          have succeeded : imp.recordInserted.inserted = min (imp.inserted + 1) (2 ^ 64 - 1) :=
            rfl
          have described := ih (imports.insert importId imp.recordInserted) world
            (saturatingSucc inserted) count failed imp.recordInserted
            (AList.lookup_insert _) (by omega) counts
          rw [target.sql, target.columns] at described
          refine described.after importId target rfl ?_
          rw [List.count_cons_self]
          omega
        | error err =>
          have target := recordFailed_target imp err 0
          have same := recordFailed_inserted imp err 0
          have longer := recordFailed_listed counts err 0
          dsimp only
          rw [longer]
          by_cases stopped : aborts imp.options (listed imp.options (count + 1)) = true
          · rw [if_pos stopped]
            refine ⟨?_, rfl, _, AList.lookup_insert _, target, ?_⟩
            · rw [ran, if_pos stopped]
            · have none : List.count Outcome.done [.failed] = 0 := rfl
              rw [none]
              omega
          · rw [if_neg stopped]
            have described := ih (imports.insert importId (imp.recordFailed err 0).1) world
              inserted (count + 1) (failed ++ (imp.recordFailed err 0).2.toList)
              (imp.recordFailed err 0).1 (AList.lookup_insert _) (by omega)
              (by rw [target.options]; exact longer)
            rw [target.sql, target.columns] at described
            refine described.after importId target ?_ ?_
            · rw [ran, if_neg stopped]
            · rw [List.count_cons_of_ne (by decide)]
              omega
    · have built : ∃ refusal, buildInsertSql imp row = .error refusal :=
        ⟨_, if_pos width⟩
      obtain ⟨refusal, refused⟩ := built
      rw [outcomes, if_pos width]
      simp only [insertRows, found, refused]
      refine ⟨rfl, rfl, imp, found, ⟨rfl, rfl, rfl⟩, ?_⟩
      simp only [List.count_nil]
      omega

-- A chunk of one import leaves the others alone.
theorem insertRows_frame {other : ImportId} (different : other ≠ importId)
    (rows : List (List Cell)) (imports : Imports) (world : World) (inserted : Nat)
    (failed : List FailedRow) :
    (insertRows client importId rows imports world inserted failed).imports.lookup other =
      imports.lookup other := by
  induction rows generalizing imports world inserted failed with
  | nil => rfl
  | cons row rest ih =>
    have framed (imp : ImportState) :
        (imports.insert importId imp).lookup other = imports.lookup other :=
      AList.lookup_insert_ne different
    rw [insertRows]
    split
    · rfl
    · split
      · rfl
      · split
        · exact (ih _ _ _ _).trans (framed _)
        · dsimp only
          split
          · exact framed _
          · exact (ih _ _ _ _).trans (framed _)

/-! ## All chunks of an import -/

/-- The table of imports, with what has become of the rows of one of them: the outcomes of those
that were executed, and for each chunk with rows left how many had failed by then. -/
structure Watched (World : Type) where
  imports : Imports
  world : World
  executed : List Outcome := []
  leftAt : List Nat := []

def concerns (params : Params (ChunkParams Cell)) : Bool :=
  params.toOption.any fun p => p.importId = importId

def Watched.record (state : Watched World) (run : ChunkRun Cell World) : Watched World where
  imports := run.imports
  world := run.world
  executed := state.executed ++ run.executed
  leftAt := if run.left = [] then state.leftAt
    else state.leftAt ++ [failures (state.executed ++ run.executed)]

def chunkMachine :
    Machine (Watched World) (Params (ChunkParams Cell)) (Except ProtocolError ChunkResult) where
  step state params :=
    let run := handleDataImportChunk client state.imports params state.world
    (if concerns importId params then state.record run
      else { state with imports := run.imports, world := run.world }, run.answer)

/-- The import has kept to its limit: no row was executed after so many had failed, every executed
row is inserted or failed, and rows were left only when so many had failed. -/
structure ImportSound (limit : Nat) (state : Watched World) : Prop where
  stopped : WithinLimit limit 0 state.executed
  accounted : ∃ imp, state.imports.lookup importId = some imp ∧
    imp.inserted + failures state.executed = state.executed.length
  unskipped : ∀ count ∈ state.leftAt, limit ≤ count

/-- The import counts the failures of a chunk, or stops at the first. -/
def Watching (options : ImportOptions) : Prop :=
  options.trackFailedRows = true ∨ options.abortOnFailures = some 0

/-- What a chunk of the import may hold, given what has become of its rows so far. -/
structure Fitting (limit : Nat) (state : Watched World) (imp : ImportState)
    (expected : List Outcome) : Prop where
  fits : Fits limit (Watching imp.options) (failures state.executed) (failures state.executed)
    expected
  counted : (state.executed ++ due limit (failures state.executed) expected).count .done < 2 ^ 64

def Allowed (limit : Nat) (state : Watched World) (params : Params (ChunkParams Cell)) : Prop :=
  ∀ p imp, params = .ok p → p.importId = importId → state.imports.lookup importId = some imp →
    Fitting limit state imp
      (outcomes client (insertSql imp) imp.columns.length state.world p.rows)

/-- What holds of the import whatever its chunks are. -/
structure ImportTracked (begun : ImportState) (state : Watched World) : Prop where
  found : ∃ imp, state.imports.lookup importId = some imp ∧ SameTarget begun imp ∧
    imp.inserted = min (state.executed.count .done) (2 ^ 64 - 1)
  accepted : .refused ∉ state.executed

theorem watches_limit {options : ImportOptions} {limit : Nat}
    (limited : options.abortOnFailures = some limit) (fits : limit < 2 ^ 32) :
    Watches (max limit 1) (Watching options)
      fun failed => aborts options (listed options failed) where
  stopsAt watching count some within := by
    rcases watching with tracked | zero
    · have same : count % 2 ^ 32 = count := Nat.mod_eq_of_lt (by omega)
      simp only [aborts, listed, tracked, limited, if_true, Option.any_some, same,
        decide_eq_true_eq]
      omega
    · rw [limited] at zero
      cases zero
      simp only [aborts, limited, Option.any_some, Nat.zero_le, decide_true, true_iff]
      omega
  never silent count := by
    have untracked : options.trackFailedRows = false := by
      by_contra tracked
      exact silent (Or.inl (by simpa using tracked))
    have positive : limit ≠ 0 := by
      rintro rfl
      exact silent (Or.inr limited)
    simp only [aborts, listed, untracked, limited, Option.any_some, Bool.false_eq_true, if_false,
      Nat.zero_mod, decide_eq_false_iff_not]
    omega

section Step

variable {client importId} {begun : ImportState} {limit : Nat} {state : Watched World}

theorem record_tracked {imp : ImportState} {rows : List (List Cell)} {expected : List Outcome}
    {run : ChunkRun Cell World} (target : SameTarget begun imp)
    (inserted : imp.inserted = min (state.executed.count .done) (2 ^ 64 - 1))
    (accepted : .refused ∉ state.executed)
    (described : Describes importId imp 0 rows expected run) :
    ImportTracked importId begun (state.record run) := by
  obtain ⟨after, found, same, total⟩ := described.found
  constructor
  · refine ⟨after, found, target.trans same, ?_⟩
    rw [total, inserted, Watched.record, List.count_append]
    omega
  · rw [Watched.record, described.executed, List.mem_append]
    exact fun among => among.elim accepted (refused_notMem_ran _ _ _)

theorem record_sound_iff (limited : begun.options.abortOnFailures = some limit)
    (fits : limit < 2 ^ 32) {imp : ImportState} {rows : List (List Cell)}
    {expected : List Outcome} {run : ChunkRun Cell World} (target : SameTarget begun imp)
    (inserted : imp.inserted = min (state.executed.count .done) (2 ^ 64 - 1))
    (accepted : .refused ∉ state.executed) (length : expected.length = rows.length)
    (described : Describes importId imp 0 rows expected run)
    (sound : ImportSound importId (max limit 1) state) :
    ImportSound importId (max limit 1) (state.record run) ↔
      Fitting (max limit 1) state imp expected := by
  have tracked := record_tracked target inserted accepted described
  obtain ⟨after, found, _, total⟩ := tracked.found
  have watches := watches_limit (target.options ▸ limited) fits
  have kept := @kept_iff _ (failures state.executed) _ _ watches expected 0 (by omega)
  have all := ran_append_drop (fun failed => aborts imp.options (listed imp.options failed)) 0
    expected
  rw [← described.executed] at kept all
  have rest : expected.drop run.executed.length = [] ↔ run.left = [] := by
    have left := described.left
    rw [← List.length_eq_zero_iff, ← List.length_eq_zero_iff, List.length_drop]
    omega
  have counts := done_add_failures tracked.accepted
  rw [Nat.add_zero, Kept.congr rest] at kept
  have whole (keeps : WithinLimit (max limit 1) (failures state.executed) run.executed ∧
      (run.left ≠ [] → max limit 1 ≤ failures state.executed + failures run.executed)) :
      state.executed ++ due (max limit 1) (failures state.executed) expected =
        (state.record run).executed := by
    have ran := due_of_kept ((Kept.congr rest).2 keeps)
    rw [all] at ran
    rw [ran, Watched.record]
  constructor
  · intro sound
    have within := (within_append _ 0 _ _).1 sound.stopped
    rw [Nat.zero_add] at within
    have keeps : WithinLimit (max limit 1) (failures state.executed) run.executed ∧
        (run.left ≠ [] → max limit 1 ≤ failures state.executed + failures run.executed) := by
      refine ⟨within.2, fun some => ?_⟩
      rw [← failures_append]
      apply sound.unskipped
      rw [Watched.record, if_neg some]
      exact List.mem_append_right _ (List.mem_singleton.2 rfl)
    refine ⟨kept.1 keeps, ?_⟩
    obtain ⟨final, lookup, accounted⟩ := sound.accounted
    rw [found] at lookup
    cases lookup
    rw [whole keeps]
    omega
  · intro fitting
    have keeps := kept.2 fitting.fits
    have few := fitting.counted
    rw [whole keeps] at few
    constructor
    · refine (within_append _ 0 _ _).2 ⟨sound.stopped, ?_⟩
      rw [Nat.zero_add]
      exact keeps.1
    · exact ⟨after, found, by omega⟩
    · intro count among
      rw [Watched.record] at among
      split at among
      · exact sound.unskipped count among
      · next some =>
          rcases List.mem_append.1 among with before | here
          · exact sound.unskipped count before
          · rw [List.mem_singleton.1 here, failures_append]
            exact keeps.2 some

-- A request for the import, or for another one, or one that does not decode.
theorem step_cases (client : RowClient Cell World) (importId : ImportId)
    (state : Watched World) (params : Params (ChunkParams Cell)) :
    (∃ p, params = .ok p ∧ p.importId = importId ∧
      ((chunkMachine client importId).step state params).1 =
        state.record (insertRows client importId p.rows state.imports state.world 0 [])) ∨
    ((∀ p, params = .ok p → p.importId ≠ importId) ∧
      ((chunkMachine client importId).step state params).1.executed = state.executed ∧
      ((chunkMachine client importId).step state params).1.leftAt = state.leftAt ∧
      ((chunkMachine client importId).step state params).1.imports.lookup importId =
        state.imports.lookup importId) := by
  cases params with
  | error err => exact Or.inr ⟨fun p same => (by cases same), rfl, rfl, rfl⟩
  | ok p =>
    by_cases own : p.importId = importId
    · refine Or.inl ⟨p, rfl, own, ?_⟩
      subst own
      simp [chunkMachine, concerns, handleDataImportChunk, decoded, Except.mapError,
        Except.toOption]
    · refine Or.inr ⟨?_, ?_⟩
      · intro other same
        cases same
        exact own
      · have framed := insertRows_frame client p.importId (Ne.symm own) p.rows state.imports
          state.world 0 []
        simpa [chunkMachine, concerns, handleDataImportChunk, decoded, Except.mapError,
          Except.toOption, own] using framed

theorem ImportSound.congr {other : Watched World} (executed : other.executed = state.executed)
    (leftAt : other.leftAt = state.leftAt)
    (found : other.imports.lookup importId = state.imports.lookup importId) :
    ImportSound importId limit other ↔ ImportSound importId limit state := by
  constructor
  · rintro ⟨stopped, accounted, unskipped⟩
    rw [executed] at stopped accounted
    exact ⟨stopped, found ▸ accounted, leftAt ▸ unskipped⟩
  · rintro ⟨stopped, accounted, unskipped⟩
    refine ⟨executed ▸ stopped, ?_, leftAt ▸ unskipped⟩
    rw [executed, found]
    exact accounted

theorem ImportTracked.congr {other : Watched World} (executed : other.executed = state.executed)
    (found : other.imports.lookup importId = state.imports.lookup importId)
    (tracked : ImportTracked importId begun state) : ImportTracked importId begun other := by
  constructor
  · rw [executed, found]
    exact tracked.found
  · rw [executed]
    exact tracked.accepted

theorem step_sound_iff (limited : begun.options.abortOnFailures = some limit)
    (fits : limit < 2 ^ 32) (params : Params (ChunkParams Cell))
    (tracked : ImportTracked importId begun state)
    (sound : ImportSound importId (max limit 1) state) :
    ImportTracked importId begun ((chunkMachine client importId).step state params).1 ∧
      (ImportSound importId (max limit 1) ((chunkMachine client importId).step state params).1 ↔
        Allowed client importId (max limit 1) state params) := by
  obtain ⟨imp, found, target, inserted⟩ := tracked.found
  rcases step_cases client importId state params with
    ⟨p, rfl, own, next⟩ | ⟨other, executed, leftAt, same⟩
  · have described := insertRows_describes client importId p.rows state.imports state.world 0 0 []
      imp found (by omega) (by simp [listed])
    have length := outcomes_length client (insertSql imp) imp.columns.length state.world p.rows
    rw [next, record_sound_iff limited fits target inserted tracked.accepted length described sound]
    refine ⟨record_tracked target inserted tracked.accepted described, ?_⟩
    constructor
    · rintro fitting p' imp' same _ lookup
      cases same
      rw [found] at lookup
      cases lookup
      exact fitting
    · intro allowed
      exact allowed p imp rfl own found
  · refine ⟨tracked.congr executed same, ?_⟩
    rw [ImportSound.congr executed leftAt same]
    constructor
    · intro _ p imp decoded own
      exact absurd own (other p decoded)
    · intro _
      exact sound

end Step

/-- The state in which an import has just begun. -/
def begin (imports : Imports) (p : ImportBeginParams) (world : World) : Watched World where
  imports := (handleDataImportBegin client imports (.ok p) world).1
  world := (handleDataImportBegin client imports (.ok p) world).2.1

theorem begin_found {imports : Imports} {p : ImportBeginParams} {world : World}
    (begun : (handleDataImportBegin client imports (.ok p) world).2.2 = .ok importId) :
    (begin client imports p world).imports.lookup importId =
      some { table := p.table, schema := p.schema, database := p.database, columns := p.columns,
             options := p.options } := by
  by_cases none : p.columns = []
  · simp [handleDataImportBegin, decoded, Except.mapError, none] at begun
  · simp only [handleDataImportBegin, decoded, Except.mapError, none, if_false] at begun
    cases begun
    simp only [begin, handleDataImportBegin, decoded, Except.mapError, none, if_false]
    exact AList.lookup_insert _

/-- Over every sequence of chunks, the import keeps to its limit and accounts for its rows exactly
when every chunk fits. -/
theorem import_limit_iff (imports : Imports) (p : ImportBeginParams) (world : World) (limit : Nat)
    (limited : p.options.abortOnFailures = some limit) (fits : limit < 2 ^ 32)
    (begun : (handleDataImportBegin client imports (.ok p) world).2.2 = .ok importId)
    (requests : List (Params (ChunkParams Cell))) :
    (∀ reached ∈ (chunkMachine client importId).visited (begin client imports p world) requests,
      ImportSound importId (max limit 1) reached) ↔
    (chunkMachine client importId).Respects (Allowed client importId (max limit 1))
      (begin client imports p world) requests := by
  have found := begin_found client importId begun
  generalize target : ({
      table := p.table, schema := p.schema, database := p.database, columns := p.columns
      options := p.options } : ImportState) = fresh at found
  have limited' : fresh.options.abortOnFailures = some limit := by rw [← target]; exact limited
  have none : fresh.inserted = 0 := by rw [← target]
  apply visited_property_iff _ _
    (fun state => ImportTracked importId fresh state ∧ ImportSound importId (max limit 1) state)
  · exact fun state both => both.2
  · intro state params _ both allowed
    have step := @step_sound_iff _ _ client _ _ _ _ limited' fits params both.1 both.2
    exact ⟨step.1, step.2.2 allowed⟩
  · intro state params _ both sound
    exact (step_sound_iff limited' fits params both.1 both.2).2.1 sound
  · refine ⟨⟨⟨fresh, found, ⟨rfl, rfl, rfl⟩, none.trans rfl⟩, List.not_mem_nil⟩, trivial,
      ⟨fresh, found, none⟩, ?_⟩
    intro count among
    cases among

/-! ## Some imports -/

/-- A database that takes the rows of a true cell. -/
def pickyClient : RowClient Bool Unit where
  execute _ row world := (world, if row.all id then .ok 1 else .error "duplicate key")
  newUuid world := (world, "1")

def peopleImport (limit : Nat) (track : Bool) : ImportBeginParams where
  connId := 1
  table := "people"
  format := .csv
  columns := ["name"]
  options :=
    { upsert := false, onConflictColumns := [], disableTriggers := false,
      abortOnFailures := some limit, trackFailedRows := track }

def peopleChunk (cells : List Bool) : Params (ChunkParams Bool) :=
  .ok { importId := "opengauss-import-1", rows := cells.map fun cell => [cell] }

/-- Two failures in one chunk of an import that lists them and stops at the second. -/
theorem second_failure_stops :
    (handleDataImportBegin pickyClient ∅ (.ok (peopleImport 2 true)) ()).2.2 =
        .ok "opengauss-import-1" ∧
      ∀ reached ∈ (chunkMachine pickyClient "opengauss-import-1").visited
        (begin pickyClient ∅ (peopleImport 2 true) ()) [peopleChunk [true, false, false, true]],
        ImportSound "opengauss-import-1" 2 reached := by
  constructor
  · rfl
  · apply (import_limit_iff pickyClient "opengauss-import-1" ∅ (peopleImport 2 true) () 2 rfl
      (by decide) rfl [peopleChunk [true, false, false, true]]).2
    constructor
    · intro p imp given _ found
      cases given
      cases found
      exact ⟨⟨by decide +kernel, Or.inr (Or.inr ⟨rfl, Or.inl rfl⟩)⟩, by decide +kernel⟩
    · trivial

/-- With a limit of one failure: a chunk that does not list its failures goes on after the first,
and so does the next chunk of an import that does; a row of another width hides the rows after it. -/
theorem failures_past_limit :
    (¬∀ reached ∈ (chunkMachine pickyClient "opengauss-import-1").visited
        (begin pickyClient ∅ (peopleImport 1 false) ()) [peopleChunk [false, true]],
      ImportSound "opengauss-import-1" 1 reached) ∧
    (¬∀ reached ∈ (chunkMachine pickyClient "opengauss-import-1").visited
        (begin pickyClient ∅ (peopleImport 1 true) ()) [peopleChunk [false], peopleChunk [true]],
      ImportSound "opengauss-import-1" 1 reached) ∧
    ¬∀ reached ∈ (chunkMachine pickyClient "opengauss-import-1").visited
        (begin pickyClient ∅ (peopleImport 1 true) ())
        [.ok { importId := "opengauss-import-1", rows := [[true], [], [true]] }],
      ImportSound "opengauss-import-1" 1 reached := by
  refine ⟨fun all => ?_, fun all => ?_, fun all => ?_⟩
  · have last := all _ (run_mem_visited _ _ _)
    exact absurd last.stopped (by decide +kernel)
  · have last := all _ (run_mem_visited _ _ _)
    exact absurd last.stopped (by decide +kernel)
  · have last := all _ (run_mem_visited _ _ _)
    exact absurd (last.unskipped 0 (by decide +kernel)) (by decide)

end Onetcli.OpenGauss
