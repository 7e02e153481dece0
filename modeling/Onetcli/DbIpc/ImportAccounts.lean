import Onetcli.DbIpc.Transactions
import Onetcli.Lib.Batches

/-!
What `data/import_commit` reports about the rows of an import. The totals are kept
in the import, but a failed row is reported under its index in its chunk; the
other runtimes count over the whole import. `import_accounts_iff` says for which
runs the two agree.
-/

namespace Onetcli.DbIpc

open Text Tables Runs Checks Batches

variable {World : Type} (rt : Runtime World)

/-! ## Rows of a chunk -/

section Rows

variable (db : Db) (sqlText : String)

/-- One turn of the loop: the error with which a row fails. -/
def insertRow (row : Except String (List SqlValue)) (world : World) : World × Option String :=
  match row with
  | .error err => (world, some err)
  | .ok args =>
    match rt.execDb db sqlText args world with
    | (world, .error err) => (world, some err)
    | (world, .ok _) => (world, none)

/-- Which rows of a chunk fail. -/
def rowFailures : List (Except String (List SqlValue)) → World → List Bool
  | [], _ => []
  | row :: rest, world =>
    let answer := insertRow rt db sqlText row world
    answer.2.isSome :: rowFailures rest answer.1

theorem length_rowFailures (rows : List (Except String (List SqlValue))) (world : World) :
    (rowFailures rt db sqlText rows world).length = rows.length := by
  induction rows generalizing world with
  | nil => rfl
  | cons row rest ih => rw [rowFailures, List.length_cons, ih, List.length_cons]

theorem insertRows_cons (row : Except String (List SqlValue))
    (rest : List (Except String (List SqlValue))) (index : Nat) (world : World) :
    insertRows rt db sqlText (row :: rest) index world =
      let answer := insertRow rt db sqlText row world
      let tail := insertRows rt db sqlText rest (index + 1) answer.1
      match answer.2 with
      | some err => (tail.1, tail.2.1, ⟨index, err, errSQLSyntax⟩ :: tail.2.2)
      | none => (tail.1, tail.2.1 + 1, tail.2.2) := by
  rfl

theorem insertRows_total (rows : List (Except String (List SqlValue))) (index : Nat)
    (world : World) : (insertRows rt db sqlText rows index world).2.1 +
      (insertRows rt db sqlText rows index world).2.2.length = rows.length := by
  induction rows generalizing index world with
  | nil => rfl
  | cons row rest ih =>
    have tail := ih (index + 1) (insertRow rt db sqlText row world).1
    rw [insertRows_cons, List.length_cons]
    dsimp only
    split
    · simp only [List.length_cons]
      omega
    · simp only
      omega

theorem insertRows_numbers (rows : List (Except String (List SqlValue))) (index : Nat)
    (world : World) : (insertRows rt db sqlText rows index world).2.2.map FailedRow.rowIndex =
      (rowFailures rt db sqlText rows world).findIdxs id index := by
  induction rows generalizing index world with
  | nil => rfl
  | cons row rest ih =>
    have tail := ih (index + 1) (insertRow rt db sqlText row world).1
    rw [insertRows_cons, rowFailures, List.findIdxs_cons]
    dsimp only
    cases failed : (insertRow rt db sqlText row world).2 with
    | some err => simp [tail]
    | none => simp [tail]

end Rows

/-! ## Chunks of an import -/

section Chunks

variable (importID : String)

def acceptedChunk (s : Server World) (params : Params ImportChunkParams) :
    Option (ImportChunkParams × ImportState × ConnectionState World × String) := do
  let p ← params.toOption
  let imp ← s.imports.lookup p.importID
  let conn ← s.conns.lookup imp.connID
  let sqlText ← (buildInsertSQL s.spec imp).toOption
  pure (p, imp, conn, sqlText)

/-- The rows that a chunk submits to the import, by whether they fail; none when the
chunk is refused or belongs to another import. -/
def chunkBatch (state : Server World × World) (params : Params ImportChunkParams) : List Bool :=
  match acceptedChunk state.1 params with
  | none => []
  | some (p, _, conn, sqlText) =>
    if p.importID = importID then rowFailures rt conn.db sqlText p.rows state.2 else []

def chunkRequest (chunk : String × Params ImportChunkParams) : Message :=
  { id := chunk.1, call := .dataImportChunk chunk.2 }

def chunkBatches : Server World × World → List (String × Params ImportChunkParams) →
    List (List Bool)
  | _, [] => []
  | state, chunk :: rest =>
    chunkBatch rt importID state chunk.2 ::
      chunkBatches ((machine rt).step state (chunkRequest chunk)).1 rest

def Accounts (s : Server World) (batches : List (List Bool)) : Prop :=
  ∃ imp, s.imports.lookup importID = some imp ∧
    imp.inserted + imp.failed.length = batches.flatten.length ∧
    imp.failed.map FailedRow.rowIndex = localNumbers id batches

variable {importID}

variable {s : Server World}

theorem Accounts.snoc_nil {batches : List (List Bool)}
    (accounts : Accounts importID s batches) : Accounts importID s (batches ++ [[]]) := by
  simpa [Accounts, localNumbers] using accounts

-- A refused chunk changes nothing; any other adds the outcome of its rows.
theorem handleDataImportChunk_server (s : Server World) (params : Params ImportChunkParams)
    (world : World) :
    (handleDataImportChunk rt s params world).1 =
      match acceptedChunk s params with
      | none => s
      | some (p, imp, conn, sqlText) =>
        { s with imports := s.imports.insert p.importID { imp with
          inserted := imp.inserted + (insertRows rt conn.db sqlText p.rows 0 world).2.1
          failed := imp.failed ++ (insertRows rt conn.db sqlText p.rows 0 world).2.2 } } := by
  cases params with
  | error err => rfl
  | ok p =>
    cases found : s.imports.lookup p.importID with
    | none =>
      simp [handleDataImportChunk, acceptedChunk, decoded, knownImport, found,
        Except.mapError, Except.toOption, bind, Except.bind]
    | some imp =>
      cases known : s.conns.lookup imp.connID with
      | none =>
        simp [handleDataImportChunk, acceptedChunk, decoded, knownImport, knownConn, found,
          known, Except.mapError, Except.toOption, bind, Except.bind]
      | some conn =>
        cases built : buildInsertSQL s.spec imp with
        | error err =>
          simp [handleDataImportChunk, acceptedChunk, decoded, knownImport, knownConn,
            found, known, built, Except.mapError, Except.toOption, bind, Except.bind]
        | ok sqlText =>
          simp [handleDataImportChunk, acceptedChunk, decoded, knownImport, knownConn,
            found, known, built, Except.mapError, Except.toOption, bind, Except.bind, pure,
            Except.pure]

theorem acceptedChunk_import {params : Params ImportChunkParams}
    {p : ImportChunkParams} {imp : ImportState} {conn : ConnectionState World} {sqlText : String}
    (accepted : acceptedChunk s params = some (p, imp, conn, sqlText)) :
    s.imports.lookup p.importID = some imp := by
  simp only [acceptedChunk, Option.bind_eq_bind, Option.bind_eq_some_iff, Option.pure_def,
    Option.some.injEq, Prod.mk.injEq] at accepted
  obtain ⟨_, _, _, found, _, _, _, _, rfl, rfl, _, _⟩ := accepted
  exact found

theorem handleDataImportChunk_accounts {batches : List (List Bool)}
    (accounts : Accounts importID s batches) (params : Params ImportChunkParams) (world : World) :
    Accounts importID (handleDataImportChunk rt s params world).1
      (batches ++ [chunkBatch rt importID (s, world) params]) := by
  rw [handleDataImportChunk_server, chunkBatch]
  cases accepted : acceptedChunk s params with
  | none => exact accounts.snoc_nil
  | some chunk =>
    obtain ⟨p, imp, conn, sqlText⟩ := chunk
    have found := acceptedChunk_import accepted
    dsimp only
    by_cases same : p.importID = importID
    · subst same
      obtain ⟨known, here, total, numbers⟩ := accounts
      rw [found, Option.some.injEq] at here
      subst here
      rw [if_pos rfl]
      refine ⟨_, AList.lookup_insert _, ?_, ?_⟩
      · have rows := insertRows_total rt conn.db sqlText p.rows 0 world
        simp only [List.length_append, List.flatten_append, List.flatten_singleton,
          length_rowFailures]
        omega
      · simp [numbers, insertRows_numbers, localNumbers]
    · rw [if_neg same]
      obtain ⟨known, here, rest⟩ := accounts.snoc_nil
      exact ⟨known, (AList.lookup_insert_ne (Ne.symm same)).trans here, rest⟩

theorem step_ready (ready : s.initialized = true) (world : World) (id : String)
    (call : Call) :
    ((machine rt).step (s, world) { id, call }).1.1 = (dispatch rt s world call).1 ∧
      ((machine rt).step (s, world) { id, call }).2.body = (dispatch rt s world call).2.2 :=
  handle_admitted rt s world ⟨Or.inr rfl, Or.inr ready⟩

theorem handleDataImportChunk_initialized (s : Server World) (params : Params ImportChunkParams)
    (world : World) : (handleDataImportChunk rt s params world).1.initialized = s.initialized := by
  rw [handleDataImportChunk_server]
  split <;> rfl

-- A run of chunks adds all their rows.
theorem run_accounts (chunks : List (String × Params ImportChunkParams))
    (state : Server World × World) (ready : state.1.initialized = true)
    {batches : List (List Bool)} (accounts : Accounts importID state.1 batches) :
    ((machine rt).run state (chunks.map chunkRequest)).1.1.initialized = true ∧
      Accounts importID ((machine rt).run state (chunks.map chunkRequest)).1.1
        (batches ++ chunkBatches rt importID state chunks) := by
  induction chunks generalizing state batches with
  | nil =>
    rw [chunkBatches, List.append_nil]
    exact ⟨ready, accounts⟩
  | cons chunk rest ih =>
    have next : ((machine rt).step state (chunkRequest chunk)).1.1 =
        (handleDataImportChunk rt state.1 chunk.2 state.2).1 :=
      (step_ready rt ready state.2 chunk.1 (.dataImportChunk chunk.2)).1
    have added := handleDataImportChunk_accounts rt accounts chunk.2 state.2
    have still := handleDataImportChunk_initialized rt state.1 chunk.2 state.2
    rw [← next] at added still
    have later := ih _ (still.trans ready) added
    rw [List.append_assoc, List.singleton_append] at later
    exact later

def beginRequest (id : String) (params : Params ImportBeginParams) : Message :=
  { id, call := .dataImportBegin params }

def commitRequest (id importID : String) : Message :=
  { id, call := .dataImportCommit (.ok importID) }

theorem begun_accounts {world : World} {id : String} {params : Params ImportBeginParams}
    (begun : ((machine rt).step (s, world) (beginRequest id params)).2.body =
      .ok (.importBegun importID)) :
    ((machine rt).step (s, world) (beginRequest id params)).1.1.initialized = true ∧
      Accounts importID ((machine rt).step (s, world) (beginRequest id params)).1.1 [] := by
  cases ready : s.initialized with
  | false => simp [machine, handle, beginRequest, Call.beforeInit, ready] at begun
  | true =>
    have dispatched := step_ready rt ready world id (.dataImportBegin params)
    rw [beginRequest, dispatched.2] at begun
    rw [beginRequest, dispatched.1]
    simp only [dispatch, handleDataImportBegin] at begun ⊢
    split at begun
    · cases begun
    · cases begun
      exact ⟨ready, _, AList.lookup_insert _, rfl, rfl⟩

theorem commit_reports (ready : s.initialized = true) (world : World)
    {imp : ImportState} (found : s.imports.lookup importID = some imp) (id : String) :
    ((machine rt).step (s, world) (commitRequest id importID)).2.body =
      .ok (.info (.importDone imp.inserted imp.failed (rt.milliseconds world - imp.started))) := by
  rw [commitRequest, (step_ready rt ready world id _).2]
  simp [dispatch, inProcess, handleDataImportCommit, decoded, knownImport, found, Answer.reply,
    Except.mapError, Except.map, bind, Except.bind, pure, Except.pure]

end Chunks

/-- The report accounts for every submitted row, and each failed row stands under its
number in the whole import. -/
structure Consistent (batches : List (List Bool)) (inserted : Nat) (failed : List FailedRow) :
    Prop where
  total : inserted + failed.length = batches.flatten.length
  distinct : (failed.map FailedRow.rowIndex).Nodup
  positions : ∀ row ∈ failed, batches.flatten[row.rowIndex]? = some true

theorem mem_globalNumbers_iff (batches : List (List Bool)) (number : Nat) :
    number ∈ globalNumbers id 0 batches ↔ batches.flatten[number]? = some true := by
  rw [globalNumbers, List.mem_findIdxs_iff_exists_getElem_pos, List.getElem?_eq_some_iff]
  rfl

theorem consistent_iff {batches : List (List Bool)} {inserted : Nat} {failed : List FailedRow}
    (total : inserted + failed.length = batches.flatten.length)
    (numbers : failed.map FailedRow.rowIndex = localNumbers id batches) :
    Consistent batches inserted failed ↔ Aligned id 0 batches := by
  rw [← numbers_agree_iff, ← numbers]
  constructor
  · rintro ⟨_, distinct, positions⟩
    refine ⟨distinct, fun number member => ?_⟩
    obtain ⟨row, inFailed, rfl⟩ := List.mem_map.mp member
    exact (mem_globalNumbers_iff batches _).mpr (positions row inFailed)
  · rintro ⟨distinct, positions⟩
    refine ⟨total, distinct, fun row member => ?_⟩
    exact (mem_globalNumbers_iff batches _).mp
      (positions row.rowIndex (List.mem_map_of_mem member))

/-- The report of an import is consistent exactly when no row fails after rows of an
earlier chunk. -/
theorem import_accounts_iff (s : Server World) (world : World) (beginID commitID : String)
    (params : Params ImportBeginParams) (importID : String)
    (begun : ((machine rt).step (s, world) (beginRequest beginID params)).2.body =
      .ok (.importBegun importID))
    (chunks : List (String × Params ImportChunkParams)) :
    let start := ((machine rt).step (s, world) (beginRequest beginID params)).1
    let reached := ((machine rt).run start (chunks.map chunkRequest)).1
    ∃ inserted failed elapsed,
      ((machine rt).step reached (commitRequest commitID importID)).2.body =
          .ok (.info (.importDone inserted failed elapsed)) ∧
        (Consistent (chunkBatches rt importID start chunks) inserted failed ↔
          Aligned id 0 (chunkBatches rt importID start chunks)) := by
  intro start reached
  obtain ⟨initialized, opened⟩ := begun_accounts rt begun
  obtain ⟨ready, imp, found, total, numbers⟩ := run_accounts rt chunks start initialized opened
  rw [List.nil_append] at total numbers
  exact ⟨_, _, _, commit_reports rt ready _ found commitID, consistent_iff total numbers⟩

def connectedServer : Server Unit × Unit :=
  ((machine (plainRuntime Unit none)).run
    (newServer (plainRuntime Unit none) (plainSpec false) none, ()) (openTransaction.take 2)).1

def importOfPeople : Params ImportBeginParams :=
  .ok { connID := 1, table := "people", format := "csv", columns := ["name"] }

def chunkOf (rows : List (Except String (List SqlValue))) :
    String × Params ImportChunkParams := ("", .ok ⟨"plain-import-1", rows⟩)

def importingServer : Server Unit × Unit :=
  ((machine (plainRuntime Unit none)).step connectedServer (beginRequest "" importOfPeople)).1

theorem failure_in_first_chunk_accounts :
    let rt := plainRuntime Unit none
    let chunks := [chunkOf [.ok [], .error "bad"], chunkOf [.ok []]]
    let reached := ((machine rt).run importingServer (chunks.map chunkRequest)).1
    ∃ inserted failed elapsed,
      ((machine rt).step reached (commitRequest "" "plain-import-1")).2.body =
          .ok (.info (.importDone inserted failed elapsed)) ∧
        Consistent (chunkBatches rt "plain-import-1" importingServer chunks) inserted failed := by
  intro rt chunks reached
  obtain ⟨inserted, failed, elapsed, report, accounts⟩ :=
    import_accounts_iff rt connectedServer.1 () "" "" importOfPeople "plain-import-1" rfl chunks
  have batches : chunkBatches rt "plain-import-1" importingServer chunks =
      [[false, true], [false]] := rfl
  refine ⟨inserted, failed, elapsed, report, accounts.mpr ?_⟩
  show Aligned id 0 (chunkBatches rt "plain-import-1" importingServer chunks)
  rw [batches]
  exact ⟨Or.inl rfl, Or.inr (by decide), trivial⟩

-- The second row of the import fails, as the first of its chunk: reported as row 0.
theorem failure_in_second_chunk_misnumbered :
    let rt := plainRuntime Unit none
    let chunks := [chunkOf [.ok []], chunkOf [.error "bad"]]
    let reached := ((machine rt).run importingServer (chunks.map chunkRequest)).1
    ((machine rt).step connectedServer (beginRequest "" importOfPeople)).2.body =
        .ok (.importBegun "plain-import-1") ∧
      ((machine rt).step reached (commitRequest "" "plain-import-1")).2.body =
        .ok (.info (.importDone 1 [⟨0, "bad", errSQLSyntax⟩] 0)) ∧
      chunkBatches rt "plain-import-1" importingServer chunks = [[false], [true]] ∧
      ¬ Consistent (chunkBatches rt "plain-import-1" importingServer chunks) 1
        [⟨0, "bad", errSQLSyntax⟩] := by
  intro rt chunks reached
  have batches : chunkBatches rt "plain-import-1" importingServer chunks = [[false], [true]] := rfl
  refine ⟨rfl, rfl, batches, ?_⟩
  intro consistent
  rw [batches] at consistent
  have position := consistent.positions _ List.mem_cons_self
  exact absurd position (by decide)

end Onetcli.DbIpc

/-!
The statement that an import chunk is written with. Its columns are the named ones of the import
and its placeholders are as many as all of them, so a cell can go to another column than the one it
was given for.
-/

namespace Onetcli.DbIpc

variable {World : Type}

structure InsertStatement where
  tableName : String
  columns : List String
  placeholders : List String

namespace InsertStatement

def text (spec : DriverSpec World) (insert : InsertStatement) : String :=
  "INSERT INTO " ++ insert.tableName ++ " (" ++
    String.intercalate ", " (insert.columns.map (quoteIdentifier spec)) ++ ") VALUES (" ++
    String.intercalate ", " insert.placeholders ++ ")"

/-- What the statement stores of a row of cells: the value of each placeholder goes to the column
at its place, and a database refuses a statement with more of the one than of the other. -/
def stored {Cell : Type} (insert : InsertStatement) (cells : List Cell) :
    Option (List (String × Cell)) :=
  if insert.columns.length = insert.placeholders.length ∧
      cells.length = insert.placeholders.length then
    some (insert.columns.zip cells)
  else none

structure Stores (insert : InsertStatement) (requested : List String) : Prop where
  counts : insert.columns.length = insert.placeholders.length
  places : ∀ place : Nat, insert.columns[place]? = requested[place]?
  rows : ∀ {Cell : Type} (cells : List Cell), cells.length = requested.length →
    insert.stored cells = some (requested.zip cells)

end InsertStatement

def insertStatement (spec : DriverSpec World) (imp : ImportState) : InsertStatement where
  tableName := qualifiedTableName spec imp.database imp.schema imp.table
  columns := imp.columns.filter (· ≠ "")
  placeholders := imp.columns.map fun _ => "?"

theorem InsertStatement.text_parts (spec : DriverSpec World) {insert : InsertStatement}
    {table columns marks : String} (named : insert.tableName = table)
    (listed : String.intercalate ", " (insert.columns.map (quoteIdentifier spec)) = columns)
    (marked : String.intercalate ", " insert.placeholders = marks) : insert.text spec =
      "INSERT INTO " ++ table ++ " (" ++ columns ++ ") VALUES (" ++ marks ++ ")" := by
  rw [← named, ← listed, ← marked]
  rfl

theorem buildInsertSQL_text {spec : DriverSpec World} {imp : ImportState} {sqlText : String}
    (built : buildInsertSQL spec imp = .ok sqlText) :
    sqlText = (insertStatement spec imp).text spec := by
  have named : (insertStatement spec imp).tableName =
      qualifiedTableName spec imp.database imp.schema imp.table := by
    rw [insertStatement]
  have listed : String.intercalate ", "
      ((insertStatement spec imp).columns.map (quoteIdentifier spec)) =
        quoteIdentifierList spec imp.columns := rfl
  have marked : String.intercalate ", " (insertStatement spec imp).placeholders =
      String.intercalate ", " (imp.columns.map fun _ => "?") := rfl
  unfold buildInsertSQL at built
  split at built
  · cases built
  · split at built
    · cases built
    · rw [InsertStatement.text_parts spec named listed marked]
      exact (Except.ok.inj built).symm

theorem stores_of_named (spec : DriverSpec World) {imp : ImportState} (named : "" ∉ imp.columns) :
    (insertStatement spec imp).Stores imp.columns := by
  have all : (insertStatement spec imp).columns = imp.columns := by
    refine List.filter_eq_self.2 fun column among => decide_eq_true ?_
    rintro rfl
    exact named among
  have marks : (insertStatement spec imp).placeholders.length = imp.columns.length :=
    List.length_map _
  constructor
  · rw [all, marks]
  · intro place
    rw [all]
  · intro Cell cells width
    rw [InsertStatement.stored, all, marks, if_pos ⟨rfl, width⟩]

theorem named_of_counts (spec : DriverSpec World) {imp : ImportState}
    (counts : (insertStatement spec imp).columns.length =
      (insertStatement spec imp).placeholders.length) : "" ∉ imp.columns := by
  intro among
  have every : (imp.columns.filter (· ≠ "")).length = imp.columns.length :=
    counts.trans (List.length_map _)
  have kept := List.length_filter_eq_length_iff.1 every "" among
  simp at kept

/-- The statement of an import stores its rows as asked exactly when every column has a name. -/
theorem insert_stores_iff (spec : DriverSpec World) (imp : ImportState) (sqlText : String)
    (built : buildInsertSQL spec imp = .ok sqlText) :
    sqlText = (insertStatement spec imp).text spec ∧
      ((insertStatement spec imp).Stores imp.columns ↔ "" ∉ imp.columns) :=
  ⟨buildInsertSQL_text built, fun stores => named_of_counts spec stores.counts,
    stores_of_named spec⟩

/-! ## From the request on -/

def importOf (columns : List String) : ImportBeginParams :=
  { connID := 1, table := "people", format := "csv", columns }

def importing (columns : List String) : ImportState where
  connID := 1
  table := "people"
  schema := ""
  database := ""
  columns := columns
  format := "csv"
  started := 0

theorem named_columns_stored :
    (insertStatement (plainSpec false) (importing ["id", "name"])).Stores ["id", "name"] :=
  (insert_stores_iff (plainSpec false) (importing ["id", "name"])
    "INSERT INTO \"people\" (\"id\", \"name\") VALUES (?, ?)" (by decide +kernel)).2.2
    (by decide)

/-- The name that is empty is left out, its placeholder is not. -/
theorem unnamed_column_unstored :
    buildInsertSQL (plainSpec false) (importing ["id", ""]) =
        .ok "INSERT INTO \"people\" (\"id\") VALUES (?, ?)" ∧
      ¬(insertStatement (plainSpec false) (importing ["id", ""])).Stores ["id", ""] := by
  refine ⟨by decide +kernel, fun stores => ?_⟩
  exact absurd stores.counts (by decide +kernel)

end Onetcli.DbIpc
