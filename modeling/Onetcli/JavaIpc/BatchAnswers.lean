import Onetcli.DbIpc.BatchReports
import Onetcli.JavaIpc.Ddl
import Onetcli.JavaIpc.Server

/-!
What `exec/batch` answers outside of a transaction, in the Java servers and in the Go
server. The Java servers leave out blank statements before they count, and their results
have no place for a statement that failed or was not executed, so the three answers mean
the same only if every statement has a text and succeeds.
-/

namespace Onetcli.JavaIpc

open Attempts Tables

/-! ## The answer of a Java server -/

/-- A statement of a request and how its execution ends. -/
structure Attempt where
  sql : String
  outcome : Except String Nat

/-- `readStringArray`: texts without the blanks around them, and none that is blank. -/
def readStatements (statements : List Attempt) : List Attempt :=
  statements.filterMap fun attempt =>
    if trim attempt.sql = "" then none else some { attempt with sql := trim attempt.sql }

structure BatchItem where
  index : Nat
  code : Int
  message : String

structure BatchBody where
  results : List Nat := []
  errors : List BatchItem := []

/-- The loop of `handleExecBatch`: a result for each statement that was executed. -/
def batchBody (stopOnError : Bool) : Nat → List (Except String Nat) → BatchBody
  | _, [] => {}
  | index, .ok affected :: rest =>
    let others := batchBody stopOnError (index + 1) rest
    { others with results := affected :: others.results }
  | index, .error message :: rest =>
    let others := if stopOnError then {} else batchBody stopOnError (index + 1) rest
    { others with errors := ⟨index, -34001, message⟩ :: others.errors }

/-- The body of an answer to `exec/batch` with `in_transaction=false`, if it is none of the
errors of the handler. -/
def execBatch (o : Outside) (s : Server) (out : Outcomes) (connId : Nat)
    (statements : List Attempt) (stopOnError : Bool) : Option BatchBody :=
  let kept := readStatements statements
  let rejects (index : Nat) : Bool := (kept[index]?.map fun attempt =>
    failed attempt.outcome).getD false
  match (handleExecBatch o s { out with rejects } connId (kept.map Attempt.sql) stopOnError
    false).2.2 with
  | .ok .executed => some (batchBody stopOnError 0 (kept.map Attempt.outcome))
  | _ => none

theorem batchBody_results (stopOnError : Bool) (index : Nat) (outcomes : List (Except String Nat)) :
    (batchBody stopOnError index outcomes).results.length =
      (met stopOnError outcomes).countP fun outcome => !failed outcome := by
  induction outcomes generalizing index with
  | nil => rfl
  | cons outcome rest ih =>
    cases outcome with
    | ok affected => simp [batchBody, met, failed, ih]
    | error message => cases stopOnError <;> simp [batchBody, met, failed, ih]

theorem batchBody_succeeded (stopOnError : Bool) (index : Nat) {outcomes : List (Except String Nat)}
    (succeeded : ∀ outcome ∈ outcomes, failed outcome = false) :
    (batchBody stopOnError index outcomes).results = outcomes.map DbIpc.affectedRows ∧
      (batchBody stopOnError index outcomes).errors = [] := by
  induction outcomes generalizing index with
  | nil => exact ⟨rfl, rfl⟩
  | cons outcome rest ih =>
    obtain ⟨results, errors⟩ := ih (index + 1) fun other among =>
      succeeded other (List.mem_cons_of_mem _ among)
    cases outcome with
    | ok affected => exact ⟨congrArg (affected :: ·) results, errors⟩
    | error message => cases succeeded _ List.mem_cons_self

/-! ## Three servers with the connection of a request -/

/-- A Java server that knows the connection and can ask it for its flag. -/
structure Serving (driver : Driver) where
  outside : Outside
  server : Server
  outcomes : Outcomes
  connId : Nat
  isDriver : outside.driver = driver
  known : (server.connections.lookup connId).isSome
  steady : outcomes.throws .getAutoCommit connId = false

variable {driver : Driver}

def Serving.execBatch (java : Serving driver) (statements : List Attempt) (stopOnError : Bool) :
    Option BatchBody :=
  JavaIpc.execBatch java.outside java.server java.outcomes java.connId statements stopOnError

theorem Serving.execBatch_body (java : Serving driver) (statements : List Attempt)
    (stopOnError : Bool) : java.execBatch statements stopOnError =
      some (batchBody stopOnError 0 ((readStatements statements).map Attempt.outcome)) := by
  obtain ⟨state, found⟩ := Option.isSome_iff_exists.mp java.known
  simp only [Serving.execBatch, JavaIpc.execBatch, handleExecBatch, found, java.steady,
    Bool.false_eq_true, if_false, Bool.false_and]

structure GoServing (World : Type) where
  runtime : DbIpc.Runtime World
  server : DbIpc.Server World
  connID : Nat
  conn : DbIpc.ConnectionState World
  known : server.conns.lookup connID = some conn

variable {World : Type} (go : GoServing World)

def GoServing.outcomes (statements : List String) (world : World) : List (Except String Nat) :=
  (DbIpc.executeAll go.runtime (.db go.conn.db) statements world).2

def GoServing.execBatch (statements : List String) (stopOnError : Bool) (world : World) :
    Option (List Nat × List DbIpc.BatchError) :=
  match (DbIpc.handleExecBatch go.runtime go.server
    (.ok ⟨go.connID, statements, stopOnError, false⟩) world).2 with
  | .ok (.batch results errors) => some (results, errors)
  | _ => none

theorem GoServing.execBatch_answered (statements : List String) (stopOnError : Bool)
    (world : World) : ∃ results errors count,
      go.execBatch statements stopOnError world = some (results, errors) ∧
        DbIpc.Reported ⟨go.connID, statements, stopOnError, false⟩ count
          (met stopOnError (go.outcomes statements world)) results errors := by
  obtain ⟨count, isMet, _, reported⟩ := DbIpc.runBatch_reported go.runtime (.db go.conn.db)
    ⟨go.connID, statements, stopOnError, false⟩ world
  rw [← isMet] at reported
  refine ⟨_, _, count, ?_, reported⟩
  simp [GoServing.execBatch, DbIpc.handleExecBatch, DbIpc.decoded, Except.mapError,
    DbIpc.knownConn, go.known, bind, Except.bind, pure, Except.pure]

/-! ## One meaning -/

/-- The answers have one length, each result is the count of the statement at its place, and
the errors carry the same places. -/
def OneMeaning (stopOnError : Bool) (outcomes : List (Except String Nat))
    (answers : List (List Nat × List Nat)) : Prop :=
  (∀ first ∈ answers, ∀ second ∈ answers,
      first.1.length = second.1.length ∧ first.2 = second.2) ∧
    ∀ answer ∈ answers, ∀ index affected : Nat, answer.1[index]? = some affected →
      affected = ((met stopOnError outcomes)[index]?.map DbIpc.affectedRows).getD 0

def goPlaces (answer : List Nat × List DbIpc.BatchError) : List Nat × List Nat :=
  (answer.1, answer.2.map DbIpc.BatchError.index)

def BatchBody.places (body : BatchBody) : List Nat × List Nat :=
  (body.results, body.errors.map BatchItem.index)

theorem readStatements_given {attempts : List Attempt}
    (given : ∀ attempt ∈ attempts, trim attempt.sql ≠ "") :
    (readStatements attempts).map Attempt.outcome = attempts.map Attempt.outcome := by
  induction attempts with
  | nil => rfl
  | cons attempt rest ih =>
    have later := ih fun other among => given other (List.mem_cons_of_mem _ among)
    have here := given attempt List.mem_cons_self
    simp only [readStatements] at later
    simp [readStatements, here, later]

theorem readStatements_blank {attempts : List Attempt} {attempt : Attempt}
    (member : attempt ∈ attempts) (blank : trim attempt.sql = "") :
    (readStatements attempts).length < attempts.length := by
  induction attempts with
  | nil => cases member
  | cons first rest ih =>
    have bound : (readStatements rest).length ≤ rest.length := List.length_filterMap_le _ _
    rcases List.mem_cons.mp member with rfl | among
    · simp only [readStatements, List.filterMap_cons, blank, if_true, List.length_cons] at bound ⊢
      omega
    · have shorter := ih among
      simp only [readStatements, List.filterMap_cons] at shorter ⊢
      split <;> simp only [List.length_cons] <;> omega

-- A Java server gives a result to every statement only if all have a text and succeed.
theorem batchBody_complete {stopOnError : Bool} {attempts : List Attempt}
    (complete : (batchBody stopOnError 0
      ((readStatements attempts).map Attempt.outcome)).results.length = attempts.length) :
    (∀ attempt ∈ attempts, trim attempt.sql ≠ "") ∧
      ∀ attempt ∈ attempts, failed attempt.outcome = false := by
  have counted : (met stopOnError ((readStatements attempts).map Attempt.outcome)).countP
      (fun outcome => !failed outcome) = attempts.length := by
    rw [← batchBody_results stopOnError 0, complete]
  have bound := List.countP_le_length (p := fun outcome : Except String Nat => !failed outcome)
    (l := met stopOnError ((readStatements attempts).map Attempt.outcome))
  have isPrefix := met_prefix stopOnError ((readStatements attempts).map Attempt.outcome)
  have shorter := isPrefix.length_le
  rw [List.length_map] at shorter
  have given : ∀ attempt ∈ attempts, trim attempt.sql ≠ "" := by
    intro attempt member blank
    have fewer := readStatements_blank member blank
    omega
  refine ⟨given, ?_⟩
  rw [readStatements_given given] at isPrefix counted bound
  have whole := isPrefix.eq_of_length (by
    have same := isPrefix.length_le
    rw [List.length_map] at same ⊢
    omega)
  rw [whole] at counted
  rw [← List.length_map Attempt.outcome, List.countP_eq_length] at counted
  intro attempt member
  simpa using counted _ (List.mem_map_of_mem member)

theorem map_affectedRows_met {stopOnError : Bool} {outcomes : List (Except String Nat)}
    (succeeded : ∀ outcome ∈ outcomes, failed outcome = false) (index affected : Nat)
    (here : (outcomes.map DbIpc.affectedRows)[index]? = some affected) :
    affected = ((met stopOnError outcomes)[index]?.map DbIpc.affectedRows).getD 0 := by
  rw [met_succeeded stopOnError succeeded, ← List.getElem?_map, here]
  rfl

/-- Whatever the statements and their outcomes are, the three answers have one meaning exactly
if no statement is blank and none fails. -/
theorem batch_answers_iff (oscar : Serving .oscar) (gbase8s : Serving .gbase8s)
    (attempts : List Attempt) (stopOnError : Bool) (world : World)
    (pattern : go.outcomes (attempts.map Attempt.sql) world = attempts.map Attempt.outcome) :
    ∃ goAnswer oscarBody gbase8sBody,
      go.execBatch (attempts.map Attempt.sql) stopOnError world = some goAnswer ∧
        oscar.execBatch attempts stopOnError = some oscarBody ∧
        gbase8s.execBatch attempts stopOnError = some gbase8sBody ∧
        (OneMeaning stopOnError (attempts.map Attempt.outcome)
            [goPlaces goAnswer, oscarBody.places, gbase8sBody.places] ↔
          (∀ attempt ∈ attempts, trim attempt.sql ≠ "") ∧
            ∀ attempt ∈ attempts, failed attempt.outcome = false) := by
  obtain ⟨results, errors, count, answered, reported⟩ :=
    go.execBatch_answered (attempts.map Attempt.sql) stopOnError world
  rw [pattern] at reported
  refine ⟨_, _, _, answered, oscar.execBatch_body _ _, gbase8s.execBatch_body _ _, ?_⟩
  have complete : results.length = attempts.length := by
    rw [reported.complete]
    exact List.length_map _
  constructor
  · intro one
    have lengths := (one.1 _ List.mem_cons_self _
      (List.mem_cons_of_mem _ List.mem_cons_self)).1
    exact batchBody_complete (lengths.symm.trans complete)
  · rintro ⟨given, succeeded⟩
    have outcomes : ∀ outcome ∈ attempts.map Attempt.outcome, failed outcome = false := by
      intro outcome member
      obtain ⟨attempt, among, rfl⟩ := List.mem_map.mp member
      exact succeeded attempt among
    obtain ⟨javaResults, javaErrors⟩ := batchBody_succeeded stopOnError 0 outcomes
    have goErrors : errors = [] := by
      apply List.map_eq_nil_iff.mp
      apply List.eq_nil_iff_forall_not_mem.mpr
      intro index member
      obtain ⟨error, here⟩ := (reported.failures index).mp member
      rw [met_succeeded stopOnError outcomes] at here
      cases outcomes _ (List.mem_of_getElem? here)
    rw [readStatements_given given]
    simp only [OneMeaning, BatchBody.places, goPlaces, javaResults, javaErrors, goErrors,
      List.map_nil, List.forall_mem_cons, List.not_mem_nil, false_imp_iff, implies_true, and_true,
      true_and, complete, List.length_map]
    refine ⟨?_, map_affectedRows_met outcomes, map_affectedRows_met outcomes⟩
    intro index affected here
    have inside := (List.getElem?_eq_some_iff.mp here).1
    rw [complete, ← List.length_map Attempt.sql] at inside
    exact Option.some.inj (here.symm.trans (reported.counts index inside))

/-! ## Batches of one connection -/

def goConnected : GoServing Unit where
  runtime := DbIpc.choosyRuntime
  server := DbIpc.connected
  connID := 1
  conn := _
  known := rfl

def javaConnected (driver : Driver) : Serving driver where
  outside := ⟨driver, false, fun _ => none⟩
  server := ({} : Server).put 1 { connection := { initial := true, autoCommit := true } }
  outcomes := ⟨none, fun _ _ => false, fun _ => false⟩
  connId := 1
  isDriver := rfl
  known := rfl
  steady := rfl

theorem sound_batch_answers : ∃ goAnswer oscarBody gbase8sBody,
    goConnected.execBatch ["INSERT", "DELETE"] true () = some goAnswer ∧
      (javaConnected .oscar).execBatch [⟨"INSERT", .ok 2⟩, ⟨"DELETE", .ok 2⟩] true =
        some oscarBody ∧
      (javaConnected .gbase8s).execBatch [⟨"INSERT", .ok 2⟩, ⟨"DELETE", .ok 2⟩] true =
        some gbase8sBody ∧
      OneMeaning true [.ok 2, .ok 2]
        [goPlaces goAnswer, oscarBody.places, gbase8sBody.places] := by
  obtain ⟨goAnswer, oscarBody, gbase8sBody, first, second, third, agree⟩ :=
    batch_answers_iff goConnected (javaConnected .oscar) (javaConnected .gbase8s)
      [⟨"INSERT", .ok 2⟩, ⟨"DELETE", .ok 2⟩] true () rfl
  refine ⟨goAnswer, oscarBody, gbase8sBody, first, second, third, agree.mpr ⟨?_, ?_⟩⟩
  · intro attempt member
    rcases List.mem_pair.mp member with rfl | rfl <;> decide +kernel
  · intro attempt member
    rcases List.mem_pair.mp member with rfl | rfl <;> rfl

/-- Three statements of which the second is refused, and a refused one after a blank. -/
theorem refused_statement_shifts :
    goConnected.execBatch ["INSERT", "DROP", "DELETE"] false () =
        some ([2, 0, 2], [⟨1, DbIpc.errSQLSyntax, "refused"⟩]) ∧
      ((javaConnected .oscar).execBatch
          [⟨"INSERT", .ok 2⟩, ⟨"DROP", .error "refused"⟩, ⟨"DELETE", .ok 2⟩] false).map
        BatchBody.places = some ([2, 2], [1]) ∧
      (¬OneMeaning false [.ok 2, .error "refused", .ok 2]
        [([2, 0, 2], [1]), ([2, 2], [1]), ([2, 2], [1])]) ∧
      ((javaConnected .gbase8s).execBatch [⟨" ", .ok 2⟩, ⟨"DROP", .error "refused"⟩] false).map
        BatchBody.places = some ([], [0]) := by
  refine ⟨rfl, rfl, ?_, rfl⟩
  intro one
  have lengths := (one.1 _ List.mem_cons_self _ (List.mem_cons_of_mem _ List.mem_cons_self)).1
  cases lengths

end Onetcli.JavaIpc
