import Onetcli.Lib.Histories

/-!
When a connected session asks for refreshes and when it gives a server up, vnc_encoding.rs.
Instants and durations are numbers of nanoseconds of one clock. Each call says what the
client saw and did, at the instant it read.
-/

namespace Onetcli.Vnc

open Runs Histories

def fromMillis (millis : Nat) : Nat := millis * 1000000

def vncRefreshInterval : Nat := fromMillis 33
def vncRefreshResponseTimeout : Nat := fromMillis 500
def vncLivenessTimeout : Nat := fromMillis 15000
def vncLivenessProbeTimeout : Nat := fromMillis 5000
def maxServerEventsPerPoll : Nat := 256

inductive RefreshAction where
  | wait
  | incremental
  | livenessProbe
  | reconnect
  deriving DecidableEq

/-- The instants of `ConnectedVncSession`. -/
structure SessionClock where
  lastRefresh : Nat
  lastServerActivity : Nat
  refreshInFlightSince : Option Nat := none
  livenessProbeSince : Option Nat := none
  deriving DecidableEq

def SessionClock.new (now : Nat) : SessionClock := ⟨now, now, none, none⟩

/-- `duration_since` is zero for an instant that is later. -/
def refreshAction (now lastRefresh lastServerActivity : Nat)
    (refreshInFlightSince livenessProbeSince : Option Nat) : RefreshAction :=
  match livenessProbeSince with
  | some probeSince =>
    if now - probeSince ≥ vncLivenessProbeTimeout then .reconnect else .wait
  | none =>
    if refreshInFlightSince.any fun sentAt => decide (now - sentAt < vncRefreshResponseTimeout) then
      .wait
    else if now - lastServerActivity ≥ vncLivenessTimeout then .livenessProbe
    else if now - lastRefresh < vncRefreshInterval then .wait
    else .incremental

inductive Observation where
  | seen (instant : Nat)
  | waited (instant : Nat)
  | incremental (instant : Nat)
  | probe (instant : Nat)
  | refused (instant : Nat)
  /-- The liveness error. -/
  | lost (instant : Nat)
  deriving DecidableEq

def Observation.instant : Observation → Nat
  | .seen t | .waited t | .incremental t | .probe t | .refused t | .lost t => t

/-- An answer of `poll_event`; handling an event may fail. -/
inductive Polled where
  | event (now : Nat) (handled : Except String Unit)
  | idle
  | broken (message : String)

abbrev Called := SessionClock × List Observation × Except String Unit

def SessionClock.poll : Nat → SessionClock → List Polled → Called
  | 0, clock, _ => (clock, [], .ok ())
  | _ + 1, clock, [] => (clock, [], .ok ())
  | _ + 1, clock, .idle :: _ => (clock, [], .ok ())
  | _ + 1, clock, .broken message :: _ => (clock, [], .error message)
  | remaining + 1, clock, .event now handled :: rest =>
    let clock := { clock with
      lastServerActivity := now
      refreshInFlightSince := none
      livenessProbeSince := none }
    match handled with
    | .error message => (clock, [.seen now], .error message)
    | .ok () =>
      let others := clock.poll remaining rest
      (others.1, .seen now :: others.2.1, others.2.2)

def SessionClock.pollEvents (clock : SessionClock) (answers : List Polled) : Called :=
  clock.poll maxServerEventsPerPoll answers

/-- `refresh_if_needed`, with the error of sending a request if there is one. -/
def SessionClock.refreshIfNeeded (clock : SessionClock) (now : Nat) (sendError : Option String) :
    Called :=
  match refreshAction now clock.lastRefresh clock.lastServerActivity clock.refreshInFlightSince
      clock.livenessProbeSince with
  | .wait => (clock, [.waited now], .ok ())
  | .reconnect => (clock, [.lost now], .error "VNC liveness probe timed out")
  | .incremental =>
    match sendError with
    | some message => (clock, [.refused now], .error message)
    | none =>
      ({ clock with lastRefresh := now, refreshInFlightSince := some now },
        [.incremental now], .ok ())
  | .livenessProbe =>
    match sendError with
    | some message => (clock, [.refused now], .error message)
    | none =>
      ({ clock with
          livenessProbeSince := some now
          refreshInFlightSince := some now
          lastRefresh := now },
        [.probe now], .ok ())

inductive SessionCall where
  | pollEvents (answers : List Polled)
  | refreshIfNeeded (now : Nat) (sendError : Option String)

def sessionMachine : Machine SessionClock SessionCall (List Observation × Except String Unit) where
  step clock call :=
    match call with
    | .pollEvents answers => clock.pollEvents answers
    | .refreshIfNeeded now sendError => clock.refreshIfNeeded now sendError

/-! ## What is allowed -/

/-- No server event among these. -/
def Unseen (observations : List Observation) : Prop := ∀ t, .seen t ∉ observations

structure Probed (start : Nat) (before after : List Observation) (sent : Nat) : Prop where
  old : start + vncLivenessTimeout ≤ sent
  silent : ∀ t, .seen t ∈ before → t + vncLivenessTimeout ≤ sent
  unanswered : Unseen after

/-- While a probe is outstanding no refresh is sent. -/
def NoProbeOut (past : List Observation) : Prop :=
  ∀ before sent after, past = before ++ .probe sent :: after → ¬Unseen after

/-- What may come next in a session that began at an instant. -/
def Allowed (start : Nat) (past : List Observation) : Observation → Prop
  | .lost now => ∃ before sent after, past = before ++ .probe sent :: after ∧
      Probed start before after sent ∧ sent + vncLivenessProbeTimeout ≤ now
  | .probe _ => NoProbeOut past
  | .incremental now => NoProbeOut past ∧
      ∀ before sent after, past = before ++ .incremental sent :: after → Unseen after →
        sent + vncRefreshResponseTimeout ≤ now
  | _ => True

/-- The clock does not go back. -/
def ClockRuns (start : Nat) (observations : List Observation) : Prop :=
  (start :: observations.map Observation.instant).Pairwise (· ≤ ·)

structure TracksPast (start : Nat) (past : List Observation) (clock : SessionClock) : Prop where
  runs : ClockRuns start past
  began : start ≤ clock.lastServerActivity
  seen : ∀ t, .seen t ∈ past → t ≤ clock.lastServerActivity
  probed : ∀ sent, clock.livenessProbeSince = some sent → ∃ before after,
    past = before ++ .probe sent :: after ∧ Probed start before after sent
  unprobed : clock.livenessProbeSince = none → NoProbeOut past
  flying : ∀ before sent after, past = before ++ .incremental sent :: after → Unseen after →
    ∃ since, clock.refreshInFlightSince = some since ∧ sent ≤ since

section Steps

variable {start : Nat} {past : List Observation} {clock : SessionClock}

theorem clockRuns_snoc {last : Observation} : ClockRuns start (past ++ [last]) ↔
      ClockRuns start past ∧ start ≤ last.instant ∧ ∀ old ∈ past, old.instant ≤ last.instant := by
  unfold ClockRuns
  rw [List.map_append, ← List.cons_append, List.pairwise_append]
  simp

theorem clockRuns_shorter (first second : List Observation)
    (runs : ClockRuns start (first ++ second)) : ClockRuns start first := by
  unfold ClockRuns at runs ⊢
  rw [List.map_append, ← List.cons_append] at runs
  exact (List.pairwise_append.mp runs).1

theorem unseen_snoc {inner : List Observation} {last : Observation} :
    Unseen (inner ++ [last]) ↔ Unseen inner ∧ ∀ t, last ≠ .seen t := by
  simp only [Unseen, List.mem_append, List.mem_singleton, not_or, forall_and, ne_eq, eq_comm]

theorem new_tracks (start : Nat) : TracksPast start [] (SessionClock.new start) where
  runs := List.pairwise_singleton _ _
  began := Nat.le_refl _
  seen t member := absurd member List.not_mem_nil
  probed sent none := nomatch none
  unprobed _ before sent after same := by simp at same
  flying before sent after same := by simp at same

-- A server event answers everything that was sent.
theorem tracks_see (clock : SessionClock) {now : Nat}
    (runs : ClockRuns start (past ++ [.seen now])) : TracksPast start (past ++ [.seen now])
      { clock with
        lastServerActivity := now
        refreshInFlightSince := none
        livenessProbeSince := none } := by
  obtain ⟨_, began, later⟩ := clockRuns_snoc.mp runs
  refine ⟨runs, began, ?_, fun sent none => (nomatch none), ?_, ?_⟩
  · intro t member
    rcases List.mem_append.mp member with old | new
    · exact later _ old
    · cases List.mem_singleton.mp new
      exact Nat.le_refl _
  · intro _ before sent after same unseen
    rcases snoc_eq_split.mp same with ⟨_, _, other⟩ | ⟨inner, rfl, _⟩
    · cases other
    · exact (unseen_snoc.mp unseen).2 now rfl
  · intro before sent after same unseen
    rcases snoc_eq_split.mp same with ⟨_, _, other⟩ | ⟨inner, rfl, _⟩
    · cases other
    · exact absurd rfl ((unseen_snoc.mp unseen).2 now)

theorem TracksPast.pass (tracked : TracksPast start past clock) {last : Observation}
    (runs : ClockRuns start (past ++ [last])) (unseen : ∀ t, last ≠ .seen t)
    (noProbe : ∀ t, last ≠ .probe t) (noRefresh : ∀ t, last ≠ .incremental t) :
    TracksPast start (past ++ [last]) clock := by
  refine ⟨runs, tracked.began, ?_, ?_, ?_, ?_⟩
  · intro t member
    rcases List.mem_append.mp member with old | new
    · exact tracked.seen t old
    · exact absurd (List.mem_singleton.mp new).symm (unseen t)
  · intro sent out
    obtain ⟨before, after, rfl, probed⟩ := tracked.probed sent out
    exact ⟨before, after ++ [last], by simp,
      probed.old, probed.silent, unseen_snoc.mpr ⟨probed.unanswered, unseen⟩⟩
  · intro none before sent after same still
    rcases snoc_eq_split.mp same with ⟨_, _, other⟩ | ⟨inner, rfl, split⟩
    · exact noProbe sent other
    · exact tracked.unprobed none before sent inner split (unseen_snoc.mp still).1
  · intro before sent after same still
    rcases snoc_eq_split.mp same with ⟨_, _, other⟩ | ⟨inner, rfl, split⟩
    · exact absurd other (noRefresh sent)
    · exact tracked.flying before sent inner split (unseen_snoc.mp still).1

theorem TracksPast.refresh (tracked : TracksPast start past clock) {now : Nat}
    (runs : ClockRuns start (past ++ [.incremental now])) (none : clock.livenessProbeSince = none) :
    TracksPast start (past ++ [.incremental now])
      { clock with lastRefresh := now, refreshInFlightSince := some now } := by
  obtain ⟨_, _, later⟩ := clockRuns_snoc.mp runs
  refine ⟨runs, tracked.began, ?_, ?_, ?_, ?_⟩
  · intro t member
    rcases List.mem_append.mp member with old | new
    · exact tracked.seen t old
    · cases List.mem_singleton.mp new
  · intro sent out
    rw [none] at out
    cases out
  · intro _ before sent after same still
    rcases snoc_eq_split.mp same with ⟨_, _, other⟩ | ⟨inner, rfl, split⟩
    · cases other
    · exact tracked.unprobed none before sent inner split (unseen_snoc.mp still).1
  · intro before sent after same still
    refine ⟨now, rfl, ?_⟩
    rcases snoc_eq_split.mp same with ⟨_, _, other⟩ | ⟨inner, rfl, split⟩
    · cases other
      exact Nat.le_refl _
    · exact later (.incremental sent) (by rw [split]; simp)

theorem TracksPast.ask (tracked : TracksPast start past clock) {now : Nat}
    (runs : ClockRuns start (past ++ [.probe now]))
    (silence : clock.lastServerActivity + vncLivenessTimeout ≤ now) :
    TracksPast start (past ++ [.probe now]) { clock with
        livenessProbeSince := some now
        refreshInFlightSince := some now
        lastRefresh := now } := by
  obtain ⟨_, _, later⟩ := clockRuns_snoc.mp runs
  have began := tracked.began
  refine ⟨runs, began, ?_, ?_, fun out => (nomatch out), ?_⟩
  · intro t member
    rcases List.mem_append.mp member with old | new
    · exact tracked.seen t old
    · cases List.mem_singleton.mp new
  · intro sent out
    obtain rfl := Option.some.inj out
    refine ⟨past, [], rfl, by omega, ?_, fun t member => absurd member List.not_mem_nil⟩
    intro t member
    have := tracked.seen t member
    omega
  · intro before sent after same still
    refine ⟨now, rfl, ?_⟩
    rcases snoc_eq_split.mp same with ⟨_, _, other⟩ | ⟨inner, rfl, split⟩
    · cases other
    · exact later (.incremental sent) (by rw [split]; simp)

end Steps

/-! ## The calls -/

section Calls

variable {start : Nat} {past : List Observation} {clock : SessionClock}

theorem poll_extends (remaining : Nat) (answers : List Polled)
    (tracked : TracksPast start past clock)
    (runs : ClockRuns start (past ++ (clock.poll remaining answers).2.1)) :
    Extends (Allowed start) (TracksPast start) past (clock.poll remaining answers).2.1
      (clock.poll remaining answers).1 := by
  induction remaining generalizing past clock answers with
  | zero => exact extends_nil tracked
  | succ remaining ih =>
    cases answers with
    | nil => exact extends_nil tracked
    | cons answer rest =>
      cases answer with
      | idle => exact extends_nil tracked
      | broken message => exact extends_nil tracked
      | event now handled =>
        cases handled with
        | error message => exact extends_one trivial (tracks_see clock runs)
        | ok _ =>
          simp only [SessionClock.poll] at runs ⊢
          rw [← List.singleton_append, ← List.append_assoc] at runs
          have here := tracks_see clock (clockRuns_shorter _ _ runs)
          exact (extends_one trivial here).trans (ih rest here runs)

-- What `refresh_action` decides says what was seen and sent.
theorem refreshAction_incremental {now : Nat}
    (action : refreshAction now clock.lastRefresh clock.lastServerActivity
      clock.refreshInFlightSince clock.livenessProbeSince = .incremental) :
    clock.livenessProbeSince = none ∧ ∀ since, clock.refreshInFlightSince = some since →
      vncRefreshResponseTimeout ≤ now - since := by
  cases out : clock.livenessProbeSince with
  | some sent =>
    simp only [refreshAction, out] at action
    split at action <;> cases action
  | none =>
    simp only [refreshAction, out] at action
    split at action
    · cases action
    · rename_i late
      refine ⟨rfl, fun since flying => ?_⟩
      rw [flying] at late
      simpa using late

theorem refreshAction_livenessProbe {now : Nat}
    (action : refreshAction now clock.lastRefresh clock.lastServerActivity
      clock.refreshInFlightSince clock.livenessProbeSince = .livenessProbe) :
    clock.livenessProbeSince = none ∧ vncLivenessTimeout ≤ now - clock.lastServerActivity := by
  cases out : clock.livenessProbeSince with
  | some sent =>
    simp only [refreshAction, out] at action
    split at action <;> cases action
  | none =>
    simp only [refreshAction, out] at action
    split at action
    · cases action
    · split at action
      · rename_i silent
        exact ⟨rfl, silent⟩
      · split at action <;> cases action

theorem refreshAction_reconnect {now : Nat}
    (action : refreshAction now clock.lastRefresh clock.lastServerActivity
      clock.refreshInFlightSince clock.livenessProbeSince = .reconnect) :
    ∃ sent, clock.livenessProbeSince = some sent ∧ vncLivenessProbeTimeout ≤ now - sent := by
  cases out : clock.livenessProbeSince with
  | some sent =>
    simp only [refreshAction, out] at action
    split at action
    · rename_i late
      exact ⟨sent, rfl, late⟩
    · cases action
  | none =>
    simp only [refreshAction, out] at action
    repeat' split at action
    all_goals cases action

theorem refreshIfNeeded_extends (now : Nat) (sendError : Option String)
    (tracked : TracksPast start past clock)
    (runs : ClockRuns start (past ++ (clock.refreshIfNeeded now sendError).2.1)) :
    Extends (Allowed start) (TracksPast start) past (clock.refreshIfNeeded now sendError).2.1
      (clock.refreshIfNeeded now sendError).1 := by
  unfold SessionClock.refreshIfNeeded at runs ⊢
  cases action : refreshAction now clock.lastRefresh clock.lastServerActivity
      clock.refreshInFlightSince clock.livenessProbeSince with
  | wait =>
    rw [action] at runs
    exact extends_one trivial (tracked.pass runs nofun nofun nofun)
  | reconnect =>
    rw [action] at runs
    obtain ⟨sent, out, late⟩ := refreshAction_reconnect action
    obtain ⟨before, after, split, probed⟩ := tracked.probed sent out
    have long : 0 < vncLivenessProbeTimeout := by decide
    exact extends_one ⟨before, sent, after, split, probed, by omega⟩
      (tracked.pass runs nofun nofun nofun)
  | incremental =>
    rw [action] at runs
    obtain ⟨none, late⟩ := refreshAction_incremental action
    cases sendError with
    | some message => exact extends_one trivial (tracked.pass runs nofun nofun nofun)
    | none =>
      refine extends_one ⟨tracked.unprobed none, ?_⟩ (tracked.refresh runs none)
      intro before sent after split unseen
      obtain ⟨since, flying, order⟩ := tracked.flying before sent after split unseen
      have apart := late since flying
      have long : 0 < vncRefreshResponseTimeout := by decide
      omega
  | livenessProbe =>
    rw [action] at runs
    obtain ⟨none, silent⟩ := refreshAction_livenessProbe action
    cases sendError with
    | some message => exact extends_one trivial (tracked.pass runs nofun nofun nofun)
    | none =>
      have long : 0 < vncLivenessTimeout := by decide
      exact extends_one (tracked.unprobed none) (tracked.ask runs (by omega))

theorem call_extends (past : List Observation) (clock : SessionClock) (call : SessionCall)
    (tracked : TracksPast start past clock)
    (runs : ClockRuns start (past ++ (sessionMachine.step clock call).2.1)) :
    Extends (Allowed start) (TracksPast start) past (sessionMachine.step clock call).2.1
      (sessionMachine.step clock call).1 := by
  cases call with
  | pollEvents answers => exact poll_extends _ answers tracked runs
  | refreshIfNeeded now sendError => exact refreshIfNeeded_extends now sendError tracked runs

end Calls

/-- In every run of a session on a clock that does not go back, each probe, refresh and liveness
error is allowed by what was seen and sent before. -/
theorem session_lawful (start : Nat) (calls : List SessionCall)
    (runs : ClockRuns start
      ((sessionMachine.run (SessionClock.new start) calls).2.flatMap fun reply => reply.1)) :
    Lawful (Allowed start)
      ((sessionMachine.run (SessionClock.new start) calls).2.flatMap fun reply => reply.1) :=
  (run_extends clockRuns_shorter call_extends (new_tracks start) runs).whole

/-- A server that falls silent is asked after 15 seconds and given up 5 seconds later. -/
theorem silent_server_lost :
    (sessionMachine.run (SessionClock.new 0) [.refreshIfNeeded 33000000 none,
        .refreshIfNeeded 15033000000 none, .refreshIfNeeded 20033000000 none]).2.flatMap (fun reply => reply.1) =
      [.incremental 33000000, .probe 15033000000, .lost 20033000000] ∧
      Lawful (Allowed 0) [.incremental 33000000, .probe 15033000000, .lost 20033000000] := by
  have trace : (sessionMachine.run (SessionClock.new 0) [.refreshIfNeeded 33000000 none,
      .refreshIfNeeded 15033000000 none, .refreshIfNeeded 20033000000 none]).2.flatMap (fun reply => reply.1) =
        [.incremental 33000000, .probe 15033000000, .lost 20033000000] := by
    decide
  have runs : ClockRuns 0 [.incremental 33000000, .probe 15033000000, .lost 20033000000] := by
    simp [ClockRuns, Observation.instant]
  refine ⟨trace, ?_⟩
  rw [← trace] at runs ⊢
  exact session_lawful 0 _ runs

end Onetcli.Vnc
