import Onetcli.DbIpc.Cells
import Onetcli.DbIpc.Schema
import Onetcli.Lib.Lookups
import Onetcli.Lib.Tables

/-!
`ConfigFromWire` of internal/dbipc/config.go and the helpers that the drivers call on
its result. A loop over a Go map takes the order in which it visits the entries.
-/

namespace Onetcli.DbIpc

open MapOrder Text

/-- A decoded `map[string]any`. The keys of a map are distinct. -/
structure WireConfig where
  raw : List (String × Any)
  keyed : (raw.map Prod.fst).Nodup
  extraKeyed : ∀ extra, raw.lookup "extra_params" = some (.map extra) →
    (extra.map Prod.fst).Nodup

variable (go : GoLibrary)

def stringValue (raw : List (String × Any)) (key : String) : String :=
  match raw.lookup key with
  | none | some .nil => ""
  | some value => go.sprint value

/-- `int(v)` of a double that is no integer, from the text it prints as. One with an
exponent is smaller than 1. -/
def truncated (printed : String) : Int64 :=
  let chars := printed.toList
  if 'e' ∈ chars then 0
  else (parseInt (String.ofList (chars.takeWhile (· != '.')))).toOption.getD 0

def intOfDouble : Double → Int64
  | .whole value => int64OfFloat go value
  | .fraction printed => truncated printed
  | double => go.int64OutOfRange double

def intValue (raw : List (String × Any)) (key : String) : Int :=
  match raw.lookup key with
  | some (.int64 value) => value.toInt
  | some (.float64 value) => (intOfDouble go value).toInt
  | some (.text value) => atoi value
  | _ => 0

/-- `unicode.SimpleFold` on the characters that fold to an ASCII letter. -/
def foldRune (char : Char) : Char :=
  if char = 'ſ' then 's' else if char = '\u212a' then 'k' else char.toLower

/-- `strings.EqualFold` with an ASCII text. -/
def equalFold (first second : String) : Bool :=
  first.toList.map foldRune == second.toList.map foldRune

def extraParams (raw : List (String × Any)) : List (String × Any) :=
  match raw.lookup "extra_params" with
  | some (.map extra) => extra
  | _ => []

def printedParam : String × Any → Option (String × String)
  | (_, .nil) => none
  | (key, value) => some (key, go.sprint value)

/-- The loop keeps the value found so far and the entries that are not deleted. -/
def takeExtraParam (order : Order String String) (extra : List (String × String))
    (name : String) : String × List (String × String) :=
  (order.visit extra).foldl (fun (value, extra) (key, candidate) =>
    if equalFold (trimSpace key) name then
      (if value = "" then candidate else value, extra.filter (·.1 ≠ key))
    else (value, extra)) ("", extra)

/-- `ranged` is the order of the loop over `extra_params`, whose keys are distinct, so
that every entry it keeps is a new one; `taken` is the order in `takeExtraParam`. -/
def configFromWire (ranged : Order String Any) (taken : Order String String)
    (wire : WireConfig) (defaultPort : Int) : Config :=
  let port := intValue go wire.raw "port"
  let extra := (ranged.visit (extraParams wire.raw)).filterMap (printedParam go)
  let protocol := stringValue go wire.raw "protocol"
  let (extraProtocol, extra) := takeExtraParam taken extra "protocol"
  { host := stringValue go wire.raw "host"
    port := if port = 0 then defaultPort else port
    username := stringValue go wire.raw "username"
    password := stringValue go wire.raw "password"
    database := stringValue go wire.raw "database"
    service := stringValue go wire.raw "service_name"
    sid := stringValue go wire.raw "sid"
    protocol := if isBlank protocol then extraProtocol else protocol
    extra }

def requiredField (cfg : Config) : String → Option String
  | "host" => if cfg.host = "" then some "missing required config field host" else none
  | "port" => if cfg.port = 0 then some "missing required config field port" else none
  | "username" => if cfg.username = "" then some "missing required config field username" else none
  | "database" => if cfg.database = "" then some "missing required config field database" else none
  | field => some ("unknown required config field " ++ field)

/-- The first field that is missing. -/
def requireConfig (cfg : Config) (fields : List String) : Except String Unit :=
  match fields.findSome? (requiredField cfg) with
  | some message => .error message
  | none => .ok ()

def isHostManagedExtraParam (key : String) : Bool :=
  "ssh_".toList.isPrefixOf (toLower (trimSpace key)).toList

def copyDriverExtra (order : Order String String) (extra : List (String × String)) :
    List (String × String) :=
  (order.visit extra).filter fun entry => !isHostManagedExtraParam entry.1

/-! ## What the loops compute -/

/-- Two configurations that no reader tells apart. -/
structure Config.Same (first second : Config) : Prop where
  fields : { first with extra := [] } = { second with extra := [] }
  extra : ∀ key, first.extra.lookup key = second.extra.lookup key

/-- What a key that is taken contributes. -/
def candidateFor (name : String) (entry : String × String) : Option String :=
  if equalFold (trimSpace entry.1) name && entry.2 != "" then some entry.2 else none

theorem taken_value (name value : String) (entries extra : List (String × String)) :
    (entries.foldl (fun (value, extra) (key, candidate) =>
      if equalFold (trimSpace key) name then
        (if value = "" then candidate else value, extra.filter (·.1 ≠ key))
      else (value, extra)) (value, extra)).1 =
      if value = "" then (entries.filterMap (candidateFor name)).head?.getD "" else value := by
  induction entries generalizing value extra with
  | nil =>
    by_cases found : value = ""
    · simp [found]
    · simp [found]
  | cons entry rest ih =>
    simp only [List.foldl_cons]
    by_cases named : equalFold (trimSpace entry.1) name = true
    · simp only [if_pos named, ih]
      by_cases found : value = ""
      · by_cases given : entry.2 = ""
        · simp [found, given, candidateFor]
        · simp [found, given, candidateFor, named]
      · simp [found]
    · simp only [if_neg named, ih]
      have passed : candidateFor name entry = none := by simp [candidateFor, named]
      rw [List.filterMap_cons_none passed]

theorem taken_extra (name value : String) (entries extra : List (String × String)) :
    (entries.foldl (fun (value, extra) (key, candidate) =>
      if equalFold (trimSpace key) name then
        (if value = "" then candidate else value, extra.filter (·.1 ≠ key))
      else (value, extra)) (value, extra)).2 = extra.filter fun entry => entries.all fun visited =>
        !equalFold (trimSpace visited.1) name || entry.1 ≠ visited.1 := by
  induction entries generalizing value extra with
  | nil => simp
  | cons entry rest ih =>
    simp only [List.foldl_cons]
    by_cases named : equalFold (trimSpace entry.1) name = true
    · simp only [if_pos named, ih, List.filter_filter]
      refine List.filter_congr fun other _ => ?_
      simp [named, Bool.and_comm]
    · simp only [if_neg named, ih]
      refine List.filter_congr fun other _ => ?_
      simp [named]

theorem takeExtraParam_value (order : Order String String) (extra : List (String × String))
    (name : String) : (takeExtraParam order extra name).1 =
      ((order.visit extra).filterMap (candidateFor name)).head?.getD "" := by
  rw [takeExtraParam, taken_value, if_pos rfl]

theorem takeExtraParam_extra (order : Order String String) (extra : List (String × String))
    (name : String) : (takeExtraParam order extra name).2 =
      extra.filter fun entry => !equalFold (trimSpace entry.1) name := by
  rw [takeExtraParam, taken_extra]
  refine List.filter_congr fun entry present => ?_
  have visited : entry ∈ order.visit extra := (order.perm extra).symm.subset present
  rw [Bool.eq_iff_iff, List.all_eq_true]
  constructor
  · intro kept
    simpa using kept entry visited
  · intro kept other _
    by_cases same : entry.1 = other.1
    · simpa [same] using kept
    · simp [same]

section Wire

variable (wire : WireConfig)

/-- `cfg.Extra` before a protocol is taken out of it. -/
def wireExtra : List (String × String) := (extraParams wire.raw).filterMap (printedParam go)

/-- `cfg.Extra` of the configuration. -/
def driverParams : List (String × String) :=
  (wireExtra go wire).filter fun entry => !equalFold (trimSpace entry.1) "protocol"

theorem extraParams_distinct : ((extraParams wire.raw).map Prod.fst).Nodup := by
  unfold extraParams
  split
  · exact wire.extraKeyed _ ‹_›
  · exact List.nodup_nil

theorem ranged_perm (ranged : Order String Any) :
    ((ranged.visit (extraParams wire.raw)).filterMap (printedParam go)).Perm (wireExtra go wire) :=
  (ranged.perm _).filterMap _

theorem wireExtra_distinct : ((wireExtra go wire).map Prod.fst).Nodup := by
  refine (extraParams_distinct wire).sublist ?_
  unfold wireExtra
  induction extraParams wire.raw with
  | nil => exact .refl _
  | cons entry rest ih =>
    obtain ⟨key, value⟩ := entry
    cases value with
    | nil => exact ih.cons key
    | _ => exact ih.cons_cons key

theorem configFromWire_extra (ranged : Order String Any) (taken : Order String String)
    (defaultPort : Int) :
    (configFromWire go ranged taken wire defaultPort).extra.Perm (driverParams go wire) := by
  have kept : (configFromWire go ranged taken wire defaultPort).extra = _ :=
    takeExtraParam_extra taken _ "protocol"
  rw [kept]
  exact (ranged_perm go wire ranged).filter _

theorem driverParams_distinct : ((driverParams go wire).map Prod.fst).Nodup :=
  (wireExtra_distinct go wire).sublist (List.filter_sublist.map _)

-- The orders matter only to the protocol, and only where none is given at the top.
theorem configFromWire_same_iff (first second : Order String Any)
    (takenFirst takenSecond : Order String String) (defaultPort : Int) :
    (configFromWire go first takenFirst wire defaultPort).Same
        (configFromWire go second takenSecond wire defaultPort) ↔
      (configFromWire go first takenFirst wire defaultPort).protocol =
        (configFromWire go second takenSecond wire defaultPort).protocol := by
  constructor
  · intro same
    exact (Config.mk.inj same.fields).2.2.2.2.2.2.2.1
  · intro same
    have extraFirst := configFromWire_extra go wire first takenFirst defaultPort
    have extraSecond := configFromWire_extra go wire second takenSecond defaultPort
    have distinct := (extraFirst.map Prod.fst).nodup_iff.mpr (driverParams_distinct go wire)
    exact ⟨congrArg (fun protocol => { configFromWire go first takenFirst wire defaultPort with
      protocol, extra := [] }) same,
      Lookups.lookup_perm (extraFirst.trans extraSecond.symm) distinct⟩

theorem configFromWire_protocol (ranged : Order String Any) (taken : Order String String)
    (defaultPort : Int) : (configFromWire go ranged taken wire defaultPort).protocol =
      if isBlank (stringValue go wire.raw "protocol") then
        ((taken.visit ((ranged.visit (extraParams wire.raw)).filterMap (printedParam go))).filterMap
          (candidateFor "protocol")).head?.getD ""
      else stringValue go wire.raw "protocol" := by
  rw [← takeExtraParam_value, configFromWire]

/-- No two spellings of a protocol among the extra parameters compete. -/
def ProtocolAgrees : Prop :=
  isBlank (stringValue go wire.raw "protocol") = false ∨
    Agree (candidateFor "protocol") (wireExtra go wire)

theorem configFromWire_steady_iff (defaultPort : Int) : (∀ first second takenFirst takenSecond,
      (configFromWire go first takenFirst wire defaultPort).Same
        (configFromWire go second takenSecond wire defaultPort)) ↔ ProtocolAgrees go wire := by
  simp only [configFromWire_same_iff, configFromWire_protocol]
  constructor
  · intro steady
    by_cases blank : isBlank (stringValue go wire.raw "protocol") = true
    · simp only [if_pos blank] at steady
      have ordered (order : List (String × String)) (same : order.Perm (wireExtra go wire)) :
          (order.filterMap (candidateFor "protocol")).head?.getD "" =
            ((wireExtra go wire).filterMap (candidateFor "protocol")).head?.getD "" := by
        have taken := steady .stored .stored (Order.only (wireExtra go wire) order same) .stored
        have visited : (Order.only (wireExtra go wire) order same).visit
            (((Order.stored : Order String Any).visit (extraParams wire.raw)).filterMap
              (printedParam go)) = order := Order.visit_only same
        rw [visited] at taken
        exact taken
      exact Or.inr (agree_of_first "" ordered)
    · exact Or.inl (by simpa using blank)
  · rintro agrees first second takenFirst takenSecond
    rcases agrees with given | agree
    · simp [given]
    · have read (ranged : Order String Any) (taken : Order String String) :
          (taken.visit ((ranged.visit (extraParams wire.raw)).filterMap
            (printedParam go))).filterMap (candidateFor "protocol") =
          (wireExtra go wire).filterMap (candidateFor "protocol") :=
        agree.filterMap_eq ((taken.perm _).trans (ranged_perm go wire ranged))
      rw [read, read]

end Wire

end Onetcli.DbIpc
