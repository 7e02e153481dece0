import Mathlib.Data.List.Sort
import Onetcli.Lib.Checks
import Onetcli.Lib.Encodings
import Onetcli.Lib.Parts
import Onetcli.GBase8s.CatalogTexts

/-!
The configuration of a GBase 8s connection and its JDBC URL (java/gbase8s-ipc-driver,
jdbc/GBase8sConfig.java and jdbc/GBase8sJdbcUrl.java), and how the driver reads the URL. The port
begins at the first colon behind the host and the properties at the first one behind the database,
so a colon in either ends it early.
-/

namespace Onetcli.GBase8s

open Chars Lookups Text

/-! ## The configuration -/

/-- A value of the wire; `written` is what `String.valueOf` gives of it. -/
inductive Scalar where
  | null
  | text (value : Chars)
  | number (intValue : Int) (written : Chars)
  | other (written : Chars)

def Scalar.valueOf : Scalar → Option Chars
  | .null => none
  | .text value => some value
  | .number _ written => some written
  | .other written => some written

inductive WireValue where
  | scalar (value : Scalar)
  | map (entries : List (Chars × Scalar)) (written : Chars)

def WireValue.valueOf : WireValue → Option Chars
  | .scalar value => value.valueOf
  | .map _ written => some written

/-- The entries of a map in its order, with no key twice. -/
abbrev WireMap := List (Chars × WireValue)

structure GBase8sConfig where
  host : Chars
  port : Int
  username : Chars
  password : Chars
  database : Chars
  driverClass : Chars
  jdbcJar : Chars
  extraParams : List (Chars × Chars)

def defaultPort : Int := 11811
def defaultDriverClass : Chars := "com.gbasedbt.jdbc.Driver".toList

def stringValue (raw : WireMap) (key : Chars) : Chars :=
  match (raw.lookup key).bind WireValue.valueOf with
  | some value => value
  | none => []

def trimmedStringValue (raw : WireMap) (key : Chars) : Chars := javaTrim (stringValue raw key)

def extraPrefix : Chars := "extra_params.".toList

def putExtraParam (out : List (Chars × Chars)) (key value : Chars) : List (Chars × Chars) :=
  let key := (stripPrefix extraPrefix key).getD key
  put (javaTrim key) (javaTrim value) out

def putNested (out : List (Chars × Chars)) (entry : Chars × Scalar) : List (Chars × Chars) :=
  match entry.2.valueOf with
  | some value => putExtraParam out entry.1 value
  | none => out

def putFlat (out : List (Chars × Chars)) (entry : Chars × WireValue) : List (Chars × Chars) :=
  match entry.2.valueOf with
  | some value => if extraPrefix.isPrefixOf entry.1 then putExtraParam out entry.1 value else out
  | none => out

def readExtraParams (raw : WireMap) : List (Chars × Chars) :=
  let nested := match raw.lookup "extra_params".toList with
    | some (.map entries _) => entries.foldl putNested []
    | _ => []
  raw.foldl putFlat nested

def configString (raw : WireMap) (extra : List (Chars × Chars)) (key : Chars) : Chars :=
  let value := trimmedStringValue raw key
  if javaTrim value ≠ [] then value else (extra.lookup key).getD []

def orDefaultPort (port : Int) : Int := if port = 0 then defaultPort else port

def portValue (value : Option WireValue) : Except Chars Int :=
  match value with
  | none => .ok defaultPort
  | some (.scalar .null) => .ok defaultPort
  | some (.scalar (.number intValue _)) => .ok (orDefaultPort intValue)
  | some other =>
    let text := javaTrim (other.valueOf.getD [])
    if text = [] then .ok defaultPort
    else match parseInt text with
      | some port => .ok (orDefaultPort port)
      | none => .error "port must be a number".toList

def defaultString (value defaultValue : Chars) : Chars :=
  if javaTrim value = [] then defaultValue else value

def require (value : Option Chars) (field : String) : Except Chars Unit :=
  match value with
  | some value =>
    if javaTrim value = [] then .error ("missing required config field ".toList ++ field.toList)
    else .ok ()
  | none => .error ("missing required config field ".toList ++ field.toList)

def GBase8sConfig.validate (config : GBase8sConfig) : Except Chars Unit := do
  require (some config.host) "host"
  if config.port < 1 ∨ 65535 < config.port then
    throw "port must be between 1 and 65535".toList
  require (some config.username) "username"
  require (some config.database) "database"
  require (some config.driverClass) "driver_class"
  require (config.extraParams.lookup "GBASEDBTSERVER".toList) "extra_params.GBASEDBTSERVER"
  require (config.extraParams.lookup "PROTOCOL".toList) "extra_params.PROTOCOL"

def fromWire (raw : Option WireMap) : Except Chars GBase8sConfig :=
  match raw with
  | none => .error "config is required".toList
  | some raw => do
    let extra := readExtraParams raw
    let port ← portValue (raw.lookup "port".toList)
    let config : GBase8sConfig :=
      { host := trimmedStringValue raw "host".toList
        port
        username := trimmedStringValue raw "username".toList
        password := stringValue raw "password".toList
        database := trimmedStringValue raw "database".toList
        driverClass := defaultString (configString raw extra "driver_class".toList)
          defaultDriverClass
        jdbcJar := configString raw extra "jdbc_jar".toList
        extraParams := extra }
    config.validate
    return config

/-! ## The URL -/

/-- No other character than `S` and `H` has `s` or `h` as its small letter. -/
def isHostManagedExtraParam (key : Chars) : Bool :=
  "ssh_".toList.isPrefixOf ((javaTrim key).map Char.toLower)

def breaksUrl (c : Char) : Bool := c == ';' || c == '\n' || c == '\r'

def validateUrlPart (name : String) (value : Chars) : Except Chars Unit :=
  if javaTrim value = [] then .error (name.toList ++ " is required".toList)
  else if value.any breaksUrl then
    .error (name.toList ++ " contains invalid JDBC URL characters".toList)
  else .ok ()

def validatePropertyKey (key : Chars) : Except Chars Unit :=
  if javaTrim key = [] then .error "JDBC property key is required".toList
  else if key.any fun c => breaksUrl c || c == '=' then
    .error ("JDBC property ".toList ++ key ++ " contains invalid characters".toList)
  else .ok ()

def validatePropertyValue (key value : Chars) : Except Chars Unit :=
  if value.any breaksUrl then
    .error ("JDBC property ".toList ++ key ++ " contains invalid characters".toList)
  else .ok ()

def propertyText (property : Chars × Chars) : Chars := property.1 ++ '=' :: (property.2 ++ [';'])

def appendProperty (url : Chars) (property : Chars × Chars) : Except Chars Chars := do
  validatePropertyKey property.1
  validatePropertyValue property.1 property.2
  return url ++ propertyText property

/-- `String.compareTo` goes by the units of UTF-16. -/
def unitsOrder : List Nat → List Nat → Bool
  | [], _ => true
  | _ :: _, [] => false
  | first :: rest, other :: others =>
    decide (first < other) || first == other && unitsOrder rest others

def keyOrder (first second : Chars × Chars) : Prop :=
  unitsOrder (first.1.flatMap utf16Of) (second.1.flatMap utf16Of) = true

instance : DecidableRel keyOrder := fun _ _ => inferInstanceAs (Decidable (_ = true))

def urlProperties (config : GBase8sConfig) : List (Chars × Chars) :=
  (config.extraParams.insertionSort keyOrder).filter fun entry => !isHostManagedExtraParam entry.1

def intText (number : Int) : Chars :=
  if number < 0 then '-' :: Nat.toDigits 10 number.natAbs else Nat.toDigits 10 number.natAbs

def urlPrefix : Chars := "jdbc:gbasedbt-sqli://".toList

def build (config : GBase8sConfig) : Except Chars Chars := do
  validateUrlPart "host" config.host
  validateUrlPart "database" config.database
  let url := urlPrefix ++ (config.host ++ ':' :: (intText config.port ++ '/' ::
    (config.database ++ [':'])))
  (urlProperties config).foldlM appendProperty url

/-! ## How the driver reads it -/

structure ParsedUrl where
  host : Chars
  port : Int
  database : Chars
  properties : List (Chars × Chars)

def endsHost (c : Char) : Bool := c == ':' || c == '/'

/-- An IPv6 address in brackets at the beginning, and the rest. -/
def bracketed (text : Chars) : Chars × Chars :=
  match text with
  | '[' :: rest => match rest.dropWhile fun c => !(c == ']' || c == '/') with
    | ']' :: after => ('[' :: ((rest.takeWhile fun c => !(c == ']' || c == '/')) ++ [']']), after)
    | _ => ([], text)
  | _ => ([], text)

def splitHost (text : Chars) : Chars × Chars :=
  let (address, rest) := bracketed text
  (address ++ rest.takeWhile fun c => !endsHost c, rest.dropWhile fun c => !endsHost c)

def readProperties (text : Chars) : List (Chars × Chars) :=
  ((text.splitOn ';').filter fun property => !property.isEmpty).map fun property =>
    (splitOnce (· == '=') property).getD (property, [])

def parseUrl (url : Chars) : Option ParsedUrl := do
  let rest ← stripPrefix urlPrefix url
  let (host, rest) := splitHost rest
  let rest ← stripPrefix [':'] rest
  let (port, rest) ← splitOnce (· == '/') rest
  let port ← parseDigits port
  let (database, rest) ← splitOnce (· == ':') rest
  return { host, port, database, properties := readProperties rest }

def Decodes (url : Chars) (config : GBase8sConfig) : Prop :=
  ∃ parsed, parseUrl url = some parsed ∧ parsed.host = config.host ∧
    parsed.port = config.port ∧ parsed.database = config.database ∧
    (parsed.properties.map Prod.fst).Nodup ∧
    parsed.properties.Perm (config.extraParams.filter fun entry =>
      !isHostManagedExtraParam entry.1)

/-- Nothing of the host lies behind the place where the driver ends it. -/
def HostWhole (host : Chars) : Prop := (splitHost host).2 = []

/-! ## Accepted configurations -/

theorem putExtraParam_nodup {out : List (Chars × Chars)} (distinct : (out.map Prod.fst).Nodup)
    (key value : Chars) : ((putExtraParam out key value).map Prod.fst).Nodup :=
  nodup_put distinct

theorem readExtraParams_nodup (raw : WireMap) : ((readExtraParams raw).map Prod.fst).Nodup := by
  have nested (entries : List (Chars × Scalar)) (out : List (Chars × Chars))
      (distinct : (out.map Prod.fst).Nodup) :
      ((entries.foldl putNested out).map Prod.fst).Nodup := by
    induction entries generalizing out with
    | nil => exact distinct
    | cons entry rest ih =>
      refine ih _ ?_
      rw [putNested]
      split
      · exact putExtraParam_nodup distinct _ _
      · exact distinct
  have flat (entries : WireMap) (out : List (Chars × Chars))
      (distinct : (out.map Prod.fst).Nodup) : ((entries.foldl putFlat out).map Prod.fst).Nodup := by
    induction entries generalizing out with
    | nil => exact distinct
    | cons entry rest ih =>
      refine ih _ ?_
      rw [putFlat]
      split
      · split
        · exact putExtraParam_nodup distinct _ _
        · exact distinct
      · exact distinct
  rw [readExtraParams]
  refine flat raw _ ?_
  split
  · exact nested _ _ List.nodup_nil
  · exact List.nodup_nil

theorem validate_port {config : GBase8sConfig} (valid : config.validate = .ok ()) :
    1 ≤ config.port ∧ config.port ≤ 65535 := by
  by_contra outside
  have out : config.port < 1 ∨ 65535 < config.port := by omega
  unfold GBase8sConfig.validate at valid
  cases first : require (some config.host) "host" with
  | error message => simp [first, bind, Except.bind] at valid
  | ok found => simp [first, bind, Except.bind, out, throw, throwThe, MonadExceptOf.throw] at valid

theorem fromWire_accepted {raw : Option WireMap} {config : GBase8sConfig}
    (accepted : fromWire raw = .ok config) :
    1 ≤ config.port ∧ config.port ≤ 65535 ∧ (config.extraParams.map Prod.fst).Nodup := by
  cases raw with
  | none => cases accepted
  | some raw =>
    simp only [fromWire, bind, Except.bind, pure, Except.pure] at accepted
    split at accepted
    · cases accepted
    · split at accepted
      · cases accepted
      · rename_i valid
        cases accepted
        obtain ⟨low, high⟩ := validate_port valid
        exact ⟨low, high, readExtraParams_nodup raw⟩

/-! ## The text of the URL -/

structure CleanProperty (property : Chars × Chars) : Prop where
  noEnd : ';' ∉ property.1
  noEquals : '=' ∉ property.1
  noEndValue : ';' ∉ property.2

theorem appendProperty_ok {url out : Chars} {property : Chars × Chars}
    (appended : appendProperty url property = .ok out) :
    out = url ++ propertyText property ∧ CleanProperty property := by
  obtain ⟨_, key, appended⟩ := Checks.bind_eq_ok.mp appended
  obtain ⟨_, value, appended⟩ := Checks.bind_eq_ok.mp appended
  cases appended
  have clean : (property.1.any fun c => breaksUrl c || c == '=') = false := by
    rw [Bool.eq_false_iff]
    intro broken
    rw [validatePropertyKey, if_pos broken] at key
    split at key <;> cases key
  have cleanValue : property.2.any breaksUrl = false := by
    rw [Bool.eq_false_iff]
    intro broken
    rw [validatePropertyValue, if_pos broken] at value
    cases value
  rw [List.any_eq_false] at clean cleanValue
  refine ⟨rfl, fun among => clean ';' among rfl, fun among => clean '=' among rfl,
    fun among => cleanValue ';' among rfl⟩

theorem appendProperties_ok {properties : List (Chars × Chars)} {url out : Chars}
    (appended : properties.foldlM appendProperty url = .ok out) :
    out = url ++ properties.flatMap propertyText ∧
      ∀ property ∈ properties, CleanProperty property := by
  induction properties generalizing url with
  | nil =>
    cases appended
    simp
  | cons property rest ih =>
    rw [List.foldlM_cons] at appended
    obtain ⟨next, here, later⟩ := Checks.bind_eq_ok.mp appended
    obtain ⟨rfl, clean⟩ := appendProperty_ok here
    obtain ⟨rfl, others⟩ := ih later
    exact ⟨by simp, List.forall_mem_cons.mpr ⟨clean, others⟩⟩

theorem build_ok {config : GBase8sConfig} {url : Chars} (built : build config = .ok url) :
    url = urlPrefix ++ (config.host ++ ':' :: (intText config.port ++ '/' ::
      (config.database ++ ':' :: (urlProperties config).flatMap propertyText))) ∧
      ∀ property ∈ urlProperties config, CleanProperty property := by
  unfold build at built
  obtain ⟨_, _, built⟩ := Checks.bind_eq_ok.mp built
  obtain ⟨_, _, built⟩ := Checks.bind_eq_ok.mp built
  obtain ⟨rfl, clean⟩ := appendProperties_ok built
  exact ⟨by simp, clean⟩

theorem readProperties_text {properties : List (Chars × Chars)}
    (clean : ∀ property ∈ properties, CleanProperty property) :
    readProperties (properties.flatMap propertyText) = properties := by
  induction properties with
  | nil => rfl
  | cons property rest ih =>
    obtain ⟨here, others⟩ := List.forall_mem_cons.mp clean
    have whole : propertyText property ++ rest.flatMap propertyText =
        (property.1 ++ '=' :: property.2) ++ ';' :: rest.flatMap propertyText := by
      simp [propertyText]
    have noEnd : ∀ c ∈ property.1 ++ '=' :: property.2, (c == ';') = false := by
      refine unequal_of_absent ?_
      rw [List.mem_append, List.mem_cons, not_or, not_or]
      exact ⟨here.noEnd, by decide, here.noEndValue⟩
    have cut := splitOnce_append (unequal_of_absent here.noEquals) (beq_self_eq_true '=')
      property.2
    have later := ih others
    unfold readProperties at later ⊢
    rw [List.flatMap_cons, whole, List.splitOn_eq_splitOnP,
      List.splitOnP_append_cons_of_forall_mem noEnd ';' (beq_self_eq_true ';'),
      ← List.splitOn_eq_splitOnP, List.filter_cons_of_pos (by simp), List.map_cons, later, cut]
    rfl

/-! ## The host in the URL -/

theorem bracketed_whole (text : Chars) : (bracketed text).1 ++ (bracketed text).2 = text := by
  unfold bracketed
  split
  · rename_i rest
    split
    · rename_i after stopped
      have whole := List.takeWhile_append_dropWhile (p := fun c => !(c == ']' || c == '/')) (l := rest)
      rw [stopped] at whole
      simpa using whole
    · rfl
  · rfl

theorem splitHost_whole (text : Chars) : (splitHost text).1 ++ (splitHost text).2 = text := by
  have whole := bracketed_whole text
  rw [splitHost, List.append_assoc, List.takeWhile_append_dropWhile, whole]

theorem bracketed_other {text : Chars} (other : ∀ rest, text ≠ '[' :: rest) :
    bracketed text = ([], text) := by
  unfold bracketed
  split
  · rename_i rest
    exact absurd rfl (other rest)
  · rfl

theorem takeWhile_stopped {text tail : Chars} {goes : Char → Bool}
    (stopped : text.dropWhile goes ≠ []) : (text ++ tail).takeWhile goes = text.takeWhile goes := by
  have whole := List.takeWhile_append_dropWhile (p := goes) (l := text)
  have some := List.length_pos_of_ne_nil stopped
  have lengths := congrArg List.length whole
  rw [List.length_append] at lengths
  rw [List.takeWhile_append, if_neg (by omega)]

theorem dropWhile_stopped {text tail : Chars} {goes : Char → Bool}
    (stopped : text.dropWhile goes ≠ []) :
    (text ++ tail).dropWhile goes = text.dropWhile goes ++ tail := by
  rw [List.dropWhile_append, if_neg (by simpa using stopped)]

section Host

variable {digits : Chars} (number : ∀ c ∈ digits, c.isDigit = true) (host more : Chars)
include number

theorem bracketed_tail : bracketed (host ++ ':' :: (digits ++ '/' :: more)) =
    ((bracketed host).1, (bracketed host).2 ++ ':' :: (digits ++ '/' :: more)) := by
  by_cases opened : ∃ rest, host = '[' :: rest
  · obtain ⟨rest, rfl⟩ := opened
    have behind : (':' :: (digits ++ '/' :: more)).dropWhile (fun c => !(c == ']' || c == '/')) =
        '/' :: more := by
      have passed : ∀ c ∈ ':' :: digits, (!(c == ']' || c == '/')) = true := by
        intro c among
        rcases List.mem_cons.mp among with rfl | inside
        · rfl
        · have digit := number c inside
          by_cases bracket : c = ']'
          · subst bracket
            cases digit
          · by_cases slash : c = '/'
            · subst slash
              cases digit
            · simp [bracket, slash]
      rw [← List.cons_append, List.dropWhile_append_of_pos passed]
      rfl
    rw [List.cons_append]
    unfold bracketed
    cases stopped : rest.dropWhile fun c => !(c == ']' || c == '/') with
    | nil =>
      have gone : (rest ++ ':' :: (digits ++ '/' :: more)).dropWhile
          (fun c => !(c == ']' || c == '/')) = '/' :: more := by
        rw [List.dropWhile_append, stopped, if_pos List.isEmpty_nil, behind]
      simp only [stopped, gone]
      rfl
    | cons c after =>
      have some : rest.dropWhile (fun c => !(c == ']' || c == '/')) ≠ [] := by
        rw [stopped]
        exact List.cons_ne_nil _ _
      simp only [dropWhile_stopped some, takeWhile_stopped some, stopped]
      by_cases closed : c = ']'
      · subst closed
        rfl
      · split
        · rename_i same
          cases same
          exact absurd rfl closed
        · split
          · rename_i same
            cases same
            exact absurd rfl closed
          · rfl
  · rw [bracketed_other fun rest same => opened ⟨rest, same⟩]
    refine bracketed_other fun rest same => ?_
    cases host with
    | nil => cases same
    | cons c front =>
      obtain ⟨rfl, _⟩ := List.cons.inj same
      exact opened ⟨front, rfl⟩

theorem splitHost_tail : splitHost (host ++ ':' :: (digits ++ '/' :: more)) =
    ((splitHost host).1, (splitHost host).2 ++ ':' :: (digits ++ '/' :: more)) := by
  rw [splitHost, bracketed_tail number host more, splitHost]
  by_cases none : (bracketed host).2.dropWhile (fun c => !endsHost c) = []
  · have all : ∀ c ∈ (bracketed host).2, (!endsHost c) = true :=
      List.dropWhile_eq_nil_iff.mp none
    have colon : (!endsHost ':') = false := rfl
    simp only [List.takeWhile_append_of_pos all, List.dropWhile_append_of_pos all, none,
      List.takeWhile_eq_self_iff.mpr all, List.takeWhile_cons, List.dropWhile_cons, colon,
      Bool.false_eq_true, if_false, List.append_nil, List.nil_append]
  · simp only [takeWhile_stopped none, dropWhile_stopped none]

end Host

theorem parseDigits_text (number : Nat) :
    parseDigits (Nat.toDigits 10 number) = some (number : Int) := by
  have digits : (Nat.toDigits 10 number).all Char.isDigit = true :=
    List.all_eq_true.mpr fun c among => Nat.isDigit_of_mem_toDigits (by decide) (by decide) among
  rw [parseDigits, if_pos ⟨Nat.toDigits_ne_nil, digits⟩, Nat.ofDigitChars_ten_toDigits]

/-! ## What the driver reads -/

theorem intText_port {port : Int} (low : 1 ≤ port) : intText port = Nat.toDigits 10 port.natAbs := by
  rw [intText, if_neg (by omega)]

section Read

variable {config : GBase8sConfig} {url : Chars} (low : 1 ≤ config.port)
  (built : build config = .ok url)
include low built

theorem parseUrl_built : parseUrl url =
    (stripPrefix [':'] ((splitHost config.host).2 ++ ':' :: (intText config.port ++ '/' ::
      (config.database ++ ':' :: (urlProperties config).flatMap propertyText)))).bind fun rest =>
    (splitOnce (· == '/') rest).bind fun (port, rest) =>
    (parseDigits port).bind fun port =>
    (splitOnce (· == ':') rest).bind fun (database, rest) =>
    some { host := (splitHost config.host).1, port, database, properties := readProperties rest } := by
  obtain ⟨rfl, _⟩ := build_ok built
  have digits : ∀ c ∈ intText config.port, c.isDigit = true := by
    rw [intText_port low]
    exact fun c among => Nat.isDigit_of_mem_toDigits (by decide) (by decide) among
  rw [parseUrl, stripPrefix_append, Option.bind_eq_bind, Option.bind_some, splitHost_tail digits]
  rfl

theorem parseUrl_whole (whole : HostWhole config.host) : parseUrl url =
    (splitOnce (· == ':') (config.database ++ ':' ::
      (urlProperties config).flatMap propertyText)).bind fun (database, rest) =>
    some { host := config.host, port := config.port, database,
           properties := readProperties rest } := by
  have host := splitHost_whole config.host
  have behind : (splitHost config.host).2 = [] := whole
  rw [behind, List.append_nil] at host
  have noSlash : '/' ∉ Nat.toDigits 10 config.port.natAbs := by
    intro among
    have digit := Nat.isDigit_of_mem_toDigits (by decide) (by decide) among
    cases digit
  have port : ((config.port.natAbs : Nat) : Int) = config.port := by omega
  rw [parseUrl_built low built, behind, List.nil_append, intText_port low, host]
  have cut := splitOnce_append (unequal_of_absent noSlash) (beq_self_eq_true '/')
    (config.database ++ ':' :: (urlProperties config).flatMap propertyText)
  have stripped (rest : Chars) : stripPrefix [':'] (':' :: rest) = some rest :=
    stripPrefix_append [':'] rest
  simp only [stripped, Option.bind_some, cut, parseDigits_text, port]

end Read

theorem urlProperties_perm (config : GBase8sConfig) : (urlProperties config).Perm
    (config.extraParams.filter fun entry => !isHostManagedExtraParam entry.1) :=
  (List.perm_insertionSort keyOrder _).filter _

/-- The URL of an accepted configuration gives it back if and only if its host has no colon or
slash outside an address in brackets and its database has no colon. -/
theorem jdbc_url_decodes_iff {raw : Option WireMap} {config : GBase8sConfig}
    (accepted : fromWire raw = .ok config) {url : Chars} (built : build config = .ok url) :
    Decodes url config ↔ HostWhole config.host ∧ ':' ∉ config.database := by
  obtain ⟨low, _, distinct⟩ := fromWire_accepted accepted
  constructor
  · rintro ⟨parsed, reads, host, port, database, _⟩
    have whole : HostWhole config.host := by
      rw [parseUrl_built low built] at reads
      obtain ⟨_, _, reads⟩ := Option.bind_eq_some_iff.mp reads
      obtain ⟨_, _, reads⟩ := Option.bind_eq_some_iff.mp reads
      obtain ⟨_, _, reads⟩ := Option.bind_eq_some_iff.mp reads
      obtain ⟨_, _, reads⟩ := Option.bind_eq_some_iff.mp reads
      have found : parsed.host = (splitHost config.host).1 :=
        (congrArg ParsedUrl.host (Option.some.inj reads)).symm
      have parts := splitHost_whole config.host
      rw [← found, host] at parts
      exact List.append_right_eq_self.mp parts
    refine ⟨whole, fun colon => ?_⟩
    rw [parseUrl_whole low built whole] at reads
    obtain ⟨⟨front, rest⟩, cut, same⟩ := Option.bind_eq_some_iff.mp reads
    have found : parsed.database = front :=
      (congrArg ParsedUrl.database (Option.some.inj same)).symm
    have clean := splitOnce_before cut
    rw [← found, database] at clean
    exact absurd (clean ':' colon) (by simp)
  · rintro ⟨whole, noColon⟩
    have cut := splitOnce_append (unequal_of_absent noColon) (beq_self_eq_true ':')
      ((urlProperties config).flatMap propertyText)
    have properties := readProperties_text (build_ok built).2
    refine ⟨_, by rw [parseUrl_whole low built whole, cut]; rfl, rfl, rfl, rfl, ?_, ?_⟩
    · have kept : ((urlProperties config).map Prod.fst).Nodup :=
        ((urlProperties_perm config).map Prod.fst).nodup_iff.mpr
          (distinct.sublist (List.filter_sublist.map Prod.fst))
      exact properties.symm ▸ kept
    · exact properties.symm ▸ urlProperties_perm config

/-! ## Two configurations -/

def wireConfig (host database : String) : WireMap :=
  [("host".toList, .scalar (.text host.toList)),
    ("port".toList, .scalar (.number 11811 "11811".toList)),
    ("username".toList, .scalar (.text "gbasedbt".toList)),
    ("password".toList, .scalar (.text "secret".toList)),
    ("database".toList, .scalar (.text database.toList)),
    ("extra_params".toList, .map [("GBASEDBTSERVER".toList, .text "gbase01".toList),
      (" SSH_PORT ".toList, .number 22 "22".toList), ("PROTOCOL".toList, .text "onsoctcp".toList)]
      [])]

def storesConfig (host database : String) : GBase8sConfig where
  host := host.toList
  port := 11811
  username := "gbasedbt".toList
  password := "secret".toList
  database := database.toList
  driverClass := defaultDriverClass
  jdbcJar := []
  extraParams := [("GBASEDBTSERVER".toList, "gbase01".toList),
    ("SSH_PORT".toList, "22".toList), ("PROTOCOL".toList, "onsoctcp".toList)]

def storesUrl : Chars :=
  "jdbc:gbasedbt-sqli://127.0.0.1:11811/stores:GBASEDBTSERVER=gbase01;PROTOCOL=onsoctcp;".toList

theorem stores_accepted : fromWire (some (wireConfig "127.0.0.1" "stores")) =
    .ok (storesConfig "127.0.0.1" "stores") := rfl

set_option maxRecDepth 4000 in
theorem stores_built : build (storesConfig "127.0.0.1" "stores") = .ok storesUrl := rfl

theorem jdbc_url_decodes_stores : Decodes storesUrl (storesConfig "127.0.0.1" "stores") :=
  (jdbc_url_decodes_iff stores_accepted stores_built).mpr ⟨rfl, by decide⟩

def longerUrl : Chars :=
  "jdbc:gbasedbt-sqli://127.0.0.1:11811/stores:A=y:GBASEDBTSERVER=gbase01;PROTOCOL=onsoctcp;".toList

theorem longer_accepted : fromWire (some (wireConfig "127.0.0.1" "stores:A=y")) =
    .ok (storesConfig "127.0.0.1" "stores:A=y") := rfl

set_option maxRecDepth 4000 in
theorem longer_built : build (storesConfig "127.0.0.1" "stores:A=y") = .ok longerUrl := rfl

set_option maxRecDepth 4000 in
theorem longer_parsed : parseUrl longerUrl = some
    { host := "127.0.0.1".toList, port := 11811, database := "stores".toList
      properties := [("A".toList, "y:GBASEDBTSERVER=gbase01".toList),
        ("PROTOCOL".toList, "onsoctcp".toList)] } := rfl

/-- The database brings a property, which takes the place of the next one. -/
theorem database_adds_property :
    fromWire (some (wireConfig "127.0.0.1" "stores:A=y")) =
        .ok (storesConfig "127.0.0.1" "stores:A=y") ∧
      build (storesConfig "127.0.0.1" "stores:A=y") = .ok longerUrl ∧
      ¬Decodes longerUrl (storesConfig "127.0.0.1" "stores:A=y") := by
  refine ⟨longer_accepted, longer_built, ?_⟩
  rintro ⟨parsed, reads, _, _, database, _⟩
  rw [longer_parsed] at reads
  rw [← Option.some.inj reads] at database
  exact absurd database (by decide)

end Onetcli.GBase8s
