import Onetcli.DbIpc.WireConfig
import Onetcli.Lib.QueryStrings

/-!
The connection string of an Oracle tenant over the MySQL wire in
internal/drivers/oceanbase/spec.go, and what of it depends on the order in which Go
visits the extra parameters.
-/

/-!
The URL options of a connection in internal/drivers/oracle/spec.go. Every entry of the
extra parameters sets one option at most, and several spellings set the same one.
-/

namespace Onetcli.Drivers.Oracle

open DbIpc MapOrder Tables Text

def defaultPort : Int := 1521

/-- `ConfigFromWire` of the package. -/
def configFromWire (go : GoLibrary) (ranged : Order String Any) (taken : Order String String)
    (wire : WireConfig) : Config := DbIpc.configFromWire go ranged taken wire defaultPort

def oracleRoleValue (raw : String) : String :=
  match toUpper (trimSpace raw) with
  | "SYSDBA" => "SYSDBA"
  | "SYSOPER" => "SYSOPER"
  | _ => ""

def goOraSupportedOptionNormalized : List String :=
  ["cid", "connstr", "server", "service_name", "sid", "instance_name", "wallet",
    "wallet_password", "auth_type", "os_user", "os_pass", "os_password", "os_hash",
    "os_passhash", "os_password_hash", "domain", "auth_serv", "encryption", "data_integrity",
    "ssl", "ssl_verify", "dba_privilege", "timeout", "read_timeout", "socket_timeout",
    "connect_timeout", "connection_timeout", "trace_file", "trace_dir", "trace_folder",
    "trace_directory", "use_oob", "enable_oob", "enable_urgent_data_transport",
    "prefetch_rows", "unix_socket", "proxy_client_name", "lob_fetch", "language", "territory",
    "charset", "client_charset", "program", "server_location"]

def normalizeOptionKey (key : String) : String :=
  replaceAll (replaceAll (toLower (trimSpace key)) " " "_") "-" "_"

def goOraURLOption (key : String) : Bool :=
  normalizeOptionKey key ∈ goOraSupportedOptionNormalized

def timeoutSeconds (raw : String) : Option String :=
  let value := trimSpace raw
  if value = "" then none
  else
    match parseInt value with
    | .ok seconds => if seconds < 0 then none else some (toString seconds.toInt)
    | .error _ => none

/-- What one entry writes into the options. -/
def oracleDSNParam : String × String → Option (String × String)
  | (key, value) =>
    match normalizeOptionKey key with
    | "connect_timeout" => (timeoutSeconds value).map ("CONNECT TIMEOUT", ·)
    | "read_timeout" => (timeoutSeconds value).map ("READ TIMEOUT", ·)
    | "role" =>
      let privilege := oracleRoleValue value
      if privilege ≠ "" then some ("DBA PRIVILEGE", privilege) else none
    | "external_driver_id" | "default_schema" | "schema_filter_mode"
    | "schema_filter_include" | "schema_filter_exclude" => none
    | _ => if goOraURLOption key then some (key, value) else none

/-- `copied` is the order in `CopyDriverExtra`, `ranged` that of the loop over the copy. -/
def oracleDSNParams (copied ranged : Order String String) (extra : List (String × String)) :
    Table String String :=
  (ranged.visit (copyDriverExtra copied extra)).foldl (store oracleDSNParam) ∅

/-- The entries that set one option set it to one value. -/
def OptionsAgree (extra : List (String × String)) : Prop :=
  ∀ option, Agree (written oracleDSNParam option)
    (extra.filter fun entry => !isHostManagedExtraParam entry.1)

theorem lookup_oracleDSNParams (copied ranged : Order String String)
    (extra : List (String × String)) (option : String) :
    (oracleDSNParams copied ranged extra).lookup option =
      ((ranged.visit (copyDriverExtra copied extra)).filterMap
        (written oracleDSNParam option)).getLast? := by
  rw [oracleDSNParams, lookup_stored]
  simp

theorem copyDriverExtra_perm (order : Order String String) (extra : List (String × String)) :
    (copyDriverExtra order extra).Perm
      (extra.filter fun entry => !isHostManagedExtraParam entry.1) :=
  (order.perm extra).filter _

theorem OptionsAgree.perm {first second : List (String × String)} (agree : OptionsAgree first)
    (same : first.Perm second) : OptionsAgree second :=
  fun option => (agree option).perm (same.symm.filter _)

theorem oracleDSNParams_agree {extra first second : List (String × String)}
    (agree : OptionsAgree extra) (sameFirst : first.Perm extra) (sameSecond : second.Perm extra)
    (copied ranged copiedOther rangedOther : Order String String) (option : String) :
    (oracleDSNParams copied ranged first).lookup option =
      (oracleDSNParams copiedOther rangedOther second).lookup option := by
  have read {listed : List (String × String)} (same : listed.Perm extra)
      (copied ranged : Order String String) :=
    (agree option).filterMap_eq ((ranged.perm (copyDriverExtra copied listed)).trans
      ((copyDriverExtra_perm copied listed).trans (same.filter _)))
  rw [lookup_oracleDSNParams, lookup_oracleDSNParams, read sameFirst, read sameSecond]

theorem optionsAgree_of_steady {extra : List (String × String)}
    (steady : ∀ ranged option, (oracleDSNParams .stored ranged extra).lookup option =
      (oracleDSNParams .stored .stored extra).lookup option) : OptionsAgree extra := by
  intro option
  let kept := copyDriverExtra .stored extra
  have ordered (order : List (String × String)) (same : order.Perm kept) :
      (order.filterMap (written oracleDSNParam option)).getLast?.getD "" =
        (kept.filterMap (written oracleDSNParam option)).getLast?.getD "" := by
    have looked := steady (Order.only kept order same) option
    rw [lookup_oracleDSNParams, lookup_oracleDSNParams, Order.visit_only same] at looked
    rw [looked]
    rfl
  exact agree_of_last "" ordered

end Onetcli.Drivers.Oracle

namespace Onetcli.Drivers.OceanBase

open Chars DbIpc Lookups MapOrder QueryStrings Text

def defaultPort : Int := 2881

def protocolMySQL : String := "mysql"

/-- `ConfigFromWire` of the package. -/
def configFromWire (go : GoLibrary) (ranged : Order String Any) (taken : Order String String)
    (wire : WireConfig) : Config :=
  let cfg := DbIpc.configFromWire go ranged taken wire defaultPort
  if isBlank cfg.protocol then { cfg with protocol := protocolMySQL } else cfg

/-! ## net/url -/

/-- `shouldEscape` in a user name or password and in a host. -/
def keepsInUser (char : Char) : Bool :=
  unreserved char || ['$', '&', '+', ',', ';', '='].contains char

def keepsInHost (char : Char) : Bool :=
  unreserved char || ['!', '$', '&', '\'', '(', ')', '*', '+', ',', ';', '=', ':', '[', ']',
    '<', '>', '"'].contains char

def joinHostPort (host : String) (port : Int) : Chars :=
  let host := host.toList
  let written := if ':' ∈ host then '[' :: host ++ [']'] else host
  written ++ ':' :: (toString port).toList

/-- `URL.String` of a URL with a scheme, a user and a host, and without a path. -/
def urlText (scheme : String) (username password : String) (host : Chars) (rawQuery : Chars) :
    Chars :=
  scheme.toList ++ "://".toList ++ escapeExcept keepsInUser username.toList ++
    ':' :: escapeExcept keepsInUser password.toList ++ '@' :: escapeExcept keepsInHost host ++
    (if rawQuery = [] then [] else '?' :: rawQuery)

/-! ## The parameters -/

/-- One assignment to a map, whose keys stay distinct. -/
def assign (entries : List (String × String)) (key value : String) : List (String × String) :=
  entries.filter (·.1 ≠ key) ++ [(key, value)]

def connectionAttribute (attributes : List (String × String)) (item : Chars) :
    List (String × String) :=
  match splitOnce (· == ':') (trim item) with
  | none => attributes
  | some (name, value) =>
    let name := trim name
    if name = [] then attributes
    else assign attributes (String.ofList name) (String.ofList (trim value))

def parseConnectionAttributes (raw : String) : List (String × String) :=
  (raw.toList.splitOn ',').foldl connectionAttribute []

/-- The parameter that a lower-case name sets; `init` is the one that is added to. -/
def optionParam : String → Option String
  | "timeout" | "connecttimeout" | "connect timeout" | "connect_timeout" => some "timeout"
  | "trace" => some "trace"
  | "preset" => some "preset"
  | "cap.add" => some "cap.add"
  | "cap.drop" => some "cap.drop"
  | "collation" => some "collation"
  | "ob20" => some "ob20"
  | "protocol.v2" => some "protocol.v2"
  | "ob20.magic" => some "ob20.magic"
  | "ob20.disablechecksum" => some "ob20.disableChecksum"
  | "compress" | "usecompression" | "use_compression" => some "useCompression"
  | "tls" => some "tls"
  | "tls.ca" | "tls_ca" => some "tls.ca"
  | "tls.cert" | "tls_cert" => some "tls.cert"
  | "tls.key" | "tls_key" => some "tls.key"
  | "init" => some "init"
  | _ => none

def attrPrefix : String := "attr."

def attrParam (given : String × String) : String × String := (attrPrefix ++ given.1, given.2)

/-- One iteration; `attributes` gives the order of the inner loop for each key. -/
def mergeOracleOBClientParam (attributes : String → Order String String) (params : Values)
    (entry : String × String) : Values :=
  let name := trimSpace entry.1
  let lowerName := toLower name
  if lowerName = "protocol" ∨ lowerName = "oracle_mysql_wire_driver" then params
  else if lowerName = "connectionattributes" then
    ((attributes entry.1).visit (parseConnectionAttributes entry.2)).foldl
      (fun params given => params.set (attrParam given).1 (attrParam given).2) params
  else if attrPrefix.toList.isPrefixOf lowerName.toList then
    let attributeName := trimSpace (String.ofList (name.toList.drop attrPrefix.length))
    if attributeName ≠ "" then params.set (attrPrefix ++ attributeName) entry.2 else params
  else
    match optionParam lowerName with
    | some "init" => params.add "init" entry.2
    | some param => params.set param entry.2
    | none => params

def defaultPreset : String := "oboracle"

/-- The orders of the three loops over maps. -/
structure LoopOrders where
  copied : Order String String
  merged : Order String String
  attributes : String → Order String String

def mergeOracleOBClientParams (orders : LoopOrders) (params : Values)
    (extra : List (String × String)) : Values :=
  (orders.merged.visit extra).foldl (mergeOracleOBClientParam orders.attributes) params

def oracleTenantParams (orders : LoopOrders) (extra : List (String × String)) : Values :=
  let params := mergeOracleOBClientParams orders (Values.set ∅ "preset" defaultPreset)
    (copyDriverExtra orders.copied extra)
  if isBlank (params.get "preset") then params.set "preset" defaultPreset else params

def buildMySQLWireOracleTenantDSN (orders : LoopOrders) (cfg : Config) : Except String Chars := do
  requireConfig cfg ["host", "port", "username"]
  .ok (urlText "oboracle" cfg.username cfg.password (joinHostPort cfg.host cfg.port)
    (oracleTenantParams orders cfg.extra).encode)

/-! ## What an entry sets -/

def namedParams (entry : String × String) : List (String × String) :=
  let name := trimSpace entry.1
  let lowerName := toLower name
  if lowerName = "protocol" ∨ lowerName = "oracle_mysql_wire_driver" then []
  else if lowerName = "connectionattributes" then
    (parseConnectionAttributes entry.2).map attrParam
  else if attrPrefix.toList.isPrefixOf lowerName.toList then
    let attributeName := trimSpace (String.ofList (name.toList.drop attrPrefix.length))
    if attributeName ≠ "" then [(attrPrefix ++ attributeName, entry.2)] else []
  else
    match optionParam lowerName with
    | some param => [(param, entry.2)]
    | none => []

def effective (param value : String) : String :=
  if param = "preset" ∧ isBlank value = true then defaultPreset else value

def paramValue (param : String) (entry : String × String) : Option String :=
  ((namedParams entry).lookup param).map (effective param)

/-- The entries that name one parameter carry one value. -/
def ParamsAgree (extra : List (String × String)) : Prop :=
  ∀ param, Agree (paramValue param)
    (extra.filter fun entry => !isHostManagedExtraParam entry.1)

/-! ## The loops -/

theorem assign_distinct {entries : List (String × String)}
    (distinct : (entries.map Prod.fst).Nodup) (key value : String) :
    ((assign entries key value).map Prod.fst).Nodup := by
  rw [assign, List.map_append, List.nodup_append]
  refine ⟨distinct.sublist (List.filter_sublist.map _), by simp, ?_⟩
  intro name present other isKey
  obtain ⟨entry, kept, rfl⟩ := List.mem_map.mp present
  have differ : entry.1 ≠ key := by simpa using (List.mem_filter.mp kept).2
  simp only [List.map_cons, List.map_nil, List.mem_singleton] at isKey
  exact isKey ▸ differ

theorem connectionAttribute_distinct {attributes : List (String × String)}
    (distinct : (attributes.map Prod.fst).Nodup) (item : Chars) :
    ((connectionAttribute attributes item).map Prod.fst).Nodup := by
  unfold connectionAttribute
  split
  · exact distinct
  · dsimp only
    split
    · exact distinct
    · exact assign_distinct distinct _ _

theorem parseConnectionAttributes_distinct (raw : String) :
    ((parseConnectionAttributes raw).map Prod.fst).Nodup := by
  unfold parseConnectionAttributes
  have run (items : List Chars) (attributes : List (String × String))
      (distinct : (attributes.map Prod.fst).Nodup) :
      ((items.foldl connectionAttribute attributes).map Prod.fst).Nodup := by
    induction items generalizing attributes with
    | nil => exact distinct
    | cons item rest ih => exact ih _ (connectionAttribute_distinct distinct item)
  exact run _ [] List.nodup_nil

theorem attr_injective {first second : String} :
    attrPrefix ++ first = attrPrefix ++ second ↔ first = second := by
  constructor
  · intro same
    have lists := congrArg String.toList same
    simp only [String.toList_append, List.append_cancel_left_eq] at lists
    exact String.toList_inj.mp lists
  · exact congrArg (attrPrefix ++ ·)

theorem attrParams_distinct {entries : List (String × String)}
    (distinct : (entries.map Prod.fst).Nodup) : ((entries.map attrParam).map Prod.fst).Nodup := by
  rw [List.map_map]
  have renamed : entries.map (Prod.fst ∘ attrParam) =
      (entries.map Prod.fst).map (attrPrefix ++ ·) := by simp [attrParam]
  rw [renamed]
  exact distinct.map fun _ _ same => attr_injective.mp same

theorem all_set_each {entries : List (String × String)}
    (distinct : (entries.map Prod.fst).Nodup) (params : Values) (param : String) :
    (entries.foldl (fun params entry => params.set entry.1 entry.2) params).all param =
      match entries.lookup param with
      | some value => [value]
      | none => params.all param := by
  induction entries generalizing params with
  | nil => rfl
  | cons entry rest ih =>
    rw [List.map_cons, List.nodup_cons] at distinct
    rw [List.foldl_cons, ih distinct.2]
    by_cases here : param = entry.1
    · subst here
      have absent : rest.lookup entry.1 = none := by
        rw [List.lookup_eq_none_iff]
        intro other present
        have differ : entry.1 ≠ other.1 := fun same =>
          distinct.1 (same ▸ List.mem_map_of_mem present)
        simpa using differ
      rw [absent, lookup_same]
      simp
    · rw [lookup_other here, all_set, if_neg here]

-- The inner loop sets every attribute, whatever its order.
theorem all_attributes (order : Order String String) (params : Values) (raw param : String) :
    ((order.visit (parseConnectionAttributes raw)).foldl
      (fun params given => params.set (attrParam given).1 (attrParam given).2) params).all param =
      match ((parseConnectionAttributes raw).map attrParam).lookup param with
      | some value => [value]
      | none => params.all param := by
  have distinct := attrParams_distinct (parseConnectionAttributes_distinct raw)
  have same := (order.perm (parseConnectionAttributes raw)).map attrParam
  have looped := all_set_each ((same.map Prod.fst).nodup_iff.mpr distinct) params param
  rw [List.foldl_map] at looped
  rw [looped, lookup_perm same.symm distinct]

theorem attr_ne_init (name : String) : attrPrefix ++ name ≠ "init" := by
  intro same
  have heads := congrArg (fun text => text.toList.head?) same
  simp only [String.toList_append] at heads
  exact absurd heads (by simp [attrPrefix])

theorem all_set_one {name : String} (other : name ≠ "init") (params : Values)
    (value param : String) : (params.set name value).all param =
      match List.lookup param [(name, value)] with
      | some value => if param = "init" then params.all param ++ [value] else [value]
      | none => params.all param := by
  by_cases here : param = name
  · subst here
    rw [lookup_same]
    simp [other]
  · rw [lookup_other here, all_set, if_neg here]
    rfl

theorem all_add_one (params : Values) (value param : String) : (params.add "init" value).all param =
      match List.lookup param [("init", value)] with
      | some value => if param = "init" then params.all param ++ [value] else [value]
      | none => params.all param := by
  by_cases here : param = "init"
  · subst here
    rw [lookup_same]
    simp
  · rw [lookup_other here, all_add, if_neg here]
    rfl

-- What one iteration does to a parameter.
theorem all_merged (attributes : String → Order String String) (params : Values)
    (entry : String × String) (param : String) :
    (mergeOracleOBClientParam attributes params entry).all param =
      match (namedParams entry).lookup param with
      | some value => if param = "init" then params.all param ++ [value] else [value]
      | none => params.all param := by
  unfold mergeOracleOBClientParam namedParams
  dsimp only
  split
  · rfl
  · split
    · rw [all_attributes]
      cases found : ((parseConnectionAttributes entry.2).map attrParam).lookup param with
      | none => rfl
      | some value =>
        obtain ⟨before, after, spelled, _⟩ := List.lookup_eq_some_iff.mp found
        have member : (param, value) ∈ (parseConnectionAttributes entry.2).map attrParam := by
          rw [spelled]
          simp
        obtain ⟨given, _, isAttr⟩ := List.mem_map.mp member
        have spelledParam : attrPrefix ++ given.1 = param := congrArg Prod.fst isAttr
        have other : param ≠ "init" := spelledParam ▸ attr_ne_init given.1
        simp [other]
    · split
      · split
        · exact all_set_one (attr_ne_init _) params entry.2 param
        · rfl
      · cases optionParam (toLower (trimSpace entry.1)) with
        | none => rfl
        | some name =>
          by_cases isInit : name = "init"
          · subst isInit
            exact all_add_one params entry.2 param
          · dsimp only
            split
            · rename_i given
              exact absurd (Option.some.inj given) isInit
            · rename_i given
              cases given
              exact all_set_one isInit params entry.2 param
            · rename_i given
              cases given

def givenValues (param : String) (entries : List (String × String)) : List String :=
  entries.filterMap fun entry => (namedParams entry).lookup param

-- What the loop leaves in a parameter: every value of `init`, of any other the last.
theorem all_merge_run (attributes : String → Order String String) (entries : List (String × String))
    (params : Values) (param : String) :
    (entries.foldl (mergeOracleOBClientParam attributes) params).all param =
      if param = "init" then params.all param ++ givenValues param entries
      else ((givenValues param entries).getLast?.map ([·])).getD (params.all param) := by
  induction entries generalizing params with
  | nil => simp [givenValues]
  | cons entry rest ih =>
    simp only [List.foldl_cons, ih, all_merged, givenValues, List.filterMap_cons]
    cases found : (namedParams entry).lookup param with
    | none => rfl
    | some value =>
      by_cases isInit : param = "init"
      · simp [isInit]
      · simp only [if_neg isInit, List.getLast?_cons]
        cases (rest.filterMap fun entry => (namedParams entry).lookup param).getLast? <;> rfl

def merged (orders : LoopOrders) (extra : List (String × String)) (param : String) : List String :=
  (orders.merged.visit (copyDriverExtra orders.copied extra)).filterMap (paramValue param)

theorem merged_given (orders : LoopOrders) (extra : List (String × String)) (param : String) :
    merged orders extra param =
      (givenValues param (orders.merged.visit (copyDriverExtra orders.copied extra))).map
        (effective param) := by
  rw [merged, givenValues, List.map_filterMap]
  rfl

theorem effective_other {param : String} (other : param ≠ "preset") : effective param = id := by
  funext value
  simp [effective, other]

theorem all_tenant_other {param : String} (other : param ≠ "preset") (orders : LoopOrders)
    (extra : List (String × String)) : (oracleTenantParams orders extra).all param =
      if param = "init" then merged orders extra param
      else ((merged orders extra param).getLast?.map ([·])).getD [] := by
  have run := all_merge_run orders.attributes
    (orders.merged.visit (copyDriverExtra orders.copied extra))
    (Values.set ∅ "preset" defaultPreset) param
  rw [all_set, if_neg other, all_empty] at run
  rw [merged_given, effective_other other, List.map_id]
  unfold oracleTenantParams mergeOracleOBClientParams
  dsimp only
  split
  · rw [all_set, if_neg other]
    exact run
  · exact run

theorem all_tenant_preset (orders : LoopOrders) (extra : List (String × String)) :
    (oracleTenantParams orders extra).all "preset" =
      [(merged orders extra "preset").getLast?.getD defaultPreset] := by
  let values := givenValues "preset" (orders.merged.visit (copyDriverExtra orders.copied extra))
  let params := mergeOracleOBClientParams orders (Values.set ∅ "preset" defaultPreset)
    (copyDriverExtra orders.copied extra)
  have run : params.all "preset" = [values.getLast?.getD defaultPreset] := by
    have loop := all_merge_run orders.attributes
      (orders.merged.visit (copyDriverExtra orders.copied extra))
      (Values.set ∅ "preset" defaultPreset) "preset"
    rw [all_set, if_pos rfl, if_neg (by decide)] at loop
    refine loop.trans ?_
    change (values.getLast?.map _).getD _ = _
    cases values.getLast? <;> rfl
  have got : params.get "preset" = values.getLast?.getD defaultPreset := by
    rw [Values.get, run]
    rfl
  have effect : effective "preset" (values.getLast?.getD defaultPreset) =
      ((values.map (effective "preset")).getLast?).getD defaultPreset := by
    rw [List.getLast?_map]
    cases values.getLast? with
    | none => simp [effective]
    | some value => rw [Option.map_some, Option.getD_some, Option.getD_some]
  rw [merged_given, ← effect]
  change (if isBlank (params.get "preset") = true then params.set "preset" defaultPreset
    else params).all "preset" = _
  rw [got]
  by_cases blank : isBlank (values.getLast?.getD defaultPreset) = true
  · rw [if_pos blank, all_set, if_pos rfl, effective, if_pos ⟨rfl, blank⟩]
  · rw [if_neg blank, run, effective, if_neg fun both => blank both.2]

/-! ## The connection string -/

theorem ParamsAgree.perm {first second : List (String × String)} (agree : ParamsAgree first)
    (same : first.Perm second) : ParamsAgree second :=
  fun param => (agree param).perm (same.symm.filter _)

theorem urlText_query {scheme username password : String} {host first second : Chars}
    (same : urlText scheme username password host first =
      urlText scheme username password host second) : first = second := by
  have tails := List.append_cancel_left same
  by_cases empty : first = []
  · by_cases other : second = []
    · rw [empty, other]
    · simp [empty, other] at tails
  · by_cases other : second = []
    · simp [empty, other] at tails
    · simpa [empty, other] using tails

theorem merged_agree {extra : List (String × String)} {param : String} {orders : LoopOrders}
    {listed : List (String × String)} (same : listed.Perm extra) (agree : Agree (paramValue param)
      (extra.filter fun entry => !isHostManagedExtraParam entry.1)) : merged orders listed param =
      (extra.filter fun entry => !isHostManagedExtraParam entry.1).filterMap (paramValue param) :=
  agree.filterMap_eq ((orders.merged.perm _).trans
    ((Oracle.copyDriverExtra_perm orders.copied listed).trans (same.filter _)))

theorem tenantParams_agree {extra : List (String × String)} (agree : ParamsAgree extra)
    {first second : List (String × String)} (sameFirst : first.Perm extra)
    (sameSecond : second.Perm extra) (orders others : LoopOrders) (param : String) :
    (oracleTenantParams orders first).all param = (oracleTenantParams others second).all param := by
  have read : merged orders first param = merged others second param := by
    rw [merged_agree sameFirst (agree param), merged_agree sameSecond (agree param)]
  by_cases isPreset : param = "preset"
  · subst isPreset
    rw [all_tenant_preset, all_tenant_preset, read]
  · rw [all_tenant_other isPreset, all_tenant_other isPreset, read]

theorem last_of_all (orders : LoopOrders) (extra : List (String × String)) (param : String) :
    ((oracleTenantParams orders extra).all param).getLast?.getD defaultPreset =
      (merged orders extra param).getLast?.getD defaultPreset := by
  by_cases isPreset : param = "preset"
  · subst isPreset
    rw [all_tenant_preset]
    rfl
  · rw [all_tenant_other isPreset]
    split
    · rfl
    · cases (merged orders extra param).getLast? <;> rfl

def LoopOrders.stored : LoopOrders where
  copied := .stored
  merged := .stored
  attributes _ := .stored

theorem paramsAgree_of_steady {extra : List (String × String)}
    (steady : ∀ orders others param, (oracleTenantParams orders extra).all param =
      (oracleTenantParams others extra).all param) : ParamsAgree extra := by
  intro param
  let kept := copyDriverExtra .stored extra
  have ordered (order : List (String × String)) (same : order.Perm kept) :
      (order.filterMap (paramValue param)).getLast?.getD defaultPreset =
        (kept.filterMap (paramValue param)).getLast?.getD defaultPreset := by
    let orders : LoopOrders := { LoopOrders.stored with merged := Order.only kept order same }
    have last := congrArg (fun values => values.getLast?.getD defaultPreset)
      (steady orders .stored param)
    simp only [last_of_all] at last
    have visited : merged orders extra param = order.filterMap (paramValue param) := by
      change ((Order.only kept order same).visit kept).filterMap _ = _
      rw [Order.visit_only same]
    rw [visited] at last
    exact last
  exact agree_of_last defaultPreset ordered

end Onetcli.Drivers.OceanBase
