import Onetcli.Drivers.OceanBaseDsn

/-!
When a connection is a function of its configuration: the three results that the
drivers make of the extra parameters are the same in every order of the loops exactly
if no two keys that mean one parameter carry different values.
-/

namespace Onetcli.Drivers

open DbIpc MapOrder

variable (go : GoLibrary) (wire : WireConfig)

/-- Every loop over a map may visit it in any order. -/
structure OrderFree : Prop where
  config : ∀ defaultPort first second takenFirst takenSecond,
    (configFromWire go first takenFirst wire defaultPort).Same
      (configFromWire go second takenSecond wire defaultPort)
  options : ∀ first second takenFirst takenSecond copied ranged copiedOther rangedOther option,
    (Oracle.oracleDSNParams copied ranged
        (Oracle.configFromWire go first takenFirst wire).extra).lookup option =
      (Oracle.oracleDSNParams copiedOther rangedOther
        (Oracle.configFromWire go second takenSecond wire).extra).lookup option
  dsn : ∀ first second takenFirst takenSecond orders others,
    OceanBase.buildMySQLWireOracleTenantDSN orders
        (OceanBase.configFromWire go first takenFirst wire) =
      OceanBase.buildMySQLWireOracleTenantDSN others
        (OceanBase.configFromWire go second takenSecond wire)

/-- The configuration names a host and a user, so that a connection string is made. -/
def NamesLogin : Prop :=
  stringValue go wire.raw "host" ≠ "" ∧ stringValue go wire.raw "username" ≠ ""

/-- No two keys that one loop folds into one parameter carry different values. -/
def SpellingsAgree : Prop :=
  ProtocolAgrees go wire ∧ Oracle.OptionsAgree (driverParams go wire) ∧
    (NamesLogin go wire → OceanBase.ParamsAgree (driverParams go wire))

/-! ## The Oracle driver -/

theorem options_steady_iff :
    (∀ first second takenFirst takenSecond copied ranged copiedOther rangedOther option,
      (Oracle.oracleDSNParams copied ranged
          (Oracle.configFromWire go first takenFirst wire).extra).lookup option =
        (Oracle.oracleDSNParams copiedOther rangedOther
          (Oracle.configFromWire go second takenSecond wire).extra).lookup option) ↔
      Oracle.OptionsAgree (driverParams go wire) := by
  have listed (ranged : Order String Any) (taken : Order String String) :
      (Oracle.configFromWire go ranged taken wire).extra.Perm (driverParams go wire) :=
    configFromWire_extra go wire ranged taken Oracle.defaultPort
  constructor
  · intro steady
    have first := Oracle.optionsAgree_of_steady fun ranged =>
      steady .stored .stored .stored .stored .stored ranged .stored .stored
    exact first.perm (listed .stored .stored)
  · intro agree first second takenFirst takenSecond copied ranged copiedOther rangedOther option
    exact Oracle.oracleDSNParams_agree agree (listed first takenFirst)
      (listed second takenSecond) copied ranged copiedOther rangedOther option

/-! ## The OceanBase driver -/

theorem oceanBase_extra (ranged : Order String Any) (taken : Order String String) :
    (OceanBase.configFromWire go ranged taken wire).extra.Perm (driverParams go wire) := by
  have listed := configFromWire_extra go wire ranged taken OceanBase.defaultPort
  unfold OceanBase.configFromWire
  dsimp only
  split
  · exact listed
  · exact listed

theorem oceanBase_login (ranged : Order String Any) (taken : Order String String) :
    let cfg := OceanBase.configFromWire go ranged taken wire
    cfg.host = stringValue go wire.raw "host" ∧
      cfg.username = stringValue go wire.raw "username" ∧
      cfg.password = stringValue go wire.raw "password" ∧
      cfg.port = (if intValue go wire.raw "port" = 0 then OceanBase.defaultPort
        else intValue go wire.raw "port") := by
  unfold OceanBase.configFromWire
  dsimp only
  split
  · exact ⟨rfl, rfl, rfl, rfl⟩
  · exact ⟨rfl, rfl, rfl, rfl⟩

theorem requireConfig_login {cfg : Config} (port : cfg.port ≠ 0) :
    requireConfig cfg ["host", "port", "username"] =
      if cfg.host = "" then .error "missing required config field host"
      else if cfg.username = "" then .error "missing required config field username"
      else .ok () := by
  by_cases host : cfg.host = ""
  · simp [requireConfig, requiredField, host]
  · by_cases username : cfg.username = ""
    · simp [requireConfig, requiredField, host, port, username]
    · simp [requireConfig, requiredField, host, port, username]

theorem dsn_eq (orders : OceanBase.LoopOrders) (ranged : Order String Any)
    (taken : Order String String) : OceanBase.buildMySQLWireOracleTenantDSN orders
        (OceanBase.configFromWire go ranged taken wire) =
      if stringValue go wire.raw "host" = "" then .error "missing required config field host"
      else if stringValue go wire.raw "username" = "" then
        .error "missing required config field username"
      else .ok (OceanBase.urlText "oboracle" (stringValue go wire.raw "username")
        (stringValue go wire.raw "password")
        (OceanBase.joinHostPort (stringValue go wire.raw "host")
          (if intValue go wire.raw "port" = 0 then OceanBase.defaultPort
            else intValue go wire.raw "port")) (OceanBase.oracleTenantParams orders
          (OceanBase.configFromWire go ranged taken wire).extra).encode) := by
  obtain ⟨host, username, password, port⟩ := oceanBase_login go wire ranged taken
  have given : (OceanBase.configFromWire go ranged taken wire).port ≠ 0 := by
    rw [port]
    split
    · decide
    · assumption
  rw [OceanBase.buildMySQLWireOracleTenantDSN, requireConfig_login given, host, username,
    password, port]
  split
  · rfl
  · split <;> rfl

theorem dsn_steady_iff : (∀ first second takenFirst takenSecond orders others,
      OceanBase.buildMySQLWireOracleTenantDSN orders
          (OceanBase.configFromWire go first takenFirst wire) =
        OceanBase.buildMySQLWireOracleTenantDSN others
          (OceanBase.configFromWire go second takenSecond wire)) ↔
      (NamesLogin go wire → OceanBase.ParamsAgree (driverParams go wire)) := by
  simp only [dsn_eq]
  by_cases login : NamesLogin go wire
  · obtain ⟨host, username⟩ := login
    simp only [if_neg host, if_neg username, Except.ok.injEq]
    constructor
    · intro steady _
      have first : OceanBase.ParamsAgree
          (OceanBase.configFromWire go .stored .stored wire).extra :=
        OceanBase.paramsAgree_of_steady fun orders others =>
          (QueryStrings.encode_eq_iff _ _).mp
            (OceanBase.urlText_query (steady .stored .stored .stored .stored orders others))
      exact first.perm (oceanBase_extra go wire .stored .stored)
    · intro agree first second takenFirst takenSecond orders others
      refine congrArg _ ((QueryStrings.encode_eq_iff _ _).mpr ?_)
      exact OceanBase.tenantParams_agree (agree ⟨host, username⟩)
        (oceanBase_extra go wire first takenFirst) (oceanBase_extra go wire second takenSecond)
        orders others
  · refine ⟨fun _ named => absurd named login, fun _ => ?_⟩
    intro _ _ _ _ _ _
    by_cases host : stringValue go wire.raw "host" = ""
    · simp only [if_pos host]
    · have username : stringValue go wire.raw "username" = "" := by
        by_contra given
        exact login ⟨host, given⟩
      simp only [if_neg host, if_pos username]

/-! ## All three -/

theorem order_free_iff : OrderFree go wire ↔ SpellingsAgree go wire := by
  constructor
  · intro free
    exact ⟨(configFromWire_steady_iff go wire 0).mp (free.config 0),
      (options_steady_iff go wire).mp free.options, (dsn_steady_iff go wire).mp free.dsn⟩
  · rintro ⟨protocol, options, params⟩
    exact ⟨fun defaultPort => (configFromWire_steady_iff go wire defaultPort).mpr protocol,
      (options_steady_iff go wire).mpr options, (dsn_steady_iff go wire).mpr params⟩

/-! ## Two timeouts -/

def printing : GoLibrary :=
  { amd64 with
    sprint := fun value =>
      match value with
      | .text text => text
      | _ => "" }

/-- The connection form's timeout under its own name and under the driver's. -/
def twoTimeouts : WireConfig where
  raw := [("host", .text "db"), ("username", .text "sys"),
    ("extra_params", .map [("timeout", .text "5"), ("connect_timeout", .text "9")])]
  keyed := by decide
  extraKeyed := by
    intro extra found
    cases found
    decide

theorem timeouts_compete : ¬OrderFree printing twoTimeouts := by
  intro free
  have agree := (dsn_steady_iff printing twoTimeouts).mp free.dsn ⟨by decide, by decide⟩
  have same := agree "timeout" ("timeout", "5") (by decide) ("connect_timeout", "9") (by decide)
    "5" "9" (by decide) (by decide)
  exact absurd same (by decide)

end Onetcli.Drivers
