import Onetcli.Lib.Decimals
import Onetcli.Lib.Parts

/-!
Which host versions the drivers accept: the pattern that internal/dbipc/host_version.go and
HostVersion.java share, with numbers of 32 bits in the one and of any size in the other, and the
`semver` crate behind `ensure_compatible_host` of the DuckDB and openGauss drivers. The texts of
the errors are left out.
-/

namespace Onetcli.HostVersions

open Chars Text

/-! ## The pattern -/

/-- `0|[1-9][0-9]*` -/
def isNumber : Chars → Bool
  | ['0'] => true
  | c :: rest => decide ('1' ≤ c) && decide (c ≤ '9') && rest.all Char.isDigit
  | [] => false

/-- `[0-9A-Za-z-]` -/
def isIdentifierChar (c : Char) : Bool := c.isAlphanum || c == '-'

/-- `[0-9A-Za-z-]+(?:\.[0-9A-Za-z-]+)*` -/
def isDotted (text : Chars) : Bool :=
  (text.splitOn '.').all fun identifier => !identifier.isEmpty && identifier.all isIdentifierChar

/-- The groups of a match, and the build metadata, which is not captured. -/
structure Groups where
  major : Chars
  minor : Chars
  patch : Chars
  prerelease : Option Chars
  build : Option Chars
  deriving DecidableEq

def Groups.text (groups : Groups) : Chars :=
  groups.major ++ '.' :: (groups.minor ++ '.' :: groups.patch) ++ tailText '-' groups.prerelease ++
    tailText '+' groups.build

def Groups.valid (groups : Groups) : Bool :=
  isNumber groups.major && isNumber groups.minor && isNumber groups.patch &&
    groups.prerelease.all isDotted && groups.build.all isDotted

/-- A match of the whole text against the pattern. No number or identifier holds a `+`, and no
number a `-`, so the first of each begins its part. -/
def semverPattern (text : Chars) : Option Groups :=
  let (front, build) := cutTail '+' text
  let (core, prerelease) := cutTail '-' front
  match core.splitOn '.' with
  | [major, minor, patch] =>
    let groups : Groups := { major, minor, patch, prerelease, build }
    if groups.valid then some groups else none
  | _ => none

/-! ## The drivers -/

inductive Verdict where
  | compatible
  | invalid (hostVersion : Chars)
  | tooOld (hostVersion : Chars)
  deriving DecidableEq

/-- `strconv.ParseInt(text, 10, 32)` on digits. -/
def parseInt32 (text : Chars) : Option Nat :=
  if Decimals.value text < 2 ^ 31 then some (Decimals.value text) else none

def parseSemver (value : Chars) : Option (Nat × Nat × Nat × Chars) := do
  let groups ← semverPattern value
  let major ← parseInt32 groups.major
  let minor ← parseInt32 groups.minor
  let patch ← parseInt32 groups.patch
  pure (major, minor, patch, groups.prerelease.getD [])

/-- `ValidateHostVersion` on parameters that hold this version. -/
def validateHostVersion (hostVersion : Chars) : Verdict :=
  match parseSemver hostVersion with
  | none => .invalid hostVersion
  | some (major, minor, _, prerelease) =>
    if prerelease ≠ [] ∨ (major = 0 ∧ minor < 10) then .tooOld hostVersion else .compatible

/-- `HostVersion.incompatibility`, with numbers of any size. -/
def incompatibility (version : Chars) : Verdict :=
  match semverPattern version with
  | none => .invalid version
  | some groups =>
    if groups.prerelease.isSome ∨
        (Decimals.value groups.major = 0 ∧ Decimals.value groups.minor < 10) then .tooOld version
    else .compatible

structure Version where
  major : Nat
  minor : Nat
  patch : Nat
  prerelease : Option Chars
  build : Option Chars
  deriving DecidableEq

/-- The two functions of the crate: `Version::parse`, and the requirement `>=0.10.0`. -/
structure SemverCrate where
  parse : Chars → Option Version
  matchesMinimum : Version → Bool

/-- The same in the DuckDB driver and in the openGauss driver. -/
def ensureCompatibleHost (crate : SemverCrate) (hostVersion : Chars) : Verdict :=
  match crate.parse hostVersion with
  | none => .invalid hostVersion
  | some current => if crate.matchesMinimum current then .compatible else .tooOld hostVersion

/-! ## SemVer 2.0.0 -/

/-- A numeric identifier of a pre-release has no zero in front. -/
def plainIdentifier (identifier : Chars) : Bool :=
  !identifier.all Char.isDigit || isNumber identifier

def Groups.version (groups : Groups) : Version where
  major := Decimals.value groups.major
  minor := Decimals.value groups.minor
  patch := Decimals.value groups.patch
  prerelease := groups.prerelease
  build := groups.build

def IsSemver (text : Chars) (version : Version) : Prop :=
  ∃ groups : Groups, text = groups.text ∧ groups.valid = true ∧
    (groups.prerelease.all fun text => (text.splitOn '.').all plainIdentifier) = true ∧
    version = groups.version

/-- Not before 0.10.0. -/
def Version.AtLeastMinimum (version : Version) : Prop :=
  0 < version.major ∨ (version.major = 0 ∧
    (10 < version.minor ∨ (version.minor = 10 ∧ 0 ≤ version.patch)))

def Version.Below (version : Version) (bound : Nat) : Prop :=
  version.major < bound ∧ version.minor < bound ∧ version.patch < bound

instance (version : Version) (bound : Nat) : Decidable (version.Below bound) :=
  inferInstanceAs (Decidable (_ ∧ _ ∧ _))

/-- The crate parses SemVer 2.0.0 with numbers of 64 bits, and the requirement takes no
pre-release. -/
structure SemverCrate.Documented (crate : SemverCrate) : Prop where
  parse_iff : ∀ text version,
    crate.parse text = some version ↔ IsSemver text version ∧ version.Below (2 ^ 64)
  matches_iff : ∀ version, crate.matchesMinimum version = true ↔
    version.prerelease = none ∧ version.AtLeastMinimum

def Acceptable (text : Chars) : Prop :=
  ∃ version, IsSemver text version ∧ version.prerelease = none ∧ version.AtLeastMinimum

/-- The drivers agree, and accept exactly the versions from 0.10.0 on. -/
def Agree (crate : SemverCrate) (text : Chars) : Prop :=
  (validateHostVersion text = .compatible ↔ Acceptable text) ∧
    (incompatibility text = .compatible ↔ Acceptable text) ∧
    (ensureCompatibleHost crate text = .compatible ↔ Acceptable text)

/-! ## Matches of the pattern -/

theorem isNumber_isDigit {text : Chars} (number : isNumber text = true) :
    ∀ c ∈ text, c.isDigit = true := by
  unfold isNumber at number
  split at number
  · intro c among
    rw [List.mem_singleton.mp among]
    rfl
  · rename_i first rest _
    simp only [Bool.and_eq_true, decide_eq_true_eq, List.all_eq_true] at number
    obtain ⟨⟨above, below⟩, digits⟩ := number
    intro c among
    rcases List.mem_cons.mp among with rfl | later
    · simp only [Char.isDigit, Bool.and_eq_true, decide_eq_true_eq]
      exact ⟨Char.le_trans (by decide) above, below⟩
    · exact digits c later
  · cases number

theorem isNumber_absent {text : Chars} (number : isNumber text = true) {mark : Char}
    (other : mark.isDigit = false) : mark ∉ text := by
  intro among
  rw [isNumber_isDigit number mark among] at other
  cases other

theorem isDotted_absent {text : Chars} (dotted : isDotted text = true) {mark : Char}
    (other : isIdentifierChar mark = false) (noPoint : mark ≠ '.') : mark ∉ text := by
  intro among
  have whole : ['.'].intercalate (text.splitOn '.') = text := List.intercalate_splitOn '.'
  rw [← whole] at among
  rcases mem_intercalate among with point | ⟨identifier, part, here⟩
  · exact noPoint (List.mem_singleton.mp point)
  · have all := List.all_eq_true.mp dotted identifier part
    simp only [Bool.and_eq_true, List.all_eq_true] at all
    rw [all.2 mark here] at other
    cases other

theorem core_splitOn {major minor patch : Chars} (first : '.' ∉ major) (second : '.' ∉ minor)
    (third : '.' ∉ patch) :
    (major ++ '.' :: (minor ++ '.' :: patch)).splitOn '.' = [major, minor, patch] := by
  have spelled : major ++ '.' :: (minor ++ '.' :: patch) =
      ['.'].intercalate [major, minor, patch] := by simp
  rw [spelled]
  refine List.splitOn_intercalate '.' ?_ (List.cons_ne_nil _ _)
  simp only [List.forall_mem_cons, List.not_mem_nil, false_implies, implies_true, and_true]
  exact ⟨first, second, third⟩

theorem semverPattern_iff (text : Chars) (groups : Groups) :
    semverPattern text = some groups ↔ text = groups.text ∧ groups.valid = true := by
  constructor
  · intro found
    unfold semverPattern at found
    dsimp only at found
    split at found
    · rename_i major minor patch core
      split at found
      · rename_i valid
        cases found
        refine ⟨?_, valid⟩
        have spelled : ['.'].intercalate ((cutTail '-' (cutTail '+' text).1).1.splitOn '.') =
            (cutTail '-' (cutTail '+' text).1).1 := List.intercalate_splitOn '.'
        have front : (cutTail '+' text).1 = _ := cutTail_eq (Prod.mk.eta (p := cutTail '-' _)).symm
        have whole : text = _ := cutTail_eq (Prod.mk.eta (p := cutTail '+' _)).symm
        rw [core] at spelled
        rw [front, ← spelled] at whole
        rw [Groups.text]
        simpa using whole
      · cases found
    · cases found
  · rintro ⟨rfl, valid⟩
    obtain ⟨major, minor, patch, prerelease, build⟩ := groups
    have parts := valid
    simp only [Groups.valid, Bool.and_eq_true] at parts
    obtain ⟨⟨⟨⟨numberMajor, numberMinor⟩, numberPatch⟩, dottedPre⟩, dottedBuild⟩ := parts
    have absent {mark : Char} (other : mark.isDigit = false) (noPoint : mark ≠ '.') :
        mark ∉ major ++ '.' :: (minor ++ '.' :: patch) := by
      simp only [List.mem_append, List.mem_cons, not_or]
      exact ⟨isNumber_absent numberMajor other, noPoint, isNumber_absent numberMinor other, noPoint,
        isNumber_absent numberPatch other⟩
    have noPlus : '+' ∉ major ++ '.' :: (minor ++ '.' :: patch) ++ tailText '-' prerelease := by
      rw [List.mem_append, not_or]
      refine ⟨absent (by decide) (by decide), ?_⟩
      cases prerelease with
      | none => exact List.not_mem_nil
      | some text =>
        rw [tailText, List.mem_cons, not_or]
        exact ⟨by decide, isDotted_absent dottedPre (by decide) (by decide)⟩
    have split := core_splitOn (isNumber_absent numberMajor (by decide))
      (isNumber_absent numberMinor (by decide)) (isNumber_absent numberPatch (by decide))
    simp only [semverPattern, Groups.text, cutTail_text noPlus,
      cutTail_text (absent (by decide : '-'.isDigit = false) (by decide)), split]
    exact if_pos valid

/-! ## Verdicts -/

theorem isSemver_iff {text : Chars} {version : Version} :
    IsSemver text version ↔ ∃ groups, semverPattern text = some groups ∧
      (groups.prerelease.all fun text => (text.splitOn '.').all plainIdentifier) = true ∧
      version = groups.version := by
  simp only [IsSemver, semverPattern_iff, and_assoc]

theorem atLeastMinimum_iff (version : Version) :
    version.AtLeastMinimum ↔ ¬ (version.major = 0 ∧ version.minor < 10) := by
  unfold Version.AtLeastMinimum
  omega

section Released

variable {text : Chars} {groups : Groups} (found : semverPattern text = some groups)
include found

theorem released_isSemver (released : groups.prerelease = none) (version : Version) :
    IsSemver text version ↔ version = groups.version := by
  rw [isSemver_iff]
  constructor
  · rintro ⟨other, match', _, rfl⟩
    rw [Option.some.inj (match'.symm.trans found)]
  · rintro rfl
    exact ⟨groups, found, by rw [released]; rfl, rfl⟩

theorem acceptable_iff (released : groups.prerelease = none) :
    Acceptable text ↔ groups.version.AtLeastMinimum := by
  constructor
  · rintro ⟨version, semver, _, atLeast⟩
    rwa [(released_isSemver found released version).mp semver] at atLeast
  · intro atLeast
    exact ⟨groups.version, (released_isSemver found released _).mpr rfl, released, atLeast⟩

theorem incompatibility_iff (released : groups.prerelease = none) :
    incompatibility text = .compatible ↔ groups.version.AtLeastMinimum := by
  rw [atLeastMinimum_iff]
  simp only [incompatibility, found, released, Option.isSome_none, Bool.false_eq_true, false_or]
  by_cases old : Decimals.value groups.major = 0 ∧ Decimals.value groups.minor < 10
  · rw [if_pos old]
    exact iff_of_false Verdict.noConfusion (not_not.mpr old)
  · rw [if_neg old]
    exact iff_of_true rfl old

theorem parseSemver_found : parseSemver text =
    (parseInt32 groups.major).bind fun major => (parseInt32 groups.minor).bind fun minor =>
      (parseInt32 groups.patch).bind fun patch =>
        some (major, minor, patch, groups.prerelease.getD []) := by
  rw [parseSemver, found]
  rfl

theorem parseSemver_below (below : groups.version.Below (2 ^ 31)) :
    parseSemver text = some (groups.version.major, groups.version.minor, groups.version.patch,
      groups.prerelease.getD []) := by
  have major : parseInt32 groups.major = some groups.version.major := if_pos below.1
  have minor : parseInt32 groups.minor = some groups.version.minor := if_pos below.2.1
  have patch : parseInt32 groups.patch = some groups.version.patch := if_pos below.2.2
  rw [parseSemver_found found, major, minor, patch]
  rfl

theorem parseSemver_large (large : ¬ groups.version.Below (2 ^ 31)) : parseSemver text = none := by
  have none (part : Chars) (big : ¬ Decimals.value part < 2 ^ 31) : parseInt32 part = .none :=
    if_neg big
  rw [parseSemver_found found]
  by_cases major : Decimals.value groups.major < 2 ^ 31
  · by_cases minor : Decimals.value groups.minor < 2 ^ 31
    · have patch : ¬ Decimals.value groups.patch < 2 ^ 31 :=
        fun patch => large ⟨major, minor, patch⟩
      rw [none groups.patch patch]
      cases parseInt32 groups.major <;> cases parseInt32 groups.minor <;> rfl
    · rw [none groups.minor minor]
      cases parseInt32 groups.major <;> rfl
  · rw [none groups.major major]
    rfl

theorem validateHostVersion_iff (released : groups.prerelease = none) :
    validateHostVersion text = .compatible ↔
      groups.version.Below (2 ^ 31) ∧ groups.version.AtLeastMinimum := by
  rw [atLeastMinimum_iff, validateHostVersion]
  by_cases below : groups.version.Below (2 ^ 31)
  · rw [parseSemver_below found below, released]
    dsimp only
    by_cases old : groups.version.major = 0 ∧ groups.version.minor < 10
    · rw [if_pos (Or.inr old)]
      exact iff_of_false Verdict.noConfusion fun both => both.2 old
    · rw [if_neg (by simpa using old)]
      exact iff_of_true rfl ⟨below, old⟩
  · rw [parseSemver_large found below]
    exact iff_of_false Verdict.noConfusion fun both => below both.1

theorem ensureCompatibleHost_iff {crate : SemverCrate} (documented : crate.Documented)
    (released : groups.prerelease = none) : ensureCompatibleHost crate text = .compatible ↔
      groups.version.Below (2 ^ 64) ∧ groups.version.AtLeastMinimum := by
  have parsed (version : Version) : crate.parse text = some version ↔
      version = groups.version ∧ version.Below (2 ^ 64) := by
    rw [documented.parse_iff, released_isSemver found released]
  have allowed : crate.matchesMinimum groups.version = true ↔ groups.version.AtLeastMinimum :=
    (documented.matches_iff _).trans (and_iff_right released)
  unfold ensureCompatibleHost
  by_cases below : groups.version.Below (2 ^ 64)
  · rw [(parsed groups.version).mpr ⟨rfl, below⟩, and_iff_right below, ← allowed]
    dsimp only
    cases crate.matchesMinimum groups.version <;> simp
  · have none : crate.parse text = none := by
      rw [Option.eq_none_iff_forall_ne_some]
      intro version same
      obtain ⟨rfl, small⟩ := (parsed version).mp same
      exact below small
    rw [none]
    exact iff_of_false Verdict.noConfusion fun both => below both.1

end Released

theorem prerelease_ne_nil {text : Chars} {groups : Groups}
    (found : semverPattern text = some groups) : groups.prerelease ≠ some [] := by
  intro empty
  have valid := ((semverPattern_iff text groups).mp found).2
  simp only [Groups.valid, empty, Bool.and_eq_true] at valid
  cases valid.1.2

theorem prerelease_rejected {text : Chars} {groups : Groups}
    (found : semverPattern text = some groups) (unreleased : groups.prerelease ≠ none) :
    validateHostVersion text ≠ .compatible := by
  obtain ⟨prerelease, same⟩ := Option.ne_none_iff_exists'.mp unreleased
  rw [validateHostVersion]
  by_cases below : groups.version.Below (2 ^ 31)
  · rw [parseSemver_below found below, same]
    have some : prerelease ≠ [] := by
      rintro rfl
      exact prerelease_ne_nil found same
    simp [some]
  · rw [parseSemver_large found below]
    exact Verdict.noConfusion

theorem unreleased_rejected {crate : SemverCrate} (documented : crate.Documented) {text : Chars}
    (unreleased : ∀ groups, semverPattern text = some groups → groups.prerelease ≠ none) :
    ¬ Acceptable text ∧ validateHostVersion text ≠ .compatible ∧
      incompatibility text ≠ .compatible ∧ ensureCompatibleHost crate text ≠ .compatible := by
  have semver (version : Version) (isSemver : IsSemver text version) :
      version.prerelease ≠ none := by
    obtain ⟨groups, found, _, rfl⟩ := isSemver_iff.mp isSemver
    exact unreleased groups found
  refine ⟨?_, ?_, ?_, ?_⟩
  · rintro ⟨version, isSemver, released, _⟩
    exact semver version isSemver released
  · cases found : semverPattern text with
    | none => simp [validateHostVersion, parseSemver, found]
    | some groups => exact prerelease_rejected found (unreleased groups found)
  · cases found : semverPattern text with
    | none => simp [incompatibility, found]
    | some groups =>
      have some := Option.isSome_iff_ne_none.mpr (unreleased groups found)
      simp [incompatibility, found, some]
  · unfold ensureCompatibleHost
    cases parsed : crate.parse text with
    | none => exact Verdict.noConfusion
    | some version =>
      have isSemver := ((documented.parse_iff text version).mp parsed).1
      have refused : crate.matchesMinimum version = false := Bool.eq_false_iff.mpr fun allowed =>
        semver version isSemver ((documented.matches_iff version).mp allowed).1
      simp [refused]

/-- The drivers agree on a text exactly if it is no version from 0.10.0 on with a number that has
more than 31 bits. -/
theorem host_versions_agree_iff {crate : SemverCrate} (documented : crate.Documented)
    (text : Chars) :
    Agree crate text ↔ ∀ version, IsSemver text version → version.prerelease = none →
      version.AtLeastMinimum → version.Below (2 ^ 31) := by
  by_cases released : ∃ groups, semverPattern text = some groups ∧ groups.prerelease = none
  · obtain ⟨groups, found, released⟩ := released
    have wider (below : groups.version.Below (2 ^ 31)) : groups.version.Below (2 ^ 64) := by
      obtain ⟨major, minor, patch⟩ := below
      exact ⟨by omega, by omega, by omega⟩
    rw [Agree, validateHostVersion_iff found released, incompatibility_iff found released,
      ensureCompatibleHost_iff found documented released, acceptable_iff found released]
    constructor
    · rintro ⟨go, _, _⟩ version isSemver _ atLeast
      rw [(released_isSemver found released version).mp isSemver] at atLeast ⊢
      exact (go.mpr atLeast).1
    · intro small
      have below := small groups.version ((released_isSemver found released _).mpr rfl) released
      exact ⟨⟨And.right, fun atLeast => ⟨below atLeast, atLeast⟩⟩, Iff.rfl,
        ⟨And.right, fun atLeast => ⟨wider (below atLeast), atLeast⟩⟩⟩
  · -- nobody accepts it, and nothing is asked of it
    have unreleased : ∀ groups, semverPattern text = some groups → groups.prerelease ≠ none :=
      fun groups found none => released ⟨groups, found, none⟩
    obtain ⟨unacceptable, go, java, rust⟩ := unreleased_rejected documented unreleased
    refine iff_of_true ⟨iff_of_false go unacceptable, iff_of_false java unacceptable,
      iff_of_false rust unacceptable⟩ ?_
    intro version isSemver none
    obtain ⟨groups, found, _, rfl⟩ := isSemver_iff.mp isSemver
    exact absurd none (unreleased groups found)

/-- The crate, with the grammar as its parser. -/
def semverCrate : SemverCrate where
  parse text := do
    let groups ← semverPattern text
    if (groups.prerelease.all fun text => (text.splitOn '.').all plainIdentifier) ∧
        groups.version.Below (2 ^ 64) then
      some groups.version
    else none
  matchesMinimum version :=
    version.prerelease.isNone && !(version.major == 0 && decide (version.minor < 10))

theorem semverCrate_documented : semverCrate.Documented where
  parse_iff text version := by
    rw [isSemver_iff]
    cases found : semverPattern text with
    | none => simp [semverCrate, found]
    | some groups =>
      have parsed : semverCrate.parse text =
          if (groups.prerelease.all fun text => (text.splitOn '.').all plainIdentifier) ∧
            groups.version.Below (2 ^ 64) then some groups.version else none := by
        simp only [semverCrate, found]
        rfl
      rw [parsed, Option.ite_none_right_eq_some, Option.some.injEq]
      constructor
      · rintro ⟨⟨plain, below⟩, rfl⟩
        exact ⟨⟨groups, rfl, plain, rfl⟩, below⟩
      · rintro ⟨⟨_, same, plain, rfl⟩, below⟩
        cases same
        exact ⟨⟨plain, below⟩, rfl⟩
  matches_iff version := by
    rw [atLeastMinimum_iff]
    simp only [semverCrate, Bool.and_eq_true, Option.isNone_iff_eq_none, Bool.not_eq_true',
      Bool.and_eq_false_iff, beq_eq_false_iff_ne, decide_eq_false_iff_not]
    refine and_congr_right fun _ => ?_
    omega

theorem host_versions_agree_minimum : Agree semverCrate "0.10.0+build".toList := by
  refine (host_versions_agree_iff semverCrate_documented "0.10.0+build".toList).mpr ?_
  intro version isSemver _ _
  obtain ⟨groups, found, _, rfl⟩ := isSemver_iff.mp isSemver
  have parts : semverPattern "0.10.0+build".toList =
      some ⟨['0'], ['1', '0'], ['0'], none, some "build".toList⟩ := by decide
  obtain rfl := Option.some.inj (parts.symm.trans found)
  decide

/-- The first major number of 32 bits. -/
theorem large_version_refused : ¬ Agree semverCrate "2147483648.0.0".toList := by
  rintro ⟨go, java, _⟩
  have accepted : incompatibility "2147483648.0.0".toList = .compatible := by decide
  have refused : validateHostVersion "2147483648.0.0".toList ≠ .compatible := by decide
  exact refused (go.mpr (java.mp accepted))

end Onetcli.HostVersions
