import Onetcli.Lib.Admission
import Onetcli.Lib.Occurrences
import Onetcli.Importers.OpenSshBlocks

/-!
Previews of OpenSSH files in different orders. An alias always has a record; a known host
has one while its endpoint is new. So a known host that is read before an alias of its
endpoint keeps its record, and of two known hosts with one endpoint the first one wins.
-/

namespace Onetcli.Importers.OpenSsh

open Chars Admission

abbrev Found : Type := Entry × ImportRecord

def endpointOf (record : ImportRecord) : Option (Chars × Nat) :=
  record.ssh.bind fun ssh => ssh.port.map fun port => (toAsciiLowercase ssh.host, port)

def Found.isKnown (found : Found) : Bool := found.1.known

def Found.endpoint (found : Found) : Option (Chars × Nat) := endpointOf found.2

/-! ## Sources -/

def knownFound (path : Chars) (entry : KnownHostEntry) : Found :=
  (⟨path, true, endpointDisplay entry.host entry.port⟩, recordFromKnownHost path entry)

def aliasFound (path : Chars) (block : HostBlock) (name : Chars) : Found :=
  (⟨path, false, name⟩, blockRecord path name block)

/-- What a file brings into a preview. -/
def offers (config : Chars × List UInt8) : List Found :=
  match fromUtf8 config.2 with
  | none => []
  | some text =>
    if isKnownHostsPath config.1 then (parseKnownHosts text).map (knownFound config.1)
    else
      (parseBlocks text).flatMap fun block =>
        (importableAliases block.aliases).map (aliasFound config.1 block)

/-- The text that the preview compares. -/
def Found.text (found : Found) : Chars :=
  match found.2.ssh with
  | some ssh => endpointKey ssh.host (ssh.port.getD 22)
  | none => []

def Preview.add (preview : Preview) (found : Found) : Preview :=
  if found.isKnown = true ∧ found.text ∈ preview.seenEndpoints then preview
  else ⟨preview.records ++ [found], found.text :: preview.seenEndpoints⟩

theorem add_known (path : Chars) (preview : Preview) (entry : KnownHostEntry) :
    preview.addKnown path entry = preview.add (knownFound path entry) := by
  have text : Found.text (knownFound path entry) = endpointKey entry.host entry.port := rfl
  have known : Found.isKnown (knownFound path entry) = true := rfl
  simp only [Preview.addKnown, Preview.add, text, known, true_and]
  rfl

theorem add_alias (path : Chars) (block : HostBlock) (preview : Preview) (name : Chars) :
    preview.addAlias path block name = preview.add (aliasFound path block name) := by
  have own : Found.isKnown (aliasFound path block name) = false := rfl
  rw [Preview.add, own, if_neg (by simp)]
  rfl

theorem addConfig_offers (preview : Preview) (config : Chars × List UInt8) :
    preview.addConfig config = (offers config).foldl Preview.add preview := by
  have known (path : Chars) : Preview.addKnown path = fun preview entry =>
      preview.add (knownFound path entry) := by
    funext sofar entry
    exact add_known path sofar entry
  have named (path : Chars) (block : HostBlock) : Preview.addAlias path block = fun preview name =>
      preview.add (aliasFound path block name) := by
    funext sofar name
    exact add_alias path block sofar name
  rw [Preview.addConfig, offers]
  cases fromUtf8 config.2 with
  | none => rfl
  | some text =>
    dsimp only
    split
    · rw [List.foldl_map, known]
    · simp only [List.foldl_flatMap, List.foldl_map, named]

theorem foldl_add (preview : Preview) (items : List Found) :
    (items.foldl Preview.add preview).records =
      preview.records ++ admitted Found.text Found.isKnown preview.seenEndpoints items := by
  induction items generalizing preview with
  | nil => exact (List.append_nil _).symm
  | cons found rest ih =>
    rw [List.foldl_cons, ih, Preview.add, admitted]
    split
    · rfl
    · simp

/-! ## Endpoints -/

theorem endpointKey_inj {first second : Chars} {port other : Nat} :
    endpointKey first port = endpointKey second other ↔
      (toAsciiLowercase first, port) = (toAsciiLowercase second, other) := by
  rw [Prod.mk.injEq]
  constructor
  · exact Occurrences.mark_inj (by decide)
  · rintro ⟨host, port⟩
    rw [endpointKey, endpointKey, host, port]

def Found.Spelled (found : Found) : Prop :=
  ∃ host port, found.endpoint = some (toAsciiLowercase host, port) ∧
    found.text = endpointKey host port

theorem knownFound_spelled (path : Chars) (entry : KnownHostEntry) :
    (knownFound path entry).Spelled := ⟨entry.host, entry.port, rfl, rfl⟩

theorem aliasFound_spelled (path name : Chars) (block : HostBlock) :
    (aliasFound path block name).Spelled :=
  ⟨block.hostName.getD name, block.port.getD 22, rfl, rfl⟩

variable {config : Chars × List UInt8}

theorem mem_offers {found : Found} (member : found ∈ offers config) :
    (isKnownHostsPath config.1 = true ∧ ∃ entry, found = knownFound config.1 entry) ∨
      (isKnownHostsPath config.1 = false ∧ ∃ block name, found = aliasFound config.1 block name) := by
  rw [offers] at member
  split at member
  · cases member
  · split at member
    · rename_i known
      rcases List.mem_map.mp member with ⟨entry, _, rfl⟩
      exact Or.inl ⟨known, entry, rfl⟩
    · rename_i notKnown
      rcases List.mem_flatMap.mp member with ⟨block, _, inside⟩
      rcases List.mem_map.mp inside with ⟨name, _, rfl⟩
      exact Or.inr ⟨by simpa using notKnown, block, name, rfl⟩

theorem offers_spelled {found : Found} (member : found ∈ offers config) : found.Spelled := by
  rcases mem_offers member with ⟨_, entry, rfl⟩ | ⟨_, block, name, rfl⟩
  · exact knownFound_spelled _ _
  · exact aliasFound_spelled _ _ _

theorem offers_uniform : Uniform Found.isKnown offers := by
  intro config first firstIn second secondIn
  -- The path of a file alone tells what all of its items are.
  rcases mem_offers firstIn with ⟨known, _, rfl⟩ | ⟨notKnown, _, _, rfl⟩ <;>
    rcases mem_offers secondIn with ⟨other, _, rfl⟩ | ⟨otherNot, _, _, rfl⟩
  · rfl
  · rw [known] at otherNot
    cases otherNot
  · rw [other] at notKnown
    cases notKnown
  · rfl

theorem previewEntries_enter (configs : List (Chars × List UInt8)) :
    previewEntries configs = enter Found.endpoint Found.isKnown offers configs := by
  have step : Preview.addConfig = fun preview config =>
      (offers config).foldl Preview.add preview := by
    funext preview config
    exact addConfig_offers preview config
  have spelled : ∀ found ∈ configs.flatMap offers, found.Spelled := by
    intro found member
    rcases List.mem_flatMap.mp member with ⟨config, _, inside⟩
    exact offers_spelled inside
  rw [previewEntries, step, ← List.foldl_flatMap, foldl_add, enter]
  -- Endpoints are compared as texts, and these tell the endpoints apart.
  refine (List.nil_append _).trans (admitted_congr [] (configs.flatMap offers) ?_)
  intro first firstIn second secondIn
  rcases spelled first firstIn with ⟨host, port, endpoint, text⟩
  rcases spelled second secondIn with ⟨other, otherPort, otherEndpoint, otherText⟩
  rw [endpoint, otherEndpoint, text, otherText, endpointKey_inj, Option.some_inj]

/-! ## Orders -/

/-- A preview has the same endpoints and records in every order of its files, and no known
host has the endpoint of an alias or of another known host. -/
structure OrderIndependent (includePasswords : Bool) (configs : List (Chars × List UInt8)) :
    Prop where
  endpoints : ∀ order, order.Perm configs → ∀ endpoint,
    endpoint ∈ (previewRecordsFromConfigs order includePasswords).map endpointOf ↔
      endpoint ∈ (previewRecordsFromConfigs configs includePasswords).map endpointOf
  records : ∀ order, order.Perm configs → ∀ record,
    record ∈ previewRecordsFromConfigs order includePasswords ↔
      record ∈ previewRecordsFromConfigs configs includePasswords
  distinct : ∀ order, order.Perm configs →
    (previewEntries order).Pairwise fun first second =>
      first.1.known = true ∨ second.1.known = true →
        endpointOf first.2 ≠ endpointOf second.2

def listed (config : Chars × List UInt8) : List KnownHostEntry :=
  match fromUtf8 config.2 with
  | none => []
  | some text => if isKnownHostsPath config.1 then parseKnownHosts text else []

def KnownHostEntry.endpoint (entry : KnownHostEntry) : Chars × Nat :=
  (toAsciiLowercase entry.host, entry.port)

def firstListed (config : Chars × List UInt8) (endpoint : Chars × Nat) : Option KnownHostEntry :=
  (listed config).find? fun entry => entry.endpoint = endpoint

/-- No alias has the endpoint of a known host, and files that list one endpoint have the
same path and spell the host in the same way where they list it first. -/
structure Settled (configs : List (Chars × List UInt8)) : Prop where
  apart : ∀ config ∈ configs, ∀ listing ∈ configs, ∀ record ∈ configRecords config,
    ∀ entry ∈ listed listing, endpointOf record ≠ some entry.endpoint
  agreed : ∀ listing ∈ configs, ∀ other ∈ configs, ∀ endpoint first second,
    firstListed listing endpoint = some first → firstListed other endpoint = some second →
    listing.1 = other.1 ∧ first = second

theorem offers_cases (config : Chars × List UInt8) :
    (offers config = (listed config).map (knownFound config.1) ∧ configRecords config = []) ∨
      (listed config = [] ∧ (∀ found ∈ offers config, found.isKnown = false) ∧
        configRecords config = (offers config).map Prod.snd) := by
  rw [offers, listed, configRecords]
  cases fromUtf8 config.2 with
  | none => exact Or.inl ⟨rfl, rfl⟩
  | some text =>
    dsimp only
    split
    · exact Or.inl ⟨rfl, rfl⟩
    · refine Or.inr ⟨rfl, ?_, ?_⟩
      · intro found member
        rcases List.mem_flatMap.mp member with ⟨block, _, inside⟩
        rcases List.mem_map.mp inside with ⟨name, _, rfl⟩
        rfl
      · rw [List.map_flatMap]
        simp only [List.map_map]
        rfl

theorem alias_iff {record : ImportRecord} : record ∈ configRecords config ↔
      ∃ found ∈ offers config, found.isKnown = false ∧ found.2 = record := by
  rcases offers_cases config with ⟨known, none⟩ | ⟨_, own, records⟩
  · rw [known, none]
    constructor
    · rintro ⟨⟩
    · rintro ⟨found, member, notKnown, _⟩
      rcases List.mem_map.mp member with ⟨entry, _, rfl⟩
      cases notKnown
  · rw [records, List.mem_map]
    constructor
    · rintro ⟨found, member, same⟩
      exact ⟨found, member, own found member, same⟩
    · rintro ⟨found, member, _, same⟩
      exact ⟨found, member, same⟩

theorem known_iff {found : Found} : (found ∈ offers config ∧ found.isKnown = true) ↔
      ∃ entry ∈ listed config, found = knownFound config.1 entry := by
  rcases offers_cases config with ⟨known, _⟩ | ⟨none, own, _⟩
  · rw [known]
    constructor
    · rintro ⟨member, _⟩
      rcases List.mem_map.mp member with ⟨entry, among, rfl⟩
      exact ⟨entry, among, rfl⟩
    · rintro ⟨entry, among, rfl⟩
      exact ⟨List.mem_map_of_mem among, rfl⟩
  · rw [none]
    constructor
    · rintro ⟨member, isKnown⟩
      rw [own found member] at isKnown
      cases isKnown
    · rintro ⟨entry, ⟨⟩, _⟩

theorem firstOf_known_iff {endpoint : Chars × Nat} {found : Found} :
    (firstOf Found.endpoint offers config (some endpoint) = some found ∧ found.isKnown = true) ↔
      ∃ entry, firstListed config endpoint = some entry ∧ found = knownFound config.1 entry := by
  rcases offers_cases config with ⟨known, _⟩ | ⟨none, own, _⟩
  · have spelled (entry : KnownHostEntry) :
        Found.endpoint (knownFound config.1 entry) = some entry.endpoint := rfl
    rw [firstOf, known, List.find?_map, firstListed]
    simp only [Function.comp_def, spelled, Option.some_inj, Option.map_eq_some_iff]
    constructor
    · rintro ⟨⟨entry, first, rfl⟩, _⟩
      exact ⟨entry, first, rfl⟩
    · rintro ⟨entry, first, rfl⟩
      exact ⟨⟨entry, first, rfl⟩, rfl⟩
  · rw [firstListed, none]
    constructor
    · rintro ⟨first, isKnown⟩
      rw [own found (firstOf_mem first)] at isKnown
      cases isKnown
    · rintro ⟨entry, ⟨⟩, _⟩

theorem recordFromKnownHost_inj {path other : Chars} {first second : KnownHostEntry} :
    recordFromKnownHost path first = recordFromKnownHost other second ↔
      path = other ∧ first = second := by
  constructor
  · intro same
    have login := congrArg ImportRecord.ssh same
    have host : first.host = second.host :=
      Option.some.inj (congrArg (Option.map SshImportRecord.host) login)
    have port : first.port = second.port :=
      Option.some.inj (congrArg (fun ssh => ssh.bind SshImportRecord.port) login)
    have entries : first = second := by
      cases first
      cases second
      simp_all
    subst entries
    have source : path ++ ':' :: endpointDisplay first.host first.port =
        other ++ ':' :: endpointDisplay first.host first.port :=
      Option.some.inj (congrArg ImportRecord.sourceId same)
    -- The source ends with the endpoint, so what is left of it is the path.
    exact ⟨List.append_cancel_right source, rfl⟩
  · rintro ⟨rfl, rfl⟩
    rfl

theorem settled_iff (configs : List (Chars × List UInt8)) :
    Undisputed Found.endpoint Found.isKnown Prod.snd offers configs ↔ Settled configs := by
  constructor
  · intro undisputed
    constructor
    · intro config among listing listingAmong record member entry entryIn
      rcases alias_iff.mp member with ⟨found, foundIn, own, rfl⟩
      have guest := known_iff.mpr ⟨entry, entryIn, rfl⟩
      exact undisputed.apart config among listing listingAmong found foundIn _ guest.1 own guest.2
    · intro listing among other otherAmong endpoint first second firstIs secondIs
      have one := firstOf_known_iff.mpr ⟨first, firstIs, rfl⟩
      have two := firstOf_known_iff.mpr ⟨second, secondIs, rfl⟩
      exact recordFromKnownHost_inj.mp (undisputed.agreed listing among other otherAmong
        (some endpoint) _ _ one.1 two.1 one.2 two.2)
  · intro settled
    constructor
    · intro config among listing listingAmong host hostIn item itemIn own isKnown
      rcases known_iff.mp ⟨itemIn, isKnown⟩ with ⟨entry, entryIn, rfl⟩
      exact settled.apart config among listing listingAmong host.2
        (alias_iff.mpr ⟨host, hostIn, own, rfl⟩) entry entryIn
    · intro listing among other otherAmong wanted first second firstIs secondIs isKnown otherKnown
      rcases known_iff.mp ⟨firstOf_mem firstIs, isKnown⟩ with ⟨entry, _, rfl⟩
      have key : Found.endpoint (knownFound listing.1 entry) = wanted := firstOf_key firstIs
      change some entry.endpoint = wanted at key
      subst key
      rcases firstOf_known_iff.mp ⟨firstIs, isKnown⟩ with ⟨one, oneIs, same⟩
      rcases firstOf_known_iff.mp ⟨secondIs, otherKnown⟩ with ⟨two, twoIs, rfl⟩
      rw [same]
      rcases settled.agreed listing among other otherAmong _ one two oneIs twoIs with ⟨path, rfl⟩
      exact recordFromKnownHost_inj.mpr ⟨path, rfl⟩

theorem previewEndpoints_iff (includePasswords : Bool) (configs : List (Chars × List UInt8))
    (endpoint : Option (Chars × Nat)) :
    endpoint ∈ (previewRecordsFromConfigs configs includePasswords).map endpointOf ↔
      ∃ config ∈ configs, ∃ found ∈ offers config, Found.endpoint found = endpoint := by
  rw [previewRecordsFromConfigs, previewEntries_enter, List.map_map]
  exact enter_keys configs endpoint

/-- A preview does not depend on the order of its files exactly if no known host has the
endpoint of an alias and no two files list an endpoint differently. -/
theorem previews_order_independent_iff (includePasswords : Bool)
    (configs : List (Chars × List UInt8)) :
    OrderIndependent includePasswords configs ↔ Settled configs := by
  have keyed : ∀ found : Found, found.endpoint = endpointOf (Prod.snd found) := fun _ => rfl
  have free := orderFree_iff offers_uniform keyed configs
  rw [← settled_iff, ← free]
  constructor
  · intro independent
    constructor
    · intro order same made
      have records := independent.records order same made
      rwa [previewRecordsFromConfigs, previewRecordsFromConfigs, previewEntries_enter,
        previewEntries_enter] at records
    · intro order same
      have distinct := independent.distinct order same
      rw [previewEntries_enter] at distinct
      exact distinct
  · intro free
    constructor
    · -- The endpoints are those of all files, whatever the order is.
      intro order same endpoint
      rw [previewEndpoints_iff, previewEndpoints_iff]
      constructor
      · rintro ⟨config, among, rest⟩
        exact ⟨config, same.mem_iff.mp among, rest⟩
      · rintro ⟨config, among, rest⟩
        exact ⟨config, same.mem_iff.mpr among, rest⟩
    · intro order same record
      have records := free.records order same record
      rwa [previewRecordsFromConfigs, previewRecordsFromConfigs, previewEntries_enter,
        previewEntries_enter]
    · intro order same
      rw [previewEntries_enter]
      exact free.distinct order same

def Preview.addText (preview : Preview) (path text : Chars) : Preview :=
  if isKnownHostsPath path then (parseKnownHosts text).foldl (Preview.addKnown path) preview
  else
    (parseBlocks text).foldl (fun preview block =>
      (importableAliases block.aliases).foldl (Preview.addAlias path block) preview) preview

theorem addConfig_text (preview : Preview) (path text : Chars) :
    preview.addConfig (path, toUtf8 text) = preview.addText path text := by
  rw [Preview.addConfig, fromUtf8_toUtf8, Preview.addText]

/-- A known host whose file comes before the alias with its endpoint. -/
theorem known_host_before_alias :
    ¬OrderIndependent false
      [("config".toList, toUtf8 "Host web\nHostName db\n".toList),
        ("known_hosts".toList, toUtf8 "DB ssh-ed25519 AAAA\n".toList)] := by
  have entries (path other text otherText : Chars) :
      previewEntries [(path, toUtf8 text), (other, toUtf8 otherText)] =
        ((({} : Preview).addText path text).addText other otherText).records := by
    rw [previewEntries, List.foldl_cons, List.foldl_cons, List.foldl_nil, addConfig_text,
      addConfig_text]
  intro independent
  have distinct := independent.distinct _ (List.Perm.swap _ _ _)
  rw [entries] at distinct
  revert distinct
  decide +kernel

end Onetcli.Importers.OpenSsh
