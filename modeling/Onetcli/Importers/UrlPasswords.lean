import Onetcli.Importers.DatabaseClients
import Onetcli.Importers.Credentials
import Onetcli.Importers.TerminalClients

/-!
Passwords in the URLs that three importers read, windterm.rs, mobaxterm.rs and
mongodb_compass.rs. Each cuts the URL at a slash (or another delimiter) before it looks for
the `@`, so a password with the delimiter gives a part of itself away, and one without
leaves no trace. MongoDB Compass keeps the passwords among the query parameters.
-/

namespace Onetcli.Importers

open Chars Text

/-! ## WindTerm -/

namespace WindTerm

/-- The two spellings of the scheme that are read. -/
inductive Scheme where
  | lower
  | upper

def Scheme.text : Scheme → Chars
  | .lower => "ssh://".toList
  | .upper => "SSH://".toList

structure UrlSession where
  path : Chars
  session : WindTermSession
  scheme : Scheme
  user : Chars
  tail : Chars

def UrlSession.record (url : UrlSession) (password : Chars) : Option ImportRecord :=
  recordFromSession url.path
    { url.session with
      target := some (url.scheme.text ++ credentials url.user password url.tail) }

/-- What is read of the text in front of the path. -/
def authority (value : Chars) : Option ParsedTarget :=
  let (userInfo, hostPort) := match rsplitOnce (· == '@') value with
    | some (user, host) => (some user, host)
    | none => (none, value)
  let (username, inlinePasswordIgnored) := match userInfo with
    | none => (none, false)
    | some userInfo =>
      match splitOnce (· == ':') userInfo with
      | some (user, _) => (nonEmpty (some user), true)
      | none => (nonEmpty (some userInfo), false)
  (parseHostPort hostPort).map fun (host, port) =>
    ⟨host, username, port, inlinePasswordIgnored⟩

theorem authority_credentials (user password tail : Chars) :
    authority (credentials user password tail) =
      (parseHostPort (lastPart (· == '@') tail)).map fun (host, port) =>
        ⟨host, nonEmpty (some (firstPart (· == ':') user)), port, true⟩ := by
  rw [authority, rsplitOnce_credentials, lastPart]
  cases rsplitOnce (· == '@') tail with
  | some parts =>
    rcases splitOnce_user user (password ++ '@' :: parts.1) with ⟨after, cut⟩
    simp only [credentials, cut]
  | none =>
    rcases splitOnce_user user password with ⟨after, cut⟩
    simp only [cut]

theorem trim_scheme (scheme : Scheme) (user password tail : Chars) :
    trim (scheme.text ++ credentials user password tail) =
      scheme.text ++ credentials user password (trimEnd tail) := by
  have spelled (ending : Chars) : scheme.text ++ credentials user password ending =
      credentials (scheme.text ++ user) password ending := append_credentials _ _ _ _
  have start : trimStart (scheme.text ++ user) = scheme.text ++ user := by
    cases scheme <;> rfl
  rw [spelled, trim_credentials, start, ← spelled]

theorem stripped_scheme (scheme : Scheme) (text : Chars) :
    ((stripPrefix "ssh://".toList (scheme.text ++ text)).or
      (stripPrefix "SSH://".toList (scheme.text ++ text))).getD (scheme.text ++ text) = text := by
  cases scheme with
  | lower => rfl
  | upper => rfl

theorem parseTarget_url (scheme : Scheme) (user password tail : Chars) :
    parseTarget (trimmed (some (scheme.text ++ credentials user password tail))) =
      authority (firstPart (· == '/') (credentials user password (trimEnd (trimEnd tail)))) := by
  have filled : (scheme.text ++ credentials user password (trimEnd (trimEnd tail))).isEmpty =
      false := by
    cases scheme <;> rfl
  rw [trimmed, Option.getD_some, trim_scheme, parseTarget, trim_scheme, filled, stripped_scheme]
  rfl

theorem parseTarget_alike {first second : Chars} (firstClean : '/' ∉ first)
    (secondClean : '/' ∉ second) (scheme : Scheme) (user tail : Chars) :
    parseTarget (trimmed (some (scheme.text ++ credentials user first tail))) =
      parseTarget (trimmed (some (scheme.text ++ credentials user second tail))) := by
  rw [parseTarget_url, parseTarget_url,
    firstPart_credentials user _ rfl rfl (unequal_of_absent firstClean),
    firstPart_credentials user _ rfl rfl (unequal_of_absent secondClean)]
  cases splitOnce (· == '/') user with
  | some parts => rfl
  | none => simp only [authority_credentials]

theorem record_target (path : Chars) (session : WindTermSession) {first second : Option Chars}
    (same : parseTarget (trimmed first) = parseTarget (trimmed second)) :
    recordFromSession path { session with target := first } =
      recordFromSession path { session with target := second } := by
  have signIn (target : Option Chars) :
      authMethod { session with target := target } = authMethod session := rfl
  have noted (target : Option Chars) (parsed : ParsedTarget) (username : Chars) :
      warnings { session with target := target } parsed username =
        warnings session parsed username := rfl
  have source (target : Option Chars) (parsed : ParsedTarget) :
      sourceId path { session with target := target } parsed = sourceId path session parsed := rfl
  simp only [recordFromSession, same, signIn, noted, source]

theorem parseHostPort_length {value host : Chars} {port : Option Nat}
    (parsed : parseHostPort value = some (host, port)) : host.length ≤ value.length := by
  refine Nat.le_trans ?_ (trim_length value)
  have whole {text : Chars} {number : Option Nat}
      (found : ((nonEmpty (some text)).map fun host => (host, number)) = some (host, port)) :
      host.length ≤ text.length := by
    rcases Option.map_eq_some_iff.mp found with ⟨kept, here, same⟩
    cases same
    exact nonEmpty_length here
  simp only [parseHostPort] at parsed
  split at parsed
  · rename_i rest bracket
    have shorter := stripPrefix_length bracket
    split at parsed
    · cases parsed
    · rename_i inside suffix cut
      have parts := splitOnce_length cut
      split at parsed
      · cases parsed
      · cases parsed
        omega
  · split at parsed
    · split at parsed
      · cases parsed
      · rename_i before after cut
        have parts := rsplitOnce_length cut
        split at parsed
        · have bound := whole parsed
          omega
        · exact whole parsed
    · exact whole parsed

theorem authority_length {value : Chars} {target : ParsedTarget}
    (found : authority value = some target) : target.host.length ≤ value.length := by
  simp only [authority] at found
  rcases Option.map_eq_some_iff.mp found with ⟨⟨host, port⟩, parsed, same⟩
  cases same
  refine Nat.le_trans (parseHostPort_length parsed) ?_
  split
  · rename_i before after cut
    have parts := rsplitOnce_length cut
    dsimp only
    omega
  · exact Nat.le_refl _

theorem parseHostPort_longHost (length : Nat) :
    parseHostPort (longHost length) = some (longHost length, none) := by
  have start : stripPrefix ['['] (longHost length) = none := rfl
  have kept : nonEmpty (some (longHost length)) = some (longHost length) := by
    simp [nonEmpty, trim_longHost, longHost_nonempty]
  simp [parseHostPort, trim_longHost, start, longHost_colons, kept]

def hostOf (record : Option ImportRecord) : Option Chars :=
  (record.bind ImportRecord.ssh).map SshImportRecord.host

theorem record_host (path : Chars) (session : WindTermSession)
    (isSsh : eqIgnoreAsciiCase (trimmed session.protocol) "ssh".toList = true) :
    hostOf (recordFromSession path session) =
      (parseTarget (trimmed session.target)).map ParsedTarget.host := by
  rw [recordFromSession, isSsh, hostOf]
  cases parseTarget (trimmed session.target) <;> rfl

def probe (length : Nat) : UrlSession where
  path := []
  session := { protocol := some "ssh".toList }
  scheme := .lower
  user := []
  tail := longHost length

theorem probe_host (length : Nat) (password : Chars) : hostOf ((probe length).record password) =
      (authority (firstPart (· == '/')
        (credentials [] password (longHost length)))).map ParsedTarget.host := by
  have ending : trimEnd (trimEnd (longHost length)) = longHost length := by
    rw [longHost, trimEnd_longName rfl, trimEnd_longName rfl]
  rw [UrlSession.record, record_host _ _ rfl]
  exact congrArg (Option.map ParsedTarget.host)
    ((parseTarget_url .lower [] password (longHost length)).trans (by rw [ending]))

theorem record_alike_iff {first second : Chars} (secondClean : '/' ∉ second) :
    Alike UrlSession.record first second ↔ '/' ∉ first := by
  constructor
  · intro alike leaky
    have same := congrArg hostOf (alike (probe first.length))
    have shown : (authority (firstPart (· == '/')
        (credentials [] second (longHost first.length)))).map ParsedTarget.host =
          some (longHost first.length) := by
      rw [firstPart_credentials _ _ rfl rfl (unequal_of_absent secondClean), longHost,
        firstPart_longName rfl]
      change (authority (credentials [] second (longHost first.length))).map _ = _
      rw [authority_credentials, longHost, lastPart_longName rfl]
      change Option.map _ (Option.map _ (parseHostPort (longHost first.length))) = _
      rw [parseHostPort_longHost]
      rfl
    rw [probe_host, probe_host, shown] at same
    rcases Option.map_eq_some_iff.mp same with ⟨target, found, host⟩
    have bound := authority_length found
    have cut : (firstPart (· == '/') (credentials [] first (longHost first.length))).length ≤
        0 + first.length := firstPart_cut rfl leaky [] _
    rw [host, longHost_length] at bound
    omega
  · intro firstClean url
    exact record_target url.path url.session
      (parseTarget_alike firstClean secondClean url.scheme url.user url.tail)

end WindTerm

/-! ## MobaXterm -/

namespace MobaXterm

structure UrlLine where
  path : Chars
  key : Chars
  group : Option Chars
  user : Chars
  tail : Chars

def UrlLine.value (line : UrlLine) (password : Chars) : Chars :=
  "ssh://".toList ++ credentials line.user password line.tail

def UrlLine.record (line : UrlLine) (password : Chars) : Option ImportRecord :=
  sessionRecord line.path line.key (line.value password) line.group

/-! ### Tokens -/

structure TokenReading where
  target : Option ParsedTarget
  isSsh : Bool
  number : Option Nat

def readToken (token : Chars) : TokenReading :=
  ⟨parseTarget token, eqIgnoreAsciiCase token "ssh".toList, parseU16 token⟩

def tokens (value : Chars) : List Chars :=
  ((value.splitOn '#').map trim).filter fun token => !token.isEmpty

def readTokens (readings : List TokenReading) : Option SessionFields :=
  match readings.findIdx? TokenReading.isSsh with
  | none => none
  | some sshTokenIndex =>
    let fields : SessionFields :=
      match (readings.take sshTokenIndex).findSome? TokenReading.target with
      | some target => { host := target.host, username := target.username.getD [],
                         port := target.port }
      | none => {}
    if fields.host.isEmpty then none
    else
      match (readings.drop (sshTokenIndex + 1)).findSome? TokenReading.number with
      | some numeric => some { fields with port := some numeric }
      | none => some fields

theorem parseLegacySession_tokens (value : Chars) :
    parseLegacySession value = readTokens ((tokens value).map readToken) := by
  have position (found : List Chars) : (found.map readToken).findIdx? TokenReading.isSsh =
      found.findIdx? fun token => eqIgnoreAsciiCase token "ssh".toList := by
    rw [List.findIdx?_map]
    rfl
  have targets (found : List Chars) : (found.map readToken).findSome? TokenReading.target =
      found.findSome? parseTarget := by
    rw [List.findSome?_map]
    rfl
  have numbers (found : List Chars) : (found.map readToken).findSome? TokenReading.number =
      found.findSome? parseU16 := by
    rw [List.findSome?_map]
    rfl
  simp only [readTokens, position, ← List.map_take, ← List.map_drop, targets, numbers]
  rfl

theorem splitOn_credentials (user tail : Chars) :
    ∃ before left right after, ∀ password : Chars, '#' ∉ password →
      (credentials user password tail).splitOn '#' =
        before ++ credentials left password right :: after := by
  induction user with
  | nil =>
    rcases List.exists_cons_of_ne_nil (List.splitOn_ne_nil '#' tail) with ⟨right, after, parts⟩
    refine ⟨[], [], right, after, fun password clean => ?_⟩
    have closed : '#' ∉ ':' :: (password ++ ['@']) := by simp [clean]
    have split := splitOn_clean closed tail
    rw [parts] at split
    simpa [credentials] using split
  | cons char rest ih =>
    rcases ih with ⟨before, left, right, after, split⟩
    by_cases hash : char = '#'
    · refine ⟨[] :: before, left, right, after, fun password clean => ?_⟩
      rw [credentials_cons, List.splitOn_cons_eq_if_modifyHead, split password clean, hash]
      rfl
    · cases before with
      | nil =>
        refine ⟨[], char :: left, right, after, fun password clean => ?_⟩
        rw [credentials_cons, List.splitOn_cons_eq_if_modifyHead, split password clean,
          if_neg (by simpa using hash)]
        rfl
      | cons first others =>
        refine ⟨(char :: first) :: others, left, right, after, fun password clean => ?_⟩
        rw [credentials_cons, List.splitOn_cons_eq_if_modifyHead, split password clean,
          if_neg (by simpa using hash)]
        rfl

/-! ### One token -/

/-- What is read of the text in front of the path. -/
def authority (value : Chars) : Option ParsedTarget :=
  let (userInfo, hostPort) := match rsplitOnce (· == '@') value with
    | some (user, host) => (some user, host)
    | none => (none, value)
  let username := (userInfo.map (firstPart (· == ':'))).filter fun user => !user.isEmpty
  (parseHostPort hostPort).map fun (host, port) => ⟨host, username, port⟩

theorem parseTarget_authority (rawValue : Chars) :
    parseTarget rawValue = authority (firstPart (· == '/')
      ((stripPrefix "ssh://".toList (trim rawValue)).getD (trim rawValue))) := rfl

theorem authority_credentials (user password tail : Chars) :
    authority (credentials user password tail) =
      (parseHostPort (lastPart (· == '@') tail)).map fun (host, port) =>
        ⟨host, (some (firstPart (· == ':') user)).filter fun user => !user.isEmpty, port⟩ := by
  rw [authority, rsplitOnce_credentials, lastPart]
  cases rsplitOnce (· == '@') tail with
  | some parts => simp only [Option.map_some, credentials, firstPart_user]
  | none => simp only [Option.map_some, firstPart_user]

theorem stripPrefix_credentials {password : Chars} (clean : '/' ∉ password) (user tail : Chars) :
    stripPrefix "ssh://".toList (credentials user password tail) =
      (stripPrefix "ssh://".toList user).map fun rest => credentials rest password tail := by
  have spelled : "ssh://".toList = ['s', 's', 'h', ':', '/', '/'] := rfl
  rw [spelled]
  match user with
  | [] => rfl
  | [_] => simp [stripPrefix, credentials, List.isPrefixOf]
  | [_, _] => simp [stripPrefix, credentials, List.isPrefixOf]
  | [_, _, _] =>
    cases password with
    | nil => simp [stripPrefix, credentials, List.isPrefixOf]
    | cons char rest =>
      have other : '/' ≠ char := fun same => clean (same ▸ List.mem_cons_self)
      simp [stripPrefix, credentials, List.isPrefixOf, other]
  | [_, _, _, _] => simp [stripPrefix, credentials, List.isPrefixOf]
  | [_, _, _, _, _] => simp [stripPrefix, credentials, List.isPrefixOf]
  | a :: b :: c :: d :: e :: f :: rest =>
    have same : ['s', 's', 'h', ':', '/', '/'].isPrefixOf
        (credentials (a :: b :: c :: d :: e :: f :: rest) password tail) =
          ['s', 's', 'h', ':', '/', '/'].isPrefixOf (a :: b :: c :: d :: e :: f :: rest) := rfl
    rw [stripPrefix, stripPrefix, same]
    cases ['s', 's', 'h', ':', '/', '/'].isPrefixOf (a :: b :: c :: d :: e :: f :: rest) <;> rfl

theorem colon_mem (user password tail : Chars) : ':' ∈ credentials user password tail := by
  simp [credentials]

theorem credentials_not_ssh (user password tail : Chars) :
    eqIgnoreAsciiCase (credentials user password tail) "ssh".toList = false := by
  rw [eqIgnoreAsciiCase, beq_eq_false_iff_ne]
  intro same
  have lowered : ':' ∈ toAsciiLowercase (credentials user password tail) :=
    List.mem_map.mpr ⟨':', colon_mem user password tail, rfl⟩
  rw [same] at lowered
  revert lowered
  decide

theorem parseU16_none {text : Chars} {char : Char} (member : char ∈ text) (sign : char ≠ '+')
    (letter : isAsciiDigit char = false) : parseU16 text = none := by
  fun_cases parseU16 text with
  | case1 => rfl
  | case2 digits read value small =>
    have inside : char ∈ digits := by
      dsimp only [digits]
      split
      · rename_i rest plus
        exact List.mem_of_ne_of_mem sign member
      · exact member
    have bad : digits.all isAsciiDigit = false := by
      rw [List.all_eq_false]
      exact ⟨char, inside, by simp [letter]⟩
    exact absurd (by simp [bad]) read
  | case3 => rfl

theorem readToken_alike {first second : Chars} (firstClean : '/' ∉ first)
    (secondClean : '/' ∉ second) (user tail : Chars) :
    readToken (credentials user first tail) = readToken (credentials user second tail) := by
  have target (password : Chars) (clean : '/' ∉ password) :
      parseTarget (credentials user password tail) =
        authority (firstPart (· == '/') (credentials
          ((stripPrefix "ssh://".toList (trimStart user)).getD (trimStart user)) password
          (trimEnd tail))) := by
    rw [parseTarget_authority, trim_credentials, stripPrefix_credentials clean]
    cases stripPrefix "ssh://".toList (trimStart user) <;> rfl
  have cut (front : Chars) : authority (firstPart (· == '/') (credentials front first (trimEnd tail))) =
      authority (firstPart (· == '/') (credentials front second (trimEnd tail))) := by
    rw [firstPart_credentials front _ rfl rfl (unequal_of_absent firstClean),
      firstPart_credentials front _ rfl rfl (unequal_of_absent secondClean)]
    cases splitOnce (· == '/') front with
    | some parts => rfl
    | none => simp only [authority_credentials]
  have noNumber (password : Chars) : parseU16 (credentials user password tail) = none :=
    parseU16_none (colon_mem user password tail) (by decide) rfl
  rw [readToken, readToken, target first firstClean, target second secondClean,
    credentials_not_ssh, credentials_not_ssh, noNumber, noNumber]
  simp only [cut]

/-! ### One line -/

theorem value_credentials (line : UrlLine) (password : Chars) :
    line.value password = credentials ("ssh://".toList ++ line.user) password line.tail :=
  append_credentials _ _ _ _

theorem parseStandardSession_url (line : UrlLine) (password : Chars) :
    parseStandardSession (line.value password) = none := by
  have other : isStandardPrefix (line.value password) = false := by
    rw [isStandardPrefix, value_credentials, trim_credentials]
    rfl
  rw [parseStandardSession, other]
  split <;> rfl

theorem parseLegacySession_alike {first second : Chars} (firstClean : '/' ∉ first ∧ '#' ∉ first)
    (secondClean : '/' ∉ second ∧ '#' ∉ second) (line : UrlLine) :
    parseLegacySession (line.value first) = parseLegacySession (line.value second) := by
  rcases splitOn_credentials ("ssh://".toList ++ line.user) line.tail with
    ⟨before, left, right, after, split⟩
  have read (password : Chars) (clean : '#' ∉ password) :
      (tokens (line.value password)).map readToken =
        (((before.map trim).filter fun token => !token.isEmpty).map readToken) ++
          readToken (credentials (trimStart left) password (trimEnd right)) ::
          (((after.map trim).filter fun token => !token.isEmpty).map readToken) := by
    have filled : (credentials (trimStart left) password (trimEnd right)).isEmpty = false :=
      List.isEmpty_eq_false_iff.mpr (List.ne_nil_of_mem (colon_mem _ _ _))
    rw [tokens, value_credentials, split password clean]
    simp [trim_credentials, filled]
  rw [parseLegacySession_tokens, parseLegacySession_tokens, read first firstClean.2,
    read second secondClean.2, readToken_alike firstClean.1 secondClean.1]

theorem record_fields (path key : Chars) (group : Option Chars) {first second : Chars}
    (standard : parseStandardSession first = parseStandardSession second)
    (legacy : parseLegacySession first = parseLegacySession second) :
    sessionRecord path key first group = sessionRecord path key second group := by
  simp only [sessionRecord, standard, legacy]

/-! ### A password with a slash or a hash -/

theorem parseHostPort_length {value host : Chars} {port : Option Nat}
    (parsed : parseHostPort value = some (host, port)) : host.length ≤ value.length := by
  refine Nat.le_trans ?_ (trim_length value)
  simp only [parseHostPort] at parsed
  split at parsed
  · rename_i rest bracket
    have shorter := stripPrefix_length bracket
    split at parsed
    · cases parsed
    · rename_i inside suffix cut
      have parts := splitOnce_length cut
      split at parsed
      · cases parsed
      · cases parsed
        omega
  · split at parsed
    · cases cut : rsplitOnce (· == ':') (trim value) with
      | none =>
        simp only [cut, Option.bind_none, Option.getD_none] at parsed
        cases parsed
        exact Nat.le_refl _
      | some parts =>
        rcases parts with ⟨before, after⟩
        have lengths := rsplitOnce_length cut
        cases number : parseU16 after with
        | none =>
          simp only [cut, number, Option.bind_some, Option.map_none, Option.getD_none]
            at parsed
          cases parsed
          exact Nat.le_refl _
        | some port =>
          simp only [cut, number, Option.bind_some, Option.map_some, Option.getD_some]
            at parsed
          cases parsed
          omega
    · cases parsed
      exact Nat.le_refl _

/-- How much of a text its target takes up. -/
def ParsedTarget.size (target : ParsedTarget) : Nat :=
  target.host.length + (target.username.getD []).length

theorem authority_size {value : Chars} {target : ParsedTarget}
    (found : authority value = some target) : target.size ≤ value.length := by
  simp only [authority] at found
  rcases Option.map_eq_some_iff.mp found with ⟨⟨host, port⟩, parsed, same⟩
  cases same
  have bound := parseHostPort_length parsed
  rw [ParsedTarget.size]
  split at bound
  · rename_i before after cut
    have parts := rsplitOnce_length cut
    have name : (((some (firstPart (· == ':') before)).filter
        fun user => !user.isEmpty).getD []).length ≤ before.length := by
      refine Nat.le_trans ?_ (firstPart_length (· == ':') before)
      rw [Option.filter_some]
      split
      · exact Nat.le_refl _
      · exact Nat.zero_le _
    dsimp only at bound
    simp only [Option.map_some]
    omega
  · rename_i cut
    simpa [cut] using bound

theorem parseTarget_size {token : Chars} {target : ParsedTarget}
    (found : parseTarget token = some target) : target.size ≤ (firstPart (· == '/')
      ((stripPrefix "ssh://".toList (trim token)).getD (trim token))).length := by
  rw [parseTarget_authority] at found
  exact authority_size found

theorem parseTarget_size_token {token : Chars} {target : ParsedTarget}
    (found : parseTarget token = some target) : target.size ≤ token.length := by
  have cut := parseTarget_size found
  have part := firstPart_length (· == '/')
    ((stripPrefix "ssh://".toList (trim token)).getD (trim token))
  have whole : ((stripPrefix "ssh://".toList (trim token)).getD (trim token)).length ≤
      token.length := by
    refine Nat.le_trans ?_ (trim_length token)
    cases strip : stripPrefix "ssh://".toList (trim token) with
    | none => exact Nat.le_refl _
    | some rest => exact stripPrefix_length strip
  omega

theorem parseLegacySession_token {value : Chars} {fields : SessionFields}
    (found : parseLegacySession value = some fields) :
    ∃ token ∈ tokens value, ∃ target, parseTarget token = some target ∧
      fields.host = target.host ∧ fields.username = target.username.getD [] := by
  rw [parseLegacySession] at found
  cases position : (tokens value).findIdx? fun token => eqIgnoreAsciiCase token "ssh".toList with
  | none =>
    simp only [tokens] at position
    simp only [position] at found
    cases found
  | some index =>
    cases first : ((tokens value).take index).findSome? parseTarget with
    | none =>
      simp only [tokens] at position first
      simp only [position, first, List.isEmpty_nil, if_true] at found
      cases found
    | some target =>
      rcases List.exists_of_findSome?_eq_some first with ⟨token, member, read⟩
      refine ⟨token, List.mem_of_mem_take member, target, read, ?_⟩
      simp only [tokens] at position first
      simp only [position, first] at found
      split at found
      · cases found
      · split at found
        · cases found
          exact ⟨rfl, rfl⟩
        · cases found
          exact ⟨rfl, rfl⟩

theorem splitOn_part_length {text part : Chars} {separator : Char}
    (member : part ∈ text.splitOn separator) : part.length ≤ text.length := by
  induction text generalizing part with
  | nil => simp_all
  | cons char rest ih =>
    rw [List.splitOn_cons_eq_if_modifyHead] at member
    split at member
    · rcases List.mem_cons.mp member with rfl | later
      · exact Nat.zero_le _
      · have bound := ih later
        rw [List.length_cons]
        omega
    · cases parts : rest.splitOn separator with
      | nil => exact absurd parts (List.splitOn_ne_nil separator rest)
      | cons first others =>
        rw [parts, List.modifyHead_cons] at member
        rw [parts] at ih
        rcases List.mem_cons.mp member with rfl | later
        · have bound := ih List.mem_cons_self
          rw [List.length_cons, List.length_cons]
          omega
        · have bound := ih (List.mem_cons_of_mem _ later)
          rw [List.length_cons]
          omega

theorem token_length {value token : Chars} (member : token ∈ tokens value) :
    ∃ part ∈ value.splitOn '#', token = trim part := by
  rcases List.mem_map.mp (List.mem_filter.mp member).1 with ⟨part, inside, same⟩
  exact ⟨part, inside, same.symm⟩

def probe (length : Nat) : UrlLine where
  path := []
  key := []
  group := none
  user := longName 'u' (length + 20)
  tail := longHost (length + 20) ++ "#ssh".toList

theorem probe_value (length : Nat) (password : Chars) : (probe length).value password =
      credentials ("ssh://".toList ++ longName 'u' (length + 20)) password
        (longHost (length + 20) ++ '#' :: "ssh".toList) :=
  value_credentials (probe length) password

theorem trim_probe (length : Nat) (password : Chars) :
    trim (credentials ("ssh://".toList ++ longName 'u' (length + 20)) password
      (longHost (length + 20))) =
        "ssh://".toList ++ credentials (longName 'u' (length + 20)) password
          (longHost (length + 20)) := by
  have start : trimStart ("ssh://".toList ++ longName 'u' (length + 20)) =
      "ssh://".toList ++ longName 'u' (length + 20) := rfl
  have ending : trimEnd (longHost (length + 20)) = longHost (length + 20) :=
    trimEnd_longName rfl _
  rw [trim_credentials, start, ending, credentials, List.append_assoc]
  rfl

theorem probe_small {password : Chars} (leaky : '/' ∈ password ∨ '#' ∈ password)
    {token : Chars} {target : ParsedTarget}
    (member : token ∈ tokens ((probe password.length).value password))
    (found : parseTarget token = some target) : target.size < 2 * password.length + 41 := by
  rcases token_length member with ⟨part, inside, rfl⟩
  have short := Nat.le_trans (parseTarget_size_token found) (trim_length part)
  have scheme : "ssh://".toList.length = 6 := rfl
  have word : "ssh".toList.length = 3 := rfl
  rw [probe_value] at inside
  by_cases hash : '#' ∈ password
  · -- the hash separates the user from the host
    rcases List.append_of_mem hash with ⟨before, after, spelled⟩
    have lengths := congrArg List.length spelled
    rw [List.length_append, List.length_cons] at lengths
    have split (user tail : Chars) : credentials user password tail =
        (user ++ ':' :: before) ++ '#' :: (after ++ '@' :: tail) := by
      rw [spelled]
      simp [credentials]
    rw [split, List.splitOn_append_cons_self] at inside
    rcases List.mem_append.mp inside with front | back
    · have bound := splitOn_part_length front
      simp only [List.length_append, List.length_cons, longName, List.length_replicate] at bound
      omega
    · have bound := splitOn_part_length back
      simp only [List.length_append, List.length_cons, longHost_length] at bound
      omega
  · -- the slash ends the text in front of the host
    have slash : '/' ∈ password := leaky.resolve_right hash
    have split : credentials ("ssh://".toList ++ longName 'u' (password.length + 20)) password
        (longHost (password.length + 20) ++ '#' :: "ssh".toList) =
          credentials ("ssh://".toList ++ longName 'u' (password.length + 20)) password
            (longHost (password.length + 20)) ++ '#' :: "ssh".toList := by simp [credentials]
    have whole : '#' ∉ credentials ("ssh://".toList ++ longName 'u' (password.length + 20))
        password (longHost (password.length + 20)) := by
      simp [credentials, longName, longHost, hash]
    rw [split, List.splitOn_append_cons_self, List.splitOn_eq_singleton whole] at inside
    rcases List.mem_append.mp inside with front | back
    · rw [List.mem_singleton] at front
      have bound := parseTarget_size found
      have cut : (firstPart (· == '/') (credentials (longName 'u' (password.length + 20))
          password (longHost (password.length + 20)))).length ≤
            (longName 'u' (password.length + 20)).length + password.length :=
        firstPart_cut rfl slash _ _
      rw [trim_trim, front, trim_probe, stripPrefix_append, Option.getD_some] at bound
      simp only [longName, List.length_replicate] at cut bound
      omega
    · have bound := splitOn_part_length back
      omega

def namesOf (record : Option ImportRecord) : Option (Chars × Chars) :=
  (record.bind ImportRecord.ssh).map fun ssh => (ssh.host, ssh.username)

theorem record_names (line : UrlLine) (password : Chars) : namesOf (line.record password) =
      ((parseLegacySession (line.value password)).filter fun fields => !fields.host.isEmpty).map
        fun fields => (fields.host, fields.username) := by
  rw [UrlLine.record, sessionRecord, parseStandardSession_url, Option.none_or, namesOf]
  cases parseLegacySession (line.value password) with
  | none => rfl
  | some fields =>
    rw [Option.filter_some]
    dsimp only
    cases fields.host.isEmpty <;> rfl

theorem parseHostPort_longHost (length : Nat) :
    parseHostPort (longHost length) = some (longHost length, none) := by
  have start : stripPrefix ['['] (longHost length) = none := rfl
  rw [parseHostPort, trim_longHost, start]
  dsimp only
  rw [if_neg (by rw [longHost_colons]; exact Nat.zero_ne_one)]
  rfl

theorem probe_read (length : Nat) {password : Chars} (clean : '/' ∉ password ∧ '#' ∉ password) :
    namesOf ((probe length).record password) =
      some (longHost (length + 20), longName 'u' (length + 20)) := by
  have split : (credentials ("ssh://".toList ++ longName 'u' (length + 20)) password
      (longHost (length + 20) ++ '#' :: "ssh".toList)).splitOn '#' =
        [credentials ("ssh://".toList ++ longName 'u' (length + 20)) password
          (longHost (length + 20)), "ssh".toList] := by
    have spelled : credentials ("ssh://".toList ++ longName 'u' (length + 20)) password
        (longHost (length + 20) ++ '#' :: "ssh".toList) =
          credentials ("ssh://".toList ++ longName 'u' (length + 20)) password
            (longHost (length + 20)) ++ '#' :: "ssh".toList := by simp [credentials]
    have whole : '#' ∉ credentials ("ssh://".toList ++ longName 'u' (length + 20))
        password (longHost (length + 20)) := by
      simp [credentials, longName, longHost, clean.2]
    rw [spelled, List.splitOn_append_cons_self, List.splitOn_eq_singleton whole]
    rfl
  have read : (tokens ((probe length).value password)).map readToken =
      [readToken ("ssh://".toList ++ credentials (longName 'u' (length + 20)) password
        (longHost (length + 20))), readToken "ssh".toList] := by
    rw [tokens, probe_value, split, List.map_cons, trim_probe]
    rfl
  have target : parseTarget ("ssh://".toList ++ credentials (longName 'u' (length + 20)) password
      (longHost (length + 20))) =
        some ⟨longHost (length + 20), some (longName 'u' (length + 20)), none⟩ := by
    rw [parseTarget_authority, ← trim_probe, trim_trim, trim_probe, stripPrefix_append,
      Option.getD_some, firstPart_credentials _ _ rfl rfl (unequal_of_absent clean.1),
      splitOnce_longName (by rfl)]
    change authority (credentials (longName 'u' (length + 20)) password
      (firstPart (· == '/') (longName 'h' (length + 20 + 1)))) = _
    rw [firstPart_longName (by rfl), authority_credentials, lastPart_longName (by rfl),
      firstPart_longName (by rfl)]
    change Option.map _ (parseHostPort (longHost (length + 20))) = _
    rw [parseHostPort_longHost]
    rfl
  have notSsh : eqIgnoreAsciiCase ("ssh://".toList ++ credentials (longName 'u' (length + 20))
      password (longHost (length + 20))) "ssh".toList = false := by
    rw [← trim_probe, trim_credentials]
    exact credentials_not_ssh _ _ _
  rw [record_names, parseLegacySession_tokens, read, readToken, target, notSsh]
  rfl

theorem record_alike_iff {first second : Chars} (secondClean : '/' ∉ second ∧ '#' ∉ second) :
    Alike UrlLine.record first second ↔ '/' ∉ first ∧ '#' ∉ first := by
  constructor
  · intro alike
    by_contra unclean
    have leaky : '/' ∈ first ∨ '#' ∈ first := by
      rcases Classical.em ('/' ∈ first) with slash | none
      · exact Or.inl slash
      · exact Or.inr (by_contra fun other => unclean ⟨none, other⟩)
    have same := congrArg namesOf (alike (probe first.length))
    rw [probe_read _ secondClean, record_names] at same
    rcases Option.map_eq_some_iff.mp same with ⟨fields, kept, names⟩
    rcases parseLegacySession_token (Option.filter_eq_some_iff.mp kept).1 with
      ⟨token, member, target, found, host, user⟩
    have small := probe_small leaky member found
    rcases Prod.mk.inj names with ⟨sameHost, sameUser⟩
    rw [ParsedTarget.size, ← host, ← user, sameHost, sameUser, longHost_length] at small
    simp only [longName, List.length_replicate] at small
    omega
  · intro firstClean line
    have standard : parseStandardSession (line.value first) =
        parseStandardSession (line.value second) := by
      rw [parseStandardSession_url, parseStandardSession_url]
    exact record_fields line.path line.key line.group standard
      (parseLegacySession_alike firstClean secondClean line)

end MobaXterm

/-! ## MongoDB Compass -/

namespace Compass

/-! ### The parts of a connection string -/

inductive Scheme where
  | mongodb
  | mongodbSrv

def Scheme.text : Scheme → Chars
  | .mongodb => "mongodb".toList
  | .mongodbSrv => "mongodb+srv".toList

def authorityUri (scheme : Chars) (query database : Option Chars) (authority : Chars) :
    Option MongoUri :=
  let (userinfo, hosts) := match rsplitOnce (· == '@') authority with
    | some (userinfo, hosts) => (some userinfo, hosts)
    | none => (none, authority)
  let username := (userinfo.map (firstPart (· == ':'))).bind percentDecode
  let (host, port) := splitHostPort (trim (firstPart (· == ',') hosts))
  if host.isEmpty then none else some ⟨scheme, username, host, port, database, query⟩

def pathUri (scheme : Chars) (query : Option Chars) (authorityAndPath : Chars) :
    Option MongoUri :=
  match splitOnce (· == '/') authorityAndPath with
  | some (left, right) =>
    authorityUri scheme query (nonEmpty (some (firstPart (· == '/') right))) left
  | none => authorityUri scheme query none authorityAndPath

def restUri (scheme rest : Chars) : Option MongoUri :=
  match splitOnce (· == '?') rest with
  | some (left, right) => pathUri scheme (some right) left
  | none => pathUri scheme none rest

theorem parseMongoUri_rest (scheme : Scheme) (rest : Chars) :
    parseMongoUri (scheme.text ++ ("://".toList ++ rest)) = restUri scheme.text rest := by
  have split : splitOnceText "://".toList (scheme.text ++ ("://".toList ++ rest)) =
      some (scheme.text, rest) := by
    cases scheme <;> rfl
  have known : ¬(scheme.text ≠ "mongodb".toList ∧ scheme.text ≠ "mongodb+srv".toList) := by
    cases scheme <;> decide
  rw [parseMongoUri, split]
  dsimp only
  rw [if_neg known, restUri]
  cases splitOnce (· == '?') rest with
  | none =>
    dsimp only
    rw [pathUri]
    cases splitOnce (· == '/') rest with
    | none =>
      dsimp only
      unfold authorityUri
      cases rsplitOnce (· == '@') rest <;> dsimp only
    | some parts =>
      dsimp only
      unfold authorityUri
      cases rsplitOnce (· == '@') parts.1 <;> dsimp only
  | some parts =>
    dsimp only
    rw [pathUri]
    cases splitOnce (· == '/') parts.1 with
    | none =>
      dsimp only
      unfold authorityUri
      cases rsplitOnce (· == '@') parts.1 <;> dsimp only
    | some inner =>
      dsimp only
      unfold authorityUri
      cases rsplitOnce (· == '@') inner.1 <;> dsimp only

theorem authorityUri_credentials (scheme : Chars) (query database : Option Chars)
    (user password tail : Chars) :
    authorityUri scheme query database (credentials user password tail) =
      let (host, port) := splitHostPort (trim (firstPart (· == ',') (lastPart (· == '@') tail)))
      if host.isEmpty then none
      else some ⟨scheme, percentDecode (firstPart (· == ':') user), host, port, database, query⟩ := by
  rw [authorityUri, rsplitOnce_credentials, lastPart]
  cases rsplitOnce (· == '@') tail with
  | some parts => simp only [Option.map_some, credentials, firstPart_user, Option.bind_some]
  | none => simp only [Option.map_some, firstPart_user, Option.bind_some]

/-! ### The password of a user -/

/-- A connection string, but for the password in it. The user is spelled without the
characters that end the user's part of a URL. -/
structure UrlConnection where
  path : Chars
  id : Option Chars
  name : Option Chars
  scheme : Scheme
  user : Chars
  noSlash : '/' ∉ user
  noMark : '?' ∉ user
  tail : Chars

/-- The string is found without the blanks around it. -/
def connectionString (scheme : Scheme) (rest : Chars) : Chars :=
  trim (scheme.text ++ ("://".toList ++ rest))

def UrlConnection.record (url : UrlConnection) (password : Chars) : Option CompassRecord :=
  connectionRecord url.path ⟨url.id, url.name,
    connectionString url.scheme (credentials url.user password url.tail)⟩

theorem connectionString_credentials (scheme : Scheme) (user password tail : Chars) :
    connectionString scheme (credentials user password tail) =
      scheme.text ++ ("://".toList ++ credentials user password (trimEnd tail)) := by
  have spelled (ending : Chars) : scheme.text ++ ("://".toList ++ credentials user password ending) =
      credentials (scheme.text ++ ("://".toList ++ user)) password ending := by
    simp [credentials]
  have start : trimStart (scheme.text ++ ("://".toList ++ user)) =
      scheme.text ++ ("://".toList ++ user) := by
    cases scheme <;> rfl
  rw [connectionString, spelled, trim_credentials, start, ← spelled]

theorem pathUri_alike {first second : Chars} (firstClean : '/' ∉ first)
    (secondClean : '/' ∉ second) {user : Chars} (noSlash : '/' ∉ user) (scheme : Chars)
    (query : Option Chars) (tail : Chars) : pathUri scheme query (credentials user first tail) =
      pathUri scheme query (credentials user second tail) := by
  rw [pathUri, pathUri, splitOnce_credentials user _ rfl rfl (unequal_of_absent firstClean),
    splitOnce_credentials user _ rfl rfl (unequal_of_absent secondClean), splitOnce_absent noSlash]
  cases splitOnce (· == '/') tail with
  | none => simp only [Option.map_none, authorityUri_credentials]
  | some parts => simp only [Option.map_some, authorityUri_credentials]

theorem restUri_alike {first second : Chars} (firstClean : '/' ∉ first ∧ '?' ∉ first)
    (secondClean : '/' ∉ second ∧ '?' ∉ second) {user : Chars} (noSlash : '/' ∉ user)
    (noMark : '?' ∉ user) (scheme tail : Chars) : restUri scheme (credentials user first tail) =
      restUri scheme (credentials user second tail) := by
  rw [restUri, restUri, splitOnce_credentials user _ rfl rfl (unequal_of_absent firstClean.2),
    splitOnce_credentials user _ rfl rfl (unequal_of_absent secondClean.2), splitOnce_absent noMark]
  cases splitOnce (· == '?') tail with
  | none => exact pathUri_alike firstClean.1 secondClean.1 noSlash scheme none tail
  | some parts => exact pathUri_alike firstClean.1 secondClean.1 noSlash scheme _ parts.1

/-! ### A password with a slash or a question mark -/

theorem trimMatches_length (matching : Char → Bool) (text : Chars) :
    (trimMatches matching text).length ≤ text.length := by
  have front := (List.dropWhile_sublist matching (l := text)).length_le
  have back := (List.dropWhile_sublist matching (l := (text.dropWhile matching).reverse)).length_le
  rw [List.length_reverse] at back
  rw [trimMatches, List.length_reverse]
  exact Nat.le_trans back front

theorem splitHostPort_length (value : Chars) : (splitHostPort value).1.length ≤ value.length := by
  refine Nat.le_trans ?_ (trim_length value)
  rw [splitHostPort]
  split
  · exact Nat.le_refl _
  · rename_i host port cut
    have parts := rsplitOnce_length cut
    split
    · have bound := trimMatches_length isBracket host
      dsimp only
      omega
    · exact trimMatches_length isBracket _

theorem authorityUri_length {scheme authority : Chars} {query database : Option Chars}
    {uri : MongoUri} (found : authorityUri scheme query database authority = some uri) :
    uri.host.length ≤ authority.length := by
  have read (hosts : Chars) : (splitHostPort (trim (firstPart (· == ',') hosts))).1.length ≤
      hosts.length :=
    Nat.le_trans (splitHostPort_length _)
      (Nat.le_trans (trim_length _) (firstPart_length _ _))
  rw [authorityUri] at found
  cases cut : rsplitOnce (· == '@') authority with
  | none =>
    simp only [cut] at found
    split at found
    · cases found
    · cases found
      exact read authority
  | some parts =>
    have lengths := rsplitOnce_length cut
    have bound := read parts.2
    simp only [cut] at found
    split at found
    · cases found
    · cases found
      dsimp only
      omega

theorem restUri_length {scheme rest : Chars} {uri : MongoUri}
    (found : restUri scheme rest = some uri) :
    uri.host.length ≤ (firstPart (· == '/') (firstPart (· == '?') rest)).length := by
  have path {query : Option Chars} {text : Chars} (read : pathUri scheme query text = some uri) :
      uri.host.length ≤ (firstPart (· == '/') text).length := by
    rw [pathUri] at read
    rw [firstPart]
    cases cut : splitOnce (· == '/') text with
    | none | some parts =>
      rw [cut] at read
      exact authorityUri_length read
  have mark : firstPart (· == '?') rest = match splitOnce (· == '?') rest with
      | some (before, _) => before
      | none => rest := rfl
  rw [restUri] at found
  rw [mark]
  split at found
  · exact path found
  · exact path found

def probe (length : Nat) : UrlConnection where
  path := []
  id := none
  name := none
  scheme := .mongodb
  user := []
  noSlash := List.not_mem_nil
  noMark := List.not_mem_nil
  tail := longHost length

def hostOf (record : Option CompassRecord) : Option Chars :=
  (record.bind fun record => record.database).map DatabaseImportRecord.host

theorem probe_host (length : Nat) (password : Chars) : hostOf ((probe length).record password) =
      (restUri "mongodb".toList (credentials [] password (longHost length))).map MongoUri.host := by
  have ending : trimEnd (longHost length) = longHost length := trimEnd_longName rfl _
  have parsed : parseMongoUri (connectionString .mongodb
      (credentials [] password (longHost length))) =
        restUri "mongodb".toList (credentials [] password (longHost length)) := by
    rw [connectionString_credentials, parseMongoUri_rest, ending]
    rfl
  rw [UrlConnection.record, connectionRecord]
  change hostOf ((parseMongoUri (connectionString .mongodb
    (credentials [] password (longHost length)))).map _) = _
  rw [parsed]
  cases restUri "mongodb".toList (credentials [] password (longHost length)) <;> rfl

theorem splitHostPort_longHost (length : Nat) :
    splitHostPort (longHost length) = (longHost length, none) := by
  rw [splitHostPort, trim_longHost, longHost, rsplitOnce_longName (by rfl)]

theorem probe_read (length : Nat) {password : Chars} (clean : '/' ∉ password ∧ '?' ∉ password) :
    hostOf ((probe length).record password) = some (longHost length) := by
  have markless : '?' ∉ credentials [] password (longHost length) := by
    simp [credentials, longHost, longName, clean.2]
  have slashless : '/' ∉ credentials [] password (longHost length) := by
    simp [credentials, longHost, longName, clean.1]
  have last : lastPart (· == '@') (longHost length) = longHost length := lastPart_longName rfl _
  have first : firstPart (· == ',') (longHost length) = longHost length :=
    firstPart_longName rfl _
  rw [probe_host, restUri, splitOnce_absent markless]
  dsimp only
  rw [pathUri, splitOnce_absent slashless]
  dsimp only
  rw [authorityUri_credentials, last, first, trim_longHost, splitHostPort_longHost]
  rfl

theorem probe_small {password : Chars} (leaky : '/' ∈ password ∨ '?' ∈ password) {host : Chars}
    (found : hostOf ((probe password.length).record password) = some host) :
    host.length ≤ password.length := by
  rw [probe_host] at found
  rcases Option.map_eq_some_iff.mp found with ⟨uri, read, rfl⟩
  refine Nat.le_trans (restUri_length read) ?_
  by_cases mark : '?' ∈ password
  · have cut : (firstPart (· == '?') (credentials [] password
        (longHost password.length))).length ≤ 0 + password.length := firstPart_cut rfl mark [] _
    have part := firstPart_length (· == '/') (firstPart (· == '?') (credentials [] password
      (longHost password.length)))
    omega
  · have slash : '/' ∈ password := leaky.resolve_right mark
    have cut : (firstPart (· == '/') (credentials [] password
        (firstPart (· == '?') (longHost password.length)))).length ≤ 0 + password.length :=
      firstPart_cut rfl slash [] _
    rw [firstPart_credentials [] _ rfl rfl (unequal_of_absent mark)]
    change (firstPart (· == '/') (credentials [] password
      (firstPart (· == '?') (longHost password.length)))).length ≤ password.length
    omega

theorem record_alike_iff {first second : Chars} (secondClean : '/' ∉ second ∧ '?' ∉ second) :
    Alike UrlConnection.record first second ↔ '/' ∉ first ∧ '?' ∉ first := by
  constructor
  · intro alike
    by_contra unclean
    have leaky : '/' ∈ first ∨ '?' ∈ first := by
      rcases Classical.em ('/' ∈ first) with slash | none
      · exact Or.inl slash
      · exact Or.inr (by_contra fun other => unclean ⟨none, other⟩)
    have same := congrArg hostOf (alike (probe first.length))
    rw [probe_read _ secondClean] at same
    have small := probe_small leaky same
    rw [longHost_length] at small
    omega
  · intro firstClean url
    rw [UrlConnection.record, UrlConnection.record, connectionString_credentials,
      connectionString_credentials, connectionRecord, connectionRecord]
    dsimp only
    rw [parseMongoUri_rest, parseMongoUri_rest,
      restUri_alike firstClean secondClean url.noSlash url.noMark]

/-! ### Passwords among the query parameters -/

inductive SecretParam where
  | tlsCertificateKeyFilePassword
  | proxyPassword

def SecretParam.name : SecretParam → Chars
  | .tlsCertificateKeyFilePassword => "tlsCertificateKeyFilePassword".toList
  | .proxyPassword => "proxyPassword".toList

/-- A connection string with a query, but for the parameter that is secret. -/
structure UrlQuery where
  path : Chars
  id : Option Chars
  name : Option Chars
  scheme : Scheme
  authority : Chars
  before : Chars
  after : Chars

def UrlQuery.query (url : UrlQuery) (param : SecretParam) (secret : Chars) : Chars :=
  url.before ++ (param.name ++ '=' :: (secret ++ url.after))

def UrlQuery.record (param : SecretParam) (url : UrlQuery) (secret : Chars) :
    Option CompassRecord :=
  connectionRecord url.path ⟨url.id, url.name,
    connectionString url.scheme (url.authority ++ '?' :: url.query param secret)⟩

/-- A server of one letter, with another parameter behind the secret. -/
def queryProbe : UrlQuery where
  path := []
  id := none
  name := none
  scheme := .mongodb
  authority := ['h']
  before := []
  after := ['&']

theorem queryProbe_kept (param : SecretParam) (secret : Chars) :
    (queryProbe.record param secret).map CompassRecord.extraParams =
      some [("connection_string".toList,
        "mongodb".toList ++ ("://".toList ++ 'h' :: '?' :: queryProbe.query param secret))] := by
  have whole : connectionString .mongodb ('h' :: '?' :: queryProbe.query param secret) =
      Scheme.mongodb.text ++ ("://".toList ++ 'h' :: '?' :: queryProbe.query param secret) := by
    apply trim_solid
    constructor
    · exact ⟨'m', _, rfl, rfl⟩
    · refine ⟨Scheme.mongodb.text ++ ("://".toList ++ 'h' :: '?' ::
        (param.name ++ '=' :: secret)), '&', ?_, rfl⟩
      simp [UrlQuery.query, queryProbe]
  have read : parseMongoUri (connectionString .mongodb
      ('h' :: '?' :: queryProbe.query param secret)) =
        some ⟨"mongodb".toList, none, ['h'], none, none, some (queryProbe.query param secret)⟩ := by
    rw [whole, parseMongoUri_rest]
    rfl
  rw [UrlQuery.record, connectionRecord]
  change ((parseMongoUri (connectionString .mongodb
    ('h' :: '?' :: queryProbe.query param secret))).map _).map _ = _
  rw [read]
  cases param <;> rfl

theorem query_alike_iff (param : SecretParam) (first second : Chars) :
    Alike (UrlQuery.record param) first second ↔ first = second := by
  constructor
  · intro alike
    have same := congrArg (Option.map CompassRecord.extraParams) (alike queryProbe)
    rw [queryProbe_kept, queryProbe_kept] at same
    have texts := congrArg Prod.snd (List.cons.inj (Option.some.inj same)).1
    have queries := List.append_cancel_left (List.append_cancel_left texts)
    simp only [List.cons.injEq, true_and] at queries
    have values := List.append_cancel_left (List.append_cancel_left queries)
    simp only [List.cons.injEq, true_and] at values
    exact List.append_cancel_right values
  · rintro rfl url
    rfl

end Compass

/-! ## The three importers -/

/-- A password leaves no trace in the records just when none of its characters ends the
user's part of the URL for the importer: a slash for all three, a hash for MobaXterm, a
question mark for Compass. The secret parameters of a query are kept whole. -/
theorem url_passwords_unseen_iff (first second : Chars) :
    ('/' ∉ second → (Alike WindTerm.UrlSession.record first second ↔ '/' ∉ first)) ∧
    ('/' ∉ second → '#' ∉ second →
      (Alike MobaXterm.UrlLine.record first second ↔ '/' ∉ first ∧ '#' ∉ first)) ∧
    ('/' ∉ second → '?' ∉ second →
      (Alike Compass.UrlConnection.record first second ↔ '/' ∉ first ∧ '?' ∉ first)) ∧
    ∀ param : Compass.SecretParam,
      Alike (Compass.UrlQuery.record param) first second ↔ first = second := by
  refine ⟨?_, ?_, ?_, fun param => Compass.query_alike_iff param first second⟩
  · intro clean
    exact WindTerm.record_alike_iff clean
  · intro slash hash
    exact MobaXterm.record_alike_iff ⟨slash, hash⟩
  · intro slash mark
    exact Compass.record_alike_iff ⟨slash, mark⟩

theorem url_passwords_unseen_words :
    Alike WindTerm.UrlSession.record "p@ss:?#".toList "word".toList ∧
      Alike MobaXterm.UrlLine.record "p@ss:?".toList "word".toList ∧
      Alike Compass.UrlConnection.record "p@ss:#".toList "word".toList :=
  ⟨((url_passwords_unseen_iff _ _).1 (by decide)).mpr (by decide),
    ((url_passwords_unseen_iff _ _).2.1 (by decide) (by decide)).mpr (by decide),
    ((url_passwords_unseen_iff _ _).2.2.1 (by decide) (by decide)).mpr (by decide)⟩

def rootAtDb : WindTerm.UrlSession where
  path := []
  session := { protocol := some "ssh".toList }
  scheme := .lower
  user := "root".toList
  tail := "db".toList

theorem password_read_as_host :
    WindTerm.hostOf (rootAtDb.record "pa/ss".toList) = some "root:pa".toList ∧
      rootAtDb.record "pa/ss".toList ≠ rootAtDb.record "pw/ss".toList := by
  have hosts (password : Chars) : WindTerm.hostOf (rootAtDb.record password) =
      (WindTerm.parseTarget (WindTerm.trimmed (some ("ssh://".toList ++
        credentials "root".toList password "db".toList)))).map WindTerm.ParsedTarget.host :=
    WindTerm.record_host _ _ rfl
  have first : WindTerm.hostOf (rootAtDb.record "pa/ss".toList) = some "root:pa".toList := by
    rw [hosts]
    decide
  have second : WindTerm.hostOf (rootAtDb.record "pw/ss".toList) = some "root:pw".toList := by
    rw [hosts]
    decide
  refine ⟨first, fun same => ?_⟩
  rw [same, second] at first
  exact absurd first (by decide)

end Onetcli.Importers
