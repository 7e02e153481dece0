import Mathlib.Data.List.DropRight
import Onetcli.Importers.UrlPasswords
import Onetcli.Lib.Encodings
import Onetcli.Lib.Occurrences
import Onetcli.Lib.Parts
import Onetcli.Lib.ByteCodes
import Onetcli.Lib.QueryStrings

/-!
The connection strings that the MongoDB Compass importer keeps, mongodb_compass.rs, read
again. A URI is read into its parts and written from them without the password: the user
comes back from its escapes, but the brackets of an address are not written, of several
hosts the first one only is, and a blank in front of a host is lost.
-/

namespace Onetcli.Importers.Compass

open Chars Text Percent

/-! ## The user -/

theorem percentDecodeBytes_eq (bytes : List UInt8) :
    percentDecodeBytes bytes = decode 37 hexByte bytes := by
  have escape (byte : UInt8) (rest : List UInt8) :
      escapedByte byte rest = escaped 37 hexByte byte rest := by
    rcases rest with _ | ⟨high, _ | ⟨low, rest⟩⟩ <;> rfl
  fun_induction percentDecodeBytes bytes with
  | case1 => rw [decode]
  | case2 byte rest decoded found ih =>
    rw [escape] at found
    rw [decode, found, ih]
  | case3 byte rest none ih =>
    rw [escape] at none
    rw [decode, none, ih]

/-- The bytes that are written as they are. -/
def unreserved (byte : UInt8) : Bool := QueryStrings.unreserved (Char.ofNat byte.toNat)

def upperDigits (byte : UInt8) : UInt8 × UInt8 :=
  (UInt8.ofNat (upperHexDigit (byte.toNat / 16)).toNat,
    UInt8.ofNat (upperHexDigit (byte.toNat % 16)).toNat)

/-- The characters of an encoded user, none of which ends a part of the URI. -/
def userinfoChar (char : Char) : Bool := QueryStrings.unreserved char || char == '%'

theorem percentEncodeUserinfo_eq (value : Chars) : percentEncodeUserinfo value =
      QueryStrings.escapeExcept QueryStrings.unreserved value := by
  have order (char : Char) : (isAsciiAlphanumeric char || char == '-' || char == '.' ||
      char == '_' || char == '~') = QueryStrings.unreserved char := by
    rw [QueryStrings.unreserved, Bool.or_right_comm _ (char == '.')]
  simp only [percentEncodeUserinfo, order]
  rfl

theorem hexDigitValue_upper : ∀ value < 16,
    hexDigitValue (UInt8.ofNat (upperHexDigit value).toNat) = some value ∧
      UInt8.ofNat (upperHexDigit value).toNat ≠ 43 := by
  decide

theorem hexByte_upper (byte : UInt8) :
    hexByte (upperDigits byte).1 (upperDigits byte).2 = some byte := by
  have bound : byte.toNat < 256 := byte.toNat_lt
  have high := hexDigitValue_upper (byte.toNat / 16) (by omega)
  have low := hexDigitValue_upper (byte.toNat % 16) (by omega)
  have whole : byte.toNat / 16 * 16 + byte.toNat % 16 = byte.toNat := by omega
  rw [hexByte, upperDigits, if_neg high.2, high.1, low.1]
  dsimp only
  rw [whole, UInt8.ofNat_toNat]

theorem userinfoChar_encoded (value : Chars) :
    ∀ char ∈ percentEncodeUserinfo value, userinfoChar char = true := by
  intro char member
  rw [percentEncodeUserinfo_eq] at member
  obtain ⟨byte, _, written⟩ := List.mem_flatMap.mp member
  have bound : byte.toNat < 256 := byte.toNat_lt
  rw [userinfoChar]
  split at written
  · rename_i safe
    rw [List.mem_singleton.mp written, safe]
    rfl
  · simp only [QueryStrings.percent, List.mem_cons, List.not_mem_nil, or_false] at written
    rcases written with rfl | rfl | rfl
    · rfl
    · rw [QueryStrings.upperHex_plain (byte.toNat / 16) (by omega)]
      rfl
    · rw [QueryStrings.upperHex_plain (byte.toNat % 16) (by omega)]
      rfl

theorem userinfoChar_ascii {char : Char} (written : userinfoChar char = true) :
    char.toNat < 128 := by
  simp only [userinfoChar, QueryStrings.unreserved, Bool.or_eq_true, beq_iff_eq,
    isAsciiAlphanumeric, Bool.and_eq_true, decide_eq_true_eq] at written
  rcases written with ((((letter | rfl) | rfl) | rfl) | rfl) | rfl
  · omega
  all_goals decide

theorem encoded_absent {delimiter : Char} (other : userinfoChar delimiter = false)
    (value : Chars) : delimiter ∉ percentEncodeUserinfo value := by
  intro member
  rw [userinfoChar_encoded value delimiter member] at other
  cases other

theorem toUtf8_encoded (value : Chars) : toUtf8 (percentEncodeUserinfo value) =
    encode 37 unreserved upperDigits (toUtf8 value) := by
  have ascii (char : Char) (member : char ∈ percentEncodeUserinfo value) : char.toNat < 128 :=
    userinfoChar_ascii (userinfoChar_encoded value char member)
  rw [toUtf8_ascii ascii, percentEncodeUserinfo_eq, QueryStrings.escapeExcept, List.map_flatMap,
    encode]
  congr 1
  funext byte
  rw [spell, unreserved]
  split
  · rw [List.map_singleton, QueryStrings.toNat_ofByte, UInt8.ofNat_toNat]
  · rfl

theorem percentDecode_encoded (value : Chars) :
    percentDecode (percentEncodeUserinfo value) = some value := by
  have readable (byte : UInt8) (_ : byte ∈ toUtf8 value) :
      Percent.Readable 37 hexByte unreserved upperDigits byte := by
    rw [Percent.Readable]
    split
    · rename_i safe
      rintro rfl
      exact absurd safe (by decide)
    · exact hexByte_upper byte
  rw [percentDecode, percentDecodeBytes_eq, toUtf8_encoded, decode_encode readable,
    fromUtf8_toUtf8]

/-! ## The host and the port -/

/-- The digits behind a plus sign, if there is one. -/
def unsigned (text : Chars) : Chars :=
  match text with
  | '+' :: rest => rest
  | _ => text

theorem parseU16_unsigned (text : Chars) : parseU16 text =
    if (unsigned text).isEmpty || !(unsigned text).all isAsciiDigit then none
    else
      let value := (unsigned text).foldl (fun value digit => value * 10 + (digit.toNat - 48)) 0
      if value < 65536 then some value else none := rfl

theorem parseU16_bound {text : Chars} {number : Nat} (parsed : parseU16 text = some number) :
    number < 65536 := by
  rw [parseU16_unsigned] at parsed
  split at parsed
  · cases parsed
  · dsimp only at parsed
    split at parsed
    · rename_i small
      rwa [Option.some.inj parsed] at small
    · cases parsed

theorem parseU16_digits {number : Nat} (small : number < 65536) :
    parseU16 (Occurrences.digits number) = some number := by
  have spelled : Occurrences.digits number = Nat.toDigits 10 number := Nat.toList_repr
  have numeral (char : Char) (member : char ∈ Occurrences.digits number) :
      isAsciiDigit char = true := by
    have digit := Nat.isDigit_of_mem_toDigits (by decide) (by decide) (spelled ▸ member)
    simp only [Char.isDigit, Bool.and_eq_true, decide_eq_true_eq] at digit
    simp only [isAsciiDigit, Bool.and_eq_true, decide_eq_true_eq]
    exact digit
  have plain : unsigned (Occurrences.digits number) = Occurrences.digits number := by
    unfold unsigned
    split
    · rename_i start
      have sign := numeral '+'
      rw [start] at sign
      exact absurd (sign List.mem_cons_self) (by decide)
    · rfl
  have filled : Occurrences.digits number ≠ [] := by
    rw [spelled]
    exact Nat.toDigits_ne_nil
  have digits : ((Occurrences.digits number).isEmpty ||
      !(Occurrences.digits number).all isAsciiDigit) = false := by
    rw [List.isEmpty_eq_false_iff.mpr filled, List.all_eq_true.mpr numeral]
    rfl
  have value : (Occurrences.digits number).foldl
      (fun value digit => value * 10 + (digit.toNat - 48)) 0 = number := by
    have read := @Nat.ofDigitChars_ten_toDigits number
    rw [Nat.ofDigitChars_eq_foldl] at read
    rw [spelled]
    refine Eq.trans ?_ read
    congr 1
    funext value digit
    rw [Nat.mul_comm]
    rfl
  rw [parseU16_unsigned, plain, digits]
  dsimp only
  rw [value, if_pos small]
  rfl

theorem trimMatches_sublist (matching : Char → Bool) (text : Chars) :
    (trimMatches matching text).Sublist text := by
  have back : (trimMatches matching text).Sublist (text.dropWhile matching) := by
    have kept := (List.dropWhile_sublist matching (l := (text.dropWhile matching).reverse)).reverse
    rwa [List.reverse_reverse] at kept
  exact back.trans (List.dropWhile_sublist matching)

theorem trim_sublist (text : Chars) : (trim text).Sublist text :=
  trimMatches_sublist isWhiteSpace text

theorem trimMatches_trimMatches (matching : Char → Bool) (text : Chars) :
    trimMatches matching (trimMatches matching text) = trimMatches matching text := by
  have start : (trimMatches matching text).dropWhile matching = trimMatches matching text := by
    have part : trimMatches matching text <+: text.dropWhile matching := by
      have suffix := List.dropWhile_suffix matching (l := (text.dropWhile matching).reverse)
      rwa [← List.reverse_prefix, List.reverse_reverse] at suffix
    cases shape : trimMatches matching text with
    | nil => rfl
    | cons first rest =>
      obtain ⟨tail, whole⟩ := part
      have front := List.head?_dropWhile_not matching text
      rw [← whole, shape, List.cons_append, List.head?_cons] at front
      rw [List.dropWhile_cons, front]
      rfl
  have stop : (trimMatches matching text).reverse.dropWhile matching =
      (trimMatches matching text).reverse := by
    rw [trimMatches, List.reverse_reverse]
    exact List.dropWhile_idempotent _ _
  rw [trimMatches, start, stop, List.reverse_reverse]

theorem mem_trim_solid {char : Char} (solid : isWhiteSpace char = false) {text : Chars} :
    char ∈ trim text ↔ char ∈ text :=
  mem_trimMatches_kept solid

theorem rsplitOnce_absent {delimiter : Char} {text : Chars} :
    rsplitOnce (· == delimiter) text = none ↔ delimiter ∉ text := by
  rw [rsplitOnce, Option.map_eq_none_iff]
  constructor
  · intro none member
    exact absurd (splitOnce_none none delimiter (List.mem_reverse.mpr member)) (by simp)
  · intro absent
    exact splitOnce_absent (mt List.mem_reverse.mp absent)

theorem splitHostPort_trim (value : Chars) : splitHostPort (trim value) = splitHostPort value := by
  rw [splitHostPort, splitHostPort, trim_trim]

theorem splitHostPort_plain {value : Chars} (absent : ':' ∉ value) :
    splitHostPort value = (trim value, none) := by
  rw [splitHostPort, rsplitOnce_absent.mpr (mt (mem_trim_solid rfl).mp absent)]

-- With a colon in it, the last part of a value is its port, or no port at all.
theorem splitHostPort_colon {value : Chars} (present : ':' ∈ value) :
    splitHostPort value = match parseU16 (lastPart (· == ':') (trim value)) with
      | some port =>
        (trimMatches isBracket (((rsplitOnce (· == ':') (trim value)).map Prod.fst).getD []),
          some port)
      | none => (trimMatches isBracket (trim value), none) := by
  rw [splitHostPort, lastPart]
  cases cut : rsplitOnce (· == ':') (trim value) with
  | none => exact absurd ((mem_trim_solid rfl).mpr present) (rsplitOnce_absent.mp cut)
  | some parts => rfl

/-- How a host is read: without brackets around it, unless there is no colon in it. -/
structure HostRead (host : Chars) (port : Option Nat) : Prop where
  bare : (':' ∉ host ∧ port = none) ∨ trimMatches isBracket host = host
  small : ∀ number, port = some number → number < 65536

theorem splitHostPort_read (value : Chars) :
    HostRead (splitHostPort value).1 (splitHostPort value).2 := by
  by_cases present : ':' ∈ value
  · rw [splitHostPort_colon present]
    split
    · rename_i port parsed
      refine ⟨Or.inr (trimMatches_trimMatches isBracket _), ?_⟩
      rintro number ⟨⟩
      exact parseU16_bound parsed
    · exact ⟨Or.inr (trimMatches_trimMatches isBracket _), by rintro number ⟨⟩⟩
  · rw [splitHostPort_plain present]
    exact ⟨Or.inl ⟨mt (mem_trim_solid rfl).mp present, rfl⟩, by rintro number ⟨⟩⟩

theorem mem_splitHostPort {value : Chars} {char : Char} (member : char ∈ (splitHostPort value).1) :
    char ∈ value := by
  by_cases present : ':' ∈ value
  · rw [splitHostPort_colon present] at member
    split at member
    · have inside := mem_trimMatches member
      cases cut : rsplitOnce (· == ':') (trim value) with
      | none =>
        rw [cut] at inside
        cases inside
      | some parts =>
        rw [cut] at inside
        obtain ⟨back, here, same⟩ := Option.map_eq_some_iff.mp cut
        subst same
        have found := mem_splitOnce here (Or.inr (List.mem_reverse.mp inside))
        exact mem_trim (List.mem_reverse.mp found)
    · exact mem_trim (mem_trimMatches member)
  · rw [splitHostPort_plain present] at member
    exact mem_trim member

/-! ### Written and read again -/

def portText (port : Option Nat) : Chars :=
  (port.map fun port => ':' :: Occurrences.digits port).getD []

/-- What a host must be like to be read again as it was written: with a port behind it it
does not start with a blank; without one it has no blanks around it, and what is behind its
last colon, if there is a colon, is no port. -/
def HostKept (host : Chars) : Option Nat → Prop
  | some _ => trimStart host = host
  | none => trim host = host ∧ (':' ∈ host → parseU16 (lastPart (· == ':') host) = none)

theorem trimEnd_digits (number : Nat) :
    trimEnd (Occurrences.digits number) = Occurrences.digits number := by
  have spelled : Occurrences.digits number = Nat.toDigits 10 number := Nat.toList_repr
  have solid : Solid (Occurrences.digits number) := by
    refine solid_of_word (spelled ▸ Nat.toDigits_ne_nil) fun char member => ?_
    rw [spelled] at member
    exact digit_not_white (Nat.isDigit_of_mem_toDigits (by decide) (by decide) member)
  have start := solid.trimStart_append []
  rw [List.append_nil] at start
  have whole := trim_solid solid
  rwa [trim, start] at whole

theorem splitHostPort_port (host : Chars) {number : Nat} (small : number < 65536) :
    splitHostPort (host ++ ':' :: Occurrences.digits number) =
      (trimMatches isBracket (trimStart host), some number) := by
  have absent : ':' ∉ Occurrences.digits number := Occurrences.digits_plain (by decide) number
  have ending := trimEnd_digits number
  have cut := @rsplitOnce_append_cons (· == ':') ':' rfl (trimStart host)
    (Occurrences.digits number)
  rw [rsplitOnce_absent.mpr absent] at cut
  rw [splitHostPort, trim_separated (by rfl), ending, cut]
  dsimp only
  rw [parseU16_digits small]

theorem splitHostPort_written {host : Chars} {port : Option Nat} (read : HostRead host port) :
    splitHostPort (host ++ portText port) = (host, port) ↔ HostKept host port := by
  cases port with
  | some number =>
    have bare : trimMatches isBracket host = host := by
      rcases read.bare with ⟨_, ⟨⟩⟩ | bare
      exact bare
    change splitHostPort (host ++ ':' :: Occurrences.digits number) = _ ↔ trimStart host = host
    rw [splitHostPort_port host (read.small number rfl), Prod.mk.injEq, and_iff_left rfl]
    constructor
    · intro same
      -- Trimming only takes away, so a host that is read again had nothing to trim.
      have part := trimMatches_sublist isBracket (trimStart host)
      rw [same] at part
      have start : (trimStart host).Sublist host := List.dropWhile_sublist isWhiteSpace
      exact start.antisymm part
    · intro same
      rw [same, bare]
  | none =>
    change splitHostPort (host ++ []) = _ ↔ _
    rw [List.append_nil]
    by_cases present : ':' ∈ host
    · have bare : trimMatches isBracket host = host := by
        rcases read.bare with ⟨absent, _⟩ | bare
        · exact absurd present absent
        · exact bare
      rw [splitHostPort_colon present, HostKept]
      constructor
      · intro same
        split at same
        · exact absurd (Prod.mk.inj same).2 (by simp)
        · rename_i unread
          have part := trimMatches_sublist isBracket (trim host)
          rw [(Prod.mk.inj same).1] at part
          have trimmed := (trim_sublist host).antisymm part
          rw [trimmed] at unread
          exact ⟨trimmed, fun _ => unread⟩
      · rintro ⟨trimmed, unread⟩
        rw [trimmed, unread present, bare]
    · rw [splitHostPort_plain present, HostKept, Prod.mk.injEq, and_iff_left rfl]
      exact (and_iff_left fun colon => absurd colon present).symm

/-! ## What a URI that is read is like -/

structure UriRead (uri : MongoUri) : Prop where
  scheme : ∃ scheme : Scheme, uri.scheme = scheme.text
  filled : uri.host ≠ []
  clean : ∀ delimiter ∈ ['?', '/', '@', ','], delimiter ∉ uri.host
  host : HostRead uri.host uri.port
  database : ∀ database, uri.database = some database →
    database ≠ [] ∧ trim database = database ∧ '/' ∉ database ∧ '?' ∉ database

theorem parseMongoUri_split {text : Chars} {uri : MongoUri}
    (parsed : parseMongoUri text = some uri) :
    ∃ (scheme : Scheme) (rest : Chars), text = scheme.text ++ ("://".toList ++ rest) ∧
      restUri scheme.text rest = some uri := by
  cases cut : splitOnceText "://".toList text with
  | none =>
    rw [parseMongoUri, cut] at parsed
    cases parsed
  | some parts =>
    have whole := splitOnceText_split cut
    have known : ∃ scheme : Scheme, parts.1 = scheme.text := by
      rw [parseMongoUri, cut] at parsed
      dsimp only at parsed
      split at parsed
      · cases parsed
      · rename_i read
        by_cases plain : parts.1 = "mongodb".toList
        · exact ⟨.mongodb, plain⟩
        · exact ⟨.mongodbSrv, by_contra fun other => read ⟨plain, other⟩⟩
    obtain ⟨scheme, named⟩ := known
    rw [named] at whole
    refine ⟨scheme, parts.2, whole, ?_⟩
    rw [← parseMongoUri_rest, ← parsed, whole]

/-- The text of the hosts, behind the user and in front of the path. -/
def hostsOf (rest : Chars) : Chars :=
  lastPart (· == '@') (firstPart (· == '/') (firstPart (· == '?') rest))

theorem hostsOf_clean {delimiter : Char} (ends : delimiter ∈ ['?', '/', '@']) (rest : Chars) :
    delimiter ∉ hostsOf rest := by
  simp only [List.mem_cons, List.not_mem_nil, or_false] at ends
  rcases ends with rfl | rfl | rfl
  · intro member
    exact not_mem_firstPart _ _ (mem_firstPart (mem_lastPart member))
  · intro member
    exact not_mem_firstPart _ _ (mem_lastPart member)
  · exact not_mem_lastPart _ _

def databaseOf (path : Chars) : Option Chars :=
  (splitOnce (· == '/') path).bind fun parts => nonEmpty (some (firstPart (· == '/') parts.2))

structure PartsRead (uri : MongoUri) (scheme hosts : Chars) (database : Option Chars) : Prop where
  scheme : uri.scheme = scheme
  filled : uri.host ≠ []
  host : splitHostPort (trim (firstPart (· == ',') hosts)) = (uri.host, uri.port)
  database : uri.database = database

section Parts

variable {scheme text : Chars} {query database : Option Chars} {uri : MongoUri}

theorem authorityUri_parts (found : authorityUri scheme query database text = some uri) :
    PartsRead uri scheme (lastPart (· == '@') text) database := by
  rw [authorityUri] at found
  rw [lastPart]
  cases cut : rsplitOnce (· == '@') text with
  | none | some parts =>
    simp only [cut] at found
    split at found
    · cases found
    · rename_i filled
      cases found
      exact ⟨rfl, mt List.isEmpty_iff.mpr filled, rfl, rfl⟩

theorem pathUri_parts (found : pathUri scheme query text = some uri) :
    PartsRead uri scheme (lastPart (· == '@') (firstPart (· == '/') text)) (databaseOf text) := by
  have front : firstPart (· == '/') text =
      ((splitOnce (· == '/') text).map Prod.fst).getD text := by
    rw [firstPart]
    cases splitOnce (· == '/') text <;> rfl
  rw [pathUri] at found
  rw [front, databaseOf]
  cases cut : splitOnce (· == '/') text with
  | none | some parts =>
    rw [cut] at found
    exact authorityUri_parts found

theorem restUri_parts (found : restUri scheme text = some uri) :
    PartsRead uri scheme (hostsOf text) (databaseOf (firstPart (· == '?') text)) := by
  have front : firstPart (· == '?') text =
      ((splitOnce (· == '?') text).map Prod.fst).getD text := by
    rw [firstPart]
    cases splitOnce (· == '?') text <;> rfl
  rw [restUri] at found
  rw [hostsOf, front]
  cases cut : splitOnce (· == '?') text with
  | none | some parts =>
    rw [cut] at found
    exact pathUri_parts found

end Parts

theorem parseMongoUri_read {text : Chars} {uri : MongoUri}
    (parsed : parseMongoUri text = some uri) : UriRead uri := by
  obtain ⟨scheme, rest, rfl, read⟩ := parseMongoUri_split parsed
  obtain ⟨schemed, filled, host, database⟩ := restUri_parts read
  rw [splitHostPort_trim] at host
  refine ⟨⟨scheme, schemed⟩, filled, ?_, ?_, ?_⟩
  · intro delimiter ends member
    have inside : delimiter ∈ firstPart (· == ',') (hostsOf rest) :=
      mem_splitHostPort (by rw [host]; exact member)
    by_cases comma : delimiter = ','
    · subst comma
      exact not_mem_firstPart _ _ inside
    · refine hostsOf_clean ?_ rest (mem_firstPart inside)
      simp only [List.mem_cons, List.not_mem_nil, or_false, comma] at ends ⊢
      exact ends
  · have asRead := splitHostPort_read (firstPart (· == ',') (hostsOf rest))
    rwa [host] at asRead
  · intro name named
    rw [named] at database
    obtain ⟨parts, cut, kept⟩ := Option.bind_eq_some_iff.mp database.symm
    rw [nonEmpty, Option.map_some, Option.filter_eq_some_iff] at kept
    obtain ⟨trimmed, full⟩ := kept
    cases trimmed
    refine ⟨by simpa using full, trim_trim _, ?_, ?_⟩
    · intro member
      exact not_mem_firstPart _ _ (mem_trim member)
    · intro member
      have behind := mem_splitOnce cut (Or.inr (mem_firstPart (mem_trim member)))
      exact not_mem_firstPart _ _ behind

/-! ## What is written, read again -/

def userText (username : Option Chars) : Chars :=
  ((filled username).map fun username => percentEncodeUserinfo username ++ ['@']).getD []

def databaseText (database : Option Chars) : Chars :=
  ((filled database).map fun database => '/' :: database).getD []

def queryText (query : Option Chars) : Chars :=
  ((filled query).map fun query => '?' :: query).getD []

theorem sanitizeUri_parts (uri : MongoUri) : sanitizeUri uri =
    uri.scheme ++ ("://".toList ++ (userText uri.username ++ (uri.host ++ portText uri.port) ++
      databaseText uri.database ++ queryText uri.query)) := by
  simp only [List.append_assoc]
  simp only [sanitizeUri, List.append_assoc]
  rfl

theorem filled_cases (value : Option Chars) :
    filled value = none ∨ ∃ text, text ≠ [] ∧ value = some text ∧ filled value = some text := by
  rcases value with _ | _ | ⟨char, rest⟩
  · exact Or.inl rfl
  · exact Or.inl rfl
  · exact Or.inr ⟨char :: rest, List.cons_ne_nil _ _, rfl, rfl⟩

theorem restUri_written {front : Chars} (clean : '?' ∉ front) (scheme : Chars)
    (query : Option Chars) :
    restUri scheme (front ++ queryText query) = pathUri scheme (filled query) front := by
  rw [restUri, queryText]
  rcases filled_cases query with none | ⟨text, _, _, kept⟩
  · rw [none, Option.map_none, Option.getD_none, List.append_nil, splitOnce_absent clean]
  · rw [kept, Option.map_some, Option.getD_some, splitOnce_append (unequal_of_absent clean) rfl]

theorem pathUri_written {authority : Chars} (clean : '/' ∉ authority) (scheme : Chars)
    (query : Option Chars) {database : Option Chars}
    (named : ∀ name, database = some name → name ≠ [] ∧ trim name = name ∧ '/' ∉ name) :
    pathUri scheme query (authority ++ databaseText database) =
      authorityUri scheme query database authority := by
  rw [pathUri, databaseText]
  rcases database with _ | name
  · have plain : authority ++ (((filled none).map ('/' :: ·)).getD []) = authority :=
      List.append_nil authority
    rw [plain, splitOnce_absent clean]
  · obtain ⟨full, trimmed, single⟩ := named name rfl
    have kept : filled (some name) = some name := by
      rw [filled, Option.filter_some, if_pos (by simpa using full)]
    have read : nonEmpty (some name) = some name := by
      rw [nonEmpty, Option.map_some, trimmed]
      exact kept
    rw [kept, Option.map_some, Option.getD_some, splitOnce_append (unequal_of_absent clean) rfl]
    dsimp only
    rw [firstPart_absent single, read]

theorem authorityUri_written {hosts : Chars} (noUser : '@' ∉ hosts) (single : ',' ∉ hosts)
    (scheme : Chars) (query database username : Option Chars) :
    authorityUri scheme query database (userText username ++ hosts) =
      if (splitHostPort hosts).1.isEmpty then none
      else some ⟨scheme, filled username, (splitHostPort hosts).1, (splitHostPort hosts).2,
        database, query⟩ := by
  rw [authorityUri, userText]
  rcases filled_cases username with none | ⟨text, _, _, kept⟩
  · rw [none, Option.map_none, Option.getD_none, List.nil_append, rsplitOnce_absent.mpr noUser]
    dsimp only
    rw [firstPart_absent single, splitHostPort_trim]
    rfl
  · have cut := @rsplitOnce_append_cons (· == '@') '@' rfl (percentEncodeUserinfo text) hosts
    rw [rsplitOnce_absent.mpr noUser] at cut
    rw [kept, Option.map_some, Option.getD_some, List.append_assoc, List.singleton_append, cut]
    dsimp only
    rw [firstPart_absent single, splitHostPort_trim, Option.map_some,
      firstPart_absent (encoded_absent (by decide) text), Option.bind_some,
      percentDecode_encoded]

theorem portText_absent {delimiter : Char} (notColon : delimiter ≠ ':')
    (notDigit : delimiter.isDigit = false) (port : Option Nat) : delimiter ∉ portText port := by
  cases port with
  | none => exact List.not_mem_nil
  | some number =>
    intro member
    rcases List.mem_cons.mp member with same | digit
    · exact notColon same
    · exact Occurrences.digits_plain notDigit number digit

section Written

variable {uri : MongoUri} (read : UriRead uri)

include read

theorem UriRead.hosts_absent (delimiter : Char) (ends : delimiter ∈ ['?', '/', '@', ',']) :
    delimiter ∉ uri.host ++ portText uri.port := by
  intro member
  rcases List.mem_append.mp member with inHost | inPort
  · exact read.clean delimiter ends inHost
  · have plain : delimiter ≠ ':' ∧ delimiter.isDigit = false := by
      simp only [List.mem_cons, List.not_mem_nil, or_false] at ends
      rcases ends with rfl | rfl | rfl | rfl <;> decide
    exact portText_absent plain.1 plain.2 uri.port inPort

theorem UriRead.front_absent (delimiter : Char) (ends : delimiter ∈ ['?', '/']) :
    delimiter ∉ userText uri.username ++ (uri.host ++ portText uri.port) := by
  have other : userinfoChar delimiter = false ∧ delimiter ≠ '@' ∧
      delimiter ∈ ['?', '/', '@', ','] := by
    simp only [List.mem_cons, List.not_mem_nil, or_false] at ends
    rcases ends with rfl | rfl <;> decide
  intro member
  rcases List.mem_append.mp member with inUser | inHosts
  · rw [userText] at inUser
    rcases filled_cases uri.username with none | ⟨text, _, _, kept⟩
    · rw [none] at inUser
      cases inUser
    · rw [kept, Option.map_some, Option.getD_some, List.mem_append, List.mem_singleton] at inUser
      rcases inUser with encoded | sign
      · exact encoded_absent other.1 text encoded
      · exact other.2.1 sign
  · exact read.hosts_absent _ other.2.2 inHosts

theorem UriRead.path_absent : '?' ∉ userText uri.username ++ (uri.host ++ portText uri.port) ++
    databaseText uri.database := by
  intro member
  rcases List.mem_append.mp member with inFront | inDatabase
  · exact read.front_absent _ (by decide) inFront
  · rw [databaseText] at inDatabase
    rcases filled_cases uri.database with none | ⟨text, _, named, kept⟩
    · rw [none] at inDatabase
      cases inDatabase
    · rw [kept, Option.map_some, Option.getD_some, List.mem_cons] at inDatabase
      rcases inDatabase with slash | inName
      · exact absurd slash (by decide)
      · exact (read.database text named).2.2.2 inName

-- What is written is read again part by part.
theorem parseMongoUri_sanitized : parseMongoUri (sanitizeUri uri) =
    if (splitHostPort (uri.host ++ portText uri.port)).1.isEmpty then none
    else some ⟨uri.scheme, filled uri.username, (splitHostPort (uri.host ++ portText uri.port)).1,
      (splitHostPort (uri.host ++ portText uri.port)).2, uri.database, filled uri.query⟩ := by
  obtain ⟨scheme, schemed⟩ := read.scheme
  have named (name : Chars) (here : uri.database = some name) :
      name ≠ [] ∧ trim name = name ∧ '/' ∉ name := by
    obtain ⟨full, trimmed, single, _⟩ := read.database name here
    exact ⟨full, trimmed, single⟩
  rw [sanitizeUri_parts, schemed, parseMongoUri_rest, restUri_written read.path_absent,
    pathUri_written (read.front_absent _ (by decide)) _ _ named,
    authorityUri_written (read.hosts_absent _ (by decide)) (read.hosts_absent _ (by decide))]

theorem parseMongoUri_sanitized_iff : parseMongoUri (sanitizeUri uri) = some uri ↔
    uri.username ≠ some [] ∧ uri.query ≠ some [] ∧ HostKept uri.host uri.port := by
  have kept (value : Option Chars) : filled value = value ↔ value ≠ some [] := by
    rcases value with _ | _ | ⟨char, rest⟩ <;> simp [filled]
  rw [parseMongoUri_sanitized read, ← splitHostPort_written read.host, ← kept, ← kept]
  constructor
  · intro same
    split at same
    · cases same
    · have parts := Option.some.inj same
      exact ⟨congrArg MongoUri.username parts, congrArg MongoUri.query parts,
        Prod.ext (congrArg MongoUri.host parts) (congrArg MongoUri.port parts)⟩
  · rintro ⟨user, query, host⟩
    rw [user, query, host, if_neg (mt List.isEmpty_iff.mp read.filled)]

end Written

/-! ## The same server -/

def hostList (uri : Chars) : List (Chars × Option Nat) :=
  match splitOnceText "://".toList uri with
  | none => []
  | some (_, rest) =>
    (((hostsOf rest).splitOn ',').map splitHostPort).filter fun host => !host.1.isEmpty

theorem hostList_rest (scheme : Scheme) (rest : Chars) :
    hostList (scheme.text ++ ("://".toList ++ rest)) =
      (((hostsOf rest).splitOn ',').map splitHostPort).filter fun host => !host.1.isEmpty := by
  have split : splitOnceText "://".toList (scheme.text ++ ("://".toList ++ rest)) =
      some (scheme.text, rest) := by
    cases scheme <;> rfl
  rw [hostList, split]

theorem hostList_sanitized {uri : MongoUri} (read : UriRead uri)
    (kept : HostKept uri.host uri.port) : hostList (sanitizeUri uri) = [(uri.host, uri.port)] := by
  obtain ⟨scheme, schemed⟩ := read.scheme
  have front : firstPart (· == '?') (userText uri.username ++ (uri.host ++ portText uri.port) ++
      databaseText uri.database ++ queryText uri.query) =
        userText uri.username ++ (uri.host ++ portText uri.port) ++ databaseText uri.database := by
    rw [queryText]
    rcases filled_cases uri.query with none | ⟨text, _, _, here⟩
    · rw [none, Option.map_none, Option.getD_none, List.append_nil,
        firstPart_absent read.path_absent]
    · rw [here, Option.map_some, Option.getD_some, firstPart_append_cons rfl,
        firstPart_absent read.path_absent]
  have authority : firstPart (· == '/') (userText uri.username ++
      (uri.host ++ portText uri.port) ++ databaseText uri.database) =
        userText uri.username ++ (uri.host ++ portText uri.port) := by
    have clean := read.front_absent '/' (by decide)
    rw [databaseText]
    rcases filled_cases uri.database with none | ⟨text, _, _, here⟩
    · rw [none, Option.map_none, Option.getD_none, List.append_nil, firstPart_absent clean]
    · rw [here, Option.map_some, Option.getD_some, firstPart_append_cons rfl,
        firstPart_absent clean]
  have hosts : lastPart (· == '@') (userText uri.username ++ (uri.host ++ portText uri.port)) =
      uri.host ++ portText uri.port := by
    have clean := read.hosts_absent '@' (by decide)
    rw [userText]
    rcases filled_cases uri.username with none | ⟨text, _, _, here⟩
    · rw [none, Option.map_none, Option.getD_none, List.nil_append, lastPart,
        rsplitOnce_absent.mpr clean]
    · rw [here, Option.map_some, Option.getD_some, List.append_assoc, List.singleton_append,
        lastPart_append (unequal_of_absent clean) rfl]
  have single : (uri.host ++ portText uri.port).splitOn ',' =
      [uri.host ++ portText uri.port] := by
    rw [List.splitOn_eq_splitOnP]
    exact List.splitOnP_eq_singleton
      (unequal_of_absent (read.hosts_absent ',' (by decide)))
  have full : (!uri.host.isEmpty) = true := by
    simpa using read.filled
  rw [sanitizeUri_parts, schemed, hostList_rest, hostsOf, front, authority, hosts, single,
    List.map_singleton, (splitHostPort_written read.host).mpr kept, List.filter_cons, if_pos full,
    List.filter_nil]

/-- The URI that is kept is read as the one that was found, and names all of its hosts. -/
def SameServer (text : Chars) (uri : MongoUri) : Prop :=
  parseMongoUri (sanitizeUri uri) = some uri ∧
    ∀ host ∈ hostList text, host ∈ hostList (sanitizeUri uri)

/-- The URI that is kept means the same server just when it names one host, which is spelled
without what reading takes away from it, and its user and its query are not empty. -/
theorem sanitized_same_server_iff {text : Chars} {uri : MongoUri}
    (parsed : parseMongoUri text = some uri) :
    SameServer text uri ↔
      uri.username ≠ some [] ∧ uri.query ≠ some [] ∧ HostKept uri.host uri.port ∧
        ∀ host ∈ hostList text, host = (uri.host, uri.port) := by
  have read := parseMongoUri_read parsed
  rw [SameServer, parseMongoUri_sanitized_iff read, and_assoc, and_assoc]
  refine and_congr_right fun _ => and_congr_right fun _ => and_congr_right fun kept => ?_
  rw [hostList_sanitized read kept]
  simp only [List.mem_singleton]

theorem sanitized_single_host :
    SameServer "mongodb://db.test:27018/app?authSource=admin".toList
      ⟨"mongodb".toList, none, "db.test".toList, some 27018, some "app".toList,
        some "authSource=admin".toList⟩ :=
  (sanitized_same_server_iff (by rfl)).mpr
    ⟨by simp, by simp, by rfl, by decide +kernel⟩

def addressUri : MongoUri := ⟨"mongodb".toList, none, "::1".toList, none, none, none⟩

def replicaUri : MongoUri := ⟨"mongodb".toList, none, "a".toList, none, none, none⟩

/-- An address is written without its brackets, and its end is read as a port; the second of
two hosts is not written. -/
theorem sanitized_address_and_replica :
    parseMongoUri "mongodb://[::1]".toList = some addressUri ∧
      parseMongoUri (sanitizeUri addressUri) ≠ some addressUri ∧
      ¬SameServer "mongodb://[::1]".toList addressUri ∧
      parseMongoUri "mongodb://a,b".toList = some replicaUri ∧
      ¬SameServer "mongodb://a,b".toList replicaUri := by
  have moved : parseMongoUri (sanitizeUri addressUri) ≠ some addressUri := by
    intro same
    have port := congrArg (Option.map MongoUri.port) same
    exact absurd port (by decide +kernel)
  refine ⟨by rfl, moved, fun same => moved same.1, by rfl, fun same => ?_⟩
  have named := same.2 ("b".toList, none) (by decide +kernel)
  exact absurd named (by decide +kernel)

end Onetcli.Importers.Compass
