import Mathlib.Data.List.Sort
import Onetcli.Lib.Chars
import Onetcli.Lib.Tables

/-!
Query strings: a table from names to lists of values, written sorted by name with
percent escapes. Two tables have one query string exactly if they give every name the
same values.
-/

namespace Onetcli.QueryStrings

open Chars Tables

/-! ## Percent escapes -/

def upperHex (value : Nat) : Char :=
  if value < 10 then Char.ofNat (48 + value) else Char.ofNat (55 + value)

def percent (byte : UInt8) : Chars :=
  ['%', upperHex (byte.toNat / 16), upperHex (byte.toNat % 16)]

def unreserved (char : Char) : Bool :=
  isAsciiAlphanumeric char || char == '-' || char == '_' || char == '.' || char == '~'

/-- The bytes of a text, those that `keeps` accepts as they are. -/
def escapeExcept (keeps : Char → Bool) (text : Chars) : Chars :=
  (toUtf8 text).flatMap fun byte =>
    if keeps (Char.ofNat byte.toNat) then [Char.ofNat byte.toNat] else percent byte

/-- One byte of a query component, where a blank is a plus. -/
def escapeByte (byte : UInt8) : Chars :=
  if unreserved (Char.ofNat byte.toNat) then [Char.ofNat byte.toNat]
  else if byte = 32 then ['+']
  else percent byte

def escape (text : String) : Chars := (toUtf8 text.toList).flatMap escapeByte

def hexValue (char : Char) : Nat :=
  if char.toNat < 65 then char.toNat - 48 else char.toNat - 55

/-- The byte at the front of an escaped text, and what follows. -/
def readByte : Chars → Option (UInt8 × Chars)
  | [] => none
  | '%' :: high :: low :: rest => some (UInt8.ofNat (hexValue high * 16 + hexValue low), rest)
  | '+' :: rest => some (32, rest)
  | char :: rest => some (UInt8.ofNat char.toNat, rest)

theorem hexValue_upperHex : ∀ value < 16, hexValue (upperHex value) = value := by decide

theorem upperHex_plain : ∀ value < 16, unreserved (upperHex value) = true := by decide

theorem readByte_plain {char : Char} (plain : unreserved char = true) (rest : Chars) :
    readByte (char :: rest) = some (UInt8.ofNat char.toNat, rest) := by
  have notPercent : char ≠ '%' := by
    rintro rfl
    exact absurd plain (by decide)
  have notPlus : char ≠ '+' := by
    rintro rfl
    exact absurd plain (by decide)
  rw [readByte.eq_def]
  split <;> simp_all

theorem toNat_ofByte (byte : UInt8) : (Char.ofNat byte.toNat).toNat = byte.toNat := by
  have small : byte.toNat < 256 := byte.toNat_lt
  have valid : byte.toNat.isValidChar := Or.inl (by omega)
  rw [Char.ofNat, dif_pos valid]
  rfl

theorem readByte_escapeByte (byte : UInt8) (rest : Chars) :
    readByte (escapeByte byte ++ rest) = some (byte, rest) := by
  have small : byte.toNat < 256 := byte.toNat_lt
  unfold escapeByte
  by_cases plain : unreserved (Char.ofNat byte.toNat) = true
  · simp only [if_pos plain, List.singleton_append]
    rw [readByte_plain plain, toNat_ofByte, UInt8.ofNat_toNat]
  · by_cases blank : byte = 32
    · subst blank
      rfl
    · have digits : hexValue (upperHex (byte.toNat / 16)) * 16 +
          hexValue (upperHex (byte.toNat % 16)) = byte.toNat := by
        rw [hexValue_upperHex _ (by omega), hexValue_upperHex _ (by omega)]
        omega
      simp only [if_neg plain, if_neg blank, percent, List.cons_append, List.nil_append]
      simp only [readByte, digits, UInt8.ofNat_toNat]

theorem escapeBytes_injective {first second : List UInt8}
    (same : first.flatMap escapeByte = second.flatMap escapeByte) : first = second := by
  induction first generalizing second with
  | nil =>
    cases second with
    | nil => rfl
    | cons byte rest =>
      have read := readByte_escapeByte byte (rest.flatMap escapeByte)
      rw [← List.flatMap_cons, ← same] at read
      simp [readByte] at read
  | cons byte rest ih =>
    have read := readByte_escapeByte byte (rest.flatMap escapeByte)
    rw [← List.flatMap_cons, same] at read
    cases second with
    | nil => simp [readByte] at read
    | cons other others =>
      rw [List.flatMap_cons, readByte_escapeByte, Option.some.injEq, Prod.mk.injEq] at read
      rw [read.1, ih read.2.symm]

theorem escape_injective {first second : String} (same : escape first = escape second) :
    first = second := by
  have bytes := escapeBytes_injective same
  have texts : some first.toList = some second.toList := by
    rw [← fromUtf8_toUtf8, ← fromUtf8_toUtf8, bytes]
  exact String.toList_inj.mp (Option.some.inj texts)

theorem escapeByte_clean (byte : UInt8) : ∀ char ∈ escapeByte byte,
    unreserved char = true ∨ char = '+' ∨ char = '%' := by
  have small : byte.toNat < 256 := byte.toNat_lt
  intro char present
  unfold escapeByte at present
  by_cases plain : unreserved (Char.ofNat byte.toNat) = true
  · rw [if_pos plain, List.mem_singleton] at present
    exact Or.inl (present ▸ plain)
  · by_cases blank : byte = 32
    · rw [if_neg plain, if_pos blank, List.mem_singleton] at present
      exact Or.inr (Or.inl present)
    · simp only [if_neg plain, if_neg blank, percent, List.mem_cons, List.not_mem_nil,
        or_false] at present
      rcases present with isPercent | isHigh | isLow
      · exact Or.inr (Or.inr isPercent)
      · exact Or.inl (isHigh ▸ upperHex_plain _ (by omega))
      · exact Or.inl (isLow ▸ upperHex_plain _ (by omega))

theorem absent_escape {delimiter : Char} (reserved : unreserved delimiter = false)
    (notPlus : delimiter ≠ '+') (notPercent : delimiter ≠ '%') (text : String) :
    delimiter ∉ escape text := by
  intro present
  obtain ⟨byte, _, inByte⟩ := List.mem_flatMap.mp present
  rcases escapeByte_clean byte delimiter inByte with plain | isPlus | isPercent
  · simp [plain] at reserved
  · exact notPlus isPlus
  · exact notPercent isPercent

/-! ## Names and values -/

/-- `url.Values`: to each name the list of its values. -/
abbrev Values := Table String (List String)

def Values.all (values : Values) (name : String) : List String := (values.lookup name).getD []

def Values.get (values : Values) (name : String) : String := (values.all name).head?.getD ""

def Values.set (values : Values) (name value : String) : Values := values.insert name [value]

def Values.add (values : Values) (name value : String) : Values :=
  values.insert name (values.all name ++ [value])

@[simp] theorem all_empty (name : String) : Values.all ∅ name = [] := by
  simp [Values.all]

@[simp] theorem all_set (values : Values) (name value wanted : String) :
    (values.set name value).all wanted = if wanted = name then [value] else values.all wanted := by
  rw [Values.all, Values.set, lookup_insert_if]
  split <;> rfl

@[simp] theorem all_add (values : Values) (name value wanted : String) :
    (values.add name value).all wanted =
      if wanted = name then values.all name ++ [value] else values.all wanted := by
  rw [Values.all, Values.add, lookup_insert_if]
  split <;> rfl

/-! ## The query string -/

def pairsOf (entries : List (Sigma fun _ : String => List String)) : List (String × String) :=
  entries.flatMap fun entry => entry.2.map (entry.1, ·)

/-- The names in their order, each as often as it has values. -/
def Values.pairs (values : Values) : List (String × String) :=
  pairsOf (values.entries.insertionSort fun first second => first.1 ≤ second.1)

def pairText (pair : String × String) : Chars := escape pair.1 ++ '=' :: escape pair.2

def Values.encode (values : Values) : Chars := ['&'].intercalate (values.pairs.map pairText)

def chosen (name : String) (pairs : List (String × String)) : List String :=
  pairs.filterMap fun pair => if pair.1 = name then some pair.2 else none

theorem chosen_append (name : String) (first second : List (String × String)) :
    chosen name (first ++ second) = chosen name first ++ chosen name second :=
  List.filterMap_append

theorem chosen_named (name : String) (entry : Sigma fun _ : String => List String) :
    chosen name (entry.2.map (entry.1, ·)) = if entry.1 = name then entry.2 else [] := by
  unfold chosen
  rw [List.filterMap_map]
  split <;> rename_i named
  · simp [named]
  · simp [named]

theorem chosen_pairsOf {entries : List (Sigma fun _ : String => List String)}
    (distinct : entries.NodupKeys) (name : String) :
    chosen name (pairsOf entries) = (entries.dlookup name).getD [] := by
  induction entries with
  | nil => rfl
  | cons entry rest ih =>
    obtain ⟨fresh, others⟩ := List.nodupKeys_cons.mp distinct
    have tail := ih others
    rw [pairsOf, List.flatMap_cons, chosen_append, chosen_named]
    by_cases named : entry.1 = name
    · subst named
      have absent : rest.dlookup entry.1 = none := List.dlookup_eq_none.mpr fresh
      rw [← pairsOf, tail, absent, if_pos rfl, List.dlookup_cons_eq]
      exact List.append_nil _
    · rw [if_neg named, List.dlookup_cons_ne _ _ (Ne.symm named)]
      exact tail

theorem chosen_pairs (values : Values) (name : String) :
    chosen name values.pairs = values.all name := by
  have sorted := List.perm_insertionSort
    (fun first second : Sigma fun _ : String => List String => first.1 ≤ second.1) values.entries
  have distinct := (List.perm_nodupKeys sorted).mpr values.nodupKeys
  rw [Values.pairs, chosen_pairsOf distinct, List.perm_dlookup name distinct sorted]
  rfl

theorem pairs_sorted (values : Values) :
    values.pairs.Pairwise fun first second => first.1 ≤ second.1 := by
  let sorts (first second : Sigma fun _ : String => List String) : Prop := first.1 ≤ second.1
  have total : Std.Total sorts := ⟨fun first second => le_total first.1 second.1⟩
  have trans : IsTrans _ sorts := ⟨fun _ _ _ => le_trans⟩
  have sorted := List.pairwise_insertionSort sorts values.entries
  unfold Values.pairs pairsOf
  rw [List.pairwise_flatMap]
  refine ⟨fun entry _ => ?_, sorted.imp fun {first second} before => ?_⟩
  · exact List.pairwise_map.mpr (List.pairwise_of_forall fun _ _ => le_refl _)
  · intro pair pairIn other otherIn
    obtain ⟨_, _, rfl⟩ := List.mem_map.mp pairIn
    obtain ⟨_, _, rfl⟩ := List.mem_map.mp otherIn
    exact before

theorem name_mem_of_chosen {name : String} {pairs : List (String × String)}
    (given : chosen name pairs ≠ []) : ∃ pair ∈ pairs, pair.1 = name := by
  obtain ⟨value, member⟩ := List.exists_mem_of_ne_nil _ given
  obtain ⟨pair, pairIn, taken⟩ := List.mem_filterMap.mp member
  refine ⟨pair, pairIn, ?_⟩
  by_contra other
  simp [other] at taken

theorem sorted_eq {first second : List (String × String)}
    (sortedFirst : first.Pairwise fun one two => one.1 ≤ two.1)
    (sortedSecond : second.Pairwise fun one two => one.1 ≤ two.1)
    (same : ∀ name, chosen name first = chosen name second) : first = second := by
  induction first generalizing second with
  | nil =>
    cases second with
    | nil => rfl
    | cons pair rest => simpa [chosen] using same pair.1
  | cons pair rest ih =>
    cases second with
    | nil => simpa [chosen] using same pair.1
    | cons other others =>
      rw [List.pairwise_cons] at sortedFirst sortedSecond
      -- Each head carries the least name of its list, and the names are the same.
      have below : other.1 ≤ pair.1 := by
        have given : chosen pair.1 (other :: others) ≠ [] := by
          rw [← same pair.1]
          simp [chosen]
        obtain ⟨found, member, named⟩ := name_mem_of_chosen given
        rcases List.mem_cons.mp member with rfl | later
        · exact named.le
        · exact named ▸ sortedSecond.1 found later
      have above : pair.1 ≤ other.1 := by
        have given : chosen other.1 (pair :: rest) ≠ [] := by
          rw [same other.1]
          simp [chosen]
        obtain ⟨found, member, named⟩ := name_mem_of_chosen given
        rcases List.mem_cons.mp member with rfl | later
        · exact named.le
        · exact named ▸ sortedFirst.1 found later
      have named : pair.1 = other.1 := le_antisymm above below
      have values := same pair.1
      simp only [chosen, List.filterMap_cons, named, if_true] at values
      obtain ⟨valued, _⟩ := List.cons.inj values
      have heads : pair = other := Prod.ext named valued
      subst heads
      refine congrArg (pair :: ·) (ih sortedFirst.2 sortedSecond.2 fun name => ?_)
      have whole := same name
      simp only [chosen, List.filterMap_cons] at whole
      split at whole
      · exact whole
      · exact (List.cons.inj whole).2

theorem pairs_eq_iff (first second : Values) :
    first.pairs = second.pairs ↔ ∀ name, first.all name = second.all name := by
  constructor
  · intro same name
    rw [← chosen_pairs, ← chosen_pairs, same]
  · intro same
    refine sorted_eq (pairs_sorted first) (pairs_sorted second) fun name => ?_
    rw [chosen_pairs, chosen_pairs, same]

theorem ampersand_absent (pair : String × String) : '&' ∉ pairText pair := by
  have absent (text : String) : '&' ∉ escape text :=
    absent_escape (by decide) (by decide) (by decide) text
  simp [pairText, absent]

theorem pairText_injective {first second : String × String}
    (same : pairText first = pairText second) : first = second := by
  have absent (text : String) : '=' ∉ escape text :=
    absent_escape (by decide) (by decide) (by decide) text
  have hit : ('=' == '=') = true := rfl
  have cut (pair : String × String) :
      splitOnce (· == '=') (pairText pair) = some (escape pair.1, escape pair.2) :=
    splitOnce_append (unequal_of_absent (absent pair.1)) hit _
  have parts : some (escape first.1, escape first.2) = some (escape second.1, escape second.2) := by
    rw [← cut, ← cut, same]
  rw [Option.some.injEq, Prod.mk.injEq] at parts
  exact Prod.ext (escape_injective parts.1) (escape_injective parts.2)

theorem splitOn_encode (values : Values) (filled : values.pairs ≠ []) :
    values.encode.splitOn '&' = values.pairs.map pairText := by
  refine List.splitOn_intercalate '&' ?_ (by simpa using filled)
  intro text present
  obtain ⟨pair, _, rfl⟩ := List.mem_map.mp present
  exact ampersand_absent pair

theorem encode_nil_iff (values : Values) : values.encode = [] ↔ values.pairs = [] := by
  constructor
  · intro empty
    by_contra filled
    have parts := splitOn_encode values filled
    obtain ⟨pair, rest, split⟩ := List.exists_cons_of_ne_nil filled
    rw [empty, split, List.map_cons] at parts
    simp [pairText] at parts
  · intro empty
    simp [Values.encode, empty]

theorem encode_eq_iff (first second : Values) :
    first.encode = second.encode ↔ ∀ name, first.all name = second.all name := by
  rw [← pairs_eq_iff]
  constructor
  · intro same
    by_cases empty : first.pairs = []
    · rw [empty, eq_comm, ← encode_nil_iff, ← same, encode_nil_iff, empty]
    · have filled : second.pairs ≠ [] := by
        rwa [Ne, ← encode_nil_iff, ← same, encode_nil_iff]
      have texts : first.pairs.map pairText = second.pairs.map pairText := by
        rw [← splitOn_encode first empty, ← splitOn_encode second filled, same]
      exact List.map_injective_iff.mpr (fun _ _ => pairText_injective) texts
  · intro same
    rw [Values.encode, same, ← Values.encode]

end Onetcli.QueryStrings
