import Onetcli.DbIpc.WireConfig
import Onetcli.Lib.Parts
import Onetcli.Lib.QueryStrings
import Onetcli.Lib.Scanners

/-!
The connection string of the Kingbase driver, `buildDSN` of internal/drivers/kingbase/spec.go, and
what a driver reads in it: pairs apart by white space, with quotes around a value that needs them.
The characters that ask for quotes are fewer than those that end a value without.
-/

namespace Onetcli.Drivers.Kingbase

open Chars DbIpc Lookups MapOrder Scanners Text Scanner

def needsQuote (char : Char) : Bool :=
  [' ', '\t', '\n', '\r', Char.ofNat 11, Char.ofNat 12, '\'', '\\'].contains char

def escaped (char : Char) : Chars := if char = '\\' ∨ char = '\'' then ['\\', char] else [char]

def escapeConnInfo (value : Chars) : Chars :=
  if value = [] then ['\'', '\'']
  else if value.any needsQuote then '\'' :: (value.flatMap escaped ++ ['\''])
  else value

def pairText (entry : Chars × Chars) : Chars := entry.1 ++ '=' :: escapeConnInfo entry.2

/-- The map of `buildDSN`; the two loops visit the extra parameters in any order. -/
def connPairs (copied ranged : Order String String) (cfg : Config) : List (String × String) :=
  puts (ranged.visit (copyDriverExtra copied cfg.extra))
    [("host", cfg.host), ("port", toString cfg.port), ("user", cfg.username),
      ("password", cfg.password), ("dbname", cfg.database), ("sslmode", "disable")]

def buildDSN (copied ranged collected : Order String String) (cfg : Config) :
    Except String Chars := do
  requireConfig cfg ["host", "port", "username", "database"]
  let pairs := connPairs copied ranged cfg
  let keys := ((collected.visit pairs).map Prod.fst).insertionSort fun first second =>
    first ≤ second
  .ok ([' '].intercalate (keys.map fun key =>
    pairText (key.toList, ((pairs.lookup key).getD "").toList)))

/-! ## What is read -/

/-- Where a driver stands in a string; `named` is behind a key and `opening` before a value. -/
inductive ConnState where
  | between
  | key (name : Chars)
  | named (name : Chars)
  | opening (name : Chars)
  | bare (name value : Chars)
  | bareEscape (name value : Chars)
  | quoted (name value : Chars)
  | quotedEscape (name value : Chars)
  | failed

inductive ConnToken where
  | pair (entry : Chars × Chars)
  | malformed
  deriving DecidableEq

def connScanner : Scanner ConnState Char ConnToken where
  start := .between
  step
    | .between, char =>
      ([], if isWhiteSpace char then .between else if char = '=' then .opening [] else .key [char])
    | .key name, char =>
      ([], if isWhiteSpace char then .named name else if char = '=' then .opening name
        else .key (name ++ [char]))
    | .named name, char =>
      if isWhiteSpace char then ([], .named name)
      else if char = '=' then ([], .opening name) else ([.malformed], .failed)
    | .opening name, char =>
      ([], if isWhiteSpace char then .opening name else if char = '\'' then .quoted name []
        else if char = '\\' then .bareEscape name [] else .bare name [char])
    | .bare name value, char =>
      if isWhiteSpace char then ([.pair (name, value)], .between)
      else ([], if char = '\\' then .bareEscape name value else .bare name (value ++ [char]))
    | .bareEscape name value, char => ([], .bare name (value ++ [char]))
    | .quoted name value, char =>
      if char = '\'' then ([.pair (name, value)], .between)
      else ([], if char = '\\' then .quotedEscape name value else .quoted name (value ++ [char]))
    | .quotedEscape name value, char => ([], .quoted name (value ++ [char]))
    | .failed, _ => ([], .failed)
  finish
    | .between | .failed => []
    | .opening name => [.pair (name, [])]
    | .bare name value => [.pair (name, value)]
    | _ => [.malformed]

def ConnToken.entry : ConnToken → List (Chars × Chars)
  | .pair entry => [entry]
  | .malformed => []

/-- The string is read without an error, and the last value of each key is that of the entries. -/
structure Decodes (text : Chars) (entries : List (Chars × Chars)) : Prop where
  wellFormed : .malformed ∉ connScanner.tokens text
  options : ∀ key, ((connScanner.tokens text).flatMap ConnToken.entry).reverse.lookup key =
    entries.lookup key

def CleanKey (key : Chars) : Prop := ∀ char ∈ key, isWhiteSpace char = false ∧ char ≠ '='

def isWide (char : Char) : Bool := isWhiteSpace char && !needsQuote char

/-- A value that is put in quotes, or needs none. -/
def Steady (value : Chars) : Prop :=
  (∃ char ∈ value, needsQuote char = true) ∨ ∀ char ∈ value, isWide char = false

instance (value : Chars) : Decidable (Steady value) :=
  decidable_of_iff ((value.any needsQuote || value.all fun char => !isWide char) = true) (by
    simp [Steady])

/-! ## One pair -/

theorem run_key {key : Chars} (clean : CleanKey key) :
    connScanner.run .between (key ++ ['=']) = ([], .opening key) := by
  have onward (name rest : Chars) (plain : CleanKey rest) :
      connScanner.run (.key name) (rest ++ ['=']) = ([], .opening (name ++ rest)) := by
    induction rest generalizing name with
    | nil =>
      rw [List.append_nil]
      rfl
    | cons char rest ih =>
      obtain ⟨noSpace, noEnd⟩ := plain char List.mem_cons_self
      have later := ih (name ++ [char]) fun other among => plain other (List.mem_cons_of_mem _ among)
      simp [run, connScanner, noSpace, noEnd] at later ⊢
      exact later
  cases key with
  | nil => rfl
  | cons char rest =>
    obtain ⟨noSpace, noEnd⟩ := clean char List.mem_cons_self
    have later := onward [char] rest fun other among => clean other (List.mem_cons_of_mem _ among)
    simp [run, connScanner, noSpace, noEnd] at later ⊢
    exact later

theorem run_bare {name value text : Chars}
    (plain : ∀ char ∈ text, isWhiteSpace char = false ∧ char ≠ '\\') :
    connScanner.run (.bare name value) text = ([], .bare name (value ++ text)) := by
  induction text generalizing value with
  | nil =>
    rw [List.append_nil]
    rfl
  | cons char rest ih =>
    obtain ⟨noSpace, noEscape⟩ := plain char List.mem_cons_self
    have later := @ih (value ++ [char]) fun other among => plain other (List.mem_cons_of_mem _ among)
    simp [run, connScanner, noSpace, noEscape] at later ⊢
    exact later

theorem run_quoted {name value text : Chars} :
    connScanner.run (.quoted name value) (text.flatMap escaped ++ ['\'']) =
      ([.pair (name, value ++ text)], .between) := by
  induction text generalizing value with
  | nil =>
    rw [List.append_nil]
    rfl
  | cons char rest ih =>
    have later := @ih (value ++ [char])
    rw [List.flatMap_cons, escaped]
    split
    · simp [run, connScanner] at later ⊢
      exact later
    · rename_i plain
      rw [not_or] at plain
      simp [run, connScanner, plain.1, plain.2] at later ⊢
      exact later

theorem unquoted_plain {value : Chars} (bare : value.any needsQuote = false) {char : Char}
    (among : char ∈ value) : char ≠ '\'' ∧ char ≠ '\\' ∧ isWide char = isWhiteSpace char := by
  have silent : needsQuote char = false := by
    simpa using List.any_eq_false.mp bare char among
  refine ⟨?_, ?_, ?_⟩
  · rintro rfl
    exact absurd silent (by decide)
  · rintro rfl
    exact absurd silent (by decide)
  · rw [isWide, silent, Bool.not_false, Bool.and_true]

/-- A value that stands without quotes is read up to its first white space. -/
theorem run_opening {name front : Chars} (some : front ≠ [])
    (plain : ∀ char ∈ front, isWhiteSpace char = false ∧ char ≠ '\'' ∧ char ≠ '\\') :
    connScanner.run (.opening name) front = ([], .bare name front) := by
  cases front with
  | nil => exact absurd rfl some
  | cons char rest =>
    obtain ⟨noSpace, noQuote, noEscape⟩ := plain char List.mem_cons_self
    have later := @run_bare name [char] rest fun other among =>
      ⟨(plain other (List.mem_cons_of_mem _ among)).1,
        (plain other (List.mem_cons_of_mem _ among)).2.2⟩
    simp [run, connScanner, noSpace, noQuote, noEscape] at later ⊢
    exact later

theorem any_of_steady {value : Chars} (bare : value.any needsQuote = false)
    (steady : Steady value) : ∀ char ∈ value, isWide char = false := by
  rcases steady with ⟨char, among, needs⟩ | narrow
  · exact absurd needs (by simpa using List.any_eq_false.mp bare char among)
  · exact narrow

theorem run_escaped {name value : Chars} (steady : Steady value) :
    ∃ emitted state, connScanner.run (.opening name) (escapeConnInfo value) = (emitted, state) ∧
      emitted ++ connScanner.finish state = [.pair (name, value)] ∧
      connScanner.step state ' ' = (connScanner.finish state, .between) := by
  rw [escapeConnInfo]
  split
  · rename_i none
    subst none
    exact ⟨[.pair (name, [])], .between, rfl, rfl, rfl⟩
  · rename_i some
    split
    · have read := @run_quoted name [] value
      refine ⟨[.pair (name, value)], .between, ?_, rfl, rfl⟩
      rw [run]
      exact congrArg (fun read => ([] ++ read.1, read.2)) read
    · rename_i bare
      have bare : value.any needsQuote = false := by simpa using bare
      refine ⟨[], .bare name value, run_opening some fun char among => ?_, rfl, rfl⟩
      obtain ⟨noQuote, noEscape, wide⟩ := unquoted_plain bare among
      exact ⟨wide ▸ any_of_steady bare steady char among, noQuote, noEscape⟩

/-! ## All pairs -/

section Pairs

variable {entry : Chars × Chars} (clean : CleanKey entry.1)
include clean

theorem run_pairText : connScanner.run .between (pairText entry) =
    connScanner.run (.opening entry.1) (escapeConnInfo entry.2) := by
  have spelled : pairText entry = (entry.1 ++ ['=']) ++ escapeConnInfo entry.2 := by
    rw [pairText, List.append_assoc]
    rfl
  rw [spelled, run_append, run_key clean]
  rfl

theorem tokens_last (steady : Steady entry.2) :
    connScanner.tokens (pairText entry) = [.pair entry] := by
  obtain ⟨emitted, state, ran, all, _⟩ := @run_escaped entry.1 entry.2 steady
  rw [tokens, tokensFrom, show connScanner.start = .between from rfl,
    run_pairText clean, ran]
  exact all

theorem tokens_first (steady : Steady entry.2) (rest : Chars) :
    connScanner.tokens (pairText entry ++ ' ' :: rest) = .pair entry :: connScanner.tokens rest := by
  obtain ⟨emitted, state, ran, all, next⟩ := @run_escaped entry.1 entry.2 steady
  rw [tokens, tokensFrom_append, show connScanner.start = .between from rfl,
    run_pairText clean, ran, tokensFrom_cons, next, ← List.append_assoc, all]
  rfl

end Pairs

def connText (entries : List (Chars × Chars)) : Chars := [' '].intercalate (entries.map pairText)

theorem connText_cons (entry other : Chars × Chars) (rest : List (Chars × Chars)) :
    connText (entry :: other :: rest) = pairText entry ++ ' ' :: connText (other :: rest) := by
  rw [connText, List.map_cons, List.map_cons, List.intercalate_cons_cons, List.append_assoc]
  rfl

variable {entries : List (Chars × Chars)}

theorem tokens_all (clean : ∀ entry ∈ entries, CleanKey entry.1)
    (steady : ∀ entry ∈ entries, Steady entry.2) :
    connScanner.tokens (connText entries) = entries.map .pair := by
  induction entries with
  | nil => rfl
  | cons entry rest ih =>
    have later := ih (fun entry among => clean entry (List.mem_cons_of_mem _ among))
      fun entry among => steady entry (List.mem_cons_of_mem _ among)
    have cleanFirst := clean entry List.mem_cons_self
    have steadyFirst := steady entry List.mem_cons_self
    cases rest with
    | nil => exact (congrArg _ List.intercalate_singleton).trans (tokens_last cleanFirst steadyFirst)
    | cons other more =>
      rw [connText_cons, tokens_first cleanFirst steadyFirst, later]
      rfl

/-! ## Wide white space is lost -/

def spelled (token : ConnToken) : Chars := token.entry.flatMap Prod.snd

def held : ConnState → Chars
  | .bare _ value | .bareEscape _ value | .quoted _ value | .quotedEscape _ value => value
  | _ => []

theorem holds : connScanner.Holds spelled held isWide where
  step state char := by
    cases state
    all_goals
      simp only [connScanner, apply_ite held, apply_ite Prod.fst, apply_ite Prod.snd]
      repeat' split
    all_goals simp [spelled, ConnToken.entry, held]
  finish state := by
    cases state <;> simp [connScanner, spelled, ConnToken.entry, held]

theorem countP_escaped (value : Chars) :
    (escapeConnInfo value).countP isWide = value.countP isWide := by
  have quote : isWide '\'' = false := by decide
  have each (char : Char) : (escaped char).countP isWide = [char].countP isWide := by
    rw [escaped]
    split
    · rw [List.countP_cons, show isWide '\\' = false by decide]
      rfl
    · rfl
  have all (value : Chars) : (value.flatMap escaped).countP isWide = value.countP isWide := by
    induction value with
    | nil => rfl
    | cons char rest ih => rw [List.flatMap_cons, List.countP_append, ih, each, ← List.countP_append,
        List.singleton_append]
  rw [escapeConnInfo]
  split
  · rename_i none
    subst none
    decide
  · split
    · rw [List.countP_cons, List.countP_append, all, List.countP_singleton, quote]
      rfl
    · rfl

theorem countP_pairText {entry : Chars × Chars} (clean : CleanKey entry.1) :
    (pairText entry).countP isWide = entry.2.countP isWide := by
  have none : entry.1.countP isWide = 0 := List.countP_eq_zero.mpr fun char among => by
    simp [isWide, (clean char among).1]
  rw [pairText, List.countP_append, none, List.countP_cons, countP_escaped,
    show isWide '=' = false by decide]
  simp

theorem countP_connText (clean : ∀ entry ∈ entries, CleanKey entry.1) :
    (connText entries).countP isWide = (entries.flatMap Prod.snd).countP isWide := by
  induction entries with
  | nil => rfl
  | cons entry rest ih =>
    have first := countP_pairText (clean entry List.mem_cons_self)
    have later := ih fun entry among => clean entry (List.mem_cons_of_mem _ among)
    rw [List.flatMap_cons, List.countP_append, ← first, ← later]
    cases rest with
    | nil =>
      rw [connText, List.map_cons, List.map_nil, List.intercalate_singleton]
      rfl
    | cons second others =>
      rw [connText_cons, List.countP_append, List.countP_cons, show isWide ' ' = false by decide]
      rfl

theorem tokens_unsteady {entry : Chars × Chars} (clean : CleanKey entry.1)
    (unsteady : ¬Steady entry.2) (tail : Chars) :
    ((connScanner.tokens (pairText entry ++ tail)).flatMap spelled).countP isWide <
      (entry.2 ++ tail).countP isWide := by
  rw [Steady, not_or] at unsteady
  obtain ⟨noQuote, wide⟩ := unsteady
  have bare : entry.2.any needsQuote = false :=
    List.any_eq_false.mpr fun char among needs => noQuote ⟨char, among, needs⟩
  have whole := List.takeWhile_append_dropWhile (p := fun char => !isWhiteSpace char) (l := entry.2)
  cases ended : entry.2.dropWhile fun char => !isWhiteSpace char with
  | nil =>
    rw [List.dropWhile_eq_nil_iff] at ended
    refine absurd (fun char among => ?_) wide
    rw [isWide, show isWhiteSpace char = false by simpa using ended char among, Bool.false_and]
  | cons char back =>
    have white : isWhiteSpace char = true := by
      have stopped := List.head?_dropWhile_not (fun char => !isWhiteSpace char) entry.2
      rw [ended] at stopped
      simpa using stopped
    rw [ended] at whole
    have front : ∀ other ∈ entry.2.takeWhile fun char => !isWhiteSpace char,
        isWhiteSpace other = false := fun other among => by
      simpa using List.mem_takeWhile_imp among
    generalize entry.2.takeWhile (fun char => !isWhiteSpace char) = first at whole front
    have isWideChar : isWide char = true := by
      have among : char ∈ entry.2 := whole ▸ List.mem_append_right _ List.mem_cons_self
      exact (unquoted_plain bare among).2.2.trans white
    have narrow : first.countP isWide = 0 := List.countP_eq_zero.mpr fun other among => by
      simp [isWide, front other among]
    -- What is read behind the white space, from either state, lacks it.
    have after (state : ConnState) (empty : held state = []) :
        ((connScanner.tokensFrom state (back ++ tail)).flatMap spelled).countP isWide <
          (entry.2 ++ tail).countP isWide := by
      have most := @tokensFrom_count _ _ _ _ state _ _ _ holds (back ++ tail)
      rw [empty, List.nil_append] at most
      rw [← whole, List.append_assoc, List.cons_append, List.countP_append, narrow,
        List.countP_cons, isWideChar, if_pos rfl]
      omega
    have written : escapeConnInfo entry.2 = first ++ char :: back := by
      rw [escapeConnInfo, if_neg, bare, if_neg Bool.false_ne_true, whole]
      intro none
      rw [none] at whole
      simp at whole
    have spelledOut : pairText entry ++ tail =
        (entry.1 ++ ['=']) ++ (first ++ char :: (back ++ tail)) := by
      simp [pairText, written]
    rw [spelledOut, tokens, tokensFrom_append,
      show connScanner.start = .between from rfl, run_key clean, List.nil_append]
    by_cases none : first = []
    · have passed : connScanner.step (.opening entry.1) char = ([], .opening entry.1) := by
        simp [connScanner, white]
      rw [none, List.nil_append, tokensFrom_cons, passed]
      exact after _ rfl
    · have cut : connScanner.step (.bare entry.1 first) char =
          ([.pair (entry.1, first)], .between) := by
        simp [connScanner, white]
      have read := @run_opening entry.1 first none fun other among =>
        have inside : other ∈ entry.2 := whole ▸ List.mem_append_left _ among
        ⟨front other among, (unquoted_plain bare inside).1, (unquoted_plain bare inside).2.1⟩
      rw [tokensFrom_append, read, List.nil_append, tokensFrom_cons, cut,
        List.flatMap_append, List.countP_append]
      have less := after .between rfl
      simpa [spelled, ConnToken.entry, narrow] using less

/-- Where a value is not steady, some of its wide white space is in no value that is read. -/
theorem tokens_lack (clean : ∀ entry ∈ entries, CleanKey entry.1)
    {entry : Chars × Chars} (among : entry ∈ entries) (unsteady : ¬Steady entry.2) :
    ((connScanner.tokens (connText entries)).flatMap spelled).countP isWide <
      (entries.flatMap Prod.snd).countP isWide := by
  induction entries with
  | nil => cases among
  | cons head rest ih =>
    have cleanHead := clean head List.mem_cons_self
    have cleanRest := fun entry among => clean entry (List.mem_cons_of_mem _ among)
    have last : rest = [] → connText (head :: rest) = pairText head := by
      rintro rfl
      exact List.intercalate_singleton
    by_cases steady : Steady head.2
    · have later : entry ∈ rest := by
        rcases List.mem_cons.mp among with rfl | later
        · exact absurd steady unsteady
        · exact later
      cases rest with
      | nil => cases later
      | cons other more =>
        have less := ih cleanRest later
        rw [connText_cons, tokens_first cleanHead steady, List.flatMap_cons, List.flatMap_cons,
          List.countP_append, List.countP_append]
        simpa [spelled, ConnToken.entry] using less
    · have counted := countP_connText cleanRest
      cases rest with
      | nil =>
        have less := tokens_unsteady cleanHead steady []
        rw [last rfl]
        simpa using less
      | cons other more =>
        have less := tokens_unsteady cleanHead steady (' ' :: connText (other :: more))
        rw [connText_cons, List.flatMap_cons, List.countP_append, ← counted]
        rw [List.countP_append, List.countP_cons, show isWide ' ' = false by decide] at less
        exact less

theorem decodes_iff (distinct : (entries.map Prod.fst).Nodup)
    (clean : ∀ entry ∈ entries, CleanKey entry.1) :
    Decodes (connText entries) entries ↔ ∀ entry ∈ entries, Steady entry.2 := by
  constructor
  · intro decodes entry among
    by_contra unsteady
    have less := tokens_lack clean among unsteady
    -- Every entry is among the pairs that are read, so they have its white space too.
    have covered : entries ⊆ (connScanner.tokens (connText entries)).flatMap ConnToken.entry := by
      intro other inside
      have found := decodes.options other.1
      rw [lookup_mem distinct inside, List.lookup_eq_some_iff] at found
      obtain ⟨front, back, split, _⟩ := found
      exact List.mem_reverse.mp (split ▸ List.mem_append_right _ List.mem_cons_self)
    obtain ⟨listed, perm, within⟩ := (List.Nodup.of_map _ distinct).subperm covered
    have most := (within.flatMap Prod.snd).countP_le (p := isWide)
    rw [(perm.flatMap_right Prod.snd).countP_eq] at most
    have same : (connScanner.tokens (connText entries)).flatMap spelled =
        ((connScanner.tokens (connText entries)).flatMap ConnToken.entry).flatMap Prod.snd :=
      List.flatMap_assoc.symm
    rw [same] at less
    omega
  · intro steady
    have tokens := tokens_all clean steady
    have read : (connScanner.tokens (connText entries)).flatMap ConnToken.entry = entries := by
      rw [tokens, List.flatMap_map]
      exact List.flatMap_singleton' entries
    refine ⟨fun malformed => ?_, fun key => ?_⟩
    · rw [tokens] at malformed
      obtain ⟨_, _, other⟩ := List.mem_map.mp malformed
      cases other
    · rw [read]
      exact (lookup_perm entries.reverse_perm.symm distinct key).symm

/-! ## The configuration -/

def asChars (entry : String × String) : Chars × Chars := (entry.1.toList, entry.2.toList)

theorem cleanKey_of_all {key : Chars}
    (all : (key.all fun char => !isWhiteSpace char && char != '=') = true) : CleanKey key :=
  fun char among => by simpa using List.all_eq_true.mp all char among

section Config

variable {copied ranged collected : Order String String} {cfg : Config} {dsn : Chars}

theorem connPairs_distinct : ((connPairs copied ranged cfg).map Prod.fst).Nodup := by
  have own : ["host", "port", "user", "password", "dbname", "sslmode"].Nodup := by decide
  exact nodup_puts own

theorem connPairs_clean (clean : ∀ entry ∈ cfg.extra, CleanKey entry.1.toList) :
    ∀ entry ∈ connPairs copied ranged cfg, CleanKey entry.1.toList := by
  intro entry among
  rcases mem_keys_puts.mp (List.mem_map_of_mem (f := Prod.fst) among) with extra | own
  · obtain ⟨other, visited, same⟩ := List.mem_map.mp extra
    have kept := (ranged.perm _).mem_iff.mp visited
    have given := (copied.perm _).mem_iff.mp (List.mem_filter.mp kept).1
    exact same ▸ clean other given
  · simp only [List.map_cons, List.map_nil, List.mem_cons, List.not_mem_nil, or_false] at own
    apply cleanKey_of_all
    rcases own with own | own | own | own | own | own <;> rw [own] <;> rfl

/-- The pairs are written in the order of their keys, and each of them once. -/
theorem buildDSN_text (built : buildDSN copied ranged collected cfg = .ok dsn) :
    ∃ entries : List (Chars × Chars),
      entries.Perm ((connPairs copied ranged cfg).map asChars) ∧ dsn = connText entries := by
  have distinct := @connPairs_distinct copied ranged cfg
  rw [buildDSN] at built
  cases required : requireConfig cfg ["host", "port", "username", "database"] with
  | error message =>
    rw [required] at built
    cases built
  | ok _ =>
    rw [required] at built
    refine ⟨(((collected.visit (connPairs copied ranged cfg)).map Prod.fst).insertionSort
      fun first second => first ≤ second).map fun key =>
        (key.toList, (((connPairs copied ranged cfg).lookup key).getD "").toList), ?_, ?_⟩
    rotate_left
    · rw [connText, List.map_map]
      exact (Except.ok.inj built).symm
    have sorted := (List.perm_insertionSort (fun first second : String => first ≤ second)
      ((collected.visit (connPairs copied ranged cfg)).map Prod.fst)).trans
        ((collected.perm _).map Prod.fst)
    refine (sorted.map _).trans (List.Perm.of_eq ?_)
    rw [List.map_map]
    refine List.map_congr_left fun entry among => ?_
    rw [Function.comp_apply, lookup_mem distinct among]
    rfl

/-- A connection string is read as the pairs that it was made of if and only if every value with
wide white space has a character that asks for quotes. -/
theorem conn_info_decodes_iff (built : buildDSN copied ranged collected cfg = .ok dsn)
    (clean : ∀ entry ∈ cfg.extra, CleanKey entry.1.toList) :
    Decodes dsn ((connPairs copied ranged cfg).map asChars) ↔
      ∀ entry ∈ connPairs copied ranged cfg, Steady entry.2.toList := by
  obtain ⟨entries, perm, rfl⟩ := buildDSN_text built
  have keys : (((connPairs copied ranged cfg).map asChars).map Prod.fst).Nodup := by
    rw [List.map_map]
    exact (List.map_map (g := String.toList) ▸
      connPairs_distinct.map (fun _ _ => String.toList_inj.mp) :)
  have distinct : (entries.map Prod.fst).Nodup := (perm.map Prod.fst).nodup_iff.mpr keys
  have cleanAll : ∀ entry ∈ entries, CleanKey entry.1 := fun entry among => by
    obtain ⟨own, inside, rfl⟩ := List.mem_map.mp (perm.mem_iff.mp among)
    exact connPairs_clean clean own inside
  have read : Decodes (connText entries) entries ↔
      Decodes (connText entries) ((connPairs copied ranged cfg).map asChars) := by
    constructor
    · rintro ⟨wellFormed, options⟩
      exact ⟨wellFormed, fun key => (options key).trans (lookup_perm perm distinct key)⟩
    · rintro ⟨wellFormed, options⟩
      exact ⟨wellFormed, fun key => (options key).trans (lookup_perm perm distinct key).symm⟩
  rw [← read, decodes_iff distinct cleanAll]
  constructor
  · intro steady entry among
    exact steady _ (perm.mem_iff.mpr (List.mem_map_of_mem among))
  · intro steady entry among
    obtain ⟨own, inside, rfl⟩ := List.mem_map.mp (perm.mem_iff.mp among)
    exact steady own inside

end Config

def plainConfig (password : String) : Config where
  host := "127.0.0.1"
  port := 54321
  username := "system"
  password := password
  database := "test"
  service := ""
  sid := ""
  protocol := ""
  extra := [("application_name", "one tcli")]

theorem spaced_password_decodes :
    let dsn := ("application_name='one tcli' dbname=test host=127.0.0.1 password='it\\'s me' " ++
      "port=54321 sslmode=disable user=system").toList
    Decodes dsn ((connPairs .stored .stored (plainConfig "it's me")).map asChars) := by
  intro dsn
  have built : buildDSN .stored .stored .stored (plainConfig "it's me") = .ok dsn := rfl
  refine (conn_info_decodes_iff built ?_).mpr ?_
  · exact List.forall_mem_singleton.mpr (cleanKey_of_all rfl)
  · have steady : ((connPairs .stored .stored (plainConfig "it's me")).all fun entry =>
        decide (Steady entry.2.toList)) = true := by decide +kernel
    exact fun entry among => of_decide_eq_true (List.all_eq_true.mp steady entry among)

/-- A no-break space in a password ends its value. -/
theorem wide_space_cuts_password :
    let dsn := ("application_name='one tcli' dbname=test host=127.0.0.1 password=a\u00a0b " ++
      "port=54321 sslmode=disable user=system").toList
    buildDSN .stored .stored .stored (plainConfig "a\u00a0b") = .ok dsn ∧
      ¬Decodes dsn ((connPairs .stored .stored (plainConfig "a\u00a0b")).map asChars) := by
  refine ⟨rfl, fun decodes => decodes.wellFormed ?_⟩
  decide +kernel

end Onetcli.Drivers.Kingbase
