import Mathlib.Data.List.Basic

/-!
Names made of the words of a text. The words are the longest runs of symbols that are
kept; everything between two of them becomes one dash, dashes at the ends go away, and a
text without words has a name of its own. Two texts have one name exactly if they have
the same words. The alphabet is arbitrary. De-duplication by a key is stated beside it.
-/

namespace Onetcli.Slugs

variable {Symbol : Type}

structure Alphabet (Symbol : Type) where
  keeps : Symbol → Bool
  dash : Symbol
  dash_out : keeps dash = false

variable (alphabet : Alphabet Symbol)

/-- A word that has ended, if anything was read of it. -/
def finish (word : List Symbol) : List (List Symbol) := if word.isEmpty then [] else [word]

/-- The words of a text, with the word read so far. -/
def wordsFrom : List Symbol → List Symbol → List (List Symbol)
  | word, [] => finish word
  | word, symbol :: rest =>
    if alphabet.keeps symbol then wordsFrom (word ++ [symbol]) rest
    else finish word ++ wordsFrom [] rest

def words (text : List Symbol) : List (List Symbol) := wordsFrom alphabet [] text

/-- The words, or one that stands for none. -/
def namedWords (fallback text : List Symbol) : List (List Symbol) :=
  if (words alphabet text).isEmpty then [fallback] else words alphabet text

variable {alphabet}

/-! ## Words -/

structure IsWord (alphabet : Alphabet Symbol) (word : List Symbol) : Prop where
  nonempty : word ≠ []
  kept : ∀ symbol ∈ word, alphabet.keeps symbol = true

theorem isWord_of_all {word : List Symbol} (filled : word.isEmpty = false)
    (kept : word.all alphabet.keeps = true) : IsWord alphabet word :=
  ⟨List.isEmpty_eq_false_iff.mp filled, List.all_eq_true.mp kept⟩

theorem IsWord.dash_not_mem {word : List Symbol} (isWord : IsWord alphabet word) :
    alphabet.dash ∉ word := by
  intro member
  have kept := isWord.kept _ member
  rw [alphabet.dash_out] at kept
  cases kept

theorem finish_words {word : List Symbol} (kept : ∀ symbol ∈ word, alphabet.keeps symbol = true) :
    ∀ found ∈ finish word, IsWord alphabet found := by
  intro found member
  rw [finish] at member
  split at member
  · cases member
  · rename_i filled
    rw [List.mem_singleton.mp member]
    exact ⟨fun empty => filled (List.isEmpty_iff.mpr empty), kept⟩

theorem wordsFrom_words {word text : List Symbol}
    (kept : ∀ symbol ∈ word, alphabet.keeps symbol = true) :
    ∀ found ∈ wordsFrom alphabet word text, IsWord alphabet found := by
  induction text generalizing word with
  | nil => exact finish_words kept
  | cons symbol rest ih =>
    intro found member
    rw [wordsFrom] at member
    split at member
    · rename_i keeps
      apply ih _ found member
      intro other among
      rcases List.mem_append.mp among with old | new
      · exact kept other old
      · rw [List.mem_singleton.mp new]
        exact keeps
    · rcases List.mem_append.mp member with here | later
      · exact finish_words kept found here
      · exact ih (by rintro _ ⟨⟩) found later

theorem words_words (text : List Symbol) : ∀ word ∈ words alphabet text, IsWord alphabet word :=
  wordsFrom_words (by rintro _ ⟨⟩)

theorem namedWords_words {fallback : List Symbol} (isWord : IsWord alphabet fallback)
    (text : List Symbol) : ∀ word ∈ namedWords alphabet fallback text, IsWord alphabet word := by
  intro word member
  rw [namedWords] at member
  split at member
  · rw [List.mem_singleton.mp member]
    exact isWord
  · exact words_words text word member

theorem namedWords_nonempty (fallback text : List Symbol) :
    namedWords alphabet fallback text ≠ [] := by
  rw [namedWords]
  split
  · simp
  · rename_i filled
    intro empty
    exact filled (List.isEmpty_iff.mpr empty)

/-! ## Names -/

def joined (alphabet : Alphabet Symbol) (names : List (List Symbol)) : List Symbol :=
  [alphabet.dash].intercalate names

def dashed (alphabet : Alphabet Symbol) (names : List (List Symbol)) : List Symbol :=
  names.flatMap fun word => word ++ [alphabet.dash]

theorem joined_concat (before : List (List Symbol)) (word : List Symbol) :
    joined alphabet (before ++ [word]) = dashed alphabet before ++ word := by
  induction before with
  | nil => exact List.intercalate_singleton
  | cons first rest ih =>
    rw [joined] at ih ⊢
    rw [List.cons_append, List.intercalate_cons_of_ne_nil (by simp), ih, dashed, dashed,
      List.flatMap_cons]
    simp

theorem joined_append {first second : List (List Symbol)} (firstSome : first ≠ [])
    (secondSome : second ≠ []) : joined alphabet (first ++ second) =
      joined alphabet first ++ alphabet.dash :: joined alphabet second := by
  induction first with
  | nil => exact absurd rfl firstSome
  | cons word rest ih =>
    rw [joined, joined, joined] at *
    cases rest with
    | nil => simp [List.intercalate_cons_of_ne_nil secondSome]
    | cons next others =>
      have tail := ih (List.cons_ne_nil _ _)
      rw [List.cons_append, List.intercalate_cons_of_ne_nil (by simp), tail,
        List.intercalate_cons_of_ne_nil (List.cons_ne_nil next others)]
      simp

section Names

variable [DecidableEq Symbol] (alphabet)

/-- The name written so far, and whether it ends in a dash. -/
def slugFrom : List Symbol → Bool → List Symbol → List Symbol
  | out, _, [] => out
  | out, lastDash, symbol :: rest =>
    if alphabet.keeps symbol then slugFrom (out ++ [symbol]) false rest
    else if !lastDash && !out.isEmpty then slugFrom (out ++ [alphabet.dash]) true rest
    else slugFrom out lastDash rest

def dropDashes (out : List Symbol) : List Symbol :=
  (out.reverse.dropWhile fun symbol => symbol == alphabet.dash).reverse

def slug (fallback text : List Symbol) : List Symbol :=
  let out := dropDashes alphabet (slugFrom alphabet [] false text)
  if out.isEmpty then fallback else out

variable {alphabet}

theorem dropDashes_kept {front word : List Symbol} (isWord : IsWord alphabet word) :
    dropDashes alphabet (front ++ word) = front ++ word := by
  rcases word.eq_nil_or_concat with rfl | ⟨start, last, rfl⟩
  · exact absurd rfl isWord.nonempty
  · have kept := isWord.kept last (by simp)
    have other : (last == alphabet.dash) = false := by
      apply beq_eq_false_iff_ne.mpr
      rintro rfl
      rw [alphabet.dash_out] at kept
      cases kept
    simp [dropDashes, other]

theorem dropDashes_dash (out : List Symbol) :
    dropDashes alphabet (out ++ [alphabet.dash]) = dropDashes alphabet out := by
  simp [dropDashes]

-- What is written when the text ends.
theorem dropDashes_dashed {before : List (List Symbol)} {word : List Symbol}
    (ended : ∀ other ∈ before, IsWord alphabet other)
    (kept : ∀ symbol ∈ word, alphabet.keeps symbol = true) :
    dropDashes alphabet (dashed alphabet before ++ word) =
      joined alphabet (before ++ finish word) := by
  by_cases empty : word = []
  · subst empty
    rw [finish, List.append_nil]
    rcases before.eq_nil_or_concat with rfl | ⟨front, last, rfl⟩
    · rfl
    · have isWord := ended last (by simp)
      have split : dashed alphabet (front.concat last) =
          dashed alphabet front ++ last ++ [alphabet.dash] := by
        simp [dashed]
      rw [split, dropDashes_dash, dropDashes_kept isWord, List.concat_eq_append,
        if_pos List.isEmpty_nil, List.append_nil]
      exact (joined_concat front last).symm
  · have isWord : IsWord alphabet word := ⟨empty, kept⟩
    rw [dropDashes_kept isWord, finish, if_neg (by rwa [List.isEmpty_iff]), joined_concat]

-- The name is that of the words, whatever has been read.
theorem slugFrom_words {before : List (List Symbol)} {word : List Symbol} (text : List Symbol)
    (ended : ∀ other ∈ before, IsWord alphabet other)
    (kept : ∀ symbol ∈ word, alphabet.keeps symbol = true) :
    dropDashes alphabet (slugFrom alphabet (dashed alphabet before ++ word)
        (word.isEmpty && !before.isEmpty) text) =
      joined alphabet (before ++ wordsFrom alphabet word text) := by
  induction text generalizing before word with
  | nil => exact dropDashes_dashed ended kept
  | cons symbol rest ih =>
    rw [slugFrom, wordsFrom]
    split
    · rename_i keeps
      have longer : ∀ other ∈ word ++ [symbol], alphabet.keeps other = true := by
        intro other among
        rcases List.mem_append.mp among with old | new
        · exact kept other old
        · rw [List.mem_singleton.mp new]
          exact keeps
      have state : ((word ++ [symbol]).isEmpty && !before.isEmpty) = false := by simp
      rw [← ih ended longer, List.append_assoc, state]
    · by_cases empty : word = []
      · subst empty
        rw [if_neg, finish]
        · exact ih ended kept
        · cases before with
          | nil => simp [dashed]
          | cons first others => simp
      · have filled : word.isEmpty = false := by rwa [List.isEmpty_eq_false_iff]
        have more : ∀ other ∈ before ++ [word], IsWord alphabet other := by
          intro other among
          rcases List.mem_append.mp among with old | new
          · exact ended other old
          · rw [List.mem_singleton.mp new]
            exact ⟨empty, kept⟩
        have next := @ih (before ++ [word]) [] more (by rintro _ ⟨⟩)
        have written : dashed alphabet (before ++ [word]) ++ [] =
            dashed alphabet before ++ word ++ [alphabet.dash] := by
          simp [dashed]
        have state : (([] : List Symbol).isEmpty && !(before ++ [word]).isEmpty) = true := by
          simp
        rw [written, state] at next
        rw [if_pos (by simp [filled, empty]), finish, filled, next, List.append_assoc]
        rfl

theorem slug_words (fallback text : List Symbol) : slug alphabet fallback text =
      joined alphabet (namedWords alphabet fallback text) := by
  have out : dropDashes alphabet (slugFrom alphabet [] false text) =
      joined alphabet (words alphabet text) :=
    @slugFrom_words Symbol alphabet _ [] [] text (by rintro _ ⟨⟩) (by rintro _ ⟨⟩)
  rw [slug, out, namedWords]
  cases found : words alphabet text with
  | nil => simp [joined]
  | cons word rest =>
    have isWord := words_words text word (found ▸ List.mem_cons_self)
    rw [if_neg, if_neg]
    · simp
    · intro empty
      apply isWord.nonempty
      have nothing := List.isEmpty_iff.mp empty
      rw [joined] at nothing
      cases rest with
      | nil => exact List.intercalate_singleton.symm.trans nothing
      | cons second others => simp [List.intercalate_cons_cons] at nothing

-- Names of words tell the words.
theorem joined_injective {first second : List (List Symbol)}
    (firstWords : ∀ word ∈ first, IsWord alphabet word)
    (secondWords : ∀ word ∈ second, IsWord alphabet word) (firstSome : first ≠ [])
    (secondSome : second ≠ []) :
    joined alphabet first = joined alphabet second ↔ first = second := by
  constructor
  · intro same
    rw [joined, joined] at same
    have split := congrArg (List.splitOn alphabet.dash) same
    rwa [List.splitOn_intercalate _ (fun word member => (firstWords word member).dash_not_mem)
      firstSome, List.splitOn_intercalate _
      (fun word member => (secondWords word member).dash_not_mem) secondSome] at split
  · intro same
    rw [same]

theorem slug_eq_iff {fallback : List Symbol} (isWord : IsWord alphabet fallback)
    (first second : List Symbol) : slug alphabet fallback first = slug alphabet fallback second ↔
      namedWords alphabet fallback first = namedWords alphabet fallback second := by
  rw [slug_words, slug_words]
  exact joined_injective (namedWords_words isWord first) (namedWords_words isWord second)
    (namedWords_nonempty fallback first) (namedWords_nonempty fallback second)

end Names

/-! ## Marks -/

section Marks

variable {Item Source Mark Other : Type} (source : Item → Source)

def Distinguished (mark : Item → Mark) (items : List Item) : Prop :=
  ∀ first ∈ items, ∀ second ∈ items, source first ≠ source second → mark first ≠ mark second

variable {source}

theorem distinguished_congr {mark : Item → Mark} {other : Item → Other} {items : List Item}
    (same : ∀ first ∈ items, ∀ second ∈ items,
      (mark first = mark second ↔ other first = other second)) :
    Distinguished source mark items ↔ Distinguished source other items := by
  constructor
  · intro distinguished first firstIn second secondIn differ equal
    exact distinguished first firstIn second secondIn differ
      ((same first firstIn second secondIn).mpr equal)
  · intro distinguished first firstIn second secondIn differ equal
    exact distinguished first firstIn second secondIn differ
      ((same first firstIn second secondIn).mp equal)

end Marks

/-! ## De-duplication -/

section Dedup

variable {Item Key : Type} [DecidableEq Key] (key : Item → Key)

def firsts : List Key → List Item → List Item
  | _, [] => []
  | seen, item :: rest =>
    if key item ∈ seen then firsts seen rest else item :: firsts (key item :: seen) rest

structure Kept (Item Key : Type) where
  items : List Item := []
  seen : List Key := []

def Kept.insert (kept : Kept Item Key) (item : Item) : Kept Item Key :=
  if key item ∈ kept.seen then kept else ⟨kept.items ++ [item], key item :: kept.seen⟩

variable {key}

theorem Kept.foldl_items (kept : Kept Item Key) (items : List Item) :
    (items.foldl (Kept.insert key) kept).items = kept.items ++ firsts key kept.seen items := by
  induction items generalizing kept with
  | nil => exact (List.append_nil _).symm
  | cons item rest ih =>
    rw [List.foldl_cons, ih, Kept.insert, firsts]
    split
    · rfl
    · rw [List.append_assoc]
      rfl

theorem firsts_length (seen : List Key) (items : List Item) :
    (firsts key seen items).length ≤ items.length := by
  induction items generalizing seen with
  | nil => exact Nat.le_refl _
  | cons item rest ih =>
    rw [firsts]
    split
    · exact Nat.le_succ_of_le (ih seen)
    · exact Nat.succ_le_succ (ih _)

theorem firsts_eq_self_iff (seen : List Key) (items : List Item) : firsts key seen items = items ↔
      (items.map key).Nodup ∧ ∀ item ∈ items, key item ∉ seen := by
  induction items generalizing seen with
  | nil => simp [firsts]
  | cons item rest ih =>
    rw [firsts]
    split
    · rename_i known
      constructor
      · intro same
        have length := congrArg List.length same
        have bound := @firsts_length Item Key _ key seen rest
        rw [List.length_cons] at length
        omega
      · rintro ⟨_, fresh⟩
        exact absurd known (fresh item List.mem_cons_self)
    · rename_i unknown
      have tail := ih (key item :: seen)
      rw [List.cons_inj_right, List.map_cons, List.nodup_cons]
      simp only [List.mem_cons, not_or] at tail
      constructor
      · intro same
        rcases tail.mp same with ⟨distinct, fresh⟩
        refine ⟨⟨?_, distinct⟩, ?_⟩
        · intro member
          rcases List.mem_map.mp member with ⟨other, among, equal⟩
          exact (fresh other among).1 equal
        · intro other member
          rcases List.mem_cons.mp member with rfl | among
          · exact unknown
          · exact (fresh other among).2
      · rintro ⟨⟨new, distinct⟩, fresh⟩
        apply tail.mpr
        refine ⟨distinct, ?_⟩
        intro other among
        refine ⟨?_, fresh other (List.mem_cons_of_mem _ among)⟩
        intro equal
        exact new (List.mem_map.mpr ⟨other, among, equal⟩)

theorem firsts_all_iff (items : List Item) :
    firsts key [] items = items ↔ (items.map key).Nodup := by
  rw [firsts_eq_self_iff]
  simp

end Dedup

end Onetcli.Slugs
