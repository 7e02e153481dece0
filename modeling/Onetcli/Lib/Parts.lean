import Onetcli.Lib.Chars

/-!
Where the characters of a text's parts come from, and which of them a part is without: what
stands before the first separator or behind the last one has none of it.
-/

namespace Onetcli.Chars

open Text

/-! ## Parts of a text -/

section Parts

variable {char : Char} {text before after : Chars}

theorem mem_trimEnd (member : char ∈ trimEnd text) : char ∈ text :=
  List.mem_reverse.mp ((List.dropWhile_suffix _).mem (List.mem_reverse.mp member))

theorem mem_trim (member : char ∈ trim text) : char ∈ text :=
  (List.dropWhile_suffix _).mem (mem_trimEnd member)

theorem mem_trimMatches {matching : Char → Bool} (member : char ∈ trimMatches matching text) :
    char ∈ text :=
  (List.dropWhile_suffix _).mem
    (List.mem_reverse.mp ((List.dropWhile_suffix _).mem (List.mem_reverse.mp member)))

theorem mem_trimMatches_kept {matching : Char → Bool} (kept : matching char = false) :
    char ∈ trimMatches matching text ↔ char ∈ text := by
  have front (whole : Chars) (member : char ∈ whole) : char ∈ whole.dropWhile matching := by
    have split := List.takeWhile_append_dropWhile (p := matching) (l := whole)
    rw [← split] at member
    rcases List.mem_append.mp member with taken | rest
    · have matched := List.mem_takeWhile_imp taken
      rw [kept] at matched
      cases matched
    · exact rest
  refine ⟨mem_trimMatches, fun member => ?_⟩
  exact List.mem_reverse.mpr (front _ (List.mem_reverse.mpr (front text member)))

theorem mem_replaced {old new : Chars} {skip : Nat}
    (member : char ∈ replaceFrom old new skip text) : char ∈ new ∨ char ∈ text := by
  induction text generalizing skip with
  | nil => cases skip <;> cases member
  | cons first rest ih =>
    cases skip with
    | succ skip => exact (ih member).imp_right (List.mem_cons_of_mem _)
    | zero =>
      rw [replaceFrom] at member
      split at member
      · rcases List.mem_append.mp member with inside | later
        · exact Or.inl inside
        · exact (ih later).imp_right (List.mem_cons_of_mem _)
      · rcases List.mem_cons.mp member with rfl | later
        · exact Or.inr List.mem_cons_self
        · exact (ih later).imp_right (List.mem_cons_of_mem _)

theorem mem_removed {old : Chars} (member : char ∈ replaceFrom old [] 0 text) : char ∈ text :=
  (mem_replaced member).resolve_left List.not_mem_nil

variable {separates : Char → Bool}

theorem splitOnce_split (found : splitOnce separates text = some (before, after)) :
    ∃ separator, separates separator = true ∧ text = before ++ separator :: after := by
  induction text generalizing before with
  | nil => cases found
  | cons first rest ih =>
    rw [splitOnce] at found
    split at found
    · rename_i hit
      cases found
      exact ⟨first, hit, rfl⟩
    · obtain ⟨⟨front, back⟩, here, same⟩ := Option.map_eq_some_iff.mp found
      cases same
      obtain ⟨separator, hit, rfl⟩ := ih here
      exact ⟨separator, hit, rfl⟩

theorem splitOnceText_split {pattern : Chars}
    (found : splitOnceText pattern text = some (before, after)) :
    text = before ++ (pattern ++ after) := by
  induction text generalizing before with
  | nil =>
    rw [splitOnceText] at found
    split at found
    · rename_i empty
      cases found
      rw [List.isEmpty_iff.mp empty]
      rfl
    · cases found
  | cons first rest ih =>
    rw [splitOnceText] at found
    split at found
    · rename_i start
      cases found
      obtain ⟨tail, same⟩ := List.isPrefixOf_iff_prefix.mp start
      rw [← same, List.drop_left]
      rfl
    · obtain ⟨⟨front, back⟩, here, same⟩ := Option.map_eq_some_iff.mp found
      cases same
      rw [ih here]
      rfl

theorem mem_splitOnceText {pattern : Chars}
    (found : splitOnceText pattern text = some (before, after))
    (member : char ∈ before ∨ char ∈ after) : char ∈ text := by
  rw [splitOnceText_split found]
  simp only [List.mem_append]
  tauto

theorem mem_splitOnce (found : splitOnce separates text = some (before, after))
    (member : char ∈ before ∨ char ∈ after) : char ∈ text := by
  obtain ⟨separator, _, rfl⟩ := splitOnce_split found
  simp only [List.mem_append, List.mem_cons]
  tauto

theorem stripPrefix_split {start rest : Chars} (found : stripPrefix start text = some rest) :
    text = start ++ rest := by
  rw [stripPrefix] at found
  split at found
  · rename_i begins
    cases found
    obtain ⟨tail, same⟩ := List.isPrefixOf_iff_prefix.mp begins
    rw [← same, List.drop_left]
  · cases found

theorem mem_splitOnP {piece : Chars}
    (part : piece ∈ text.splitOnP separates) (member : char ∈ piece) : char ∈ text := by
  induction text generalizing piece with
  | nil =>
    rw [List.splitOnP_nil, List.mem_singleton] at part
    exact part ▸ member
  | cons first rest ih =>
    rw [List.splitOnP_cons_eq_if_modifyHead] at part
    split at part
    · rcases List.mem_cons.mp part with rfl | later
      · cases member
      · exact List.mem_cons_of_mem _ (ih later member)
    · cases pieces : rest.splitOnP separates with
      | nil =>
        rw [pieces] at part
        cases part
      | cons head tail =>
        rw [pieces] at part ih
        rcases List.mem_cons.mp part with rfl | later
        · rcases List.mem_cons.mp member with rfl | inner
          · exact List.mem_cons_self
          · exact List.mem_cons_of_mem _ (ih List.mem_cons_self inner)
        · exact List.mem_cons_of_mem _ (ih (List.mem_cons_of_mem _ later) member)

theorem mem_splitOn {separator : Char} {piece : Chars} (part : piece ∈ text.splitOn separator)
    (member : char ∈ piece) : char ∈ text := by
  rw [List.splitOn_eq_splitOnP] at part
  exact mem_splitOnP part member

theorem mem_intercalate {separator : Chars} {pieces : List Chars}
    (member : char ∈ separator.intercalate pieces) :
    char ∈ separator ∨ ∃ piece ∈ pieces, char ∈ piece := by
  induction pieces with
  | nil => cases member
  | cons first rest ih =>
    cases rest with
    | nil =>
      rw [List.intercalate_singleton] at member
      exact Or.inr ⟨first, List.mem_cons_self, member⟩
    | cons second others =>
      rw [List.intercalate_cons_cons, List.mem_append, List.mem_append] at member
      rcases member with (here | between) | later
      · exact Or.inr ⟨first, List.mem_cons_self, here⟩
      · exact Or.inl between
      · rcases ih later with between | ⟨piece, among, inside⟩
        · exact Or.inl between
        · exact Or.inr ⟨piece, List.mem_cons_of_mem _ among, inside⟩

theorem mem_intercalate_of_mem {separator piece : Chars} {pieces : List Chars}
    (among : piece ∈ pieces) (member : char ∈ piece) : char ∈ separator.intercalate pieces := by
  induction pieces with
  | nil => cases among
  | cons first rest ih =>
    cases rest with
    | nil =>
      rw [List.intercalate_singleton]
      exact List.mem_singleton.mp among ▸ member
    | cons second others =>
      rw [List.intercalate_cons_cons, List.append_assoc, List.mem_append, List.mem_append]
      rcases List.mem_cons.mp among with rfl | later
      · exact Or.inl member
      · exact Or.inr (Or.inr (ih later))

theorem mem_firstPart (member : char ∈ firstPart separates text) : char ∈ text := by
  rw [firstPart] at member
  split at member
  · rename_i found
    exact mem_splitOnce found (Or.inl member)
  · exact member

theorem mem_lastPart (member : char ∈ lastPart separates text) : char ∈ text := by
  rw [lastPart, rsplitOnce] at member
  split at member
  · rename_i found
    obtain ⟨⟨back, front⟩, here, same⟩ := Option.map_eq_some_iff.mp found
    cases same
    exact List.mem_reverse.mp (mem_splitOnce here (Or.inl (List.mem_reverse.mp member)))
  · exact member

end Parts

/-! ## Parts without a separator -/

section Clean

variable {separates : Char → Bool} {text before after : Chars}

theorem splitOnce_before (found : splitOnce separates text = some (before, after)) :
    ∀ char ∈ before, separates char = false := by
  induction text generalizing before with
  | nil => cases found
  | cons first rest ih =>
    rw [splitOnce] at found
    split at found
    · cases found
      rintro _ ⟨⟩
    · rename_i other
      obtain ⟨⟨front, back⟩, here, same⟩ := Option.map_eq_some_iff.mp found
      cases same
      intro char member
      rcases List.mem_cons.mp member with rfl | later
      · exact Bool.eq_false_iff.mpr other
      · exact ih here char later

theorem splitOnce_none (found : splitOnce separates text = none) :
    ∀ char ∈ text, separates char = false := by
  induction text with
  | nil => rintro _ ⟨⟩
  | cons first rest ih =>
    rw [splitOnce] at found
    split at found
    · cases found
    · rename_i other
      intro char member
      rcases List.mem_cons.mp member with rfl | later
      · exact Bool.eq_false_iff.mpr other
      · exact ih (Option.map_eq_none_iff.mp found) char later

theorem firstPart_clean (separates : Char → Bool) (text : Chars) :
    ∀ char ∈ firstPart separates text, separates char = false := by
  rw [firstPart]
  split
  · rename_i found
    exact splitOnce_before found
  · rename_i found
    exact splitOnce_none found

theorem lastPart_clean (separates : Char → Bool) (text : Chars) :
    ∀ char ∈ lastPart separates text, separates char = false := by
  rw [lastPart, rsplitOnce]
  cases found : splitOnce separates text.reverse with
  | none =>
    intro char member
    exact splitOnce_none found char (List.mem_reverse.mpr member)
  | some parts =>
    intro char member
    exact splitOnce_before found char (List.mem_reverse.mp member)

theorem not_mem_firstPart (delimiter : Char) (text : Chars) :
    delimiter ∉ firstPart (· == delimiter) text := by
  intro member
  exact absurd (firstPart_clean _ text delimiter member) (by simp)

theorem not_mem_lastPart (delimiter : Char) (text : Chars) :
    delimiter ∉ lastPart (· == delimiter) text := by
  intro member
  exact absurd (lastPart_clean _ text delimiter member) (by simp)

theorem firstPart_absent {delimiter : Char} (absent : delimiter ∉ text) :
    firstPart (· == delimiter) text = text := by
  rw [firstPart, splitOnce_absent absent]

end Clean

/-! ## Texts in a text -/

theorem splitOnceText_first {first : Char} {before : Chars} (absent : first ∉ before)
    (more after : Chars) :
    splitOnceText (first :: more) (before ++ (first :: more ++ after)) = some (before, after) := by
  induction before with
  | nil =>
    have here : (first :: more).isPrefixOf (first :: (more ++ after)) = true :=
      List.isPrefixOf_iff_prefix.mpr (List.prefix_append (first :: more) after)
    rw [List.nil_append, List.cons_append, splitOnceText, if_pos here]
    have dropped : (first :: more ++ after).drop (first :: more).length = after := List.drop_left
    exact congrArg some (congrArg (Prod.mk []) dropped)
  | cons char rest ih =>
    rw [List.mem_cons, not_or] at absent
    have other : ¬(first :: more).isPrefixOf (char :: (rest ++ (first :: more ++ after))) =
        true := by
      intro start
      have same := (List.cons_prefix_cons.mp (List.isPrefixOf_iff_prefix.mp start)).1
      exact absent.1 same
    rw [List.cons_append, splitOnceText, if_neg other, ih absent.2]
    rfl

theorem splitOnceText_absent {pattern text : Chars} {char : Char} (member : char ∈ pattern)
    (absent : char ∉ text) : splitOnceText pattern text = none := by
  cases found : splitOnceText pattern text with
  | none => rfl
  | some parts =>
    have split := splitOnceText_split found
    rw [split] at absent
    exact absurd (List.mem_append_right _ (List.mem_append_left _ member)) absent

theorem digit_not_white {char : Char} (digit : char.isDigit = true) :
    isWhiteSpace char = false := by
  rw [Char.isDigit, Bool.and_eq_true, decide_eq_true_eq, decide_eq_true_eq,
    ge_iff_le, UInt32.le_iff_toNat_le, UInt32.le_iff_toNat_le] at digit
  have low : 48 ≤ char.toNat := digit.1
  have high : char.toNat ≤ 57 := digit.2
  simp only [isWhiteSpace, Bool.or_eq_false_iff, Bool.and_eq_false_imp, decide_eq_true_eq,
    decide_eq_false_iff_not, beq_eq_false_iff_ne]
  omega

/-! ## A part behind a mark -/

def tailText (mark : Char) (part : Option Chars) : Chars :=
  match part with
  | some text => mark :: text
  | none => []

/-- What stands before the first mark, and behind it if there is one. -/
def cutTail (mark : Char) (text : Chars) : Chars × Option Chars :=
  match splitOnce (· == mark) text with
  | some (front, tail) => (front, some tail)
  | none => (text, none)

theorem cutTail_text {mark : Char} {front : Chars} (clean : mark ∉ front) (part : Option Chars) :
    cutTail mark (front ++ tailText mark part) = (front, part) := by
  cases part with
  | none =>
    rw [tailText, List.append_nil, cutTail, splitOnce_absent clean]
  | some text =>
    rw [tailText, cutTail, splitOnce_append (unequal_of_absent clean) (beq_self_eq_true mark)]

theorem cutTail_eq {mark : Char} {text front : Chars} {part : Option Chars}
    (cut : cutTail mark text = (front, part)) : text = front ++ tailText mark part := by
  unfold cutTail at cut
  split at cut
  · rename_i found
    cases cut
    obtain ⟨separator, hit, rfl⟩ := splitOnce_split found
    rw [beq_iff_eq.mp hit]
    rfl
  · cases cut
    exact (List.append_nil _).symm

theorem mem_tailText {mark : Char} {part : Option Chars} {char : Char} :
    char ∈ tailText mark part ↔ ∃ text, part = some text ∧ (char = mark ∨ char ∈ text) := by
  cases part with
  | none => simp [tailText]
  | some text => simp [tailText]

theorem mem_tailText_getD {mark char : Char} (other : char ≠ mark) {part : Option Chars} :
    char ∈ tailText mark part ↔ char ∈ part.getD [] := by
  cases part with
  | none => simp [tailText]
  | some text => simp [tailText, other]

/-! ## A pattern in a text with separators -/

theorem infix_separated {pattern : Chars} {separator : Char} (absent : separator ∉ pattern)
    (before after : Chars) :
    pattern <:+: before ++ separator :: after ↔ pattern <:+: before ∨ pattern <:+: after := by
  constructor
  · rintro ⟨front, back, same⟩
    rw [List.append_assoc, List.append_eq_append_iff] at same
    rcases same with ⟨rest, rfl, whole⟩ | ⟨rest, rfl, whole⟩
    · -- the pattern begins in what stands before the separator
      rcases List.append_eq_append_iff.mp whole with ⟨more, rfl, tail⟩ | ⟨more, rfl, tail⟩
      · exact Or.inl ⟨front, more, by simp⟩
      · cases more with
        | nil => exact Or.inl ⟨front, [], by simp⟩
        | cons first more =>
          obtain ⟨rfl, _⟩ := List.cons.inj tail
          exact absurd (List.mem_append_right _ List.mem_cons_self) absent
    · cases rest with
      | nil =>
        cases pattern with
        | nil => exact Or.inl (List.nil_infix)
        | cons first more =>
          obtain ⟨rfl, _⟩ := List.cons.inj whole
          exact absurd List.mem_cons_self absent
      | cons first rest =>
        obtain ⟨rfl, rfl⟩ := List.cons.inj whole
        exact Or.inr ⟨rest, back, by simp⟩
  · rintro (⟨front, back, rfl⟩ | ⟨front, back, rfl⟩)
    · exact ⟨front, back ++ separator :: after, by simp⟩
    · exact ⟨before ++ separator :: front, back, by simp⟩

end Onetcli.Chars
