import Mathlib.Data.List.Basic

/-!
Writers that tell a missing value from every text by leaving its mark bare and putting every text
that equals the mark between quotes. The mark can be told apart exactly when it can stand bare.
-/

namespace Onetcli.NullMarks

/-- When a text can stand bare, and how it is written between quotes; what is between quotes can
never stand bare. -/
structure Quoting (Text : Type) where
  bare : Text → Bool
  enclose : Text → Text
  enclosed : ∀ text, bare (enclose text) = false

variable {Text : Type} (quoting : Quoting Text)

def Quoting.write (text : Text) (forced : Bool) : Text :=
  if forced || !quoting.bare text then quoting.enclose text else text

variable (mark : Text)

/-- A missing value, or a text whose quotes are forced at least when it equals the mark. -/
structure Marked (forced : Text → Bool) : Prop where
  told : ∀ text, text = mark → forced text = true

variable {mark} {forced : Text → Bool} (marked : Marked mark forced)

theorem enclose_ne_bare {text : Text} (bare : quoting.bare mark = true) :
    quoting.enclose text ≠ mark := by
  intro same
  have never := quoting.enclosed text
  rw [same, bare] at never
  cases never

include marked

theorem write_ne_mark (bare : quoting.bare mark = true) (text : Text) :
    quoting.write text (forced text) ≠ mark := by
  unfold Quoting.write
  split
  · exact enclose_ne_bare quoting bare
  · rename_i plain
    intro same
    simp [marked.told text same] at plain

theorem mark_told_iff : (∀ text, quoting.write mark false ≠ quoting.write text (forced text)) ↔
      quoting.bare mark = true := by
  constructor
  · intro differs
    by_contra quoted
    apply differs mark
    simp [Quoting.write, quoted, marked.told mark rfl]
  · intro bare text same
    have written : quoting.write mark false = mark := by simp [Quoting.write, bare]
    exact write_ne_mark quoting marked bare text (same.symm.trans written)

omit marked

/-! ## Cells -/

/-- A cell is written like a missing one only if it is missing, and a reader that takes the bare
mark for missing cells finds exactly those. -/
structure TellsNull {Cell : Type} (isNull : Cell → Bool) (written : Cell → Text) (mark : Text) :
    Prop where
  differs : ∀ null cell, isNull null = true → isNull cell = false → written null ≠ written cell
  found : ∀ cell, written cell = mark ↔ isNull cell = true

structure Written {Cell : Type} (isNull : Cell → Bool) (text : Cell → Text)
    (written : Cell → Text) (mark : Text) (forced : Text → Bool) : Prop where
  null : ∀ cell, isNull cell = true → written cell = quoting.write mark false
  value : ∀ cell, isNull cell = false → written cell = quoting.write (text cell) (forced (text cell))
  someNull : ∃ cell, isNull cell = true
  someMark : ∃ cell, isNull cell = false ∧ text cell = mark

theorem tellsNull_iff {Cell : Type} {isNull : Cell → Bool} {text written : Cell → Text}
    (marked : Marked mark forced) (cells : Written quoting isNull text written mark forced) :
    TellsNull isNull written mark ↔ quoting.bare mark = true := by
  constructor
  · intro tells
    obtain ⟨null, missing⟩ := cells.someNull
    obtain ⟨cell, present, same⟩ := cells.someMark
    by_contra quoted
    apply tells.differs null cell missing present
    rw [cells.null null missing, cells.value cell present, same]
    simp [Quoting.write, quoted, marked.told mark rfl]
  · intro bare
    have mark_bare : quoting.write mark false = mark := by simp [Quoting.write, bare]
    constructor
    · intro null cell missing present
      rw [cells.null null missing, cells.value cell present]
      exact (mark_told_iff quoting marked).mpr bare (text cell)
    · intro cell
      cases missing : isNull cell with
      | true =>
        rw [cells.null cell missing, mark_bare]
        exact iff_of_true rfl rfl
      | false =>
        rw [cells.value cell missing]
        exact iff_of_false (write_ne_mark quoting marked bare (text cell)) Bool.false_ne_true

end Onetcli.NullMarks
