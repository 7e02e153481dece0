import Onetcli.NotesExport.Lines

/-!
Fenced code in the documents of `document_lines`. A block goes from a fence to the next one
of the same kind; the loop only counts the fences that it comes to, of either kind, and a
fragment of HTML or a table takes fences along without counting them.
-/

namespace Onetcli.NotesExport

open Text Chars

/-! ## Blocks -/

inductive Fence where
  | backticks
  | tildes
  deriving DecidableEq

def fenceOf (line : Chars) : Option Fence :=
  if "```".toList.isPrefixOf (trim line) then some .backticks
  else if "~~~".toList.isPrefixOf (trim line) then some .tildes
  else none

theorem isFence_fenceOf (line : Chars) : isFence (trim line) = (fenceOf line).isSome := by
  rw [isFence, fenceOf]
  split
  · rename_i backticks
    rw [backticks]
    rfl
  · rename_i other
    rw [Bool.not_eq_true] at other
    rw [other, Bool.false_or]
    split
    · assumption
    · rename_i none
      rwa [Bool.not_eq_true] at none

/-- Whether a fence that nothing closes opens a block up to the end of the source, or none. -/
inductive Unclosed where
  | toTheEnd
  | noBlock

def opened (unclosed : Unclosed) (line : Chars) (rest : List Chars) : Option Fence :=
  (fenceOf line).filter fun fence =>
    match unclosed with
    | .toTheEnd => true
    | .noBlock => rest.any fun other => fenceOf other == some fence

def blockAfter (unclosed : Unclosed) (block : Option Fence) (line : Chars) (rest : List Chars) :
    Option Fence :=
  match block with
  | none => opened unclosed line rest
  | some fence => if fenceOf line = some fence then none else some fence

def isInside (block : Option Fence) (line : Chars) : Bool := block.isSome && fenceOf line != block

def insideFlags (unclosed : Unclosed) (block : Option Fence) : List Chars → List Bool
  | [] => []
  | line :: rest =>
    isInside block line :: insideFlags unclosed (blockAfter unclosed block line rest) rest

/-- The block that is open behind the first lines of a source. -/
def blockBehind (unclosed : Unclosed) (block : Option Fence) : Nat → List Chars → Option Fence
  | count + 1, line :: rest =>
    blockBehind unclosed (blockAfter unclosed block line rest) count rest
  | _, _ => block

theorem insideFlags_drop (unclosed : Unclosed) (block : Option Fence) (count : Nat)
    (source : List Chars) : (insideFlags unclosed block source).drop count =
      insideFlags unclosed (blockBehind unclosed block count source) (source.drop count) := by
  induction count generalizing block source with
  | zero => cases source <;> rfl
  | succ count ih =>
    cases source with
    | nil => rfl
    | cons line rest => exact ih _ rest

/-! ## Lines of code -/

def codeLine (raw : Chars) : DocumentLine := ⟨.code, trimEnd raw⟩

def isCodeLine (line : DocumentLine) : Bool := line.kind == .code

/-- The lines of code that lines with these flags are to become. -/
def insideCode (taken : List Chars) (flags : List Bool) : List DocumentLine :=
  ((taken.zip flags).filter Prod.snd).map fun line => codeLine line.1

/-- Each round makes one line of code of each line inside a block, and no others. What the
rounds make, one after the other, is the document. -/
def CodeKept : List Round → List Bool → Prop
  | [], _ => True
  | round :: rest, flags =>
    round.made.filter isCodeLine = insideCode round.taken flags ∧
      CodeKept rest (flags.drop round.taken.length)

instance decidableCodeKept : (rounds : List Round) → (flags : List Bool) →
    Decidable (CodeKept rounds flags)
  | [], _ => .isTrue trivial
  | round :: rest, flags =>
    match decEq (round.made.filter isCodeLine) (insideCode round.taken flags),
      decidableCodeKept rest (flags.drop round.taken.length) with
    | .isTrue same, .isTrue later => .isTrue ⟨same, later⟩
    | .isFalse differ, _ => .isFalse fun kept => differ kept.1
    | _, .isFalse later => .isFalse fun kept => later kept.2

def FencedCodeVerbatim (unclosed : Unclosed) (source : Chars) : Prop :=
  CodeKept (rounds false (lines source)) (insideFlags unclosed none (lines source))

/-! ## What makes lines of code -/

theorem htmlImages_plain (source : Chars) : (htmlImages source).1.filter isCodeLine = [] := by
  have body (text : Option Chars) :
      (text.toList.map fun text => (⟨.body, text⟩ : DocumentLine)).filter isCodeLine = [] := by
    cases text <;> rfl
  have image (tag : Chars) : (htmlImage tag).toList.filter isCodeLine = [] := by
    rw [htmlImage]
    cases htmlAttribute tag "src".toList <;> rfl
  fun_induction htmlImages source with
  | case1 => rfl
  | case2 => exact body _
  | case3 source before after found visible tag rest closed more ih =>
    rw [List.filter_append, List.filter_append, body, image, ih]
    rfl

theorem htmlKind_plain_code (lower text : Chars) : isCodeLine ⟨htmlKind lower, text⟩ = false := by
  unfold htmlKind
  repeat' split
  all_goals rfl

theorem parseHtmlFragment_plain (source : Chars) :
    (parseHtmlFragment source).filter isCodeLine = [] := by
  have last (text : Option Chars) : (text.toList.map fun text =>
      (⟨htmlKind (toAsciiLowercase source), text⟩ : DocumentLine)).filter isCodeLine = [] := by
    cases text with
    | none => rfl
    | some text => simp [htmlKind_plain_code]
  rw [parseHtmlFragment]
  split
  · rfl
  · rw [List.filter_append, htmlImages_plain, last]
    rfl

theorem textLine_plain (start : Chars) : isCodeLine (textLine start) = false := by
  unfold textLine
  dsimp only
  repeat' split
  all_goals rfl

theorem madeOf_code (code : Bool) (raw : Chars) (rest : List Chars) :
    (madeOf code raw rest).filter isCodeLine =
      if code && (fenceOf raw).isNone then [codeLine raw] else [] := by
  have isNone : (fenceOf raw).isNone = !isFence (trim raw) := by
    rw [isFence_fenceOf, Option.not_isSome]
  rw [isNone, madeOf]
  cases fence : isFence (trim raw) with
  | true =>
    cases code <;> rfl
  | false =>
    cases code with
    | true => rfl
    | false =>
      rw [if_neg Bool.false_ne_true, if_neg Bool.false_ne_true, Bool.false_and,
        if_neg Bool.false_ne_true]
      split
      · rfl
      · split
        · exact parseHtmlFragment_plain _
        · split
          · rfl
          · rw [plainLine]
            split
            · rfl
            · rw [List.filter_cons, textLine_plain]
              rfl

/-! ## Counting fences -/

/-- The number of fences that the loop has come to is odd (`code`) at a line that is no fence
just if the line is inside a block; and no fence that it comes to, and no line that is taken
along, is inside a block. -/
def Counted (unclosed : Unclosed) (code : Bool) (block : Option Fence) : List Chars → Prop
  | [] => True
  | raw :: rest =>
    let along := takenAlong code raw rest
    let next := blockAfter unclosed block raw rest
    (isInside block raw = (code && (fenceOf raw).isNone)) ∧
      (true ∉ (insideFlags unclosed next rest).take along.length) ∧
      Counted unclosed (code != (fenceOf raw).isSome)
        (blockBehind unclosed next along.length rest) (rest.drop along.length)
termination_by source => source.length
decreasing_by
  rw [List.length_drop, List.length_cons]
  omega

theorem insideCode_cons (line : Chars) (taken : List Chars) (flag : Bool) (flags : List Bool) :
    insideCode (line :: taken) (flag :: flags) =
      (if flag then [codeLine line] else []) ++ insideCode taken flags := by
  cases flag <;> rfl

theorem insideCode_eq_nil (taken : List Chars) (flags : List Bool) :
    insideCode taken flags = [] ↔ true ∉ flags.take taken.length := by
  induction taken generalizing flags with
  | nil => simp [insideCode]
  | cons line rest ih =>
    cases flags with
    | nil => simp [insideCode]
    | cons flag flags =>
      rw [insideCode_cons, List.length_cons, List.take_succ_cons, List.mem_cons, not_or, ← ih]
      cases flag <;> simp

theorem takenAlong_code (raw : Chars) (rest : List Chars) : takenAlong true raw rest = [] := by
  rw [takenAlong, Bool.or_true, Bool.true_or]
  rfl

-- What one round makes is right just if the count is, and nothing is taken out of a block.
theorem round_code_iff (code : Bool) (block : Option Fence) (raw : Chars)
    (rest : List Chars) (flags : List Bool) : (madeOf code raw rest).filter isCodeLine =
        insideCode (raw :: takenAlong code raw rest) (isInside block raw :: flags) ↔
      isInside block raw = (code && (fenceOf raw).isNone) ∧
        true ∉ flags.take (takenAlong code raw rest).length := by
  rw [madeOf_code, insideCode_cons, ← insideCode_eq_nil]
  cases counted : code && (fenceOf raw).isNone with
  | true =>
    rw [Bool.and_eq_true] at counted
    -- Between two fences a round takes one line.
    have none : insideCode (takenAlong code raw rest) flags = [] := by
      rw [counted.1, takenAlong_code]
      rfl
    rw [none]
    cases isInside block raw <;> simp
  | false =>
    -- Nothing is made, so none of the lines that are taken may be inside.
    rw [if_neg Bool.false_ne_true, eq_comm, List.append_eq_nil_iff]
    cases isInside block raw <;> simp

theorem codeKept_iff (unclosed : Unclosed) (code : Bool) (block : Option Fence)
    (source : List Chars) : CodeKept (rounds code source) (insideFlags unclosed block source) ↔
      Counted unclosed code block source := by
  fun_induction rounds code source generalizing block with
  | case1 => rw [Counted]; simp [CodeKept]
  | case2 code raw rest ih =>
    rw [insideFlags, CodeKept, Counted, round_code_iff]
    dsimp only
    rw [List.length_cons, List.drop_succ_cons, insideFlags_drop, ih, isFence_fenceOf, and_assoc]

/-- Fenced code is verbatim just if the fences that the loop comes to are counted right: their
number is odd exactly at the lines inside blocks. -/
theorem fenced_code_verbatim_iff (unclosed : Unclosed) (source : Chars) :
    FencedCodeVerbatim unclosed source ↔ Counted unclosed false none (lines source) :=
  codeKept_iff unclosed false none (lines source)

/-- A line of tildes in a block of backticks ends the code, and the closing fence starts it
again. -/
theorem inner_fence_ends_code :
    ¬FencedCodeVerbatim .toTheEnd "```\n~~~\ncode\n```\ntext".toList ∧
      ¬FencedCodeVerbatim .noBlock "```\n~~~\ncode\n```\ntext".toList := by
  unfold FencedCodeVerbatim
  decide +kernel

end Onetcli.NotesExport
