import Onetcli.NotesExport.Pdf

/-!
The texts in the PDF files of notes: wrapping and the runs of two fonts lose nothing of what
is drawn, which is the text of a line without ASCII control characters. Other control
characters are drawn, and every item of an ordered list has the number 1.
-/

namespace Onetcli.NotesExport

open Text Chars PdfStrings

/-! ## Characters -/

/-- A text as it is to be shown: without control characters, with tabs as blanks. -/
def cleanChar (char : Char) : Chars :=
  if char = '\t' then "    ".toList else if isControl char then [] else [char]

def cleanText (text : Chars) : Chars := text.flatMap cleanChar

def drawnChar (char : Char) : Chars := if isAscii char then cleanChar char else [char]

def drawn (text : Chars) : Chars := text.flatMap drawnChar

theorem drawn_append (first second : Chars) : drawn (first ++ second) = drawn first ++ drawn second :=
  List.flatMap_append

theorem drawn_ascii {text : Chars} (ascii : ∀ char ∈ text, isAscii char = true) :
    drawn text = cleanText text := by
  induction text with
  | nil => rfl
  | cons char rest ih =>
    rw [drawn, cleanText, List.flatMap_cons, List.flatMap_cons, drawnChar,
      if_pos (ascii char List.mem_cons_self)]
    exact congrArg (cleanChar char ++ ·) (ih fun other member =>
      ascii other (List.mem_cons_of_mem _ member))

theorem drawn_other {text : Chars} (others : ∀ char ∈ text, isAscii char = false) :
    drawn text = text := by
  induction text with
  | nil => rfl
  | cons char rest ih =>
    rw [drawn, List.flatMap_cons, drawnChar, others char List.mem_cons_self,
      if_neg Bool.false_ne_true]
    exact congrArg (char :: ·) (ih fun other member =>
      others other (List.mem_cons_of_mem _ member))

theorem pdfLiteral_eq (text : Chars) : pdfLiteral text = escapeLiteral (cleanText text) := by
  rw [pdfLiteral]
  induction text with
  | nil => rfl
  | cons char rest ih =>
    rw [cleanText, List.flatMap_cons, escapeLiteral, List.flatMap_append]
    change _ = _ ++ escapeLiteral (cleanText rest)
    rw [← ih, cleanChar]
    by_cases tab : char = '\t'
    · subst tab
      rfl
    · have noTab : (char == '\t') = false := beq_eq_false_iff_ne.mpr tab
      rw [if_neg tab]
      cases control : isControl char with
      | true =>
        have dropped : ¬(!isControl char || char == '\t') = true := by
          rw [control, noTab]
          decide
        rw [List.filter_cons, if_neg dropped]
        rfl
      | false =>
        have kept : (!isControl char || char == '\t') = true := by
          rw [control]
          rfl
        rw [List.filter_cons, if_pos kept, List.flatMap_cons, if_neg Bool.false_ne_true,
          List.flatMap_singleton]
        congr 1
        by_cases opening : char = '('
        · subst opening
          rfl
        · by_cases closing : char = ')'
          · subst closing
            rfl
          · by_cases backslash : char = '\\'
            · subst backslash
              rfl
            · rw [if_neg opening, if_neg closing, if_neg backslash, if_neg tab, if_neg]
              rw [not_or, not_or]
              exact ⟨opening, closing, backslash⟩

/-! ## Runs -/

section Draws

variable {Number : Type} (floats : Floats Number)

theorem numeric_quiet : ∀ char, isNumeric char = true → char ≠ '(' ∧ char ≠ '<' := by
  intro char numeric
  constructor
  · rintro rfl
    exact absurd numeric (by decide)
  · rintro rfl
    exact absurd numeric (by decide)

theorem format_quiet (number : Number) : Quiet (floats.format number) := fun char member =>
  numeric_quiet char (List.all_eq_true.mp (floats.format_numeric number) char member)

variable (size y : Number)

theorem runStart_quiet (font : String) (quiet : Quiet font.toList) (cursorX : Number) :
    Quiet (runStart floats size y font cursorX) := by
  have first : Quiet "BT /".toList := quiet_of_all (by decide)
  have second : Quiet " Tf 0.12 0.12 0.12 rg 1 0 0 1 ".toList := quiet_of_all (by decide)
  have third : Quiet " Tm ".toList := quiet_of_all (by decide)
  have number (value : Number) : Quiet (' ' :: floats.format value) :=
    Quiet.cons (by decide) (by decide) (format_quiet floats value)
  unfold runStart
  exact (((((first.append quiet).append (number size)).append second).append
    (format_quiet floats cursorX)).append (number y)).append third

/-- The commands so far show all but the run, which is of one font. -/
def TextRun.Holds (state : TextRun Number) (text : Chars) : Prop :=
  (∃ before, text = before ++ state.run ∧ Shows state.output (drawn before)) ∧
    ∀ char ∈ state.run, state.ascii = some (isAscii char)

theorem TextRun.flush_shows {state : TextRun Number} {ascii : Bool} {before : Chars}
    (shows : Shows state.output (drawn before)) (kind : ∀ char ∈ state.run, isAscii char = ascii) :
    Shows (state.flush floats size y ascii).output (drawn (before ++ state.run)) := by
  have ending : Quiet "ET\n".toList := quiet_of_all (by decide)
  rw [TextRun.flush, drawn_append]
  split
  · rename_i empty
    rw [List.isEmpty_iff.mp empty]
    change Shows state.output (drawn before ++ [])
    rw [List.append_nil]
    exact shows
  · refine shows.append ?_
    cases ascii with
    | true =>
      have start := runStart_quiet floats size y "F2" (quiet_of_all (by decide))
        state.cursorX
      -- In ASCII the literal has the clean text.
      have shown := literal_shows (cleanText state.run) start ending
      rw [drawn_ascii kind, if_pos rfl, pdfLiteral_eq, List.append_assoc, List.append_assoc]
      exact shown
    | false =>
      have start := runStart_quiet floats size y "F1" (quiet_of_all (by decide))
        state.cursorX
      -- In the other font the text is written as it is.
      have shown := hex_shows state.run start ending
      rw [drawn_other kind, if_neg Bool.false_ne_true, utf16beHex, List.append_assoc,
        List.append_assoc]
      exact shown

theorem TextRun.flush_ascii (state : TextRun Number) (ascii : Bool) :
    (state.flush floats size y ascii).ascii = state.ascii ∧
      (state.flush floats size y ascii).run = [] := by
  rw [TextRun.flush]
  split
  · rename_i empty
    exact ⟨rfl, List.isEmpty_iff.mp empty⟩
  · exact ⟨rfl, rfl⟩

theorem TextRun.push_holds {state : TextRun Number} {text : Chars} (holds : state.Holds text)
    (char : Char) : (state.push floats size y char).Holds (text ++ [char]) := by
  obtain ⟨⟨before, split, shows⟩, kind⟩ := holds
  have continued (same : ∀ other ∈ state.run, isAscii other = isAscii char) :
      TextRun.Holds { state with ascii := some (isAscii char), run := state.run ++ [char] }
        (text ++ [char]) := by
    refine ⟨⟨before, ?_, shows⟩, ?_⟩
    · rw [split, List.append_assoc]
    · intro other member
      rcases List.mem_append.mp member with earlier | last
      · exact congrArg some (same other earlier).symm
      · rw [List.mem_singleton.mp last]
  rw [TextRun.push]
  cases current : state.ascii with
  | none =>
    refine continued fun other member => ?_
    have known := kind other member
    rw [current] at known
    cases known
  | some ascii =>
    have same : ∀ other ∈ state.run, isAscii other = ascii := by
      intro other member
      have known := kind other member
      rw [current] at known
      exact (Option.some.inj known).symm
    by_cases change : (ascii != isAscii char) = true
    · -- The font changes: the run is shown and a new one starts with the character.
      obtain ⟨_, empty⟩ := TextRun.flush_ascii floats size y state ascii
      have flushed := TextRun.flush_shows floats size y shows same
      rw [← split] at flushed
      dsimp only
      rw [if_pos change, empty]
      refine ⟨⟨text, rfl, flushed⟩, ?_⟩
      intro other member
      rw [List.nil_append] at member
      rw [List.mem_singleton.mp member]
    · dsimp only
      rw [if_neg change]
      rw [bne_iff_ne, ne_eq, Decidable.not_not] at change
      exact continued fun other member => (same other member).trans change

theorem TextRun.run_holds {state : TextRun Number} {before : Chars} (holds : state.Holds before)
    (text : Chars) : (text.foldl (TextRun.push floats size y) state).Holds (before ++ text) := by
  induction text generalizing state before with
  | nil =>
    rw [List.append_nil]
    exact holds
  | cons char rest ih =>
    have later := ih (TextRun.push_holds floats size y holds char)
    rw [List.append_assoc] at later
    exact later

theorem pdfTextCommands_shows (text : Chars) (x : Number) :
    Shows (pdfTextCommands floats text size x y) (drawn text) := by
  have start : TextRun.Holds { cursorX := x } [] :=
    ⟨⟨[], rfl, Quiet.shows fun _ member => absurd member List.not_mem_nil⟩,
      fun _ member => absurd member List.not_mem_nil⟩
  obtain ⟨⟨before, split, shows⟩, kind⟩ := TextRun.run_holds floats size y start text
  rw [List.nil_append] at split
  rw [pdfTextCommands]
  split
  · rename_i ascii current
    have same : ∀ char ∈ (text.foldl (TextRun.push floats size y) { cursorX := x }).run,
        isAscii char = ascii := by
      intro char member
      have known := kind char member
      rw [current] at known
      exact (Option.some.inj known).symm
    have flushed := TextRun.flush_shows floats size y shows same
    rw [← split] at flushed
    exact flushed
  · rename_i unknown
    -- No font is known only while the run is empty.
    have empty : (text.foldl (TextRun.push floats size y) { cursorX := x }).run = [] := by
      refine List.eq_nil_iff_forall_not_mem.mpr fun char member => ?_
      have known := kind char member
      rw [unknown] at known
      cases known
    rw [empty, List.append_nil] at split
    rw [← split] at shows
    exact shows

/-! ## Wrapping -/

theorem Wrapping.push_flatten (maxWidth : Number) (state : Wrapping Number) (char : Char) :
    (state.push floats size maxWidth char).output.flatten ++
        (state.push floats size maxWidth char).current =
      state.output.flatten ++ state.current ++ [char] := by
  rw [Wrapping.push]
  split
  · rw [List.flatten_append, List.flatten_singleton, List.nil_append]
  · rw [List.append_assoc]

theorem wrapText_flatten (text : Chars) (maxWidth : Number) :
    (wrapText floats text size maxWidth).flatten = text := by
  have run (state : Wrapping Number) (text : Chars) :
      (text.foldl (Wrapping.push floats size maxWidth) state).output.flatten ++
          (text.foldl (Wrapping.push floats size maxWidth) state).current =
        state.output.flatten ++ state.current ++ text := by
    induction text generalizing state with
    | nil => rw [List.append_nil]; rfl
    | cons char rest ih =>
      rw [List.foldl_cons, ih, Wrapping.push_flatten, List.append_assoc]
      rfl
  have whole := run { width := floats.whole 0 } text
  rw [wrapText]
  split
  · rename_i empty
    rw [List.isEmpty_iff.mp empty]
    rfl
  · dsimp only
    split
    · rename_i closed
      rw [List.isEmpty_iff.mp closed, List.append_nil] at whole
      exact whole
    · rw [List.flatten_append, List.flatten_singleton]
      exact whole

/-! ## Pages -/

/-- Between two states of the pages content is added that shows a text. -/
def Draws (before after : Pages Number) (text : Chars) : Prop :=
  ∃ emitted, after.all.flatten = before.all.flatten ++ emitted ∧ Shows emitted text

theorem quiet_nil : Quiet [] := fun _ member => absurd member List.not_mem_nil

theorem Draws.refl (pages : Pages Number) : Draws pages pages [] :=
  ⟨[], (List.append_nil _).symm, quiet_nil.shows⟩

theorem Draws.trans {before middle after : Pages Number} {first second : Chars}
    (early : Draws before middle first) (late : Draws middle after second) :
    Draws before after (first ++ second) := by
  obtain ⟨one, same, shows⟩ := early
  obtain ⟨two, next, more⟩ := late
  refine ⟨one ++ two, ?_, shows.append more⟩
  rw [next, same, List.append_assoc]

theorem Pages.push_draws (pages : Pages Number) {content text : Chars}
    (shows : Shows content text) : Draws pages (pages.push content) text := by
  refine ⟨content, ?_, shows⟩
  rw [Pages.all, Pages.all, Pages.push, List.flatten_append, List.flatten_append,
    List.flatten_singleton, List.flatten_singleton, List.append_assoc]

theorem Pages.next_draws (pages : Pages Number) : Draws pages (pages.next floats) [] := by
  refine ⟨pageStart, ?_, Quiet.shows (quiet_of_all (by decide))⟩
  rw [Pages.next, Pages.all, List.flatten_append, List.flatten_singleton]

theorem Draws.up {before after : Pages Number} {text : Chars} (draws : Draws before after text)
    (height : Number) : Draws before (after.up floats height) text := draws

theorem next_if_draws (full : Bool) (pages : Pages Number) :
    Draws pages (if full then pages.next floats else pages) [] := by
  cases full with
  | true => exact pages.next_draws floats
  | false => exact Draws.refl pages

theorem layoutWrapped_draws (size indent leading : Nat) (pages : Pages Number) (wrapped : Chars) :
    Draws pages (layoutWrapped floats size indent leading pages wrapped) (drawn wrapped) := by
  -- The page may be full, and a new one shows nothing.
  have room := next_if_draws floats (floats.less pages.y (floats.whole 58)) pages
  have text := Pages.push_draws
    (if floats.less pages.y (floats.whole 58) then pages.next floats else pages)
    (pdfTextCommands_shows floats (floats.whole size)
      (if floats.less pages.y (floats.whole 58) then pages.next floats else pages).y wrapped
      (floats.add (floats.whole 54) (floats.whole indent)))
  exact (room.trans text).up floats (floats.whole leading)

theorem layoutText_draws (line : DocumentLine) (pages : Pages Number) :
    Draws pages (layoutText floats line pages) (drawn (displayText line)) := by
  have pieces (size indent leading : Nat) (pages : Pages Number) (parts : List Chars) :
      Draws pages (parts.foldl (layoutWrapped floats size indent leading) pages)
        (drawn parts.flatten) := by
    induction parts generalizing pages with
    | nil => exact Draws.refl pages
    | cons part rest ih =>
      rw [List.flatten_cons, drawn_append]
      exact (layoutWrapped_draws floats size indent leading pages part).trans (ih _)
  rw [layoutText]
  have whole := pieces (lineStyle line.kind).1 (lineStyle line.kind).2.1 (lineStyle line.kind).2.2
    pages (wrapText floats (displayText line) (floats.whole (lineStyle line.kind).1)
      (floats.sub (floats.whole 487) (floats.whole (lineStyle line.kind).2.1)))
  rw [wrapText_flatten] at whole
  dsimp only
  split
  · exact whole.up floats _
  · exact whole

/-! ## Lines -/

variable (decode : ExportAsset → Option PdfImage) (assets : List ExportAsset)

theorem hexEncode_quiet (bytes : List UInt8) : Quiet (hexEncode bytes) := by
  have digit : ∀ value < 16, PdfStrings.hexUpper value ≠ '(' ∧ PdfStrings.hexUpper value ≠ '<' := by
    decide
  intro char member
  obtain ⟨byte, _, among⟩ := List.mem_flatMap.mp member
  have small := byte.toNat_lt
  rcases List.mem_cons.mp among with rfl | low
  · exact digit _ (by omega)
  · rw [List.mem_singleton.mp low]
    exact digit _ (by omega)

theorem digits_quiet (number : Nat) : Quiet (PdfFiles.digits number) := by
  intro char member
  have digit := PdfFiles.digits_isDigit number char member
  constructor
  · rintro rfl
    cases digit
  · rintro rfl
    cases digit

theorem findImage_quiet {path : Chars} {maxWidth maxHeight : Number}
    {found : Chars × Number × Number}
    (image : findImage floats decode assets path maxWidth maxHeight = some found) :
    Quiet found.1 := by
  obtain ⟨asset, _, inline⟩ := Option.bind_eq_some_iff.mp image
  obtain ⟨pixels, _, sized⟩ := Option.bind_eq_some_iff.mp inline
  dsimp only at sized
  split at sized
  · cases sized
  · cases sized
    have first : Quiet "BI /W ".toList := quiet_of_all (by decide)
    have second : Quiet " /H ".toList := quiet_of_all (by decide)
    have third : Quiet " /CS /RGB /BPC 8 /F /ASCIIHexDecode ID\n".toList :=
      quiet_of_all (by decide)
    have fourth : Quiet ">\nEI".toList := quiet_of_all (by decide)
    exact (((((first.append (digits_quiet _)).append second).append (digits_quiet _)).append
      third).append (hexEncode_quiet _)).append fourth

theorem placeImage_quiet (width height : Number) {place command : Chars} (placed : Quiet place)
    (quiet : Quiet command) : Quiet (placeImage floats width height place command) := by
  have first : Quiet "q ".toList := quiet_of_all (by decide)
  have second : Quiet " 0 0 ".toList := quiet_of_all (by decide)
  have third : Quiet " cm\n".toList := quiet_of_all (by decide)
  have fourth : Quiet "\nQ\n".toList := quiet_of_all (by decide)
  unfold placeImage
  exact ((((((first.append (format_quiet floats width)).append second).append
    (format_quiet floats height)).append (Quiet.cons (by decide) (by decide) placed)).append
      third).append quiet).append fourth

/-- The text for an image, which stands only where there is none to draw. -/
def imageText (image : ImageData) : Chars :=
  if (findImage floats decode assets image.path (floats.whole 487) (floats.whole 300)).isSome then []
  else if image.alt.isEmpty then "Image".toList
  else image.alt

def lineText (line : DocumentLine) (number : Chars) : Chars :=
  match line.kind with
  | .blank | .table _ => []
  | .image image => imageText floats decode assets image
  | .bullet => "- ".toList ++ line.text
  | .ordered => number ++ ". ".toList ++ line.text
  | _ => line.text

theorem layoutImage_draws (image : ImageData) (pages : Pages Number) :
    Draws pages (layoutImage floats decode assets image pages)
      (drawn (imageText floats decode assets image)) := by
  rw [layoutImage, imageText]
  cases found : findImage floats decode assets image.path (floats.whole 487) (floats.whole 300) with
  | none =>
    rw [Option.isSome_none, if_neg Bool.false_ne_true]
    exact (Pages.push_draws pages (pdfTextCommands_shows floats (floats.whole 11) pages.y _
      (floats.whole 54))).up floats _
  | some placed =>
    obtain ⟨command, width, height⟩ := placed
    have quiet : Quiet command := findImage_quiet floats decode assets found
    have left : Quiet "54 ".toList := quiet_of_all (by decide)
    rw [Option.isSome_some, if_pos rfl]
    dsimp only
    have room := next_if_draws floats (floats.less (floats.sub pages.y height) (floats.whole 58))
      pages
    have image := Pages.push_draws
      (if floats.less (floats.sub pages.y height) (floats.whole 58) then pages.next floats
      else pages)
      (placeImage_quiet floats width height (left.append (format_quiet floats (floats.sub
        (if floats.less (floats.sub pages.y height) (floats.whole 58) then pages.next floats
        else pages).y height))) quiet).shows
    exact (room.trans image).up floats _

def isTable (line : DocumentLine) : Bool :=
  match line.kind with
  | .table _ => true
  | _ => false

theorem layoutLine_draws {line : DocumentLine} (plain : isTable line = false)
    (pages : Pages Number) : Draws pages (layoutLine floats decode assets pages line)
      (drawn (lineText floats decode assets line ['1'])) := by
  obtain ⟨kind, text⟩ := line
  cases kind with
  | table => cases plain
  | image image => exact layoutImage_draws floats decode assets image pages
  | blank => exact (Draws.refl pages).up floats _
  | heading level => exact layoutText_draws floats ⟨.heading level, text⟩ pages
  | body => exact layoutText_draws floats ⟨.body, text⟩ pages
  | quote => exact layoutText_draws floats ⟨.quote, text⟩ pages
  | bullet => exact layoutText_draws floats ⟨.bullet, text⟩ pages
  | ordered => exact layoutText_draws floats ⟨.ordered, text⟩ pages
  | code => exact layoutText_draws floats ⟨.code, text⟩ pages

def emittedBy (pages : Pages Number) (line : DocumentLine) : Chars :=
  (layoutLine floats decode assets pages line).all.flatten.drop pages.all.flatten.length

theorem emittedBy_shown {line : DocumentLine} (plain : isTable line = false)
    (pages : Pages Number) : shownText (emittedBy floats decode assets pages line) =
      drawn (lineText floats decode assets line ['1']) := by
  obtain ⟨emitted, same, shows⟩ := layoutLine_draws floats decode assets plain pages
  rw [emittedBy, same, List.drop_left]
  exact shows.text

end Draws

/-! ## What is drawn -/

theorem ascii_tab {char : Char} (other : isAscii char = false) : char ≠ '\t' := by
  rintro rfl
  cases other

theorem cleanText_length (text : Chars) : (cleanText text).length ≤ (drawn text).length := by
  induction text with
  | nil => exact Nat.le_refl _
  | cons char rest ih =>
    have single : (cleanChar char).length ≤ (drawnChar char).length := by
      rw [drawnChar]
      cases ascii : isAscii char with
      | true => exact Nat.le_refl _
      | false =>
        rw [if_neg Bool.false_ne_true, cleanChar, if_neg (ascii_tab ascii)]
        split
        · exact Nat.zero_le _
        · exact Nat.le_refl _
    rw [cleanText, drawn, List.flatMap_cons, List.flatMap_cons, List.length_append,
      List.length_append]
    exact Nat.add_le_add single ih

theorem drawn_clean_iff (text : Chars) : drawn text = cleanText text ↔
    ∀ char ∈ text, isControl char = true → isAscii char = true := by
  induction text with
  | nil => exact ⟨fun _ _ member => absurd member List.not_mem_nil, fun _ => rfl⟩
  | cons char rest ih =>
    rw [List.forall_mem_cons, ← ih]
    have front : drawn (char :: rest) = drawnChar char ++ drawn rest := List.flatMap_cons
    have clean : cleanText (char :: rest) = cleanChar char ++ cleanText rest := List.flatMap_cons
    rw [front, clean, drawnChar]
    cases ascii : isAscii char with
    | true =>
      rw [if_pos rfl, List.append_cancel_left_eq]
      exact ⟨fun same => ⟨fun _ => rfl, same⟩, And.right⟩
    | false =>
      rw [if_neg Bool.false_ne_true, cleanChar, if_neg (ascii_tab ascii)]
      cases control : isControl char with
      | true =>
        rw [if_pos rfl, List.nil_append]
        refine ⟨fun same => ?_, fun plain => absurd (plain.1 rfl) Bool.false_ne_true⟩
        -- The character is drawn, and nothing else makes up for it.
        have longer := cleanText_length rest
        have lengths := congrArg List.length same
        rw [List.length_append, List.length_singleton] at lengths
        omega
      | false =>
        rw [if_neg Bool.false_ne_true, List.append_cancel_left_eq]
        exact ⟨fun same => ⟨fun impossible => absurd impossible Bool.false_ne_true, same⟩,
          And.right⟩

theorem digit_plain {char : Char} (digit : isAsciiDigit char = true) :
    isAscii char = true ∧ cleanChar char = [char] ∧ (char == '.') = false := by
  rw [isAsciiDigit, Bool.and_eq_true, decide_eq_true_eq, decide_eq_true_eq] at digit
  have ascii : isAscii char = true := by
    rw [isAscii, decide_eq_true_eq]
    omega
  have plain : isControl char = false := by
    rw [isControl, Bool.or_eq_false_iff, Bool.and_eq_false_iff, decide_eq_false_iff_not,
      decide_eq_false_iff_not, decide_eq_false_iff_not]
    omega
  refine ⟨ascii, ?_, ?_⟩
  · rw [cleanChar, if_neg, plain, if_neg Bool.false_ne_true]
    rintro rfl
    exact absurd plain (by decide)
  · rw [beq_eq_false_iff_ne]
    rintro rfl
    exact absurd digit (by decide)

theorem item_drawn_iff {number : Chars} (numeric : number.all isAsciiDigit = true) (text : Chars) :
    drawn (['1'] ++ ". ".toList ++ text) = cleanText (number ++ ". ".toList ++ text) ↔
      number = ['1'] ∧ drawn text = cleanText text := by
  have digits : cleanText number = number := by
    induction number with
    | nil => rfl
    | cons char rest ih =>
      rw [List.all_cons, Bool.and_eq_true] at numeric
      have front : cleanText (char :: rest) = cleanChar char ++ cleanText rest :=
        List.flatMap_cons
      rw [front, (digit_plain numeric.1).2.1, ih numeric.2]
      rfl
  have one : drawn (['1'] ++ ". ".toList ++ text) = ['1'] ++ '.' :: ' ' :: drawn text := rfl
  have own : cleanText (number ++ ". ".toList ++ text) =
      number ++ '.' :: ' ' :: cleanText text := by
    rw [cleanText, List.flatMap_append, List.flatMap_append, List.append_assoc]
    exact congrArg (· ++ '.' :: ' ' :: cleanText text) digits
  rw [one, own]
  constructor
  · intro same
    have point : ('.' == '.') = true := rfl
    have plain : ∀ char ∈ ['1'], (char == '.') = false := List.forall_mem_singleton.mpr rfl
    have numbered : ∀ char ∈ number, (char == '.') = false := fun char member =>
      (digit_plain (List.all_eq_true.mp numeric char member)).2.2
    -- Neither number has a point, so both texts are cut behind their numbers.
    have first := splitOnce_append plain point (' ' :: drawn text)
    have second := splitOnce_append numbered point (' ' :: cleanText text)
    rw [same, second, Option.some.injEq, Prod.mk.injEq, List.cons.injEq] at first
    exact ⟨first.1, first.2.2.symm⟩
  · rintro ⟨rfl, same⟩
    rw [same]

/-! ## Items of ordered lists -/

def Round.number (round : Round) : Chars :=
  ((round.taken.head?.bind fun raw => orderedListItem (trim raw)).map Prod.fst).getD []

def numberedLines (source : Chars) : List (DocumentLine × Chars) :=
  (rounds false (lines source)).flatMap fun round => round.made.map fun line => (line, round.number)

theorem numberedLines_fst (source : Chars) :
    (numberedLines source).map Prod.fst = documentLines source := by
  rw [numberedLines, List.map_flatMap, documentLines, ← rounds_made]
  refine List.flatMap_congr fun round _ => ?_
  rw [List.map_map]
  exact List.map_id round.made

theorem Round.number_digits (round : Round) : round.number.all isAsciiDigit = true := by
  rw [Round.number]
  cases found : round.taken.head?.bind fun raw => orderedListItem (trim raw) with
  | none => rfl
  | some item =>
    obtain ⟨raw, _, parsed⟩ := Option.bind_eq_some_iff.mp found
    rw [orderedListItem] at parsed
    have numeric := (Option.filter_eq_some_iff.mp parsed).2
    rw [Bool.and_eq_true] at numeric
    exact numeric.2

theorem numberedLines_digits {source : Chars} {line : DocumentLine} {number : Chars}
    (member : (line, number) ∈ numberedLines source) : number.all isAsciiDigit = true := by
  obtain ⟨round, _, among⟩ := List.mem_flatMap.mp member
  obtain ⟨_, _, same⟩ := List.mem_map.mp among
  cases same
  exact round.number_digits

/-! ## Texts of a file -/

section Kept

variable {Number : Type} (floats : Floats Number) (decode : ExportAsset → Option PdfImage)
variable (input : ExportInput)

/-- What is emitted for a line, behind those in front of it, shows its text. -/
def TextKept : Prop :=
  ∀ before line number after, numberedLines input.source = before ++ (line, number) :: after →
    isTable line = false →
      shownText (emittedBy floats decode input.assets
          ((before.map Prod.fst).foldl (layoutLine floats decode input.assets)
            (Pages.start floats)) line) =
        cleanText (lineText floats decode input.assets line number)

def TextPlain : Prop :=
  ∀ line number, (line, number) ∈ numberedLines input.source → isTable line = false →
    (line.kind = .ordered → number = ['1']) ∧
      ∀ char ∈ lineText floats decode input.assets line number,
        isControl char = true → isAscii char = true

theorem lineText_drawn_iff {line : DocumentLine} {number : Chars}
    (numeric : number.all isAsciiDigit = true) :
    drawn (lineText floats decode input.assets line ['1']) =
        cleanText (lineText floats decode input.assets line number) ↔
      (line.kind = .ordered → number = ['1']) ∧
        ∀ char ∈ lineText floats decode input.assets line number,
          isControl char = true → isAscii char = true := by
  by_cases ordered : line.kind = .ordered
  · have whole (own : Chars) : lineText floats decode input.assets line own =
        own ++ ". ".toList ++ line.text := by
      rw [lineText, ordered]
    rw [whole, whole, item_drawn_iff numeric]
    constructor
    · rintro ⟨rfl, same⟩
      refine ⟨fun _ => rfl, (drawn_clean_iff _).mp ?_⟩
      rw [item_drawn_iff numeric]
      exact ⟨rfl, same⟩
    · rintro ⟨one, plain⟩
      have first := one ordered
      subst first
      exact (item_drawn_iff numeric line.text).mp ((drawn_clean_iff _).mpr plain)
  · have same : lineText floats decode input.assets line ['1'] =
        lineText floats decode input.assets line number := by
      obtain ⟨kind, text⟩ := line
      cases kind with
      | ordered => exact absurd rfl ordered
      | _ => rfl
    rw [same, drawn_clean_iff]
    exact ⟨fun plain => ⟨fun impossible => absurd impossible ordered, plain⟩, And.right⟩

theorem textKept_iff : TextKept floats decode input ↔ TextPlain floats decode input := by
  constructor
  · intro kept line number member plain
    obtain ⟨before, after, split⟩ := List.append_of_mem member
    have shown := kept before line number after split plain
    rw [emittedBy_shown floats decode input.assets plain] at shown
    exact (lineText_drawn_iff floats decode input (numberedLines_digits member)).mp shown
  · intro plain before line number after split noTable
    have member : (line, number) ∈ numberedLines input.source := by
      rw [split]
      exact List.mem_append_right _ List.mem_cons_self
    rw [emittedBy_shown floats decode input.assets noTable]
    exact (lineText_drawn_iff floats decode input (numberedLines_digits member)).mpr
      (plain line number member noTable)

end Kept

end Onetcli.NotesExport
