import Onetcli.Lib.Parts
import Onetcli.NotesExport.Lines

/-!
Where the characters of a document's lines come from: the source, or what is written for a tag
and an image without a label.
-/

namespace Onetcli.NotesExport

open Text Chars

/-! ## Inline text -/

section Inline

variable {char : Char} {text : Chars}

theorem mem_unlink {opening : Chars} (member : char ∈ unlink opening text) : char ∈ text := by
  fun_induction unlink opening text with
  | case1 | case2 | case3 => exact member
  | case4 text before rest opened label target labelled _ after closed ih =>
    rw [splitOnceText_split opened, splitOnceText_split labelled]
    obtain ⟨separator, _, split⟩ := splitOnce_split closed
    rw [split]
    have inside := ih member
    simp only [List.mem_append, List.mem_cons] at inside ⊢
    tauto

theorem mem_cleanInline (member : char ∈ cleanInline text) : char ∈ text :=
  mem_removed (mem_removed (mem_removed (mem_removed (mem_unlink (mem_unlink member)))))

theorem mem_imageOf {alt path : Chars} {image : ImageData} (made : imageOf alt path = some image) :
    image.alt = alt := by
  unfold imageOf at made
  split at made
  · cases made
  · exact congrArg ImageData.alt (Option.some.inj made).symm

theorem mem_parseInlineImages {image : ImageData} (parsed : image ∈ parseInlineImages text)
    (member : char ∈ image.alt) : char ∈ text := by
  fun_induction parseInlineImages text with
  | case1 | case2 | case3 => cases parsed
  | case4 text before rest opened label more labelled target after closed ih =>
    rcases List.mem_append.mp parsed with here | later
    · rw [mem_imageOf (Option.mem_toList.mp here)] at member
      exact mem_splitOnceText opened (Or.inr (mem_splitOnceText labelled (Or.inl member)))
    · exact mem_splitOnceText opened (Or.inr (mem_splitOnceText labelled (Or.inr
        (mem_splitOnce closed (Or.inr (ih later))))))

theorem mem_parseImage {image : ImageData} (parsed : parseImage text = some image)
    (member : char ∈ image.alt) : char ∈ text := by
  obtain ⟨start, stripped, rest⟩ := Option.bind_eq_some_iff.mp parsed
  obtain ⟨⟨label, target⟩, labelled, made⟩ := Option.bind_eq_some_iff.mp rest
  rw [mem_imageOf made] at member
  rw [stripPrefix_split stripped]
  exact List.mem_append_right _ (mem_splitOnceText labelled (Or.inl member))

end Inline

/-! ## Lines -/

def cellChars (cell : TableCellData) : Chars := cell.text ++ cell.images.flatMap ImageData.alt

def lineChars (line : DocumentLine) : Chars :=
  line.text ++ match line.kind with
    | .image image => image.alt
    | .table table => table.rows.flatMap fun row => row.flatMap cellChars
    | _ => []

theorem lineChars_body (text : Chars) : lineChars ⟨.body, text⟩ = text := List.append_nil text

/-- What stands between the words and the lines of a fragment, and for a label. -/
def fillers : Chars := ' ' :: '\n' :: "Image".toList

section Fragments

variable {char : Char} {source : Chars}

theorem mem_outsideTags {inTag : Bool} (member : char ∈ outsideTags inTag source) :
    char = ' ' ∨ char ∈ source := by
  induction source generalizing inTag with
  | nil => cases member
  | cons first rest ih =>
    have later {within : Bool} (inner : char ∈ outsideTags within rest) :
        char = ' ' ∨ char ∈ first :: rest := (ih inner).imp_right (List.mem_cons_of_mem _)
    rw [outsideTags] at member
    split at member
    · exact later member
    · split at member
      · rcases List.mem_cons.mp member with rfl | inner
        · exact Or.inl rfl
        · exact later inner
      · split at member
        · exact later member
        · rcases List.mem_cons.mp member with rfl | inner
          · exact Or.inr List.mem_cons_self
          · exact later inner

theorem mem_htmlVisibleText {text : Chars} (visible : htmlVisibleText source = some text)
    (member : char ∈ text) : char = ' ' ∨ char ∈ source := by
  simp only [htmlVisibleText] at visible
  split at visible
  · cases visible
  · cases visible
    rcases mem_intercalate member with space | ⟨word, among, inside⟩
    · exact Or.inl (List.mem_singleton.mp space)
    · exact mem_outsideTags (mem_splitOnP (List.mem_filter.mp among).1 inside)

theorem mem_htmlAttribute {tag name value : Chars} (read : htmlAttribute tag name = some value)
    (member : char ∈ value) : char ∈ tag := by
  obtain ⟨⟨before, after⟩, _, rest⟩ := Option.bind_eq_some_iff.mp read
  have inside (start : Nat) (inner : char ∈ tag.drop start) : char ∈ tag :=
    (List.drop_suffix _ _).mem inner
  apply inside (before.length + (name.length + 1))
  simp only at rest
  split at rest
  · cases rest
  · rename_i quote more dropped
    rw [dropped]
    split at rest
    · obtain ⟨⟨front, back⟩, found, rfl⟩ := Option.map_eq_some_iff.mp rest
      exact List.mem_cons_of_mem _ (mem_splitOnce found (Or.inl member))
    · cases rest
      exact (List.takeWhile_prefix _).mem member

theorem mem_htmlImage {tag : Chars} {line : DocumentLine} (read : htmlImage tag = some line)
    (member : char ∈ lineChars line) : char ∈ fillers ∨ char ∈ tag := by
  obtain ⟨path, _, rfl⟩ := Option.map_eq_some_iff.mp read
  simp only [lineChars, List.nil_append] at member
  cases label : htmlAttribute tag "alt".toList with
  | none =>
    rw [label, Option.getD_none] at member
    exact Or.inl (List.mem_cons_of_mem _ (List.mem_cons_of_mem _ member))
  | some alt =>
    rw [label, Option.getD_some] at member
    exact Or.inr (mem_htmlAttribute label member)

theorem mem_visibleLine {kind : LineKind} (plain : ∀ text, lineChars ⟨kind, text⟩ = text)
    {line : DocumentLine}
    (shown : line ∈ (htmlVisibleText source).toList.map fun text => (⟨kind, text⟩ : DocumentLine))
    (member : char ∈ lineChars line) : char ∈ fillers ∨ char ∈ source := by
  obtain ⟨text, visible, rfl⟩ := List.mem_map.mp shown
  rw [plain] at member
  rcases mem_htmlVisibleText (Option.mem_toList.mp visible) member with rfl | inside
  · exact Or.inl List.mem_cons_self
  · exact Or.inr inside

theorem mem_htmlImages :
    (∀ line ∈ (htmlImages source).1, ∀ char ∈ lineChars line, char ∈ fillers ∨ char ∈ source) ∧
      ∀ char ∈ (htmlImages source).2, char ∈ source := by
  fun_induction htmlImages source with
  | case1 source none =>
    exact ⟨fun _ absent => (nomatch absent), fun _ member => member⟩
  | case2 source before after found body closed =>
    refine ⟨fun line shown char member => ?_, fun _ member => member⟩
    have inside := mem_visibleLine lineChars_body shown member
    exact inside.imp_right (List.take_prefix _ _).mem
  | case3 source before rest found body tag after closed more ih =>
    obtain ⟨separator, hit, split⟩ := splitOnce_split closed
    have dropped {char : Char} (member : char ∈ tag ++ separator :: after) : char ∈ source :=
      (List.drop_suffix _ _).mem (split ▸ member)
    have later {char : Char} (member : char ∈ after) : char ∈ source :=
      dropped (List.mem_append_right _ (List.mem_cons_of_mem _ member))
    constructor
    · intro line shown char member
      rcases List.mem_append.mp shown with front | back
      · rcases List.mem_append.mp front with text | image
        · have inside := mem_visibleLine lineChars_body text member
          exact inside.imp_right (List.take_prefix _ _).mem
        · apply (mem_htmlImage (Option.mem_toList.mp image) member).imp_right
          intro inside
          rw [← beq_iff_eq.mp hit] at inside
          apply dropped
          rcases List.mem_append.mp inside with name | last
          · exact List.mem_append_left _ name
          · exact List.mem_append_right _ (List.mem_singleton.mp last ▸ List.mem_cons_self)
      · exact (ih.1 line back char member).imp_right later
    · exact fun char member => later (ih.2 char member)

theorem htmlKind_plain (lower text : Chars) : lineChars ⟨htmlKind lower, text⟩ = text := by
  unfold htmlKind
  split_ifs <;> exact List.append_nil text

theorem mem_parseHtmlFragment {line : DocumentLine} (parsed : line ∈ parseHtmlFragment source)
    (member : char ∈ lineChars line) : char ∈ fillers ∨ char ∈ source := by
  simp only [parseHtmlFragment] at parsed
  split at parsed
  · cases List.mem_singleton.mp parsed
    cases member
  · rcases List.mem_append.mp parsed with image | text
    · exact mem_htmlImages.1 line image char member
    · have inside := mem_visibleLine (fun text => htmlKind_plain _ text) text member
      exact inside.imp_right (mem_htmlImages.2 char)

end Fragments

/-! ## The source -/

section Source

variable {char : Char}

theorem mem_parseTableRow {line : Chars} {cell : TableCellData} (parsed : cell ∈ parseTableRow line)
    (member : char ∈ cellChars cell) : char ∈ line := by
  obtain ⟨piece, part, rfl⟩ := List.mem_map.mp parsed
  apply mem_trimMatches (mem_splitOn part ?_)
  rcases List.mem_append.mp member with text | label
  · exact mem_trim (mem_cleanInline text)
  · obtain ⟨image, found, inside⟩ := List.mem_flatMap.mp label
    exact mem_parseInlineImages found inside

theorem mem_textLine {start : Chars} (member : char ∈ lineChars (textLine start)) :
    char ∈ start := by
  have dropped {count : Nat} (inside : char ∈ start.drop count) : char ∈ start :=
    (List.drop_suffix _ _).mem inside
  have stripped {marker text : Chars} (found : stripPrefix marker start = some text)
      (inside : char ∈ text) : char ∈ start := by
    rw [stripPrefix_split found]
    exact List.mem_append_right _ inside
  simp only [textLine] at member
  split at member
  · simp only [lineChars, List.append_nil] at member
    exact dropped (mem_cleanInline member)
  · split at member
    · rename_i text quote
      simp only [lineChars, List.append_nil] at member
      exact stripped quote (mem_cleanInline member)
    · split at member
      · rename_i text bullet
        simp only [lineChars, List.append_nil] at member
        rcases Option.or_eq_some_iff.mp bullet with first | ⟨_, plus⟩
        · rcases Option.or_eq_some_iff.mp first with dash | ⟨_, star⟩
          · exact stripped dash (mem_cleanInline member)
          · exact stripped star (mem_cleanInline member)
        · exact stripped plus (mem_cleanInline member)
      · split at member
        · rename_i number text item
          simp only [lineChars, List.append_nil] at member
          obtain ⟨found, _⟩ := Option.filter_eq_some_iff.mp item
          exact mem_splitOnceText found (Or.inr (mem_cleanInline member))
        · simp only [lineChars, List.append_nil] at member
          exact mem_cleanInline member

theorem mem_documentLinesFrom {code : Bool} {sources : List Chars} {line : DocumentLine}
    (read : line ∈ documentLinesFrom code sources) (member : char ∈ lineChars line) :
    char ∈ fillers ∨ ∃ source ∈ sources, char ∈ source := by
  have among {raw : Chars} {rest some : List Chars} (part : ∀ source ∈ some, source ∈ rest)
      (inside : char ∈ fillers ∨ ∃ source ∈ some, char ∈ source) :
      char ∈ fillers ∨ ∃ source ∈ raw :: rest, char ∈ source :=
    inside.imp_right fun ⟨source, found, here⟩ => ⟨source, List.mem_cons_of_mem _ (part source found), here⟩
  have own {raw : Chars} {rest : List Chars} (inside : char ∈ raw) :
      char ∈ fillers ∨ ∃ source ∈ raw :: rest, char ∈ source :=
    Or.inr ⟨raw, List.mem_cons_self, inside⟩
  fun_induction documentLinesFrom code sources with
  | case1 => cases read
  | case2 code raw rest start fence ih => exact among (fun _ found => found) (ih read)
  | case3 raw rest start fence ih =>
    rcases List.mem_cons.mp read with rfl | later
    · simp only [lineChars, List.append_nil] at member
      exact own (mem_trimEnd member)
    · exact among (fun _ found => found) (ih later)
  | case4 code raw rest start fence plain empty ih =>
    rcases List.mem_cons.mp read with rfl | later
    · cases member
    · exact among (fun _ found => found) (ih later)
  | case5 code raw rest start fence plain filled angle ih =>
    rcases List.mem_append.mp read with fragment | later
    · rcases mem_parseHtmlFragment fragment member with filler | inside
      · exact Or.inl filler
      · rcases mem_intercalate inside with feed | ⟨piece, part, here⟩
        · rw [List.mem_singleton.mp feed]
          exact Or.inl (List.mem_cons_of_mem _ List.mem_cons_self)
        · rcases List.mem_cons.mp part with rfl | taken
          · exact own here
          · exact among (fun _ found => found)
              (Or.inr ⟨piece, (List.takeWhile_prefix _).mem taken, here⟩)
    · exact among (fun _ found => (List.dropWhile_suffix _).mem found) (ih later)
  | case6 code raw rest start fence plain filled angle table rows ih =>
    have after {source : Chars} (found : source ∈ rest.tail) : source ∈ rest :=
      List.mem_of_mem_tail found
    rcases List.mem_cons.mp read with rfl | later
    · simp only [lineChars, List.nil_append] at member
      obtain ⟨row, found, shown⟩ := List.mem_flatMap.mp member
      obtain ⟨cell, part, inside⟩ := List.mem_flatMap.mp shown
      obtain ⟨line, listed, rfl⟩ := List.mem_map.mp found
      have here := mem_parseTableRow part inside
      rcases List.mem_cons.mp listed with rfl | below
      · exact own (mem_trim here)
      · obtain ⟨source, taken, rfl⟩ := List.mem_map.mp below
        exact among (fun _ found => found)
          (Or.inr ⟨source, after ((List.takeWhile_prefix _).mem taken), mem_trim here⟩)
    · exact among (fun _ found => after ((List.dropWhile_suffix _).mem found)) (ih later)
  | case7 code raw rest start fence plain filled angle table image parsed ih =>
    rcases List.mem_cons.mp read with rfl | later
    · simp only [lineChars, List.nil_append] at member
      exact own (mem_trim (mem_parseImage parsed member))
    · exact among (fun _ found => found) (ih later)
  | case8 code raw rest start fence plain filled angle table parsed ih =>
    rcases List.mem_cons.mp read with rfl | later
    · exact own (mem_trim (mem_textLine member))
    · exact among (fun _ found => found) (ih later)

theorem mem_lines {text line : Chars} (part : line ∈ lines text) (member : char ∈ line) :
    char ∈ text := by
  have carriage {piece : Chars} (inside : char ∈ stripCarriage piece) : char ∈ piece := by
    unfold stripCarriage at inside
    split at inside
    · exact (List.dropLast_prefix _).mem inside
    · exact inside
  rcases List.mem_append.mp part with front | last
  · obtain ⟨piece, found, rfl⟩ := List.mem_map.mp front
    exact mem_splitOn ((List.dropLast_prefix _).mem found) (carriage member)
  · split at last
    · rename_i first rest final
      cases List.mem_singleton.mp last
      exact mem_splitOn (List.mem_of_getLast? final) member
    · cases last

theorem mem_documentLines {source : Chars} {line : DocumentLine}
    (read : line ∈ documentLines source) (member : char ∈ lineChars line) :
    char ∈ fillers ∨ char ∈ source := by
  rcases mem_documentLinesFrom read member with filler | ⟨piece, part, inside⟩
  · exact Or.inl filler
  · exact Or.inr (mem_lines part inside)

end Source

end Onetcli.NotesExport
