import Onetcli.Lib.Parts
import Onetcli.NotesExport.Embeds

/-!
Image references in the documents of `document_lines`. A whole line and a table cell are read
for images by two functions with two ideas of where a target ends; a line of text is not read
for images at all.
-/

namespace Onetcli.NotesExport

open Text Chars

/-! ## An image at the start of a line -/

def leadingParts (text : Chars) : Option (Chars × Chars × Chars) :=
  (stripPrefix "![".toList text).bind fun start =>
    (splitOnceText "](".toList start).bind fun (label, more) =>
      (splitOnce (· == ')') more).map fun (target, after) => (label, target, after)

def leadingImage (text : Chars) : Option ImageData :=
  (leadingParts text).bind fun parts => imageOf parts.1 (imagePath parts.2.1)

/-- Nothing but closing parentheses is behind the image at the start. -/
def aloneImage (text : Chars) : Bool :=
  (leadingParts text).any fun parts => parts.2.2.all (· == ')')

theorem leadingParts_steps {text label target after : Chars}
    (found : leadingParts text = some (label, target, after)) :
    ∃ start more, stripPrefix "![".toList text = some start ∧
      splitOnceText "](".toList start = some (label, more) ∧
      splitOnce (· == ')') more = some (target, after) := by
  rw [leadingParts] at found
  obtain ⟨start, begins, found⟩ := Option.bind_eq_some_iff.mp found
  obtain ⟨⟨first, more⟩, labelled, found⟩ := Option.bind_eq_some_iff.mp found
  obtain ⟨⟨second, rest⟩, closed, same⟩ := Option.map_eq_some_iff.mp found
  cases same
  exact ⟨start, more, begins, labelled, closed⟩

theorem leadingParts_split {text label target after : Chars}
    (found : leadingParts text = some (label, target, after)) :
    text = "![".toList ++ (label ++ ("](".toList ++ (target ++ ')' :: after))) ∧ ')' ∉ target := by
  obtain ⟨start, more, begins, labelled, closed⟩ := leadingParts_steps found
  obtain ⟨close, hit, split⟩ := splitOnce_split closed
  rw [beq_iff_eq] at hit
  subst hit
  refine ⟨?_, ?_⟩
  · rw [stripPrefix_split begins, splitOnceText_split labelled, split]
  · intro member
    exact absurd (splitOnce_before closed _ member) (by simp)

theorem parseInlineImages_leading {text label target after : Chars}
    (found : leadingParts text = some (label, target, after)) : parseInlineImages text =
      (imageOf label (imagePath target)).toList ++ parseInlineImages after := by
  obtain ⟨start, more, begins, labelled, closed⟩ := leadingParts_steps found
  have opened : splitOnceText "![".toList text = some ([], start) := by
    rw [stripPrefix_split begins]
    rfl
  rw [parseInlineImages]
  split
  · rename_i none
    rw [opened] at none
    cases none
  · rename_i here
    rw [opened] at here
    cases here
    split
    · rename_i none
      rw [labelled] at none
      cases none
    · rename_i there
      rw [labelled] at there
      cases there
      split
      · rename_i none
        rw [closed] at none
        cases none
      · rename_i ended
        rw [closed] at ended
        cases ended
        rfl

theorem parseInlineImages_open {text : Chars} (begins : (stripPrefix "![".toList text).isSome)
    (open_ : leadingParts text = none) : parseInlineImages text = [] := by
  obtain ⟨start, begins⟩ := Option.isSome_iff_exists.mp begins
  have opened : splitOnceText "![".toList text = some ([], start) := by
    rw [stripPrefix_split begins]
    rfl
  rw [leadingParts, begins, Option.bind_some] at open_
  rw [parseInlineImages]
  split
  · rfl
  · rename_i here
    rw [opened] at here
    cases here
    split
    · rfl
    · rename_i labelled
      rw [labelled, Option.bind_some, Option.map_eq_none_iff] at open_
      split
      · rfl
      · rename_i closed
        rw [open_] at closed
        cases closed

theorem parseImage_leading {text label target after : Chars}
    (found : leadingParts text = some (label, target, after)) : parseImage text =
      imageOf label (imagePath (((target ++ ')' :: after).reverse.dropWhile (· == ')')).reverse)) := by
  obtain ⟨start, more, begins, labelled, closed⟩ := leadingParts_steps found
  obtain ⟨close, hit, split⟩ := splitOnce_split closed
  rw [beq_iff_eq] at hit
  subst hit
  rw [parseImage, begins, Option.bind_some, labelled, Option.bind_some, split]

theorem parseInlineImages_absent {text : Chars} (absent : '!' ∉ text) :
    parseInlineImages text = [] := by
  rw [parseInlineImages]
  split
  · rfl
  · rename_i before rest opened
    have inside : '!' ∈ "![".toList := by decide
    exact absurd (by
      rw [splitOnceText_split opened]
      exact List.mem_append_right _ (List.mem_append_left _ inside)) absent

theorem imagePath_close (target : Chars) : ')' ∈ imagePath target ↔ ')' ∈ target := by
  have blank : ')' ∈ trim target ↔ ')' ∈ target := mem_trimMatches_kept (by decide)
  have angle : ')' ∈ trimMatches isAngle (trim target) ↔ ')' ∈ trim target :=
    mem_trimMatches_kept (by decide)
  rw [imagePath, angle, blank]

theorem imageOf_path {alt path : Chars} {image : ImageData} (made : imageOf alt path = some image) :
    image.path = path := by
  rw [imageOf] at made
  split at made
  · cases made
  · exact congrArg ImageData.path (Option.some.inj made).symm

theorem parseInlineImages_path {text : Chars} {image : ImageData}
    (parsed : image ∈ parseInlineImages text) : ')' ∉ image.path := by
  fun_induction parseInlineImages text with
  | case1 | case2 | case3 => cases parsed
  | case4 text before rest opened label more labelled target after closed ih =>
    rcases List.mem_append.mp parsed with here | later
    · rw [imageOf_path (Option.mem_toList.mp here), imagePath_close]
      intro member
      exact absurd (splitOnce_before closed _ member) (by simp)
    · exact ih later

theorem dropped_close {target after : Chars} (clean : ')' ∉ target)
    (only : after.all (· == ')') = true) :
    ((target ++ ')' :: after).reverse.dropWhile (· == ')')).reverse = target := by
  have closing : ∀ char ∈ (')' :: after).reverse, (char == ')') = true := by
    intro char member
    rw [List.mem_reverse, List.mem_cons] at member
    rcases member with rfl | later
    · rfl
    · exact List.all_eq_true.mp only char later
  have kept : target.reverse.dropWhile (· == ')') = target.reverse := by
    cases shape : target.reverse with
    | nil => rfl
    | cons char rest =>
      have other : (char == ')') = false := by
        rw [beq_eq_false_iff_ne]
        rintro rfl
        exact clean (List.mem_reverse.mp (shape ▸ List.mem_cons_self))
      rw [List.dropWhile_cons, other]
      rfl
  rw [List.reverse_append, List.dropWhile_append_of_pos closing, kept, List.reverse_reverse]

theorem kept_close (target : Chars) {after : Chars} (other : after.all (· == ')') = false) :
    ')' ∈ ((target ++ ')' :: after).reverse.dropWhile (· == ')')).reverse := by
  obtain ⟨char, member, differ⟩ := List.all_eq_false.mp other
  have inside : char ∈ after.reverse := List.mem_reverse.mpr member
  have left : ∃ first rest, after.reverse.dropWhile (· == ')') = first :: rest := by
    cases shape : after.reverse.dropWhile (· == ')') with
    | nil =>
      rw [List.dropWhile_eq_nil_iff] at shape
      exact absurd (shape char inside) differ
    | cons first rest => exact ⟨first, rest, rfl⟩
  obtain ⟨first, rest, shape⟩ := left
  rw [List.mem_reverse, List.reverse_append, List.reverse_cons, List.append_assoc,
    List.dropWhile_append, shape]
  simp

theorem parseInlineImages_closes {after : Chars} (only : after.all (· == ')') = true) :
    parseInlineImages after = [] := by
  apply parseInlineImages_absent
  intro member
  exact absurd (List.all_eq_true.mp only _ member) (by decide)

/-! ## Lines that start with an image -/

theorem aloneImage_read {text : Chars} (alone : aloneImage text = true) :
    parseInlineImages text = (parseImage text).toList ∧ leadingImage text = parseImage text := by
  rw [aloneImage, Option.any_eq_true] at alone
  obtain ⟨⟨label, target, after⟩, found, only⟩ := alone
  have clean := (leadingParts_split found).2
  rw [parseInlineImages_leading found, parseImage_leading found, dropped_close clean only,
    parseInlineImages_closes only, List.append_nil, leadingImage, found]
  exact ⟨rfl, rfl⟩

theorem parseImage_other {text : Chars} {image found : ImageData}
    (crowded : aloneImage text = false) (closed : (leadingParts text).isSome = true)
    (parsed : parseImage text = some found) (reference : ')' ∉ image.path) :
    found.path ≠ image.path := by
  obtain ⟨⟨label, target, after⟩, parts⟩ := Option.isSome_iff_exists.mp closed
  rw [aloneImage, parts, Option.any_some] at crowded
  rw [parseImage_leading parts] at parsed
  -- The target of the whole line keeps the parenthesis that ends the reference.
  have inside := (imagePath_close _).mpr (kept_close target crowded)
  rw [← imageOf_path parsed] at inside
  intro same
  exact reference (same ▸ inside)

/-- The two readings agree on the image at the start of a text. -/
def LeadingAgrees (text : Chars) : Prop :=
  ∀ image ∈ leadingImage text, ∃ found ∈ parseImage text, found.path = image.path

instance (text : Chars) : Decidable (LeadingAgrees text) :=
  inferInstanceAs (Decidable (∀ image ∈ leadingImage text,
    ∃ found ∈ parseImage text, found.path = image.path))

theorem leadingAgrees_iff (text : Chars) :
    LeadingAgrees text ↔ ((leadingImage text).isSome = true → aloneImage text = true) := by
  constructor
  · intro agrees starts
    obtain ⟨image, leads⟩ := Option.isSome_iff_exists.mp starts
    obtain ⟨found, parsed, same⟩ := agrees image leads
    by_contra crowded
    rw [Bool.not_eq_true] at crowded
    obtain ⟨parts, closed, made⟩ := Option.bind_eq_some_iff.mp (show
      (leadingParts text).bind (fun parts => imageOf parts.1 (imagePath parts.2.1)) = some image
      from leads)
    have clean : ')' ∉ image.path := by
      rw [imageOf_path made, imagePath_close]
      exact (leadingParts_split closed).2
    exact parseImage_other crowded (Option.isSome_iff_exists.mpr ⟨parts, closed⟩) parsed clean same
  · intro alone image leads
    have read := (aloneImage_read (alone (Option.isSome_iff_exists.mpr ⟨image, leads⟩))).2
    exact ⟨image, read ▸ leads, rfl⟩

-- A line outside of tables and fragments shows its references just if it has none, or is an
-- image alone.
theorem plainLine_shows_iff (text : Chars) :
    (∀ image ∈ parseInlineImages text, ∃ found ∈ parseImage text, found.path = image.path) ↔
      parseInlineImages text = [] ∨ aloneImage text = true := by
  constructor
  · intro shown
    by_cases none : parseInlineImages text = []
    · exact Or.inl none
    · -- The line starts with an image, so one reference is enough to compare the paths.
      right
      obtain ⟨image, rest, shape⟩ := List.exists_cons_of_ne_nil none
      have member : image ∈ parseInlineImages text := shape ▸ List.mem_cons_self
      obtain ⟨found, parsed, same⟩ := shown image member
      have closed : (leadingParts text).isSome = true := by
        rw [← Option.not_isNone, Bool.not_eq_true']
        by_contra open_
        rw [Bool.not_eq_false, Option.isNone_iff_eq_none] at open_
        obtain ⟨start, begins, _⟩ := Option.bind_eq_some_iff.mp parsed
        exact none (parseInlineImages_open (Option.isSome_iff_exists.mpr ⟨start, begins⟩) open_)
      by_contra crowded
      rw [Bool.not_eq_true] at crowded
      exact parseImage_other crowded closed parsed (parseInlineImages_path member) same
  · rintro (none | alone) image member
    · rw [none] at member
      cases member
    · rw [(aloneImage_read alone).1] at member
      exact ⟨image, Option.mem_toList.mp member, rfl⟩

/-! ## References in a document -/

def outsideCode (round : Round) : Bool :=
  !round.code && !round.taken.head?.any fun raw => isFence (trim raw)

/-- Every reference in the lines of a round is the path of an image that it makes, and an image
that starts a line is read alike by both readings. -/
def RefsShown (round : Round) : Prop :=
  ∀ line ∈ round.taken,
    (∀ image ∈ parseInlineImages (trim line), image.path ∈ round.made.flatMap linePaths) ∧
      LeadingAgrees (trim line)

instance (round : Round) : Decidable (RefsShown round) :=
  inferInstanceAs (Decidable (∀ line ∈ round.taken,
    (∀ image ∈ parseInlineImages (trim line), image.path ∈ round.made.flatMap linePaths) ∧
      LeadingAgrees (trim line)))

def ImageRefsShown (source : Chars) : Prop :=
  ∀ round ∈ rounds false (lines source), outsideCode round = true → RefsShown round

def tablePaths (rows : List Chars) : List Chars :=
  rows.flatMap fun row => ((trimBars (trim row)).splitOn '|').flatMap fun cell =>
    (parseInlineImages cell).map ImageData.path

def tagPaths (fragment : Chars) : List Chars := (htmlImages fragment).1.flatMap linePaths

/-- Where the references of lines that are taken together are kept. -/
def RefsKept (taken : List Chars) : Prop :=
  (∀ line ∈ taken, (leadingImage (trim line)).isSome = true → aloneImage (trim line) = true) ∧
    match taken with
    | [] => True
    | raw :: along =>
      if startsFragment raw then
        ∀ line ∈ taken, ∀ image ∈ parseInlineImages (trim line),
          image.path ∈ tagPaths (['\n'].intercalate taken)
      else if startsTable raw along then
        ∀ line ∈ taken, ∀ image ∈ parseInlineImages (trim line),
          image.path ∈ tablePaths (raw :: along.tail)
      else parseInlineImages (trim raw) = [] ∨ aloneImage (trim raw) = true

theorem tableLine_paths (rows : List Chars) : [tableLine rows].flatMap linePaths = tablePaths rows := by
  rw [List.flatMap_singleton, tablePaths]
  change (rows.map fun row => parseTableRow (trim row)).flatMap (fun row => row.flatMap fun cell =>
    cell.images.map ImageData.path) = _
  rw [List.flatMap_map]
  congr 1
  funext row
  rw [parseTableRow, List.flatMap_map]

theorem parseHtmlFragment_paths (fragment : Chars) :
    (parseHtmlFragment fragment).flatMap linePaths = tagPaths fragment := by
  have kind (lower text : Chars) : linePaths ⟨htmlKind lower, text⟩ = [] := by
    unfold htmlKind
    repeat' split
    all_goals rfl
  have last (text : Option Chars) : (text.toList.map fun text =>
      (⟨htmlKind (toAsciiLowercase fragment), text⟩ : DocumentLine)).flatMap linePaths = [] := by
    cases text with
    | none => rfl
    | some text => simp [kind]
  rw [parseHtmlFragment, tagPaths]
  split
  · rename_i nothing
    rw [List.isEmpty_iff, List.append_eq_nil_iff] at nothing
    rw [nothing.1]
    rfl
  · rw [List.flatMap_append, last, List.append_nil]

theorem textLine_paths (start : Chars) : linePaths (textLine start) = [] := by
  unfold textLine
  dsimp only
  repeat' split
  all_goals rfl

theorem plainLine_paths (raw : Chars) :
    [plainLine raw].flatMap linePaths = (parseImage (trim raw)).toList.map ImageData.path := by
  rw [List.flatMap_singleton, plainLine]
  cases parseImage (trim raw) with
  | none => exact textLine_paths _
  | some image => rfl

theorem refsShown_iff {raw : Chars} {rest : List Chars} (fence : isFence (trim raw) = false) :
    RefsShown ⟨false, raw :: takenAlong false raw rest, madeOf false raw rest⟩ ↔
      RefsKept (raw :: takenAlong false raw rest) := by
  have split (taken : List Chars) (made : List DocumentLine) : RefsShown ⟨false, taken, made⟩ ↔
      (∀ line ∈ taken, (leadingImage (trim line)).isSome = true → aloneImage (trim line) = true) ∧
        ∀ line ∈ taken, ∀ image ∈ parseInlineImages (trim line),
          image.path ∈ made.flatMap linePaths := by
    simp only [RefsShown, leadingAgrees_iff]
    exact ⟨fun shown => ⟨fun line member => (shown line member).2,
      fun line member => (shown line member).1⟩,
      fun both line member => ⟨both.2 line member, both.1 line member⟩⟩
  rw [split, RefsKept]
  refine and_congr_right fun _ => ?_
  cases filled : (trim raw).isEmpty with
  | true =>
    have empty := List.isEmpty_iff.mp filled
    have alone : takenAlong false raw rest = [] := by
      rw [takenAlong, fence, filled]
      rfl
    have none : parseInlineImages (trim raw) = [] := by
      rw [empty]
      exact parseInlineImages_absent List.not_mem_nil
    have plain : startsFragment raw = false ∧ startsTable raw [] = false := by
      rw [startsFragment, startsTable, empty]
      exact ⟨rfl, rfl⟩
    rw [alone, plain.1, plain.2]
    simp [none]
  | false =>
    cases fragment : startsFragment raw with
    | true =>
      obtain ⟨along, made⟩ := round_fragment rest fence filled fragment
      rw [made, along, parseHtmlFragment_paths]
      rfl
    | false =>
      cases table : startsTable raw rest with
      | true =>
        obtain ⟨along, made⟩ := round_table fence filled fragment table
        have again : startsTable raw (takenAlong false raw rest) = true := by
          rw [along]
          rcases rest with _ | ⟨separator, rows⟩
          · rw [startsTable] at table
            simp at table
          · exact table
        have tail : (takenAlong false raw rest).tail = rest.tail.takeWhile isRowLine := by
          rw [along]
          rcases rest with _ | ⟨separator, rows⟩ <;> rfl
        rw [again, tail, made, tableLine_paths]
        rfl
      | false =>
        obtain ⟨along, made⟩ := round_plain fence filled fragment table
        have apart : startsTable raw [] = false := by
          rw [startsTable]
          exact Bool.and_false _
        rw [along, made, plainLine_paths, apart, ← plainLine_shows_iff]
        simp only [List.mem_singleton, forall_eq, List.mem_map, Option.mem_toList,
          Option.mem_def]
        rfl

/-- No image reference is lost just if each is kept where it stands. -/
theorem image_refs_shown_iff (source : Chars) :
    ImageRefsShown source ↔
      ∀ round ∈ rounds false (lines source), outsideCode round = true → RefsKept round.taken := by
  refine forall_congr' fun round => forall_congr' fun member => forall_congr' fun outside => ?_
  obtain ⟨raw, rest, shape⟩ := mem_rounds member
  rw [outsideCode, Bool.and_eq_true, Bool.not_eq_true', Bool.not_eq_true'] at outside
  rw [outside.1] at shape
  have fence : isFence (trim raw) = false := by
    have first := outside.2
    rw [shape] at first
    exact first
  rw [shape]
  exact refsShown_iff fence

/-- An image in a text is not shown, and one with a text behind it is shown with another path. -/
theorem text_images_lost :
    ¬ImageRefsShown "see ![a](b.png)".toList ∧ ¬ImageRefsShown "![a](b.png) and more".toList := by
  unfold ImageRefsShown
  decide +kernel

end Onetcli.NotesExport
