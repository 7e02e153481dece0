import Mathlib.Data.List.Basic

/-!
Paths of a file system as a list of components behind an optional volume and root,
for systems with one separator and for systems with two and with volumes. `push`
follows the rules of joining paths: a path with a volume or a root replaces what it
is joined to, any other is appended.
-/

namespace Onetcli.Paths

inductive Component where
  | curDir
  | parentDir
  | normal (name : String)
  deriving DecidableEq

structure PathBuf where
  volume : Option String := none
  rooted : Bool := false
  components : List Component := []
  deriving DecidableEq

structure Platform where
  isSeparator : Char → Bool
  hasVolumes : Bool

def unix : Platform := ⟨fun char => char == '/', false⟩

def windows : Platform := ⟨fun char => char == '/' || char == '\\', true⟩

variable (platform : Platform)

/-- The server and the share of a network volume, and what follows them. -/
def splitShare (chars : List Char) : Option (String × List Char) :=
  let server := chars.takeWhile fun char => !platform.isSeparator char
  let rest := (chars.dropWhile fun char => !platform.isSeparator char).drop 1
  let share := rest.takeWhile fun char => !platform.isSeparator char
  if server.isEmpty || share.isEmpty then none
  else some (String.ofList (server ++ '\\' :: share),
    rest.dropWhile fun char => !platform.isSeparator char)

/-- A drive letter or a network share at the start. -/
def splitVolume (chars : List Char) : Option String × List Char :=
  if !platform.hasVolumes then (none, chars)
  else if chars[1]? = some ':' then
    if chars.head?.any Char.isAlpha then (some (String.ofList (chars.take 2)), chars.drop 2)
    else (none, chars)
  else if chars.head?.any platform.isSeparator && chars[1]?.any platform.isSeparator then
    match splitShare platform (chars.drop 2) with
    | some (share, rest) => (some share, rest)
    | none => (none, chars)
  else (none, chars)

/-- A piece between separators; `.` counts only at the start of a relative path. -/
def pieceComponent (leading : Bool) (piece : List Char) : Option Component :=
  if piece = [] then none
  else if piece = ['.'] then if leading then some .curDir else none
  else if piece = ['.', '.'] then some .parentDir
  else some (.normal (String.ofList piece))

def pieceComponents (leading : Bool) : List (List Char) → List Component
  | [] => []
  | piece :: rest =>
    (pieceComponent leading piece).toList ++ pieceComponents false rest

def parse (text : String) : PathBuf :=
  let (volume, chars) := splitVolume platform text.toList
  let rooted := chars.head?.any platform.isSeparator
  { volume, rooted
    components := pieceComponents (!rooted) (chars.splitOnP platform.isSeparator) }

def PathBuf.push (buf rel : PathBuf) : PathBuf :=
  if rel.volume.isSome then rel
  else if rel.rooted then { rel with volume := buf.volume }
  else if buf = {} then rel
  else { buf with components := buf.components ++ rel.components.filter (· ≠ .curDir) }

def collect (parts : List String) : PathBuf :=
  parts.foldl (fun buf part => buf.push (parse platform part)) {}

/-- Below the root by at least one name, with no way back up. -/
def StrictlyInside (root path : PathBuf) : Prop :=
  ∃ names : List String, names ≠ [] ∧
    path = { root with components := root.components ++ names.map .normal }

/-- A text that is the name of one entry on every platform of this kind. -/
structure PlainName (name : String) : Prop where
  notEmpty : name ≠ ""
  notCurrent : name ≠ "."
  notParent : name ≠ ".."
  noSeparator : ∀ char ∈ name.toList, platform.isSeparator char = false
  noColon : ':' ∉ name.toList

variable {platform}

theorem head_plain {chars : List Char} (none : ∀ char ∈ chars, platform.isSeparator char = false) :
    chars.head?.any platform.isSeparator = false := by
  cases chars with
  | nil => rfl
  | cons first rest => exact none first List.mem_cons_self

theorem splitVolume_plain {chars : List Char}
    (noSeparator : ∀ char ∈ chars, platform.isSeparator char = false) (noColon : ':' ∉ chars) :
    splitVolume platform chars = (none, chars) := by
  have noDrive : chars[1]? ≠ some ':' := by
    intro found
    exact noColon (List.mem_of_getElem? found)
  rw [splitVolume, if_neg noDrive, head_plain noSeparator]
  split <;> rfl

theorem parse_plain {name : String} (plain : PlainName platform name) :
    parse platform name = { components := [.normal name] } := by
  have piece : pieceComponent true name.toList = some (.normal name) := by
    have empty : name.toList ≠ [] := fun same => plain.notEmpty (String.toList_inj.mp same)
    have current : name.toList ≠ ['.'] := fun same => plain.notCurrent (String.toList_inj.mp same)
    have parent : name.toList ≠ ['.', '.'] :=
      fun same => plain.notParent (String.toList_inj.mp same)
    rw [pieceComponent, if_neg empty, if_neg current, if_neg parent, String.ofList_toList]
  simp [parse, splitVolume_plain plain.noSeparator plain.noColon, head_plain plain.noSeparator,
    List.splitOnP_eq_singleton plain.noSeparator, pieceComponents, piece]

theorem push_normals (buf : PathBuf) (names : List String) :
    buf.push { components := names.map .normal } =
      { buf with components := buf.components ++ names.map .normal } := by
  have kept : (names.map Component.normal).filter (· ≠ .curDir) = names.map .normal := by
    rw [List.filter_eq_self]
    intro component member
    obtain ⟨name, _, rfl⟩ := List.mem_map.mp member
    rfl
  rw [PathBuf.push, if_neg (by simp), if_neg (by simp)]
  split
  · rename_i empty
    rw [empty]
    rfl
  · rw [kept]

theorem collect_plain {names : List String} (plain : ∀ name ∈ names, PlainName platform name) :
    collect platform names = { components := names.map .normal } := by
  have whole : ∀ done, names.foldl (fun (buf : PathBuf) part => buf.push (parse platform part))
      { components := done } = { components := done ++ names.map .normal } := by
    induction names with
    | nil => simp
    | cons name rest ih =>
      intro done
      have first := push_normals { components := done } [name]
      rw [List.foldl_cons, parse_plain (plain name List.mem_cons_self)]
      rw [List.map_singleton] at first
      rw [first, ih (fun other member => plain other (List.mem_cons_of_mem _ member))]
      simp
  rw [collect]
  simpa using whole []

theorem push_collect_inside {names : List String} (plain : ∀ name ∈ names, PlainName platform name)
    (proper : names ≠ []) (root : PathBuf) :
    StrictlyInside root (root.push (collect platform names)) :=
  ⟨names, proper, by rw [collect_plain plain, push_normals]⟩

end Onetcli.Paths
