import Mathlib
import Onetcli.Lib.Checks
import Onetcli.Lib.Paths
import Onetcli.Lib.Text

/-!
Relative paths of the RDP clipboard, clipboard/path.rs of the helper. A path is
built only by the checks, so the type carries that they passed. The table of device
names belongs to the protocol library and the case tables to Unicode; both are
parameters.
-/

namespace Onetcli.Rdp.Clipboard

open Checks Paths

def maxClipboardEntryCount : Nat := 10000
def maxClipboardDirectoryDepth : Nat := 32
def maxSingleFileBytes : Nat := 16 * 1024 * 1024 * 1024
def maxTotalTransferBytes : Nat := 64 * 1024 * 1024 * 1024
def maxWirePathUtf16Units : Nat := 259

def windowsInvalidCharacters : List Char := ['<', '>', ':', '"', '/', '\\', '|', '?', '*']

/-- The properties of characters that `str::to_lowercase` looks up. Nothing but the
backslash becomes a backslash. -/
structure CaseTables where
  lower : Char → List Char
  cased : Char → Bool
  caseIgnorable : Char → Bool
  lower_backslash : ∀ char, '\\' ∈ lower char → char = '\\'

/-- What the clipboard takes from outside the helper. -/
structure NameTables extends CaseTables where
  isWindowsDeviceName : String → Bool

/-! ## Texts -/

/-- `char::is_control`: the Unicode category `Cc`. -/
def isControl (char : Char) : Bool :=
  char.toNat < 0x20 || (0x7f ≤ char.toNat && char.toNat < 0xa0)

def utf16Count (text : String) : Nat :=
  (text.toList.map fun char => if char.toNat < 0x10000 then 1 else 2).sum

def joinWire (components : List String) : String :=
  String.ofList (['\\'].intercalate (components.map String.toList))

def splitWire (text : String) : List String := (text.toList.splitOn '\\').map String.ofList

section Lowercase

variable (tables : CaseTables)

def caseIgnorableThenCased (chars : List Char) : Bool :=
  match chars.dropWhile tables.caseIgnorable with
  | [] => false
  | char :: _ => tables.cased char

/-- `str::to_lowercase`, from left to right with the characters before in reverse; a
capital sigma at the end of a word becomes the final one. -/
def lowercaseFrom : List Char → List Char → List Char
  | _, [] => []
  | before, char :: rest =>
    (if char = 'Σ' then
      if caseIgnorableThenCased tables before && !caseIgnorableThenCased tables rest then ['ς']
      else ['σ']
    else tables.lower char) ++ lowercaseFrom (char :: before) rest

def toLowercase (text : String) : String := String.ofList (lowercaseFrom tables [] text.toList)

end Lowercase

/-! ## Checks -/

variable (tables : NameTables)

def validateComponent (component : String) : Except String Unit := do
  ensure (component ≠ "" ∧ component ≠ "." ∧ component ≠ "..")
    "clipboard path contains an invalid component"
  ensure (component.toList.getLast? ≠ some ' ' ∧ component.toList.getLast? ≠ some '.')
    "clipboard path has an unsafe trailing character"
  ensure (component.toList.any isControl = false)
    "clipboard path contains a control character"
  ensure (component.toList.any (fun char => char ∈ windowsInvalidCharacters) = false)
    "clipboard path contains a Windows-invalid character"
  ensure (tables.isWindowsDeviceName component = false)
    "clipboard path uses a reserved Windows device name"

def validateComponents (components : List String) : Except String Unit := do
  ensure (components ≠ []) "clipboard path is empty"
  ensure (components.length ≤ maxClipboardDirectoryDepth)
    "clipboard path exceeds the directory depth limit"
  ensureAll (validateComponent tables) components

def validateWireLength (components : List String) : Except String Unit :=
  ensure (utf16Count (joinWire components) ≤ maxWirePathUtf16Units)
    "clipboard path exceeds the RDP wire limit"

def validatePath (components : List String) : Except String Unit := do
  validateComponents tables components
  validateWireLength components

def splitWireParent (parent : String) : Except String (List String) := do
  ensure (parent ≠ "") "clipboard parent path is empty"
  ensure ('/' ∉ parent.toList) "clipboard parent path contains an invalid separator"
  ensureAll (validateComponent tables) (splitWire parent)
  pure (splitWire parent)

def parentComponents : Option String → Except String (List String)
  | some parent => splitWireParent tables parent
  | none => .ok []

/-! ## Paths -/

structure RelativeClipboardPath where
  components : List String
  accepted : validatePath tables components = .ok ()

namespace RelativeClipboardPath

variable {tables}

def fromLocalComponents (components : List String) :
    Except String (RelativeClipboardPath tables) :=
  match accepted : validatePath tables components with
  | .error err => .error err
  | .ok () => .ok ⟨components, accepted⟩

def fromWire (name : String) (parent : Option String) :
    Except String (RelativeClipboardPath tables) := do
  let components ← parentComponents tables parent
  validateComponent tables name
  fromLocalComponents (components ++ [name])

variable (path : RelativeClipboardPath tables)

def name : String := path.components.getLast?.getD ""

def parentWirePath : Option String :=
  let parent := path.components.dropLast
  if parent = [] then none else some (joinWire parent)

def asPathBuf (platform : Platform) : PathBuf := collect platform path.components

def normalizedKey : String := joinWire (path.components.map (toLowercase tables.toCaseTables))

def parentKey : Option String :=
  let parent := path.components.dropLast
  if parent = [] then none
  else some (joinWire (parent.map (toLowercase tables.toCaseTables)))

def topLevelKey : String :=
  (path.components.head?.map (toLowercase tables.toCaseTables)).getD ""

def topLevelName : String := path.components.head?.getD ""

def child (name : String) : Except String (RelativeClipboardPath tables) :=
  fromLocalComponents (path.components ++ [name])

end RelativeClipboardPath

/-! ## What an accepted path is -/

/-- A name that is safe to create on any system. -/
structure SafeName (component : String) : Prop where
  proper : component ≠ "" ∧ component ≠ "." ∧ component ≠ ".."
  ending : component.toList.getLast? ≠ some ' ' ∧ component.toList.getLast? ≠ some '.'
  noControl : ∀ char ∈ component.toList, isControl char = false
  noInvalid : ∀ char ∈ component.toList, char ∉ windowsInvalidCharacters
  notDevice : tables.isWindowsDeviceName component = false

structure Confined (components : List String) : Prop where
  notEmpty : components ≠ []
  depth : components.length ≤ maxClipboardDirectoryDepth
  names : ∀ component ∈ components, SafeName tables component
  wireLength : utf16Count (joinWire components) ≤ maxWirePathUtf16Units

variable {tables}

theorem validateComponent_eq_ok {component : String} :
    validateComponent tables component = .ok () ↔ SafeName tables component := by
  simp only [validateComponent, then_eq_ok, ensure_eq_ok, List.any_eq_false, Bool.not_eq_true,
    decide_eq_true_eq]
  constructor
  · rintro ⟨proper, ending, noControl, noInvalid, notDevice⟩
    exact ⟨proper, ending, noControl, noInvalid, notDevice⟩
  · rintro ⟨proper, ending, noControl, noInvalid, notDevice⟩
    exact ⟨proper, ending, noControl, noInvalid, notDevice⟩

variable {components : List String}

theorem validatePath_eq_ok :
    validatePath tables components = .ok () ↔ Confined tables components := by
  simp only [validatePath, validateComponents, validateWireLength, then_eq_ok, ensure_eq_ok,
    ensureAll_eq_ok, validateComponent_eq_ok]
  constructor
  · rintro ⟨⟨notEmpty, depth, names⟩, wireLength⟩
    exact ⟨notEmpty, depth, names, wireLength⟩
  · rintro ⟨notEmpty, depth, names, wireLength⟩
    exact ⟨⟨notEmpty, depth, names⟩, wireLength⟩

theorem SafeName.noBackslash {component : String} (safe : SafeName tables component) :
    '\\' ∉ component.toList := by
  intro member
  exact safe.noInvalid _ member (by decide)

theorem SafeName.noSlash {component : String} (safe : SafeName tables component) :
    '/' ∉ component.toList := by
  intro member
  exact safe.noInvalid _ member (by decide)

theorem SafeName.plain {component : String} (safe : SafeName tables component) {platform : Platform}
    (separators : ∀ char, platform.isSeparator char = true → char = '/' ∨ char = '\\') :
    PlainName platform component where
  notEmpty := safe.proper.1
  notCurrent := safe.proper.2.1
  notParent := safe.proper.2.2
  noSeparator := by
    intro char member
    rw [← Bool.not_eq_true]
    intro isSeparator
    rcases separators char isSeparator with rfl | rfl
    · exact safe.noSlash member
    · exact safe.noBackslash member
  noColon := fun member => safe.noInvalid _ member (by decide)

/-! ## Wire form -/

theorem splitWire_joinWire (notEmpty : components ≠ [])
    (inside : ∀ component ∈ components, '\\' ∉ component.toList) :
    splitWire (joinWire components) = components := by
  rw [splitWire, joinWire, String.toList_ofList, List.splitOn_intercalate]
  · simp
  · intro piece member
    obtain ⟨component, among, rfl⟩ := List.mem_map.mp member
    exact inside component among
  · simpa using notEmpty

theorem mem_joinWire {char : Char} (member : char ∈ (joinWire components).toList) :
    char = '\\' ∨ ∃ component ∈ components, char ∈ component.toList := by
  rw [joinWire, String.toList_ofList] at member
  induction components with
  | nil => simp at member
  | cons first rest ih =>
    cases rest with
    | nil =>
      rw [List.map_singleton, List.intercalate_singleton] at member
      exact Or.inr ⟨first, List.mem_cons_self, member⟩
    | cons second rest =>
      rw [List.map_cons, List.map_cons, List.intercalate_cons_cons, List.mem_append,
        List.mem_append] at member
      rcases member with (inFirst | isSeparator) | later
      · exact Or.inr ⟨first, List.mem_cons_self, inFirst⟩
      · exact Or.inl (List.mem_singleton.mp isSeparator)
      · rcases ih later with isSeparator | ⟨component, among, inside⟩
        · exact Or.inl isSeparator
        · exact Or.inr ⟨component, List.mem_cons_of_mem _ among, inside⟩

theorem joinWire_ne_empty (notEmpty : components ≠ [])
    (proper : ∀ component ∈ components, component ≠ "") : joinWire components ≠ "" := by
  intro empty
  cases components with
  | nil => exact notEmpty rfl
  | cons first rest =>
    have chars := congrArg String.toList empty
    rw [joinWire, String.toList_ofList] at chars
    have firstEmpty : first.toList = [] := by
      cases rest with
      | nil => simpa using chars
      | cons second rest => simp [List.intercalate_cons_cons] at chars
    exact proper first List.mem_cons_self (String.toList_inj.mp firstEmpty)

theorem splitWireParent_joinWire (notEmpty : components ≠ [])
    (safe : ∀ component ∈ components, SafeName tables component) :
    splitWireParent tables (joinWire components) = .ok components := by
  have split := splitWire_joinWire notEmpty fun component member =>
    (safe component member).noBackslash
  have text := joinWire_ne_empty notEmpty fun component member => (safe component member).proper.1
  have noSlash : '/' ∉ (joinWire components).toList := by
    intro member
    rcases mem_joinWire member with isBackslash | ⟨component, among, inside⟩
    · exact absurd isBackslash (by decide)
    · exact (safe component among).noSlash inside
  have valid : ensureAll (validateComponent tables) components = .ok () :=
    ensureAll_eq_ok.mpr fun component member => validateComponent_eq_ok.mpr (safe component member)
  simp [splitWireParent, ensure, text, noSlash, split, valid, bind, Except.bind, pure, Except.pure]

namespace RelativeClipboardPath

theorem fromLocalComponents_eq_ok {path : RelativeClipboardPath tables} :
    fromLocalComponents components = .ok path ↔ path.components = components := by
  rw [fromLocalComponents]
  split
  · rename_i err failed
    constructor
    · intro built
      cases built
    · intro same
      rw [← same, path.accepted] at failed
      cases failed
  · constructor
    · intro built
      cases built
      rfl
    · intro same
      cases path
      cases same
      rfl

theorem confined (path : RelativeClipboardPath tables) : Confined tables path.components :=
  validatePath_eq_ok.mp path.accepted

theorem fromWire_name_parent (path : RelativeClipboardPath tables) :
    fromWire path.name path.parentWirePath = .ok path := by
  have confined := path.confined
  have whole : path.components.dropLast ++ [path.name] = path.components := by
    rw [name, List.getLast?_eq_some_getLast confined.notEmpty]
    exact List.dropLast_append_getLast confined.notEmpty
  have validName : validateComponent tables path.name = .ok () := by
    apply validateComponent_eq_ok.mpr
    apply confined.names
    rw [← whole]
    simp
  have parent : parentComponents tables path.parentWirePath = .ok path.components.dropLast := by
    by_cases top : path.components.dropLast = []
    · rw [parentWirePath, if_pos top, top, parentComponents]
    · rw [parentWirePath, if_neg top, parentComponents]
      exact splitWireParent_joinWire top fun component member =>
        confined.names component (List.dropLast_subset _ member)
  rw [fromWire, parent]
  simp only [validName, bind, Except.bind]
  exact fromLocalComponents_eq_ok.mpr whole.symm

end RelativeClipboardPath

/-- Whatever two texts arrive, a path made of them is confined on every system, and its
own name and parent give it again. -/
theorem clipboard_paths_confined (name : String) (parent : Option String)
    (path : RelativeClipboardPath tables)
    (_accepted : RelativeClipboardPath.fromWire name parent = .ok path) :
    Confined tables path.components ∧
      (∀ platform ∈ [unix, windows], ∀ root,
        StrictlyInside root (root.push (path.asPathBuf platform))) ∧
      RelativeClipboardPath.fromWire path.name path.parentWirePath = .ok path := by
  refine ⟨path.confined, ?_, path.fromWire_name_parent⟩
  intro platform known root
  apply push_collect_inside
  · intro component member
    apply (path.confined.names component member).plain
    intro char isSeparator
    simp only [List.mem_cons, List.not_mem_nil, or_false] at known
    rcases known with rfl | rfl
    · exact Or.inl (by simpa [unix] using isSeparator)
    · simpa [windows] using isSeparator
  · exact path.confined.notEmpty

theorem toLower_backslash (char : Char) (member : '\\' ∈ [char.toLower]) : char = '\\' := by
  have same : '\\' = char.toLower := List.mem_singleton.mp member
  rw [Char.toLower] at same
  split at same
  · rename_i upper
    have value : 92 - 32 = char.val + 32 - 32 := congrArg (fun char => char.val - 32) same
    rw [UInt32.add_sub_cancel] at value
    rw [← value] at upper
    exact absurd upper.1 (by decide)
  · exact same.symm

def asciiTables : NameTables where
  lower char := [char.toLower]
  cased := Char.isAlpha
  caseIgnorable char := char = '.' || char = ':' || char = '^'
  lower_backslash := toLower_backslash
  isWindowsDeviceName component :=
    component.toList.map Char.toUpper ∈ [['C', 'O', 'N'], ['P', 'R', 'N'], ['A', 'U', 'X'],
      ['N', 'U', 'L']]

def nestedPath : RelativeClipboardPath asciiTables := ⟨["docs", "2024", "report.txt"], rfl⟩

theorem nested_path_confined :
    RelativeClipboardPath.fromWire "report.txt" (some "docs\\2024") = .ok nestedPath ∧
      StrictlyInside { rooted := true, components := [.normal "tmp"] }
        ((PathBuf.mk none true [.normal "tmp"]).push (nestedPath.asPathBuf unix)) := by
  have built : RelativeClipboardPath.fromWire "report.txt" (some "docs\\2024") =
      .ok nestedPath := rfl
  exact ⟨built, (clipboard_paths_confined _ _ nestedPath built).2.1 unix (by simp) _⟩

end Onetcli.Rdp.Clipboard
