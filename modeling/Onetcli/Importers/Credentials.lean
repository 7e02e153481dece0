import Onetcli.Importers.Records

/-!
The part of a URL that holds a user and a password, and where a text with it is cut: at a
delimiter that is not in the password, at the last `@`, at the first colon.
-/

namespace Onetcli.Importers

open Chars Text

/-! ## The part of a URL with user and password -/

/-- What stands behind the scheme: user, password, and all that follows the `@`. -/
def credentials (user password tail : Chars) : Chars := user ++ ':' :: (password ++ '@' :: tail)

theorem credentials_cons (char : Char) (user password tail : Chars) :
    credentials (char :: user) password tail = char :: credentials user password tail := rfl

theorem append_credentials (front user password tail : Chars) :
    front ++ credentials user password tail = credentials (front ++ user) password tail := by
  simp only [credentials, List.append_assoc]

section Cuts

variable {separates : Char → Bool} {password : Chars}

theorem splitOnce_credentials (user tail : Chars) (colon : separates ':' = false)
    (sign : separates '@' = false) (clean : ∀ char ∈ password, separates char = false) :
    splitOnce separates (credentials user password tail) =
      match splitOnce separates user with
      | some (left, right) => some (left, credentials right password tail)
      | none => (splitOnce separates tail).map fun (left, right) =>
        (credentials user password left, right) := by
  have closed : ∀ char ∈ ':' :: (password ++ ['@']), separates char = false := by
    intro char member
    simp only [List.mem_cons, List.mem_append, List.not_mem_nil, or_false] at member
    rcases member with rfl | inside | rfl
    · exact colon
    · exact clean char inside
    · exact sign
  induction user with
  | nil =>
    have cut := splitOnce_clean closed tail
    simp only [List.cons_append, List.append_assoc, List.nil_append] at cut
    simp only [credentials, List.nil_append, splitOnce]
    exact cut
  | cons char rest ih =>
    rw [credentials_cons, splitOnce, splitOnce, ih]
    split
    · rfl
    · cases splitOnce separates rest with
      | some parts => rfl
      | none => cases splitOnce separates tail <;> rfl

theorem firstPart_credentials (user tail : Chars) (colon : separates ':' = false)
    (sign : separates '@' = false) (clean : ∀ char ∈ password, separates char = false) :
    firstPart separates (credentials user password tail) =
      match splitOnce separates user with
      | some (left, _) => left
      | none => credentials user password (firstPart separates tail) := by
  rw [firstPart, splitOnce_credentials user tail colon sign clean]
  cases splitOnce separates user with
  | some parts => rfl
  | none =>
    rw [firstPart]
    cases splitOnce separates tail <;> rfl

end Cuts

-- The `@` that counts is the last one, in the tail or in front of it.
theorem rsplitOnce_credentials (user password tail : Chars) :
    rsplitOnce (· == '@') (credentials user password tail) =
      some (match rsplitOnce (· == '@') tail with
        | some (left, right) => (credentials user password left, right)
        | none => (user ++ ':' :: password, tail)) := by
  have spelled : credentials user password tail = (user ++ ':' :: password) ++ '@' :: tail := by
    simp [credentials]
  rw [spelled, rsplitOnce_append_cons rfl]
  cases rsplitOnce (· == '@') tail with
  | some parts => simp [credentials]
  | none => rfl

theorem firstPart_user (user password : Chars) :
    firstPart (· == ':') (user ++ ':' :: password) = firstPart (· == ':') user :=
  firstPart_append_cons rfl user password

theorem splitOnce_user (user password : Chars) :
    ∃ after, splitOnce (· == ':') (user ++ ':' :: password) =
      some (firstPart (· == ':') user, after) := by
  rw [splitOnce_append_cons rfl, firstPart]
  cases splitOnce (· == ':') user with
  | some parts => exact ⟨_, rfl⟩
  | none => exact ⟨_, rfl⟩

theorem trim_credentials (user password tail : Chars) : trim (credentials user password tail) =
      credentials (trimStart user) password (trimEnd tail) := by
  have spelled : credentials user password tail = (user ++ ':' :: password) ++ '@' :: tail := by
    simp [credentials]
  have start : trimStart (user ++ ':' :: password) = trimStart user ++ ':' :: password := by
    rw [trimStart, trimStart, List.dropWhile_append]
    split
    · rename_i empty
      rw [List.isEmpty_iff.mp empty]
      rfl
    · rfl
  rw [spelled, trim_separated rfl, start]
  simp [credentials]

/-- Two secrets are alike for a program when no run tells which of them it was given. -/
def Alike {Context Secret Output : Type} (run : Context → Secret → Output)
    (first second : Secret) : Prop :=
  ∀ context, run context first = run context second

/-! ## What a part of a text can hold -/

theorem nonEmpty_length {text kept : Chars} (found : nonEmpty (some text) = some kept) :
    kept.length ≤ text.length := by
  rcases Option.filter_eq_some_iff.mp found with ⟨cut, _⟩
  cases cut
  exact trim_length text

theorem stripPrefix_length {start text rest : Chars} (found : stripPrefix start text = some rest) :
    rest.length ≤ text.length := by
  rw [stripPrefix] at found
  split at found
  · cases found
    rw [List.length_drop]
    omega
  · cases found

theorem firstPart_cut {separates : Char → Bool} {delimiter : Char}
    (hit : separates delimiter = true) {password : Chars} (leaky : delimiter ∈ password)
    (user tail : Chars) : (firstPart separates (credentials user password tail)).length ≤
      user.length + password.length := by
  rcases List.append_of_mem leaky with ⟨before, after, rfl⟩
  have spelled : credentials user (before ++ delimiter :: after) tail =
      (user ++ ':' :: before) ++ delimiter :: (after ++ '@' :: tail) := by simp [credentials]
  have bound := firstPart_length separates (user ++ ':' :: before)
  rw [spelled, firstPart_append_cons hit]
  simp only [List.length_append, List.length_cons] at bound ⊢
  omega

def longName (letter : Char) (length : Nat) : Chars := List.replicate length letter

section LongNames

variable {separates : Char → Bool} {letter : Char} (other : separates letter = false)
  (length : Nat)
include other

theorem longName_clean : ∀ char ∈ longName letter length, separates char = false := by
  intro char member
  rw [List.eq_of_mem_replicate member]
  exact other

theorem splitOnce_longName : splitOnce separates (longName letter length) = none := by
  have cut := splitOnce_clean (longName_clean other length) []
  rwa [List.append_nil] at cut

theorem firstPart_longName : firstPart separates (longName letter length) =
    longName letter length := by
  rw [firstPart, splitOnce_longName other]

theorem rsplitOnce_longName : rsplitOnce separates (longName letter length) = none := by
  rw [rsplitOnce, longName, List.reverse_replicate]
  exact congrArg _ (splitOnce_longName other length)

theorem lastPart_longName : lastPart separates (longName letter length) =
    longName letter length := by
  rw [lastPart, rsplitOnce_longName other]

end LongNames

theorem trimEnd_longName {letter : Char} (black : isWhiteSpace letter = false) (length : Nat) :
    trimEnd (longName letter length) = longName letter length := by
  simp [trimEnd, longName, black]

theorem trim_longName {letter : Char} (black : isWhiteSpace letter = false) (length : Nat) :
    trim (longName letter length) = longName letter length := by
  have start : trimStart (longName letter length) = longName letter length := by
    simp [trimStart, longName, black]
  rw [trim, start, trimEnd_longName black]

/-- The host that a probing URL names. -/
def longHost (length : Nat) : Chars := longName 'h' (length + 1)

theorem longHost_length (length : Nat) : (longHost length).length = length + 1 :=
  List.length_replicate

theorem trim_longHost (length : Nat) : trim (longHost length) = longHost length :=
  trim_longName rfl _

theorem longHost_nonempty (length : Nat) : longHost length ≠ [] := by
  simp [longHost, longName]

theorem longHost_colons (length : Nat) : (longHost length).count ':' = 0 := by
  simp [longHost, longName, List.count_replicate]

end Onetcli.Importers
