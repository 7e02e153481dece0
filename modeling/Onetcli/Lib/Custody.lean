import Mathlib.Logic.Function.Basic

/-!
Keys that are taken or free, and the owners that hold them. A record of owners is
right when a key is taken exactly if it has one owner. The rules below follow the
changes of a program that keeps such a record beside the thing it records: an
owner takes a free key, an owner gives its key back, an owner is forgotten while
the key stays taken, and a key is taken without an owner.
-/

/-!
Permits to report on a key once. A key becomes known when its only permit is issued;
the permit may pass from hand to hand, be used or be lost, and it may be withdrawn.
`live` counts the permits of a key, used ones included, so a key whose permit was
withdrawn was never reported on and never will be.
-/

namespace Onetcli.Permits

variable {Key : Type}

structure AtMostOnce (live : Key → Nat) (withdrawn known : Key → Prop) : Prop where
  single : ∀ key, live key ≤ 1
  gone : ∀ key, withdrawn key → live key = 0
  live_known : ∀ key, 0 < live key → known key
  withdrawn_known : ∀ key, withdrawn key → known key

variable {live after : Key → Nat} {withdrawn known withdrawn' known' : Key → Prop}

theorem AtMostOnce.pass (permits : AtMostOnce live withdrawn known)
    (less : ∀ key, after key ≤ live key) (same : ∀ key, withdrawn' key → withdrawn key)
    (more : ∀ key, known key → known' key) : AtMostOnce after withdrawn' known' where
  single key := Nat.le_trans (less key) (permits.single key)
  gone key away := Nat.le_zero.mp (permits.gone key (same key away) ▸ less key)
  live_known key some :=
    more key (permits.live_known key (Nat.lt_of_lt_of_le some (less key)))
  withdrawn_known key away := more key (permits.withdrawn_known key (same key away))

theorem AtMostOnce.fewer (permits : AtMostOnce live withdrawn known)
    (less : ∀ key, after key ≤ live key) : AtMostOnce after withdrawn known :=
  permits.pass less (fun _ away => away) (fun _ known => known)

theorem AtMostOnce.issue (permits : AtMostOnce live withdrawn known) {key : Key}
    (fresh : ¬ known key) (less : ∀ other, other ≠ key → after other ≤ live other)
    (one : after key ≤ live key + 1) (same : ∀ other, withdrawn' other → withdrawn other)
    (more : ∀ other, known other → known' other) (new : known' key) :
    AtMostOnce after withdrawn' known' where
  single other := by
    by_cases equal : other = key
    · rw [equal]
      have none : live key = 0 := Nat.eq_zero_of_not_pos fun some =>
        fresh (permits.live_known key some)
      rwa [none] at one
    · exact Nat.le_trans (less other equal) (permits.single other)
  gone other away := by
    have different : other ≠ key := by
      rintro rfl
      exact fresh (permits.withdrawn_known other (same other away))
    exact Nat.le_zero.mp (permits.gone other (same other away) ▸ less other different)
  live_known other some := by
    by_cases equal : other = key
    · rw [equal]
      exact new
    · exact more other (permits.live_known other (Nat.lt_of_lt_of_le some (less other equal)))
  withdrawn_known other away := more other (permits.withdrawn_known other (same other away))

theorem AtMostOnce.withdraw (permits : AtMostOnce live withdrawn known) {key : Key}
    (less : ∀ other, after other ≤ live other) (dropped : after key < live key)
    (same : ∀ other, withdrawn' other → withdrawn other ∨ other = key)
    (more : ∀ other, known other → known' other) : AtMostOnce after withdrawn' known' where
  single other := Nat.le_trans (less other) (permits.single other)
  gone other away := by
    rcases same other away with before | equal
    · exact Nat.le_zero.mp (permits.gone other before ▸ less other)
    · rw [equal]
      have single := permits.single key
      omega
  live_known other some :=
    more other (permits.live_known other (Nat.lt_of_lt_of_le some (less other)))
  withdrawn_known other away := by
    apply more
    rcases same other away with before | equal
    · exact permits.withdrawn_known other before
    · rw [equal]
      exact permits.live_known key (Nat.zero_lt_of_lt dropped)

end Onetcli.Permits

namespace Onetcli.Custody

variable {Key Owner : Type}

def Agrees (taken : Key → Bool) (holds : Key → Owner → Prop) : Prop :=
  ∀ key, taken key = true ↔ ∃! owner, holds key owner

structure Exclusive (taken : Key → Bool) (holds : Key → Owner → Prop) : Prop where
  taken_of_holds : ∀ key owner, holds key owner → taken key = true
  unique : ∀ key first second, holds key first → holds key second → first = second
  held : ∀ key, taken key = true → ∃ owner, holds key owner

variable {taken : Key → Bool} {holds after : Key → Owner → Prop} {key : Key} {owner : Owner}

theorem Exclusive.agrees (custody : Exclusive taken holds) : Agrees taken holds := by
  intro key
  constructor
  · intro isTaken
    obtain ⟨owner, present⟩ := custody.held key isTaken
    exact ⟨owner, present, fun other also => custody.unique key other owner also present⟩
  · rintro ⟨owner, present, _⟩
    exact custody.taken_of_holds key owner present

theorem Exclusive.free (custody : Exclusive taken holds) (isFree : taken key = false)
    (owner : Owner) : ¬ holds key owner := by
  intro present
  have isTaken := custody.taken_of_holds key owner present
  rw [isFree] at isTaken
  cases isTaken

theorem Exclusive.keep (custody : Exclusive taken holds)
    (same : ∀ key owner, after key owner ↔ holds key owner) : Exclusive taken after := by
  have equal : after = holds := funext fun key => funext fun owner => propext (same key owner)
  rw [equal]
  exact custody

theorem Exclusive.leak (custody : Exclusive taken holds) (present : holds key owner)
    (dropped : ∀ other holder, after other holder ↔ holds other holder ∧ other ≠ key) :
    ¬ Agrees taken after := by
  intro agrees
  obtain ⟨holder, stays, _⟩ := (agrees key).mp (custody.taken_of_holds key owner present)
  exact ((dropped key holder).mp stays).2 rfl

variable [DecidableEq Key]

theorem taken_of_released {other : Key} (isTaken : Function.update taken key false other = true) :
    other ≠ key ∧ taken other = true := by
  by_cases same : other = key
  · simp [same] at isTaken
  · rw [Function.update_of_ne same] at isTaken
    exact ⟨same, isTaken⟩

theorem taken_of_acquired {other : Key} (isTaken : Function.update taken key true other = true) :
    other = key ∨ taken other = true := by
  by_cases same : other = key
  · exact Or.inl same
  · rw [Function.update_of_ne same] at isTaken
    exact Or.inr isTaken

theorem Exclusive.acquire (custody : Exclusive taken holds) (isFree : taken key = false)
    (owner : Owner) (added : ∀ other holder, after other holder ↔
      holds other holder ∨ other = key ∧ holder = owner) :
    Exclusive (Function.update taken key true) after := by
  constructor
  · intro other holder present
    by_cases same : other = key
    · simp [same]
    · rw [Function.update_of_ne same]
      rcases (added other holder).mp present with old | ⟨new, _⟩
      · exact custody.taken_of_holds other holder old
      · exact absurd new same
  · intro other first second hold also
    rcases (added other first).mp hold with old | ⟨rfl, rfl⟩
    · rcases (added other second).mp also with older | ⟨rfl, _⟩
      · exact custody.unique other first second old older
      · exact absurd old (custody.free isFree _)
    · rcases (added other second).mp also with older | ⟨_, rfl⟩
      · exact absurd older (custody.free isFree _)
      · rfl
  · intro other isTaken
    rcases taken_of_acquired isTaken with same | wasTaken
    · exact ⟨owner, (added other owner).mpr (Or.inr ⟨same, rfl⟩)⟩
    · obtain ⟨holder, old⟩ := custody.held other wasTaken
      exact ⟨holder, (added other holder).mpr (Or.inl old)⟩

theorem Exclusive.release (custody : Exclusive taken holds)
    (dropped : ∀ other holder, after other holder ↔ holds other holder ∧ other ≠ key) :
    Exclusive (Function.update taken key false) after := by
  constructor
  · intro other holder stays
    obtain ⟨old, different⟩ := (dropped other holder).mp stays
    rw [Function.update_of_ne different]
    exact custody.taken_of_holds other holder old
  · intro other first second hold also
    exact custody.unique other first second ((dropped other first).mp hold).1
      ((dropped other second).mp also).1
  · intro other isTaken
    obtain ⟨different, wasTaken⟩ := taken_of_released isTaken
    obtain ⟨holder, old⟩ := custody.held other wasTaken
    exact ⟨holder, (dropped other holder).mpr ⟨old, different⟩⟩

theorem Exclusive.strand (custody : Exclusive taken holds) (isFree : taken key = false) :
    ¬ Agrees (Function.update taken key true) holds := by
  intro agrees
  obtain ⟨holder, present, _⟩ := (agrees key).mp (by simp)
  exact custody.free isFree holder present

end Onetcli.Custody
