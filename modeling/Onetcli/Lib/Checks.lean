import Mathlib.Data.List.Forall2

/-!
Checks that run one after the other in `Except`: what it says that all of them
passed.
-/

namespace Onetcli.Checks

variable {Err Failure A B : Type}

theorem bind_eq_ok {first : Except Err A} {next : A → Except Err B} {result : B} :
    (first >>= next) = .ok result ↔ ∃ value, first = .ok value ∧ next value = .ok result := by
  cases first with
  | error err => simp [bind, Except.bind]
  | ok value => simp [bind, Except.bind]

theorem then_eq_ok {first second : Except Err Unit} :
    (first >>= fun _ => second) = .ok () ↔ first = .ok () ∧ second = .ok () := by
  rw [bind_eq_ok]
  constructor
  · rintro ⟨⟨⟩, passed, rest⟩
    exact ⟨passed, rest⟩
  · rintro ⟨passed, rest⟩
    exact ⟨(), passed, rest⟩

theorem map_eq_ok {first : Except Err A} {change : A → B} {result : B} :
    first.map change = .ok result ↔ ∃ value, first = .ok value ∧ change value = result := by
  cases first <;> simp [Except.map]

theorem pure_eq_ok {value result : A} :
    (pure value : Except Err A) = .ok result ↔ value = result := by
  simp [pure, Except.pure]

theorem mapError_eq_ok {first : Except Err A} {change : Err → Failure} {result : A} :
    first.mapError change = .ok result ↔ first = .ok result := by
  cases first <;> simp [Except.mapError]

theorem mapM_eq_ok {build : A → Except Err B} {sources : List A} {targets : List B} :
    sources.mapM build = .ok targets ↔
      List.Forall₂ (fun source target => build source = .ok target) sources targets := by
  induction sources generalizing targets with
  | nil => rw [List.mapM_nil, pure_eq_ok, List.forall₂_nil_left_iff, eq_comm]
  | cons source rest ih =>
    simp only [List.mapM_cons, bind_eq_ok, pure_eq_ok, ih, List.forall₂_cons_left_iff]
    constructor
    · rintro ⟨target, head, others, tail, same⟩
      exact ⟨target, others, head, tail, same.symm⟩
    · rintro ⟨target, others, head, tail, same⟩
      exact ⟨target, head, others, tail, same.symm⟩

/-- A condition that must hold for the checks to go on. -/
def ensure (condition : Prop) [Decidable condition] (err : Err) : Except Err Unit :=
  if condition then .ok () else .error err

@[simp]
theorem ensure_eq_ok {condition : Prop} [Decidable condition] {err : Err} :
    ensure condition err = .ok () ↔ condition := by
  rw [ensure]
  split
  · rename_i holds
    simp [holds]
  · rename_i fails
    simp [fails]

def ensureAll (check : A → Except Err Unit) : List A → Except Err Unit
  | [] => .ok ()
  | item :: rest => do
    check item
    ensureAll check rest

@[simp]
theorem ensureAll_eq_ok {check : A → Except Err Unit} {items : List A} :
    ensureAll check items = .ok () ↔ ∀ item ∈ items, check item = .ok () := by
  induction items with
  | nil => simp [ensureAll]
  | cons item rest ih =>
    rw [ensureAll, then_eq_ok, List.forall_mem_cons, ih]

end Onetcli.Checks
