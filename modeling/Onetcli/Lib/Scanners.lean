import Mathlib.Data.List.Basic

/-!
Machines that read a text one symbol at a time and give tokens, with what is left of the last
one at the end.
-/

namespace Onetcli.Scanners

variable {State Symbol Token : Type}

structure Scanner (State Symbol Token : Type) where
  start : State
  step : State → Symbol → List Token × State
  finish : State → List Token

namespace Scanner

variable (scanner : Scanner State Symbol Token)

def run (state : State) : List Symbol → List Token × State
  | [] => ([], state)
  | symbol :: rest =>
    let first := scanner.step state symbol
    let others := run first.2 rest
    (first.1 ++ others.1, others.2)

def tokensFrom (state : State) (text : List Symbol) : List Token :=
  (scanner.run state text).1 ++ scanner.finish (scanner.run state text).2

def tokens (text : List Symbol) : List Token := scanner.tokensFrom scanner.start text

/-- The token at the end is complete before a symbol, which begins as it does in a new text. -/
def Ends (state : State) (symbol : Symbol) : Prop :=
  scanner.step state symbol =
    (scanner.finish state ++ (scanner.step scanner.start symbol).1,
      (scanner.step scanner.start symbol).2)

variable {scanner} {state : State}

theorem run_append (first second : List Symbol) : scanner.run state (first ++ second) =
      ((scanner.run state first).1 ++ (scanner.run (scanner.run state first).2 second).1,
        (scanner.run (scanner.run state first).2 second).2) := by
  induction first generalizing state with
  | nil => rfl
  | cons symbol rest ih => simp [run, ih]

theorem tokensFrom_append (first second : List Symbol) :
    scanner.tokensFrom state (first ++ second) =
      (scanner.run state first).1 ++ scanner.tokensFrom (scanner.run state first).2 second := by
  simp [tokensFrom, run_append]

theorem tokensFrom_cons (symbol : Symbol) (rest : List Symbol) :
    scanner.tokensFrom state (symbol :: rest) =
      (scanner.step state symbol).1 ++ scanner.tokensFrom (scanner.step state symbol).2 rest := by
  simp [tokensFrom, run]

theorem tokensFrom_ends {symbol : Symbol} (ends : scanner.Ends state symbol) (rest : List Symbol) :
    scanner.tokensFrom state (symbol :: rest) =
      scanner.finish state ++ scanner.tokens (symbol :: rest) := by
  rw [tokens, tokensFrom_cons, tokensFrom_cons, ends, List.append_assoc]

theorem tokens_append {first : List Symbol} {symbol : Symbol}
    (ends : scanner.Ends (scanner.run scanner.start first).2 symbol) (rest : List Symbol) :
    scanner.tokens (first ++ symbol :: rest) =
      scanner.tokens first ++ scanner.tokens (symbol :: rest) := by
  rw [tokens, tokensFrom_append, tokensFrom_ends ends, ← List.append_assoc]
  rfl

theorem run_silent {text : List Symbol}
    (silent : ∀ symbol ∈ text, scanner.step state symbol = ([], state)) :
    scanner.run state text = ([], state) := by
  induction text with
  | nil => rfl
  | cons symbol rest ih =>
    simp [run, silent symbol List.mem_cons_self,
      ih fun other member => silent other (List.mem_cons_of_mem _ member)]

/-! ## What tokens hold of a text -/

section Count

variable (spelled : Token → List Symbol) (held : State → List Symbol) (counted : Symbol → Bool)

/-- Neither a token nor what is held for the next one has more of the symbols than was read. -/
structure Holds : Prop where
  step : ∀ state symbol, ((scanner.step state symbol).1.flatMap spelled ++
    held (scanner.step state symbol).2).countP counted ≤ (held state ++ [symbol]).countP counted
  finish : ∀ state, ((scanner.finish state).flatMap spelled).countP counted ≤
    (held state).countP counted

variable {spelled held counted}

theorem tokensFrom_count (holds : scanner.Holds spelled held counted) (text : List Symbol) :
    ((scanner.tokensFrom state text).flatMap spelled).countP counted ≤
      (held state ++ text).countP counted := by
  induction text generalizing state with
  | nil =>
    rw [List.append_nil]
    exact holds.finish state
  | cons symbol rest ih =>
    have first := holds.step state symbol
    have later := @ih (scanner.step state symbol).2
    rw [tokensFrom_cons, List.flatMap_append]
    simp only [List.countP_append, List.countP_cons, List.countP_nil] at first later ⊢
    omega

end Count

end Scanner

end Onetcli.Scanners
