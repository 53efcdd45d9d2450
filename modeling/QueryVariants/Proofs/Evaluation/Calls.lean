import QueryVariants.Proofs.Evaluation.Evolution

/-!
# Sequences of calls

One expansion works on one state through many calls, and a call that fails does not end it. A
transcript records the answers of a sequence of calls; the states it passes through are the reachable
ones.
-/

namespace QueryVariants.Evaluation

open Macro

/-- A call on the state of an expansion. -/
inductive Call where
  | value (name : String)
  | item (name : String) (index : Nat)
  | expression (e : Expr)
  deriving DecidableEq, Repr

namespace Scope

variable (scope : Scope)

def answer : Call → Evaluator String
  | .value name => scope.resolve name
  | .item name index => scope.resolveItem name index
  | .expression e => scope.evaluate e

/-- The calls with their answers, and the state after the last of them. -/
def transcript : List Call → State → List (Call × Except Error String) × State
  | [], state => ([], state)
  | call :: calls, state =>
    let answered := scope.answer call state
    let rest := transcript calls answered.2
    ((call, answered.1) :: rest.1, rest.2)

/-- The answers of a sequence of calls that begins in a fresh state. -/
def answers (seed : UInt64) (calls : List Call) : List (Call × Except Error String) :=
  (scope.transcript calls (.ofSeed seed)).1

/-- The state after a sequence of calls that begins in a fresh state. -/
def stateAfter (seed : UInt64) (calls : List Call) : State :=
  (scope.transcript calls (.ofSeed seed)).2

end Scope

section

variable {scope : Scope} {R : State → State → Prop}

/-- A call moves along every relation that nested evaluations hand on. -/
theorem NestedEvolution.along_answer (hR : NestedEvolution scope R) (call : Call) (state : State) :
    R state (scope.answer call state).2 := by
  cases call with
  | value name => exact (hR.along _).value name state
  | item name index => exact (hR.along _).item name index state
  | expression e => exact (consults_evaluate scope e).along hR.toEvolution (hR.along _) state

theorem NestedEvolution.along_transcript (hR : NestedEvolution scope R) (calls : List Call)
    (state : State) : R state (scope.transcript calls state).2 := by
  induction calls generalizing state with
  | nil => exact hR.refl state
  | cons call calls ih => exact hR.trans (hR.along_answer call state) (ih _)

end

end QueryVariants.Evaluation
