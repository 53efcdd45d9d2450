import QueryVariants.Evaluation.Evaluate

/-!
# Resolving names

A name is evaluated on its first use and its value kept. While it is being evaluated it is in progress,
and a reference back to it is an error. The nesting of names is bounded by their number: a name that is
entered is in progress and cannot be entered again, so no more levels are needed than there are names,
and one more to see that a name is in progress.
-/

namespace QueryVariants.Evaluation

open Macro

/-- The value of the substitution of a name. -/
def compute (scope : Scope) (names : Names) : Expr → Evaluator Value
  | .list inner count => do
    let items ← collectDistinct (evaluate scope names inner) count
    return .list items
  | e => do
    let text ← evaluate scope names e
    return .scalar text

/-- Evaluates the substitution of a name, with the name in progress, and keeps the value. -/
def computeAndStore (scope : Scope) (names : Names) (name : String) (e : Expr) :
    Evaluator Value := do
  let value ← Evaluator.during name (compute scope names e)
  modify fun state => state.store name value
  return value

/-- The value of a name as a text. -/
def resolveValue (scope : Scope) (names : Names) (name : String) : Evaluator String := do
  match (← get).cache[name]? with
  | some value => return value.render
  | none =>
    let e ← Evaluator.ofExcept (scope.substitution name)
    let value ← computeAndStore scope names name e
    return value.render

/-- One item of a kept value. -/
def readItem (name : String) (index : Nat) : Value → Except Error String
  | .scalar _ => .error (.cacheShape name)
  | .list items =>
    match items[index]? with
    | some item => .ok item
    | none => .error (.listIndexOutOfRange name index items.length)

/-- An item of the list of a name. -/
def resolveItem (scope : Scope) (names : Names) (name : String) (index : Nat) :
    Evaluator String := do
  match (← get).cache[name]? with
  | some value => Evaluator.ofExcept (readItem name index value)
  | none =>
    match ← Evaluator.ofExcept (scope.substitution name) with
    | .list inner count =>
      let value ← computeAndStore scope names name (.list inner count)
      Evaluator.ofExcept (readItem name index value)
    | _ => throw (.notAList name)

/-- The names of a scope with `depth` levels of nesting. -/
def namesWithin (scope : Scope) : Nat → Names
  | 0 => ⟨fun name => throw (.cyclicReference name), fun name _ => throw (.cyclicReference name)⟩
  | depth + 1 =>
    ⟨fun name => resolveValue scope (namesWithin scope depth) name,
     fun name index => resolveItem scope (namesWithin scope depth) name index⟩

namespace Scope

/-- The names of a scope, with as many levels as can be needed. -/
def names (scope : Scope) : Names :=
  namesWithin scope (scope.substitutions.size + 1)

def resolve (scope : Scope) (name : String) : Evaluator String :=
  scope.names.value name

def resolveItem (scope : Scope) (name : String) (index : Nat) : Evaluator String :=
  scope.names.item name index

def evaluate (scope : Scope) (e : Expr) : Evaluator String :=
  Evaluation.evaluate scope scope.names e

end Scope

/-- The value of an expression by itself: without other names or tables, with the row counts at scale
factor one, and with seed zero. -/
def evaluateConstant (e : Expr) : Except Error String :=
  let scope : Scope := ⟨∅, .empty, .scaleOne⟩
  (scope.evaluate e (.ofSeed 0)).1

end QueryVariants.Evaluation
