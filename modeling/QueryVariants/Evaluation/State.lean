import QueryVariants.Distribution.Registry
import QueryVariants.Macro.Expr
import QueryVariants.RowCounts
import Std.Data.HashMap

/-!
# The state of an evaluation

Within one expansion every name is evaluated at most once. The state holds the random stream, the values
that are known already and the names that are being evaluated. A computation carries the state on also
when it fails, so what a failed evaluation leaves behind can be stated.
-/

namespace QueryVariants.Evaluation

open Macro

/-- The value of a name: a list where its expression is a list, a single text otherwise. -/
inductive Value where
  | scalar (text : String)
  | list (items : List String)
  deriving DecidableEq, Repr

namespace Value

/-- A list is shown in brackets. -/
def render : Value → String
  | scalar text => text
  | list items => "[" ++ ", ".intercalate items ++ "]"

end Value

/-- What an expression may look at: the substitutions of its template, the tables and the row
counts. -/
structure Scope where
  substitutions : OrderedMap Expr
  registry : Registry
  rowCounts : RowCounts

namespace Scope

def substitution (scope : Scope) (name : String) : Except Error Expr :=
  match scope.substitutions.find? name with
  | some e => .ok e
  | none => .error (.unknownSubstitution name)

/-- The rows of a relation, or else of the table of that name. -/
def rowCount (scope : Scope) (relation : String) : Except Error Nat :=
  match scope.rowCounts.find? relation with
  | some count => .ok count
  | none =>
    match scope.registry.find? relation with
    | some table => .ok table.size
    | none => .error (.unknownRelation relation)

end Scope

structure State where
  stream : Random.Stream
  /-- The values found so far. -/
  cache : Std.HashMap String Value
  /-- The names that are being evaluated, the innermost first. -/
  inProgress : List String

namespace State

/-- The state before the first evaluation. -/
def ofSeed (seed : UInt64) : State :=
  ⟨.ofSeed seed, ∅, []⟩

def enter (state : State) (name : String) : State :=
  { state with inProgress := name :: state.inProgress }

def leave (state : State) (name : String) : State :=
  { state with inProgress := state.inProgress.erase name }

def store (state : State) (name : String) (value : Value) : State :=
  { state with cache := state.cache.insert name value }

end State

/-- A computation on the state that may fail; the state is kept when it does. -/
abbrev Evaluator := ExceptT Error (StateM State)

namespace Evaluator

def ofExcept {α : Type} (result : Except Error α) : Evaluator α :=
  fun state => (result, state)

/-- A computation on the random stream alone. -/
def onStream {α : Type} (f : Random.Stream → Except Error α × Random.Stream) : Evaluator α :=
  fun state =>
    let (result, stream) := f state.stream
    (result, { state with stream })

def between (low high : Int) : Evaluator Int :=
  onStream fun stream =>
    let (value, stream) := stream.between low high
    (.ok value, stream)

def below (width : Nat) : Evaluator Nat :=
  onStream fun stream =>
    let (value, stream) := stream.below width
    (.ok value, stream)

/-- Runs `body` with `name` in progress and takes the name off again, whether `body` succeeds or
fails. -/
def during {α : Type} (name : String) (body : Evaluator α) : Evaluator α :=
  fun state =>
    if name ∈ state.inProgress then (.error (.cyclicReference name), state)
    else
      let (result, state) := body (state.enter name)
      (result, state.leave name)

end Evaluator

end QueryVariants.Evaluation
