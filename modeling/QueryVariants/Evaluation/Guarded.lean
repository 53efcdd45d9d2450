import QueryVariants.Evaluation.Resolve

/-!
# Evaluation with guards

Arithmetic on machine numbers, draws and dates have inputs for which there is no result, and a program that
comes upon one of them stops in the middle. The definitions of the evaluation are total and give some value
there. This is the evaluation once more with a guard in front of every such operation, which ends it with a
report of the fault. A run that gives the same whatever a fault is reported as has come upon none.
-/

namespace QueryVariants.Evaluation

open Macro Text

/-- What would stop an evaluation in the middle. -/
inductive Fault where
  /-- A draw from a range that holds nothing. -/
  | emptyDraw
  | divisionByZero
  /-- The quotient of the least signed number and minus one. -/
  | divisionOverflow
  /-- A day before the first date or after the last. -/
  | dayOutOfRange
  /-- Choices of which none belongs to the number that was drawn. -/
  | noChoice
  /-- A list whose length or whose room in memory cannot be counted. -/
  | listTooLong
  /-- A table without a column to count the rows of. -/
  | noColumn
  deriving DecidableEq, Repr

namespace Guarded

section

variable (report : Fault → Error)

/-- Goes on only if the condition holds. -/
def guarding (condition : Prop) [Decidable condition] (fault : Fault) : Evaluator Unit :=
  if condition then pure () else throw (report fault)

def between (low high : Int) : Evaluator Int := do
  guarding report (low ≤ high) .emptyDraw
  Evaluator.between low high

def below (width : Nat) : Evaluator Nat := do
  guarding report (0 < width) .emptyDraw
  Evaluator.below width

/-- The number of rows is that of the first column. -/
def tableSize (table : Table) : Evaluator Nat := do
  guarding report (table.fields ≠ []) .noColumn
  return table.size

def rowCount (scope : Scope) (relation : String) : Evaluator Nat :=
  match scope.rowCounts.find? relation with
  | some count => pure count
  | none =>
    match scope.registry.find? relation with
    | some table => tableSize report table
    | none => throw (.unknownRelation relation)

def divide (dividend divisor : Int) : Evaluator Int := do
  guarding report (divisor ≠ 0) .divisionByZero
  guarding report (¬(dividend = -(maxSigned + 1 : Int) ∧ divisor = -1)) .divisionOverflow
  return dividend / divisor

/-- The date of a day, if there is one. -/
def dateOfDay (number : Int) : Evaluator Date := do
  guarding report (Date.first.dayNumber ≤ number ∧ number ≤ Date.last.dayNumber) .dayOutOfRange
  return Date.ofDayNumber number

def drawValue (table : Table) (field column : Nat) : Evaluator String := do
  let total ← Evaluator.ofExcept (table.totalWeight column)
  if total = 0 then throw (.emptyWeights table.name column)
  else
    let offset ← below report total
    let row ← Evaluator.ofExcept (table.rowForWeight column (1 + offset))
    Evaluator.ofExcept (table.cell field row)

def choose (draw : Nat) (options : List (String × Nat)) : Evaluator String :=
  match pickOption draw options with
  | some text => pure text
  | none => throw (report .noChoice)

/-- The items of a list. The guard leaves 64 bytes of room for each evaluation that the list may take. -/
def items (draw : Evaluator String) (count : Nat) : Evaluator (List String) := do
  guarding report (64 * discardBudget count ≤ maxSigned) .listTooLong
  collectDistinct draw count

def evaluate (scope : Scope) (names : Names) : Expr → Evaluator String
  | .text value => pure value
  | .rowCount relation => do
    let count ← rowCount report scope relation
    return toString count
  | .format inner value => do
    let input ← evaluate scope names inner
    return Expr.formatInteger value input
  | .random start stop => do
    let startValue ← evaluate scope names start
    let low ← Evaluator.ofExcept (readInteger "random() start" startValue)
    let stopValue ← evaluate scope names stop
    let high ← Evaluator.ofExcept (readInteger "random() end" stopValue)
    if high < low then throw (.emptyRange startValue stopValue)
    else
      let value ← between report low high
      return toString value
  | .list inner count => do
    let items ← items report (evaluate scope names inner) count
    return (Value.list items).render
  | .date first last _ => do
    let firstValue ← evaluate scope names first
    let low ← Evaluator.ofExcept (readDate firstValue)
    let lastValue ← evaluate scope names last
    let high ← Evaluator.ofExcept (readDate lastValue)
    let span := high.dayNumber - low.dayNumber
    if span < 0 then throw (.emptyRange firstValue lastValue)
    else
      let offset ← between report 0 span
      let date ← dateOfDay report (low.dayNumber + offset)
      return date.toString
  | .divide inner divisor => do
    let value ← evaluate scope names inner
    let dividend ← Evaluator.ofExcept (readInteger "division" value)
    let quotient ← divide report dividend divisor
    return toString quotient
  | .member index table field => do
    let value ← evaluate scope names index
    let row ← Evaluator.ofExcept (readInteger "distmember() row" value)
    let size ← tableSize report table
    if row < 1 ∨ (size : Int) < row then throw (.rowOutOfRange table.name row size)
    else Evaluator.ofExcept (table.cell field (row - 1).toNat)
  | .draw table field column => drawValue report table field column
  | .reference name => names.value name
  | .item name index => names.item name index
  | .choice options => do
    let total := Weights.total (options.map Prod.snd)
    if UInt64.size ≤ total then
      throw (.invalidNumber (Expr.choice options).render "text() total weight")
    else if total = 0 then throw (.emptyRange "0" "0")
    else
      let draw ← below report total
      choose report draw options
  | .append left right => do
    let leftValue ← evaluate scope names left
    let rightValue ← evaluate scope names right
    return leftValue ++ rightValue

def compute (scope : Scope) (names : Names) : Expr → Evaluator Value
  | .list inner count => do
    let items ← items report (evaluate report scope names inner) count
    return .list items
  | e => do
    let text ← evaluate report scope names e
    return .scalar text

def computeAndStore (scope : Scope) (names : Names) (name : String) (e : Expr) : Evaluator Value := do
  let value ← Evaluator.during name (compute report scope names e)
  modify fun state => state.store name value
  return value

def resolveValue (scope : Scope) (names : Names) (name : String) : Evaluator String := do
  match (← get).cache[name]? with
  | some value => return value.render
  | none =>
    let e ← Evaluator.ofExcept (scope.substitution name)
    let value ← computeAndStore report scope names name e
    return value.render

def resolveItem (scope : Scope) (names : Names) (name : String) (index : Nat) : Evaluator String := do
  match (← get).cache[name]? with
  | some value => Evaluator.ofExcept (readItem name index value)
  | none =>
    match ← Evaluator.ofExcept (scope.substitution name) with
    | .list inner count =>
      let value ← computeAndStore report scope names name (.list inner count)
      Evaluator.ofExcept (readItem name index value)
    | _ => throw (.notAList name)

def namesWithin (scope : Scope) : Nat → Names
  | 0 => ⟨fun name => throw (.cyclicReference name), fun name _ => throw (.cyclicReference name)⟩
  | depth + 1 =>
    ⟨fun name => resolveValue report scope (namesWithin scope depth) name,
     fun name index => resolveItem report scope (namesWithin scope depth) name index⟩

def resolve (scope : Scope) (name : String) : Evaluator String :=
  (namesWithin report scope (scope.substitutions.size + 1)).value name

end

/-- What a computation with guards comes to in a state, if it does not stop at a fault. Two runs that report
faults in different ways tell. -/
def outcome? (computation : (Fault → Error) → Evaluator String) (state : State) :
    Option (Except Error String × State) :=
  match computation (fun _ => .notAList "") state, (computation (fun _ => .cacheShape "") state).1 with
  | (.error error, next), .error other => if error = other then some (.error error, next) else none
  | outcome, _ => some outcome

end Guarded

end QueryVariants.Evaluation
