import QueryVariants.Calendar
import QueryVariants.Evaluation.Distinct
import QueryVariants.Macro.Printer

/-!
# Evaluating expressions

Operands are evaluated from left to right, each checked before the next is evaluated, and the own draw of
an expression comes last. How a name gets its value is a parameter here, so that evaluation is a
recursion on the expression alone. Evaluation is total: where an operation on machine numbers has no result, such
as a division by zero, it gives some value, and it is the evaluation with guards that says where this happens.
-/

namespace QueryVariants.Evaluation

open Macro Text

/-- How names get their values: as a whole, and item by item. -/
structure Names where
  value : String → Evaluator String
  item : String → Nat → Evaluator String

def readInteger (place value : String) : Except Error Int :=
  match readSigned? (trim value.toList) with
  | some n => .ok n
  | none => .error (.invalidNumber value place)

def readDate (value : String) : Except Error Date :=
  match Date.read? value.toList with
  | some date => .ok date
  | none => .error (.invalidDate value)

/-- The first option up to which the weights add up to at least `draw`. -/
def pickOption (draw : Nat) : List (String × Nat) → Option String
  | [] => none
  | (value, weight) :: rest => if draw ≤ weight then some value else pickOption (draw - weight) rest

/-- The value of an expression as a text. -/
def evaluate (scope : Scope) (names : Names) : Expr → Evaluator String
  | .text value => pure value
  | .rowCount relation => do
    let count ← Evaluator.ofExcept (scope.rowCount relation)
    return toString count
  | .format inner value => do
    let input ← evaluate scope names inner
    return Expr.formatInteger value input
  | .random start stop => do
    let startValue ← evaluate scope names start
    let low ← Evaluator.ofExcept (readInteger "random() start" startValue)
    let stopValue ← evaluate scope names stop
    let high ← Evaluator.ofExcept (readInteger "random() end" stopValue)
    if high < low then throw (.emptyRange startValue stopValue)
    else
      let value ← Evaluator.between low high
      return toString value
  | .list inner count => do
    let items ← collectDistinct (evaluate scope names inner) count
    return (Value.list items).render
  | .date first last _ => do
    let firstValue ← evaluate scope names first
    let low ← Evaluator.ofExcept (readDate firstValue)
    let lastValue ← evaluate scope names last
    let high ← Evaluator.ofExcept (readDate lastValue)
    let span := high.dayNumber - low.dayNumber
    if span < 0 then throw (.emptyRange firstValue lastValue)
    else
      let offset ← Evaluator.between 0 span
      return (Date.ofDayNumber (low.dayNumber + offset)).toString
  | .divide inner divisor => do
    let value ← evaluate scope names inner
    let dividend ← Evaluator.ofExcept (readInteger "division" value)
    return toString (dividend / divisor)
  | .member index table field => do
    let value ← evaluate scope names index
    let row ← Evaluator.ofExcept (readInteger "distmember() row" value)
    if row < 1 ∨ (table.size : Int) < row then throw (.rowOutOfRange table.name row table.size)
    else Evaluator.ofExcept (table.cell field (row - 1).toNat)
  | .draw table field column => Evaluator.onStream (table.drawValue field column)
  | .reference name => names.value name
  | .item name index => names.item name index
  | .choice options => do
    let total := Weights.total (options.map Prod.snd)
    if UInt64.size ≤ total then
      throw (.invalidNumber (Expr.choice options).render "text() total weight")
    else if total = 0 then throw (.emptyRange "0" "0")
    else
      let draw ← Evaluator.below total
      return (pickOption draw options).getD ""
  | .append left right => do
    let leftValue ← evaluate scope names left
    let rightValue ← evaluate scope names right
    return leftValue ++ rightValue

end QueryVariants.Evaluation
