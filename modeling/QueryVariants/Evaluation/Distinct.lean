import QueryVariants.Evaluation.State
import Std.Data.HashSet

/-!
# Lists of distinct values

A list of `count` values is collected by drawing again and again. A value that is already in the list is
discarded, but only a limited number of times; after that repeated values are accepted, so that a list
is always complete in the end.
-/

namespace QueryVariants.Evaluation

/-- How many repeated values may be discarded on the way to `count` values. -/
def discardBudget (count : Nat) : Nat :=
  2 * count + 10001

/-- Collects `missing` more values with `budget` discards left; `items` are the values so far, the
last one first, and `seen` holds the same values. -/
def collect (draw : Evaluator String) (missing budget : Nat) (seen : Std.HashSet String)
    (items : List String) : Evaluator (List String) :=
  match missing with
  | 0 => pure items.reverse
  | missing + 1 => do
    let value ← draw
    if !seen.contains value then collect draw missing budget (seen.insert value) (value :: items)
    else
      match budget with
      | 0 => collect draw missing 0 seen (value :: items)
      | budget + 1 => collect draw (missing + 1) budget seen items
termination_by missing + budget

/-- `count` values of `draw`, different from each other as far as the budget allows. -/
def collectDistinct (draw : Evaluator String) (count : Nat) : Evaluator (List String) :=
  collect draw count (discardBudget count) ∅ []

end QueryVariants.Evaluation
