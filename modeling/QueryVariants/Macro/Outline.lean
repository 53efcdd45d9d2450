import QueryVariants.Macro.Expr

/-!
# Outline of a macro expression

The tree of an expression, form by form, for a reader who wants to see how a text was understood.
-/

namespace QueryVariants.Macro

open Text

def DateKind.outline : DateKind → Outline
  | sales => .leaf "Sales"
  | returns => .leaf "Returns"
  | exponential => .leaf "Exponential"
  | uniform => .leaf "Uniform"

namespace Expr

def textLeaf (s : String) : Outline := .leaf (quote s)

def natLeaf (n : Nat) : Outline := .leaf (toString n)

def intLeaf (n : Int) : Outline := .leaf (toString n)

def outline : Expr → Outline
  | text value => .tuple "Fixed" [textLeaf value]
  | rowCount relation => .tuple "RowCount" [textLeaf relation]
  | format inner value =>
    .record "Transform" [("inner", inner.outline), ("format", .tuple "Integer" [intLeaf value])]
  | random start stop =>
    .record "UniformRange" [("start", start.outline), ("end", stop.outline)]
  | list inner count => .record "ListOf" [("inner", inner.outline), ("count", natLeaf count)]
  | date first last kind =>
    .record "DateBetween" [("min", first.outline), ("max", last.outline), ("kind", kind.outline)]
  | divide inner divisor =>
    .record "Divide" [("inner", inner.outline), ("divisor", intLeaf divisor)]
  | member index table field =>
    .record "DistributionMember"
      [("index", index.outline), ("distribution", table.outline), ("field", natLeaf field)]
  | draw table field column =>
    .record "DistributionLookup"
      [("distribution", table.outline), ("field", natLeaf field), ("weight", natLeaf column)]
  | reference name => .tuple "Ref" [textLeaf name]
  | item name index => .record "ItemOf" [("name", textLeaf name), ("index", natLeaf index)]
  | choice options =>
    .tuple "WeightedText"
      [.list (options.map fun (value, weight) => .tuple "" [textLeaf value, natLeaf weight])]
  | append left right => .tuple "Concatenate" [left.outline, right.outline]

end Expr

end QueryVariants.Macro
