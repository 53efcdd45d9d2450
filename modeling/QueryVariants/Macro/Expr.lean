import QueryVariants.Distribution.Table
import QueryVariants.Text.Search
import QueryVariants.Text.Upper

/-!
# Macro expressions

The value of a define is an expression. It evaluates to a text; some of its forms draw on a random
stream, and some refer to other defines by name.
-/

namespace QueryVariants.Macro

/-- The kinds of a date expression. They are kept and shown, and all of them draw uniformly. -/
inductive DateKind where
  | sales
  | returns
  | exponential
  | uniform
  deriving DecidableEq, Repr

namespace DateKind

def name : DateKind → String
  | sales => "sales"
  | returns => "returns"
  | exponential => "exponential"
  | uniform => "uniform"

def all : List DateKind := [sales, returns, exponential, uniform]

/-- Finds a kind by its name; the case of ASCII letters does not count. -/
def ofName? (name : List Char) : Option DateKind :=
  all.find? fun kind => kind.name.toList = Text.asciiLower name

end DateKind

/-- Fields, columns and indices are counted from zero. -/
inductive Expr where
  /-- A constant text. -/
  | text (value : String)
  /-- The number of rows of a relation. -/
  | rowCount (relation : String)
  /-- The value of `inner` with an integer in the place of each `%d`. -/
  | format (inner : Expr) (value : Int)
  /-- An integer between two integers. -/
  | random (start stop : Expr)
  /-- The values of `count` evaluations, different from each other as far as possible. -/
  | list (inner : Expr) (count : Nat)
  /-- A day between two days. -/
  | date (first last : Expr) (kind : DateKind)
  /-- The quotient of an integer and a constant. -/
  | divide (inner : Expr) (divisor : Int)
  /-- A value in the row of a table that `index` gives, counted from one. -/
  | member (index : Expr) (table : Table) (field : Nat)
  /-- A value in a row drawn over a weight column. -/
  | draw (table : Table) (field column : Nat)
  /-- The value of another define. -/
  | reference (name : String)
  /-- One item of a define that is a list. -/
  | item (name : String) (index : Nat)
  /-- One of several texts, drawn by weight. -/
  | choice (options : List (String × Nat))
  /-- Two values one after the other. -/
  | append (left right : Expr)
  deriving DecidableEq, Repr

namespace Expr

/-- Puts `value` in the place of each `%d`. -/
def formatInteger (value : Int) (input : String) : String :=
  String.ofList (Text.replaceAll "%d".toList (toString value).toList input.toList)

/-- The name under which a weight column is shown: its own, or its position counted from one. -/
def columnName (table : Table) (column : Nat) : String :=
  table.weights.getD column (toString (column + 1))

end Expr

end QueryVariants.Macro
