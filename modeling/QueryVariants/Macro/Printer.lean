import QueryVariants.Macro.Expr

/-!
# Written form of macro expressions

Expressions are written the way templates write them, with fields, columns and items counted from
one. A constant is always written as a quoted text.
-/

namespace QueryVariants.Macro

open Text

namespace Expr

def quotedChars (s : String) : List Char :=
  '"' :: s.toList ++ ['"']

/-- One choice of a weighted text. -/
def optionChars (option : String × Nat) : List Char :=
  '\x7b' :: quotedChars option.1 ++ ", ".toList ++ natDigits option.2 ++ ['\x7d']

def intChars (n : Int) : List Char :=
  (toString n).toList

/-- The written form as characters. -/
def chars : Expr → List Char
  | text value => quotedChars value
  | rowCount relation => "rowcount(".toList ++ quotedChars relation ++ [')']
  | format inner value =>
    "format(".toList ++ inner.chars ++ ", %d=".toList ++ intChars value ++ [')']
  | random start stop =>
    "random(".toList ++ start.chars ++ ", ".toList ++ stop.chars ++ ", uniform)".toList
  | list inner count =>
    "ulist(".toList ++ inner.chars ++ ", ".toList ++ natDigits count ++ [')']
  | date first last kind =>
    "date(".toList ++ first.chars ++ ", ".toList ++ last.chars ++ ", ".toList ++
      kind.name.toList ++ [')']
  | divide inner divisor => inner.chars ++ '/' :: intChars divisor
  | member index table field =>
    "distmember(".toList ++ table.name.toList ++ ", ".toList ++ index.chars ++ ", ".toList ++
      natDigits (field + 1) ++ [')']
  | draw table field column =>
    "dist(".toList ++ table.name.toList ++ ", ".toList ++ natDigits (field + 1) ++ ", ".toList ++
      (columnName table column).toList ++ [')']
  | reference name => '[' :: name.toList ++ [']']
  | item name index => '[' :: name.toList ++ '.' :: natDigits (index + 1) ++ [']']
  | choice options =>
    "text(".toList ++ List.intercalate ", ".toList (options.map optionChars) ++ [')']
  | append left right => left.chars ++ '+' :: right.chars

/-- The written form. -/
def render (e : Expr) : String :=
  String.ofList e.chars

end Expr

end QueryVariants.Macro
