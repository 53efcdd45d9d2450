import QueryVariants.Text.Blank
import QueryVariants.Text.Lines

/-!
# Records of a distribution file

A record is one line of the form `VALUES:WEIGHTS`, both halves separated by commas. A backslash keeps
the delimiter after it from separating; backslashes are removed only after the line has been split, so
`Did not fit\, too small` is one value.
-/

namespace QueryVariants.Distribution

open Text

/-- The trimmed lines that are neither blank nor a comment, with their line numbers. -/
def records (text : List Char) : List (Nat × List Char) :=
  ((numberedLines text).map fun (number, line) => (number, trim line)).filter
    fun (_, line) => !line.isEmpty && !"--".toList.isPrefixOf line

/-- Cuts at each `delimiter` that has no backslash directly before it; `escaped` tells whether the
character before the text is a backslash. -/
def splitAt (delimiter : Char) (escaped : Bool) : List Char → List (List Char)
  | [] => [[]]
  | c :: rest =>
    if c = delimiter ∧ escaped = false then [] :: splitAt delimiter false rest
    else consFirst c (splitAt delimiter (c == '\\') rest)

def splitUnescaped (delimiter : Char) (s : List Char) : List (List Char) :=
  (splitAt delimiter false s).map trim

/-- The parts of a record between its colons. -/
def splitParts (line : List Char) : List (List Char) :=
  splitUnescaped ':' line

/-- The values of one half of a record, without their backslashes. -/
def splitValues (part : List Char) : List (List Char) :=
  (splitUnescaped ',' part).map fun value => value.filter (· ≠ '\\')

end QueryVariants.Distribution
