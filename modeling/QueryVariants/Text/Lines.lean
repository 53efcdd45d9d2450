/-!
# Lines

A line ends at a line feed, and one carriage return before that line feed belongs to the ending. A
carriage return anywhere else is an ordinary character, also at the very end of the text.
-/

namespace QueryVariants.Text

/-- Puts a character in front of the first piece. -/
def consFirst (c : Char) : List (List Char) → List (List Char)
  | [] => [[c]]
  | line :: rest => (c :: line) :: rest

/-- A text that ends with a line feed has no empty last line. -/
def lines : List Char → List (List Char)
  | [] => []
  | '\n' :: rest => [] :: lines rest
  | '\r' :: '\n' :: rest => [] :: lines rest
  | c :: rest => consFirst c (lines rest)

/-- The lines with their numbers, counted from one. -/
def numberedLines (s : List Char) : List (Nat × List Char) :=
  (lines s).zipIdx.map fun (line, index) => (index + 1, line)

/-- The text of the given lines, each ended by a line feed. -/
def unlines (lines : List String) : String :=
  String.join (lines.map (· ++ "\n"))

end QueryVariants.Text
