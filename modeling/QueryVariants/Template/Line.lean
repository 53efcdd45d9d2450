import QueryVariants.Text.Blank
import QueryVariants.Text.Lines
import QueryVariants.Text.Search
import QueryVariants.Text.Upper

/-!
# Lines of a template

A template is read line by line. A line is a define, part of the body, or skipped: what a line is
depends on that line alone.
-/

namespace QueryVariants.Template

open Text

inductive Line where
  /-- A blank line or a comment. -/
  | skipped
  /-- A define, with what follows the keyword and the blanks after it. -/
  | define (rest : List Char)
  | body (text : List Char)
  deriving DecidableEq, Repr

/-- What follows the keyword `define`, which may be written in any case and with blanks before it, and
at least one blank after it. -/
def afterKeyword? (line : List Char) : Option (List Char) :=
  let start := trimStart line
  let keyword := "define".toList
  if asciiLower (start.take keyword.length) = keyword then
    match start.drop keyword.length with
    | c :: rest => if isBlank c then some (trimStart rest) else none
    | [] => none
  else none

namespace Line

/-- Comments begin with two hyphens at the very beginning of the line. -/
def classify (line : List Char) : Line :=
  if "--".toList.isPrefixOf line || (trim line).isEmpty then skipped
  else
    match afterKeyword? line with
    | some rest => define rest
    | none => body line

end Line

/-- The classified lines with their numbers. -/
def classifiedLines (text : List Char) : List (Nat × Line) :=
  (numberedLines text).map fun (number, line) => (number, .classify line)

/-- The lines of the body, each ended by a line feed. -/
def bodyText (lines : List (Nat × Line)) : List Char :=
  lines.flatMap fun
    | (_, .body text) => text ++ ['\n']
    | _ => []

/-- Takes off the semicolon that ends the text, with the spaces around it. A final line feed stays. -/
def dropTerminator (s : List Char) : List Char :=
  let reversed := s.reverse
  let (ending, reversed) := match reversed with
    | '\n' :: rest => (['\n'], rest)
    | _ => ([], reversed)
  match reversed.dropWhile (· = ' ') with
  | ';' :: rest => (rest.dropWhile (· = ' ')).reverse ++ ending
  | _ => s

/-- The parts of a define: the name in upper case and the text of the value, without a comment and
without one closing semicolon. -/
def splitDefine (rest : List Char) : Except String (String × String) :=
  match cut? ['='] rest with
  | none => .error "define without '='"
  | some (name, value) =>
    let name := upper (trim name)
    if name.isEmpty then .error "define without a name"
    else
      let value := trimEnd (before "--".toList value)
      .ok (String.ofList name, String.ofList (trim (dropSuffix [';'] value)))

end QueryVariants.Template
