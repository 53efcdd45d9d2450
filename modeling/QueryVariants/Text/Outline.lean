/-!
# Outlines of structured values

A value is outlined as a record, a tuple or a list around its parts, either on one line or with each
part on a line of its own.
-/

namespace QueryVariants

inductive Outline where
  | leaf (text : String)
  | record (name : String) (fields : List (String × Outline))
  /-- A tuple; the name may be empty. -/
  | tuple (name : String) (items : List Outline)
  | list (items : List Outline)

namespace Outline

mutual

/-- The outline on one line. -/
def inline : Outline → String
  | leaf text => text
  | record name fields => name ++ " \x7b " ++ ", ".intercalate (inlineFields fields) ++ " \x7d"
  | tuple name items => name ++ "(" ++ ", ".intercalate (inlineItems items) ++ ")"
  | list items => "[" ++ ", ".intercalate (inlineItems items) ++ "]"

def inlineFields : List (String × Outline) → List String
  | [] => []
  | (name, value) :: rest => (name ++ ": " ++ value.inline) :: inlineFields rest

def inlineItems : List Outline → List String
  | [] => []
  | item :: rest => item.inline :: inlineItems rest

end

/-- The parts of a value between its brackets, each on its own line and followed by a comma. -/
def enclose (margin opening : String) (parts : List String) (closing : String) : String :=
  if parts.isEmpty then opening ++ closing
  else
    opening ++ "\n" ++ String.join (parts.map fun part => margin ++ "    " ++ part ++ ",\n") ++
      margin ++ closing

mutual

/-- The outline with one part per line, behind a left margin. -/
def indented (margin : String) : Outline → String
  | leaf text => text
  | record name fields =>
    enclose margin (name ++ " \x7b") (indentedFields (margin ++ "    ") fields) "\x7d"
  | tuple name items => enclose margin (name ++ "(") (indentedItems (margin ++ "    ") items) ")"
  | list items => enclose margin "[" (indentedItems (margin ++ "    ") items) "]"

def indentedFields (margin : String) : List (String × Outline) → List String
  | [] => []
  | (name, value) :: rest =>
    (name ++ ": " ++ value.indented margin) :: indentedFields margin rest

def indentedItems (margin : String) : List Outline → List String
  | [] => []
  | item :: rest => item.indented margin :: indentedItems margin rest

end

end Outline

end QueryVariants
