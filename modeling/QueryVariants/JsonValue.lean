import QueryVariants.Text.JsonString

/-!
# JSON values

The values that the library writes as JSON, in a short form without blanks and in a long form with one
member to a line.
-/

namespace QueryVariants

inductive JsonValue where
  | string (text : String)
  | number (n : Nat)
  | array (items : List JsonValue)
  | object (members : List (String × JsonValue))

namespace JsonValue

mutual

/-- The value without blanks. -/
def compact : JsonValue → String
  | string text => Text.jsonString text
  | number n => toString n
  | array items => "[" ++ ",".intercalate (compactItems items) ++ "]"
  | object members => "\x7b" ++ ",".intercalate (compactMembers members) ++ "\x7d"

def compactItems : List JsonValue → List String
  | [] => []
  | item :: rest => item.compact :: compactItems rest

def compactMembers : List (String × JsonValue) → List String
  | [] => []
  | (name, value) :: rest =>
    (Text.jsonString name ++ ":" ++ value.compact) :: compactMembers rest

end

/-- Members between brackets, each on a line of its own behind the margin. -/
def layOut (margin opening : String) (parts : List String) (closing : String) : String :=
  if parts.isEmpty then opening ++ closing
  else
    let inner := margin ++ "  "
    opening ++ "\n" ++ ",\n".intercalate (parts.map (inner ++ ·)) ++ "\n" ++ margin ++ closing

mutual

/-- The value with two blanks of indentation for each level, behind a margin. -/
def pretty (margin : String) : JsonValue → String
  | string text => Text.jsonString text
  | number n => toString n
  | array items => layOut margin "[" (prettyItems (margin ++ "  ") items) "]"
  | object members => layOut margin "\x7b" (prettyMembers (margin ++ "  ") members) "\x7d"

def prettyItems (margin : String) : List JsonValue → List String
  | [] => []
  | item :: rest => item.pretty margin :: prettyItems margin rest

def prettyMembers (margin : String) : List (String × JsonValue) → List String
  | [] => []
  | (name, value) :: rest =>
    (Text.jsonString name ++ ": " ++ value.pretty margin) :: prettyMembers margin rest

end

/-- An object whose members are in ascending order of their names; of members with the same name the
last one counts. -/
def sortedObject (members : List (String × JsonValue)) : JsonValue :=
  let kept := members.reverse.foldl (fun kept member =>
    if kept.any (·.1 = member.1) then kept else member :: kept) []
  .object (kept.mergeSort fun a b => a.1 ≤ b.1)

end JsonValue

end QueryVariants
