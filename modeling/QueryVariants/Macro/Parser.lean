import QueryVariants.Distribution.Registry
import QueryVariants.Macro.Arguments
import QueryVariants.Macro.Expr

/-!
# Reading macro expressions

The form of an expression is told by how its text begins, tested in a fixed order, and by that alone:
once the form is known the rest of the text must fit it. Tables are looked up while reading, so an
expression that has been read holds the tables it draws from.
-/

namespace QueryVariants.Macro

open Text

/-- The forms of a macro text. -/
inductive Form where
  | text
  | quoted
  | list
  | date
  | rowCount
  | member
  /-- A draw written in capitals. -/
  | capitalDraw
  | draw
  | random
  | bracket
  /-- A bare integer, or nothing known. -/
  | bare
  deriving DecidableEq, Repr

/-- A text of at least two characters that begins and ends with a double quote. -/
def isQuoted : List Char → Bool
  | '"' :: rest => rest.getLast? == some '"'
  | _ => false

/-- The name between brackets at the beginning of a text, and what follows. -/
def bracket? : List Char → Option (List Char × List Char)
  | '[' :: rest =>
    match rest.dropWhile (· ≠ ']') with
    | _ :: after => some (rest.takeWhile (· ≠ ']'), after)
    | [] => none
  | _ => none

namespace Form

/-- Each form with an opening word, in the order of the tests. -/
def openings : List (String × Form) :=
  [("ulist(", list), ("date(", date), ("rowcount(", rowCount), ("distmember(", member),
    ("DIST(", capitalDraw), ("dist(", draw), ("random(", random)]

def of (s : List Char) : Form :=
  if "text(".toList.isPrefixOf s then text
  else if isQuoted s then quoted
  else
    match openings.find? fun (word, _) => word.toList.isPrefixOf s with
    | some (_, form) => form
    | none => if (bracket? s).isSome then bracket else bare

end Form

/-- The longest list that an expression may ask for. -/
def maxListCount : Nat := 10000

/-- Takes the quotes off a text that has one at each end. -/
def unquote (s : List Char) : List Char :=
  match s with
  | '"' :: rest => (stripSuffix? ['"'] rest).getD s
  | _ => s

/-- A call and its divisor, if the text ends with a slash and digits. -/
def splitDivisor? (s : List Char) : Option (List Char × List Char) :=
  let reversed := s.reverse
  match reversed.takeWhile Char.isDigit, reversed.dropWhile Char.isDigit with
  | [], _ => none
  | digits, '/' :: call => some (call.reverse, digits.reverse)
  | _, _ => none

def readNumber (place : String) (s : List Char) : Except Error Nat :=
  match readUnsigned? s with
  | some n => .ok n
  | none => .error (.invalidNumber (String.ofList s) place)

/-- The place of a value column that a macro gives by its position counted from one. -/
def readField (table : Table) (s : List Char) : Except Error Nat := do
  let field ← readNumber "distribution field" s
  if 1 ≤ field ∧ field ≤ table.fields.length then .ok (field - 1)
  else .error (.fieldOutOfRange table.name field table.fields.length)

/-- One template writes this call in the place of a table name; it stands for the categories. -/
def categoriesCall : List Char :=
  "distmember(categories,[CINDX],2)".toList

theorem length_lt_of_bracket? {s name rest : List Char} (h : bracket? s = some (name, rest)) :
    rest.length < s.length := by
  unfold bracket? at h
  split at h
  · next body =>
    split at h
    · next c after heq =>
      have := (List.dropWhile_sublist (l := body) fun c => decide (c ≠ ']')).length_le
      rw [heq] at this
      simp only [Option.some.injEq, Prod.mk.injEq] at h
      simp only [← h.2, List.length_cons] at this ⊢
      omega
    · simp at h
  · simp at h

section

variable (registry : Registry) (source : String)

/-- The error for a text that fits no form. -/
def misfit (s : List Char) : Error :=
  .parse (String.ofList s) source

/-- A choice `{TEXT, WEIGHT}` of a weighted text. -/
def readOption (s : List Char) : Except Error (String × Nat) :=
  match arguments? ['\x7b'] ['\x7d'] s with
  | some [value, weight] =>
    (readNumber "text() weight" weight).map fun weight => (String.ofList (unquote value), weight)
  | _ => .error (misfit source s)

/-- `text(TEXT)`, or `text({TEXT, WEIGHT}, …)` with weights that add up to a positive number below
`2 ^ 64`. -/
def readText (s : List Char) : Except Error Expr :=
  match arguments? "text(".toList [')'] s with
  | none | some [] => .error (misfit source s)
  | some [value] => .ok (.text (String.ofList value))
  | some arguments => do
    let options ← arguments.mapM (readOption source)
    let total := Weights.total (options.map Prod.snd)
    if 0 < total ∧ total < UInt64.size then .ok (.choice options) else .error (misfit source s)

/-- `rowcount(…, RELATION)`, divided by an integer if one follows a slash. -/
def readRowCount (s : List Char) : Except Error Expr := do
  let (call, divisor) ← match splitDivisor? s with
    | none => .ok (s, 1)
    | some (call, digits) =>
      match readSigned? digits with
      | some divisor => .ok (call, divisor)
      | none => .error (.invalidNumber (String.ofList digits) "rowcount() divisor")
  match (arguments? "rowcount(".toList [')'] call).bind List.getLast? with
  | none => .error (misfit source call)
  | some relation =>
    let count := Expr.rowCount (String.ofList (unquote relation))
    .ok (if 1 < divisor then .divide count divisor else count)

/-- `dist(TABLE, FIELD, WEIGHT)`. -/
def readDraw (s : List Char) : Except Error Expr :=
  match arguments? "dist(".toList [')'] s with
  | some [name, field, weight] => do
    let name := if name = categoriesCall then "categories" else String.ofList name
    let table ← registry.get name
    let field ← readField table field
    let column ← table.weightIndex (String.ofList weight)
    return .draw table field column
  | _ => .error (misfit source s)

/-- Reads the text of an expression, without blanks around it. -/
def readExpr (s : List Char) : Except Error Expr :=
  match Form.of s with
  | .text => readText source s
  | .quoted => .ok (.text (String.ofList (s.drop 1).dropLast))
  | .list =>
    match _ : arguments? "ulist(".toList [')'] s with
    | some [inner, count] => do
      let count ← readNumber "ulist() count" count
      if maxListCount < count then .error (misfit source s)
      else
        let inner ← readExpr inner
        return .list inner count
    | _ => .error (misfit source s)
  | .date =>
    match _ : arguments? "date(".toList [')'] s with
    | some [first, last, kind] =>
      match DateKind.ofName? kind with
      | none => .error (misfit source s)
      | some kind => do
        let first ← readExpr first
        let last ← readExpr last
        return .date first last kind
    | _ => .error (misfit source s)
  | .rowCount => readRowCount source s
  | .member =>
    match _ : arguments? "distmember(".toList [')'] s with
    | some [name, index, field] => do
      let table ← registry.get (String.ofList name)
      let field ← readField table field
      let index ← readExpr index
      return .member index table field
    | _ => .error (misfit source s)
  | .capitalDraw => readDraw registry source ("dist(".toList ++ s.drop 5)
  | .draw => readDraw registry source s
  | .random =>
    match _ : arguments? "random(".toList [')'] s with
    | some [start, stop, kind] =>
      if asciiLower kind ≠ "uniform".toList then .error (misfit source s)
      else do
        let start ← readExpr start
        let stop ← readExpr stop
        return .random start stop
    | _ => .error (misfit source s)
  | .bracket =>
    match _ : bracket? s with
    | some (name, []) => .ok (.reference (String.ofList name))
    | some (name, '+' :: tail) =>
      (readExpr (trim tail)).map (.append (.reference (String.ofList name)))
    | _ => .error (misfit source s)
  | .bare =>
    if (readSigned? s).isSome then .ok (.text (String.ofList s)) else .error (misfit source s)
termination_by s.length
decreasing_by
  all_goals first
    | have hargs := ‹arguments? _ _ s = some _›
      exact length_lt_of_arguments? (by decide) hargs _ (by simp)
    | have hrest := length_lt_of_bracket? ‹bracket? s = some _›
      have := length_trim_le tail
      simp only [List.length_cons] at hrest
      omega

end

namespace Expr

/-- Reads a macro expression; blanks around it do not count. -/
def parse (source : String) (registry : Registry) : Except Error Expr :=
  readExpr registry source (trim source.toList)

end Expr

end QueryVariants.Macro
