import QueryVariants.Evaluation.Resolve
import QueryVariants.Macro.Parser
import QueryVariants.Template.Line

/-!
# Templates and their expansion

A template is a body with placeholders `[NAME]` and the substitutions that fill them. The substitutions
are visited in their order; one whose placeholder occurs in the text at that moment is resolved, and its
value takes the place of every occurrence.
-/

namespace QueryVariants

open Text Macro

structure Template where
  id : Nat
  /-- The text with its placeholders. -/
  body : String
  /-- The defines as written, under upper-case names. -/
  defines : OrderedMap Expr
  /-- The defines, the items of lists and the helpers of the row limit. -/
  substitutions : OrderedMap Expr
  deriving DecidableEq, Repr

namespace Template

/-- The define that gives a row limit. -/
def limitName : String := "_LIMIT"

/-- The helpers of a row limit: dialects write the limit in different places, and two of the three
places stay empty. -/
def limitHelpers (limit : Int) : List (String × Expr) :=
  [("_LIMITA", .format (.text "") limit),
   ("_LIMITB", .format (.text "") limit),
   ("_LIMITC", .format (.text "LIMIT %d") limit)]

/-- The helpers of a template, if it has a row limit. The limit is evaluated by itself. -/
def helpers (defines : OrderedMap Expr) : Except Error (List (String × Expr)) :=
  match defines.find? limitName with
  | none => .ok []
  | some e => do
    let value ← Evaluation.evaluateConstant e
    let limit ← Evaluation.readInteger limitName value
    return limitHelpers limit

/-- A define and, if it is a list, its items `NAME.1`, `NAME.2`, … -/
def withItems (name : String) (e : Expr) : List (String × Expr) :=
  (name, e) ::
    match e with
    | .list _ count =>
      (List.range count).map fun index => (name ++ "." ++ toString (index + 1), .item name index)
    | _ => []

/-- The substitutions of a template in the order in which they are visited. -/
def expandDefines (defines : OrderedMap Expr) : Except Error (OrderedMap Expr) := do
  let helpers ← helpers defines
  return OrderedMap.ofList (helpers ++ defines.entries.flatMap fun (name, e) => withItems name e)

/-- Reads one define. -/
def readDefine (id : Nat) (registry : Registry) (line : Nat) (rest : List Char) :
    Except Error (String × Expr) :=
  match splitDefine rest with
  | .error problem => .error (.templateSyntax id line problem)
  | .ok (name, value) => (Expr.parse value registry).map fun e => (name, e)

/-- Reads the defines among the lines. A repeated name keeps its place and takes the last value. -/
def readDefines (id : Nat) (registry : Registry) (defines : OrderedMap Expr) :
    List (Nat × Line) → Except Error (OrderedMap Expr)
  | [] => .ok defines
  | (line, .define rest) :: lines => do
    let (name, e) ← readDefine id registry line rest
    readDefines id registry (defines.insert name e) lines
  | _ :: lines => readDefines id registry defines lines

/-- Reads a template. All its macros are read at once. -/
def parse (id : Nat) (text : String) (registry : Registry) : Except Error Template := do
  let lines := classifiedLines text.toList
  let defines ← readDefines id registry ∅ lines
  let substitutions ← expandDefines defines
  return ⟨id, String.ofList (dropTerminator (bodyText lines)), defines, substitutions⟩

/-- The placeholder of a name. -/
def placeholder (name : String) : List Char :=
  '[' :: name.toList ++ [']']

/-- Fills the placeholders of the names in a text whose brackets stand at the given places. -/
def fillAt (scope : Evaluation.Scope) :
    List String → List (List Char) → List Char → Evaluation.Evaluator (List Char)
  | [], _, text => pure text
  | name :: names, places, text =>
    if places.any (placeholder name).isPrefixOf then do
      let value ← scope.resolve name
      let text := replaceAll (placeholder name) value.toList text
      fillAt scope names (suffixesFrom '[' text) text
    else fillAt scope names places text

/-- Fills the placeholders of the names one name after the other. The places of the brackets are found
again whenever the text changes. -/
def fill (scope : Evaluation.Scope) (names : List String) (text : List Char) :
    Evaluation.Evaluator (List Char) :=
  fillAt scope names (suffixesFrom '[' text) text

theorem fill_nil (scope : Evaluation.Scope) (text : List Char) : fill scope [] text = pure text := rfl

/-- A name whose placeholder occurs is resolved, and its value takes the place of every occurrence. -/
theorem fill_cons (scope : Evaluation.Scope) (name : String) (names : List String)
    (text : List Char) :
    fill scope (name :: names) text =
      if occurs (placeholder name) text then do
        let value ← scope.resolve name
        fill scope names (replaceAll (placeholder name) value.toList text)
      else fill scope names text := by
  simp only [fill, fillAt, placeholder, List.cons_append, occurs_eq_any_suffixesFrom]
  rfl

def scope (template : Template) (registry : Registry) (rowCounts : RowCounts) :
    Evaluation.Scope :=
  ⟨template.substitutions, registry, rowCounts⟩

/-- The text of a template for a seed. -/
def expand (template : Template) (seed : UInt64) (registry : Registry) (rowCounts : RowCounts) :
    Except Error String :=
  let filled :=
    fill (template.scope registry rowCounts) template.substitutions.keys template.body.toList
  ((filled (.ofSeed seed)).1).map String.ofList

end Template

end QueryVariants
