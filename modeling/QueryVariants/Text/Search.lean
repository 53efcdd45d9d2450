/-!
# Finding and replacing

Occurrences are found from left to right and never overlap.
-/

namespace QueryVariants.Text

/-- What follows `part` at the beginning of the text. -/
def stripPrefix? : List Char → List Char → Option (List Char)
  | [], s => some s
  | _ :: _, [] => none
  | p :: part, c :: s => if p = c then stripPrefix? part s else none

/-- What stands before `part` at the end of the text. -/
def stripSuffix? (part s : List Char) : Option (List Char) :=
  (stripPrefix? part.reverse s.reverse).map List.reverse

theorem stripPrefix?_eq_some_iff {part s rest : List Char} :
    stripPrefix? part s = some rest ↔ s = part ++ rest := by
  fun_induction stripPrefix? part s <;> grind

theorem stripSuffix?_eq_some_iff {part s rest : List Char} :
    stripSuffix? part s = some rest ↔ s = rest ++ part := by
  simp only [stripSuffix?, Option.map_eq_some_iff, stripPrefix?_eq_some_iff]
  constructor
  · rintro ⟨r, hr, rfl⟩
    simpa using congrArg List.reverse hr
  · rintro rfl
    exact ⟨rest.reverse, by simp, by simp⟩

/-- Whether `part` occurs somewhere in the text. -/
def occurs (part : List Char) : List Char → Bool
  | [] => part.isEmpty
  | c :: rest => part.isPrefixOf (c :: rest) || occurs part rest

/-- What is left of the text from each place of a character on. -/
def suffixesFrom (c : Char) : List Char → List (List Char)
  | [] => []
  | d :: rest => if d = c then (d :: rest) :: suffixesFrom c rest else suffixesFrom c rest

/-- To find a text, it is enough to look where its first character stands. -/
theorem occurs_eq_any_suffixesFrom (c : Char) (part s : List Char) :
    occurs (c :: part) s = (suffixesFrom c s).any (c :: part).isPrefixOf := by
  induction s with
  | nil => rfl
  | cons d rest ih =>
    by_cases h : d = c
    · simp [occurs, suffixesFrom, h, ih]
    · have hne : (c == d) = false := by simpa using fun hcd => h hcd.symm
      simp [occurs, suffixesFrom, h, ih, List.isPrefixOf, hne]

/-- Replaces every occurrence of a nonempty `part`, from left to right. -/
def replaceAll (part replacement : List Char) : List Char → List Char
  | [] => []
  | c :: rest =>
    if part.isPrefixOf (c :: rest) then
      replacement ++ replaceAll part replacement (rest.drop (part.length - 1))
    else
      c :: replaceAll part replacement rest
termination_by s => s.length
decreasing_by all_goals grind

/-- The text before the first occurrence of `part`, and the text after it. -/
def cut? (part : List Char) : List Char → Option (List Char × List Char)
  | [] => if part.isEmpty then some ([], []) else none
  | c :: rest =>
    match stripPrefix? part (c :: rest) with
    | some after => some ([], after)
    | none => (cut? part rest).map fun (before, after) => (c :: before, after)

/-- The text before the first occurrence of `part`, all of it when there is none. -/
def before (part s : List Char) : List Char :=
  match cut? part s with
  | some (head, _) => head
  | none => s

/-- Takes one closing `part` off the end. -/
def dropSuffix (part s : List Char) : List Char :=
  (stripSuffix? part s).getD s

end QueryVariants.Text
