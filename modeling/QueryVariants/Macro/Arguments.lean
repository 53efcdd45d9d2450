import QueryVariants.Text.Blank
import QueryVariants.Text.Lines
import QueryVariants.Text.Search

/-!
# Argument lists

An argument list is split at its top-level commas: those at nesting depth zero and outside double
quotes. The depth counts parentheses and braces together, inside quotes as well, and may go below zero.
The spaces directly after a separating comma belong to the separator, and a list that ends with a
separator has no empty last argument.
-/

namespace QueryVariants.Macro

open Text

/-- Where a scan stands: the nesting depth, and whether it is inside quotes. The depth is a number without bounds.
It never exceeds the length of the text (`Scan.natAbs_depth_run_le`), so a counter of 32 bits holds the same number
in every text of fewer than 2147483648 characters (`Scan.depth_run_mem_range`). -/
structure Scan where
  depth : Int
  quoted : Bool
  deriving DecidableEq, Repr

namespace Scan

def start : Scan := ⟨0, false⟩

def step (scan : Scan) (c : Char) : Scan :=
  if c = '(' ∨ c = '\x7b' then { scan with depth := scan.depth + 1 }
  else if c = ')' ∨ c = '\x7d' then { scan with depth := scan.depth - 1 }
  else if c = '"' then { scan with quoted := !scan.quoted }
  else scan

/-- Whether a comma separates here. -/
def atTop (scan : Scan) : Bool :=
  scan.depth = 0 && !scan.quoted

end Scan

def dropSpaces (s : List Char) : List Char :=
  s.dropWhile (· = ' ')

/-- Splits the text after a scan position, the first piece being the rest of the current one. -/
def splitFrom (scan : Scan) : List Char → List (List Char)
  | [] => []
  | ',' :: rest =>
    if scan.atTop then [] :: splitFrom scan (dropSpaces rest)
    else consFirst ',' (splitFrom scan rest)
  | c :: rest => consFirst c (splitFrom (scan.step c) rest)
termination_by s => s.length
decreasing_by
  · have := (List.dropWhile_sublist (l := rest) fun c => decide (c = ' ')).length_le
    simp only [dropSpaces, List.length_cons]
    omega
  all_goals simp

/-- Splits an argument list at its top-level commas. -/
def splitArguments (s : List Char) : List (List Char) :=
  splitFrom .start s

/-- The trimmed arguments between an opening and a closing text, none if the text is not enclosed by
them. -/
def arguments? (opening closing s : List Char) : Option (List (List Char)) :=
  ((stripPrefix? opening s).bind (stripSuffix? closing)).map fun inner =>
    (splitArguments inner).map trim

theorem length_le_of_mem_consFirst {c : Char} {pieces : List (List Char)} {n : Nat}
    (h : ∀ piece ∈ pieces, piece.length ≤ n) : ∀ piece ∈ consFirst c pieces, piece.length ≤ n + 1 := by
  intro piece hpiece
  match pieces with
  | [] => simp_all [consFirst]
  | first :: rest =>
    simp only [consFirst, List.mem_cons] at hpiece
    rcases hpiece with rfl | hpiece
    · simpa using h first (by simp)
    · exact Nat.le_succ_of_le (h piece (by simp [hpiece]))

theorem length_le_of_mem_splitFrom (scan : Scan) (s : List Char) :
    ∀ piece ∈ splitFrom scan s, piece.length ≤ s.length := by
  fun_induction splitFrom scan s with
  | case1 => simp
  | case2 scan rest _ ih =>
    intro piece hpiece
    rcases List.mem_cons.1 hpiece with rfl | hpiece
    · simp
    · have hdrop := (List.dropWhile_sublist (l := rest) fun c => decide (c = ' ')).length_le
      have := ih piece hpiece
      simp only [dropSpaces, List.length_cons] at this ⊢
      omega
  | case3 _ _ _ ih => exact length_le_of_mem_consFirst ih
  | case4 _ _ _ _ ih => exact length_le_of_mem_consFirst ih

/-- An argument is shorter than the call it stands in. -/
theorem length_lt_of_arguments? {opening closing s : List Char} {args : List (List Char)}
    (hopening : opening ≠ []) (h : arguments? opening closing s = some args) :
    ∀ arg ∈ args, arg.length < s.length := by
  intro arg harg
  simp only [arguments?, Option.map_eq_some_iff, Option.bind_eq_some_iff] at h
  obtain ⟨inner, ⟨rest, hrest, hinner⟩, rfl⟩ := h
  obtain ⟨piece, hpiece, rfl⟩ := List.mem_map.1 harg
  have h1 := length_le_of_mem_splitFrom _ _ piece hpiece
  have h2 := length_trim_le piece
  have h3 := congrArg List.length (stripPrefix?_eq_some_iff.1 hrest)
  have h4 := congrArg List.length (stripSuffix?_eq_some_iff.1 hinner)
  have h5 := List.length_pos_iff.2 hopening
  simp only [List.length_append] at h3 h4
  omega

end QueryVariants.Macro
