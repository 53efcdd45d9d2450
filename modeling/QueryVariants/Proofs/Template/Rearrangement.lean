import QueryVariants.Proofs.Evaluation.Constant
import QueryVariants.Proofs.Macro.Refusal
import QueryVariants.Proofs.Template.LineKinds
import QueryVariants.Proofs.Template.Parsing

/-!
# Rearranging the lines of a template

A template is read from its define lines, one after the other, and from its body lines, one after the other. How
these two sequences are put together to a text, and which blank lines and comments stand between them, shows in
one place only: an error about the form of a define names the line on which the define stands. Nothing else that
can go wrong is about a line.
-/

namespace QueryVariants.Template

open Evaluation Macro Result Text

/-- What stands between the line feeds of a text, with numbers from one. -/
def physicalLines (text : String) : List (List Char × Nat) :=
  (text.toList.splitOn '\n').zipIdx 1

/-- The define lines of a text with their numbers. -/
def defineLines (text : String) : List (List Char × Nat) :=
  (physicalLines text).filter fun line => IsDefine line.1

/-- The body lines of a text with their numbers. -/
def bodyLines (text : String) : List (List Char × Nat) :=
  (physicalLines text).filter fun line => IsBody line.1

/-- An error that is not about the form of a define. -/
def NotSyntax (error : Error) : Prop :=
  ∀ query line problem, error ≠ .templateSyntax query line problem

/-- What comes of two texts with these define lines is the same, except that an error about the form of a define
names the line where this define stands in each of them. -/
inductive Alike (id : Nat) (first second : List (List Char × Nat)) {α : Type} :
    Except Error α → Except Error α → Prop
  | ok (value : α) : Alike id first second (.ok value) (.ok value)
  | error {error : Error} (h : NotSyntax error) : Alike id first second (.error error) (.error error)
  | define {line : List Char} {number other : Nat} (place : Nat) (problem : String)
    (hfirst : first[place]? = some (line, number)) (hsecond : second[place]? = some (line, other)) :
    Alike id first second (.error (.templateSyntax id number problem)) (.error (.templateSyntax id other problem))

namespace Alike

section

variable {id : Nat} {first second : List (List Char × Nat)} {α β : Type} {left right : Except Error α}

theorem refl (h : FailsOnly NotSyntax left) : Alike id first second left left := by
  cases left with
  | ok value => exact .ok value
  | error error => exact .error (h error rfl)

/-- A define more in front of both texts leaves the other defines in the same places. -/
theorem cons (a b : List Char × Nat) (h : Alike id first second left right) :
    Alike id (a :: first) (b :: second) left right := by
  cases h with
  | ok value => exact .ok value
  | error h => exact .error h
  | define place problem hfirst hsecond =>
      exact .define (place + 1) problem (by rwa [List.getElem?_cons_succ]) (by rwa [List.getElem?_cons_succ])

theorem bind {next : α → Except Error β} (h : Alike id first second left right)
    (hnext : ∀ value, FailsOnly NotSyntax (next value)) :
    Alike id first second (left >>= next) (right >>= next) := by
  cases h with
  | ok value => exact .refl (hnext value)
  | error h => exact .error h
  | define place problem hfirst hsecond => exact .define place problem hfirst hsecond

end

end Alike

/-! ### Errors that are not about a line -/

theorem notSyntax_of_aboutMacro {error : Error} (h : error.aboutMacro = true) : NotSyntax error := by
  rintro query line problem rfl
  cases h

theorem failsOnly_expandDefines (defines : OrderedMap Expr) : FailsOnly NotSyntax (expandDefines defines) := by
  refine .bind ?_ fun limits => .ok _
  unfold helpers
  split
  · exact .ok _
  · refine .bind ?_ fun value => .bind ?_ fun limit => .ok _
    · intro error h
      rcases error_of_evaluateConstant h with hmacro | ⟨name, rfl⟩
      · exact notSyntax_of_aboutMacro hmacro
      · intro query line problem hsyntax
        cases hsyntax
    · exact fun error h => notSyntax_of_aboutMacro (aboutMacro_of_readInteger h)

/-! ### Reading the lines of one kind -/

section

variable {id : Nat} {registry : Registry} {map : OrderedMap Expr}

/-- The numbered lines as the reader sees them. -/
def classifyAll (numbered : List (List Char × Nat)) : List (Nat × Line) :=
  numbered.map fun line => (line.2, Line.classify line.1)

theorem classifiedLines_eq (s : List Char) : classifiedLines s = classifyAll ((lines s).zipIdx 1) := by
  rw [classifiedLines, numberedLines, classifyAll, List.zipIdx_succ, List.map_map, List.map_map]
  rfl

/-- Only the define lines give defines. -/
theorem readDefines_filter (numbered : List (List Char × Nat)) :
    readDefines id registry map (classifyAll numbered) =
      readDefines id registry map (classifyAll (numbered.filter fun line => IsDefine line.1)) := by
  induction numbered generalizing map with
  | nil => rfl
  | cons line numbered ih =>
      obtain ⟨line, number⟩ := line
      rw [classifyAll, List.map_cons]
      rcases classify_cases line with ⟨hdefine, -, rest, hline⟩ | ⟨hdefine, -, hline⟩ | ⟨hdefine, -, hline⟩
      · rw [List.filter_cons_of_pos (by simpa using hdefine), classifyAll, List.map_cons]
        simp only [hline, readDefines]
        exact congrArg _ (funext fun entry => ih)
      · rw [List.filter_cons_of_neg (by simpa using hdefine)]
        simp only [hline, readDefines]
        exact ih
      · rw [List.filter_cons_of_neg (by simpa using hdefine)]
        simp only [hline, readDefines]
        exact ih

/-- Only the body lines give text. -/
theorem bodyText_filter (numbered : List (List Char × Nat)) :
    bodyText (classifyAll numbered) =
      ((numbered.filter fun line => IsBody line.1).map Prod.fst).flatMap (· ++ ['\n']) := by
  induction numbered with
  | nil => rfl
  | cons line numbered ih =>
      obtain ⟨line, number⟩ := line
      rw [classifyAll, List.map_cons, bodyText, List.flatMap_cons]
      rcases classify_cases line with ⟨-, hbody, rest, hline⟩ | ⟨-, hbody, hline⟩ | ⟨-, hbody, hline⟩
      · rw [List.filter_cons_of_neg (by simpa using hbody)]
        simp only [hline]
        exact ih
      · rw [List.filter_cons_of_pos (by simpa using hbody), List.map_cons, List.flatMap_cons]
        simp only [hline]
        exact congrArg _ ih
      · rw [List.filter_cons_of_neg (by simpa using hbody)]
        simp only [hline]
        exact ih

/-- An empty last piece is a line of no kind. -/
theorem filter_physicalLines {text : String} (hreturn : '\r' ∉ text.toList) (keep : List Char → Prop)
    [DecidablePred keep] (hkeep : ¬keep []) :
    (physicalLines text).filter (fun line => keep line.1) =
      ((lines text.toList).zipIdx 1).filter fun line => keep line.1 := by
  obtain ⟨ending, hending, hsplit⟩ := exists_splitOn_eq hreturn
  rw [physicalLines, hsplit, List.zipIdx_append, List.filter_append]
  rcases hending with rfl | rfl
  · simp
  · simp [hkeep]

/-- A template is read from its define lines and its body lines. -/
theorem parse_eq_of_notMem {text : String} (hreturn : '\r' ∉ text.toList) :
    parse id text registry = do
      let defines ← readDefines id registry ∅ (classifyAll (defineLines text))
      let substitutions ← expandDefines defines
      return ⟨id, String.ofList (dropTerminator (((bodyLines text).map Prod.fst).flatMap (· ++ ['\n']))), defines,
        substitutions⟩ := by
  have hdefines : defineLines text = ((lines text.toList).zipIdx 1).filter fun line => IsDefine line.1 :=
    filter_physicalLines hreturn _ (by decide)
  have hbody : bodyLines text = ((lines text.toList).zipIdx 1).filter fun line => IsBody line.1 :=
    filter_physicalLines hreturn _ (by decide)
  rw [parse, classifiedLines_eq, hdefines, hbody, ← readDefines_filter, ← bodyText_filter]

/-- Reading the same defines on other lines. -/
theorem alike_readDefines {first second : List (List Char × Nat)}
    (hsame : first.map Prod.fst = second.map Prod.fst) (map : OrderedMap Expr) :
    Alike id first second (readDefines id registry map (classifyAll first))
      (readDefines id registry map (classifyAll second)) := by
  induction first generalizing second map with
  | nil =>
      obtain rfl := List.map_eq_nil_iff.1 hsame.symm
      exact .ok map
  | cons line first ih =>
      obtain ⟨line, number⟩ := line
      cases second with
      | nil => cases hsame
      | cons other second =>
          obtain ⟨other, number'⟩ := other
          obtain ⟨hline, hrest⟩ := List.cons.inj hsame
          obtain rfl : line = other := hline
          rw [classifyAll, classifyAll, List.map_cons, List.map_cons]
          dsimp only
          cases hclass : Line.classify line with
          | skipped | body => exact (ih hrest map).cons _ _
          | define rest =>
              rw [readDefines, readDefines, readDefine, readDefine]
              rcases splitDefine rest with problem | ⟨name, value⟩
              · exact .define 0 problem rfl rfl
              · dsimp only
                rcases hparse : Expr.parse value registry with error | e
                · exact .error (notSyntax_of_aboutMacro (failsOnly_parse value registry error hparse))
                · exact (ih hrest (map.insert name e)).cons _ _

end

/-- **A template depends on the sequence of its defines and the sequence of its body lines.** Two texts without
carriage returns that have the same define lines in the same order and the same body lines in the same order are
read as the same template or fail with the same error, up to the number of the line on which a misformed define
stands. -/
theorem parse_alike {id : Nat} {first second : String} {registry : Registry}
    (hfirst : '\r' ∉ first.toList) (hsecond : '\r' ∉ second.toList)
    (hdefines : (defineLines first).map Prod.fst = (defineLines second).map Prod.fst)
    (hbody : (bodyLines first).map Prod.fst = (bodyLines second).map Prod.fst) :
    Alike id (defineLines first) (defineLines second) (parse id first registry) (parse id second registry) := by
  rw [parse_eq_of_notMem hfirst, parse_eq_of_notMem hsecond, hbody]
  refine (alike_readDefines hdefines ∅).bind fun defines => ?_
  exact .bind (failsOnly_expandDefines defines) fun substitutions => .ok _

/-- The same misformed define in front of the body and behind it, and a comment and a blank line besides. -/
theorem parse_misplaced :
    parse 1 "define A;\nselect 1" .empty = .error (.templateSyntax 1 1 "define without '='") ∧
      parse 1 "-- one\n\nselect 1\ndefine A;\n" .empty =
        .error (.templateSyntax 1 4 "define without '='") := by
  have hfirst : parse 1 "define A;\nselect 1" .empty = .error (.templateSyntax 1 1 "define without '='") := by
    rfl
  have hlines : defineLines "-- one\n\nselect 1\ndefine A;\n" = [("define A;".toList, 4)] := by decide
  have halike := @parse_alike 1 "define A;\nselect 1" "-- one\n\nselect 1\ndefine A;\n" .empty
    (by decide) (by decide) (by decide) (by decide)
  refine ⟨hfirst, ?_⟩
  rw [hfirst, hlines] at halike
  generalize parse 1 "-- one\n\nselect 1\ndefine A;\n" .empty = result at halike ⊢
  cases halike with
  | error h => exact absurd rfl (h 1 1 _)
  | define place problem _ hsecond =>
      cases place with
      | zero =>
          obtain ⟨-, rfl⟩ := Prod.mk.inj (Option.some.inj hsecond)
          rfl
      | succ place => cases hsecond

end QueryVariants.Template
