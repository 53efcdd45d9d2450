import QueryVariants.Proofs.Macro.Sound

/-!
# What the reader refuses

A text that is not read as an expression is refused with an error about the macro: a text that fits no form, a
number that cannot be read, a table or a column that does not exist. The induction is that of the reader.
-/

namespace QueryVariants.Macro

open Result

/-- The errors that are about a macro. -/
abbrev AboutMacro (error : Error) : Prop :=
  error.aboutMacro = true

section

variable {registry : Registry} {source : String}

theorem failsOnly_readNumber (place : String) (s : List Char) : FailsOnly AboutMacro (readNumber place s) := by
  unfold readNumber
  split
  · exact .ok _
  · exact .error rfl

theorem failsOnly_readField (table : Table) (s : List Char) : FailsOnly AboutMacro (readField table s) := by
  refine .bind (failsOnly_readNumber _ _) fun field => ?_
  split
  · exact .ok _
  · exact .error rfl

theorem failsOnly_get (name : String) : FailsOnly AboutMacro (registry.get name) := by
  unfold Registry.get
  split
  · exact .ok _
  · exact .error rfl

theorem failsOnly_weightIndex (table : Table) (weight : String) :
    FailsOnly AboutMacro (table.weightIndex weight) := by
  unfold Table.weightIndex
  split
  · exact .ok _
  · split
    · split
      · exact .ok _
      · exact .error rfl
    · exact .error rfl

theorem failsOnly_readText (s : List Char) : FailsOnly AboutMacro (readText source s) := by
  have hoption : ∀ s, FailsOnly AboutMacro (readOption source s) := by
    intro s
    unfold readOption
    split
    · exact .map (failsOnly_readNumber _ _) _
    · exact .error rfl
  unfold readText
  split
  · exact .error rfl
  · exact .error rfl
  · exact .ok _
  · refine .bind (.mapM hoption) fun options => ?_
    dsimp only
    split
    · exact .ok _
    · exact .error rfl

theorem failsOnly_readRowCount (s : List Char) : FailsOnly AboutMacro (readRowCount source s) := by
  unfold readRowCount
  extract_lets relation
  have hrelation : ∀ found, FailsOnly AboutMacro (relation found) := by
    intro found
    dsimp only [relation]
    split
    · exact .error rfl
    · exact .ok _
  split
  · exact .bind (.ok _) hrelation
  · split
    · exact .bind (.ok _) hrelation
    · exact .bind (.error rfl) hrelation

theorem failsOnly_readDraw (s : List Char) : FailsOnly AboutMacro (readDraw registry source s) := by
  unfold readDraw
  split
  · refine .bind (failsOnly_get _) fun table => .bind (failsOnly_readField _ _) fun field => ?_
    exact .bind (failsOnly_weightIndex _ _) fun column => .ok _
  · exact .error rfl

/-- A text is refused with an error about the macro. -/
theorem failsOnly_readExpr (s : List Char) : FailsOnly AboutMacro (readExpr registry source s) := by
  fun_induction readExpr registry source s with
  | case1 => exact failsOnly_readText _
  | case3 s _ inner count _ ih =>
      refine .bind (failsOnly_readNumber _ _) fun n => ?_
      split
      · exact .error rfl
      · exact .bind ih fun operand => .ok _
  | case6 s _ first last _ _ kind _ ihfirst ihlast | case14 s _ first last _ _ _ ihfirst ihlast =>
      exact .bind ihfirst fun low => .bind ihlast fun high => .ok _
  | case8 => exact failsOnly_readRowCount _
  | case9 s _ name index field _ ih =>
      exact .bind (failsOnly_get _) fun table => .bind (failsOnly_readField _ _) fun place =>
        .bind ih fun operand => .ok _
  | case11 | case12 => exact failsOnly_readDraw _
  | case17 s _ name tail _ ih => exact .map ih _
  | case2 | case16 | case19 => exact .ok _
  | case4 | case5 | case7 | case10 | case13 | case15 | case18 | case20 => exact .error rfl

end

theorem failsOnly_parse (source : String) (registry : Registry) :
    FailsOnly AboutMacro (Expr.parse source registry) :=
  failsOnly_readExpr _

end QueryVariants.Macro
