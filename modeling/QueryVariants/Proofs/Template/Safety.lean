import QueryVariants.Proofs.Distribution.RoundTrip
import QueryVariants.Proofs.Evaluation.Guarded
import QueryVariants.Proofs.Macro.Reading
import QueryVariants.Proofs.Template.WellMade

/-!
# Expanding a template that was read

What the reader of templates has accepted can be expanded without a guard: the expansion with guards in
front of all operations that may have no result is the expansion itself. It may still fail, but only for
what the values of the names turn out to be.
-/

namespace QueryVariants.Template

open Evaluation Macro Text

section

variable (report : Fault → Error)

/-- Filling with guards in front of all operations that may have no result. -/
def guardedFill (scope : Scope) : List String → List Char → Evaluator (List Char)
  | [], text => pure text
  | name :: names, text =>
    if occurs (placeholder name) text then do
      let value ← Guarded.resolve report scope name
      guardedFill scope names (replaceAll (placeholder name) value.toList text)
    else guardedFill scope names text

def guardedExpand (template : Template) (seed : UInt64) (registry : Registry) (rowCounts : RowCounts) :
    Except Error String :=
  let filled :=
    guardedFill report (template.scope registry rowCounts) template.substitutions.keys template.body.toList
  ((filled (.ofSeed seed)).1).map String.ofList

end

section

variable {scope : Scope} {names : List String} {text : List Char} {state : State}

theorem guardedFill_eq (report : Fault → Error) (hregistry : scope.registry.Parsed)
    (hscope : scope.WellMade) : guardedFill report scope names text = fill scope names text := by
  induction names generalizing text with
  | nil => rfl
  | cons name names ih =>
      rw [guardedFill, fill_cons, Guarded.resolve_eq hregistry hscope]
      simp only [ih]

/-- Filling ends with expected errors only: each comes from a request in a state that is well shaped. -/
theorem expected_of_fill {error : Error} (hscope : scope.WellMade) (hstate : state.Shaped scope)
    (h : (fill scope names text state).1 = .error error) : error.expected = true := by
  induction names generalizing text state with
  | nil => cases h
  | cons name names ih =>
      rw [fill_cons] at h
      split at h
      · have hshaped : (scope.resolve name state).2.Shaped scope :=
          ((shaped_evolution scope).along (scope.substitutions.size + 1)).value name state hstate
        rcases hrun : scope.resolve name state with ⟨failure | value, next⟩
        · rw [Evaluator.bind_of_error hrun] at h
          obtain rfl := Except.error.inj h
          exact (expected_namesWithin hscope _).value hstate (congrArg Prod.fst hrun)
        · rw [Evaluator.bind_of_ok hrun] at h
          have hnext : next.Shaped scope := by
            have heq : (scope.resolve name state).2 = next := congrArg Prod.snd hrun
            exact heq ▸ hshaped
          exact ih hnext h
      · exact ih hstate h

end

/-- **What is accepted cannot fail structurally.** Let the tables that a template is read and expanded with
all have been read from texts, and let no define have the name of an item of a list. Then
1. the expansion never comes to an operation without a result: whatever a fault would be reported as, the
   expansion with guards gives the same;
2. an error of the expansion says that a name is unknown or cyclic, that a relation is unknown, that a value
   is no number, no date, an empty range or no row of a table, or that a column of weights is empty;
3. a choice always has a value, wherever it stands and in whatever scope and state it is evaluated. -/
theorem expand_safe {id : Nat} {text : String} {registry tables : Registry} {template : Template}
    (hregistry : registry.Parsed) (hparse : parse id text registry = .ok template)
    (hapart : template.ItemsApart) (htables : tables.Parsed) (seed : UInt64) (rowCounts : RowCounts) :
    (∀ report, template.guardedExpand report seed tables rowCounts =
      template.expand seed tables rowCounts) ∧
    (∀ error, template.expand seed tables rowCounts = .error error → error.expected = true) ∧
    (∀ name e options, template.substitutions.find? name = some e → .choice options ∈ e.nodes →
      ∀ scope names state, ∃ value next,
        evaluate scope names (.choice options) state = (.ok value, next)) := by
  have hscope := wellMade_scope hregistry hparse hapart tables rowCounts
  refine ⟨?_, ?_, ?_⟩
  · intro report
    rw [guardedExpand, guardedFill_eq report htables hscope, expand]
  · intro error h
    rw [expand] at h
    rcases hfill : (fill (template.scope tables rowCounts) template.substitutions.keys
      template.body.toList (.ofSeed seed)).1 with failure | filled
    · rw [hfill] at h
      obtain rfl := Except.error.inj h
      exact expected_of_fill hscope (shaped_ofSeed _ seed) hfill
    · rw [hfill] at h
      cases h
  · intro name e options hfind hoptions scope names state
    cases hscope name e hfind with
    | read hsound => exact exists_evaluate_choice (hsound _ hoptions) scope names state
    | item => cases List.mem_singleton.1 hoptions

/-- Two rows of the same weight. -/
def coins : Table :=
  ⟨"coins", ["side"], ["even"], [⟨["heads"], [1]⟩, ⟨["tails"], [1]⟩]⟩

/-- A template with draws from a table, the items of a list and a choice. -/
def coinTemplate : Template :=
  ⟨1, "[A.1], [B]\n",
    ⟨[("A", .list (.draw coins 0 0) 2), ("B", .choice [("x", 1), ("y", 2)])], by simp⟩,
    ⟨[("A", .list (.draw coins 0 0) 2), ("A.1", .item "A" 0), ("A.2", .item "A" 1),
      ("B", .choice [("x", 1), ("y", 2)])], by simp⟩⟩

theorem itemsApart_coinTemplate : coinTemplate.ItemsApart := by
  intro list inner count hfind k hfirst hlast
  have hmem := OrderedMap.mem_of_find? hfind
  simp only [coinTemplate, List.mem_cons, Prod.mk.injEq, List.not_mem_nil, or_false, reduceCtorEq,
    and_false, Expr.list.injEq] at hmem
  obtain ⟨rfl, rfl, rfl⟩ := hmem
  obtain rfl | rfl : k = 1 ∨ k = 2 := by omega
  · decide
  · decide

theorem parse_coinTemplate :
    parse 1 "define A = ulist(dist(coins, 1, even), 2);\ndefine B = text(\x7bx,1\x7d,\x7by,2\x7d);\n[A.1], [B]"
      (.ofTables [coins]) = .ok coinTemplate := by
  have hdraw : readExpr (.ofTables [coins]) "ulist(dist(coins, 1, even), 2)" "dist(coins, 1, even)".toList =
      .ok (.draw coins 0 0) := by
    have hcall : arguments? "dist(".toList [')'] "dist(coins, 1, even)".toList =
        some ["coins".toList, ['1'], "even".toList] := by cbv
    rw [readExpr_of_draw rfl, readDraw, hcall]
    rfl
  have hcall : arguments? "ulist(".toList [')'] "ulist(dist(coins, 1, even), 2)".toList =
      some ["dist(coins, 1, even)".toList, ['2']] := by cbv
  have hlist : Expr.parse "ulist(dist(coins, 1, even), 2)" (.ofTables [coins]) =
      .ok (.list (.draw coins 0 0) 2) :=
    readExpr_of_list rfl hcall rfl (by decide) hdraw
  have hread : readText "text(\x7bx,1\x7d,\x7by,2\x7d)" "text(\x7bx,1\x7d,\x7by,2\x7d)".toList =
      .ok (.choice [("x", 1), ("y", 2)]) := by
    have hcall : arguments? "text(".toList [')'] "text(\x7bx,1\x7d,\x7by,2\x7d)".toList =
        some ["\x7bx,1\x7d".toList, "\x7by,2\x7d".toList] := by cbv
    have hfirst : arguments? ['\x7b'] ['\x7d'] "\x7bx,1\x7d".toList = some [['x'], ['1']] := by cbv
    have hsecond : arguments? ['\x7b'] ['\x7d'] "\x7by,2\x7d".toList = some [['y'], ['2']] := by cbv
    rw [readText, hcall]
    simp only [List.mapM_cons, readOption, hfirst, hsecond]
    rfl
  have hchoice : Expr.parse "text(\x7bx,1\x7d,\x7by,2\x7d)" (.ofTables [coins]) =
      .ok (.choice [("x", 1), ("y", 2)]) :=
    (readExpr_of_text rfl).trans hread
  refine parse_eq_ok_iff.2 ⟨[("A", .list (.draw coins 0 0) 2), ("B", .choice [("x", 1), ("y", 2)])], [],
    .cons ⟨_, rfl, hlist⟩ (.cons ⟨_, rfl, hchoice⟩ .nil), rfl, ?_⟩
  rw [assemble, OrderedMap.ofList_eq_insertMany]
  rfl

theorem expand_safe_coinTemplate :
    Registry.Parsed (.ofTables [coins]) ∧
    (∀ report, coinTemplate.guardedExpand report 0 (.ofTables [coins]) .scaleOne =
      coinTemplate.expand 0 (.ofTables [coins]) .scaleOne) ∧
    ∀ error, coinTemplate.expand 0 (.ofTables [coins]) .scaleOne = .error error →
      error.expected = true := by
  have hcoins : coins.WellFormed := by constructor <;> decide
  have hregistry : Registry.Parsed (.ofTables [coins]) := by
    apply Registry.parsed_ofTables
    intro table htable
    obtain rfl := List.mem_singleton.1 htable
    exact ⟨_, _, _, _, hcoins.parse_written⟩
  have hsafe := expand_safe hregistry parse_coinTemplate itemsApart_coinTemplate hregistry 0 .scaleOne
  exact ⟨hregistry, hsafe.1, hsafe.2.1⟩

end QueryVariants.Template
