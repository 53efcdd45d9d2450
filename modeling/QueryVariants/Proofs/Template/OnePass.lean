import QueryVariants.Proofs.Evaluation.Lookup
import QueryVariants.Proofs.Template.Substitution

/-!
# Expansion is one pass

Filling looks for the placeholder of each name in the text as the names before have left it, so a value
could hide or create the placeholder of a later name. In a flat text, with names and values without
brackets, it cannot: the names that are resolved are those of the body as it was written, and the result
is the body with all their values put in at once.
-/

namespace QueryVariants.Template

open Evaluation Macro Text

/-- The names whose placeholders occur in a text, in the given order. -/
def occurring (names : List String) (text : List Char) : List String :=
  names.filter fun name => occurs (placeholder name) text

/-- The names whose placeholders occur in the body as it was written. -/
def usedNames (template : Template) : List String :=
  occurring template.substitutions.keys template.body.toList

section

variable {scope : Scope} {names before values : List String} {name : String}
  {text : List Char} {state next : State}

theorem exists_of_mapM_resolve_cons
    (h : (name :: names).mapM scope.resolve state = (.ok values, next)) :
    ∃ value middle rest, values = value :: rest ∧ scope.resolve name state = (.ok value, middle) ∧
      names.mapM scope.resolve middle = (.ok rest, next) := by
  rw [List.mapM_cons] at h
  obtain ⟨value, middle, hvalue, h⟩ := Evaluator.exists_of_bind_ok h
  obtain ⟨rest, last, hrest, h⟩ := Evaluator.exists_of_bind_ok h
  obtain ⟨hvalues, rfl⟩ := Prod.mk.inj h
  exact ⟨value, middle, rest, (Except.ok.inj hvalues).symm, hvalue, hrest⟩

theorem mapM_resolve_nil (scope : Scope) (state : State) :
    ([] : List String).mapM scope.resolve state = (.ok [], state) := rfl

theorem mapM_resolve_cons {value : String} {middle : State}
    (hvalue : scope.resolve name state = (.ok value, middle))
    (hrest : names.mapM scope.resolve middle = (.ok values, next)) :
    (name :: names).mapM scope.resolve state = (.ok (value :: values), next) := by
  rw [List.mapM_cons, Evaluator.bind_of_ok hvalue, Evaluator.bind_of_ok hrest]
  rfl

theorem length_of_mapM_resolve (h : names.mapM scope.resolve state = (.ok values, next)) :
    names.length = values.length := by
  induction names generalizing state values with
  | nil =>
      obtain ⟨hvalues, -⟩ := Prod.mk.inj h
      obtain rfl : [] = values := Except.ok.inj hvalues
      rfl
  | cons name names ih =>
      obtain ⟨value, middle, rest, rfl, -, hrest⟩ := exists_of_mapM_resolve_cons h
      rw [List.length_cons, List.length_cons, ih hrest]

theorem bracketFree_zip (hnames : ∀ name ∈ names, BracketFree name.toList)
    (hvalues : ∀ value ∈ values, BracketFree value.toList) :
    (∀ entry ∈ names.zip values, BracketFree entry.1.toList) ∧
      ∀ entry ∈ names.zip values, BracketFree entry.2.toList := by
  constructor
  · intro entry hentry
    exact hnames entry.1 (List.of_mem_zip hentry).1
  · intro entry hentry
    exact hvalues entry.2 (List.of_mem_zip hentry).2

theorem bracketFree_occurring (text : List Char) (hnames : ∀ name ∈ names, BracketFree name.toList) :
    ∀ name ∈ occurring names text, BracketFree name.toList :=
  fun name hname => hnames name ((List.mem_filter.1 hname).1)

/-- Putting in the value of one name does not change which of the other names occur. -/
theorem occurring_substitute {value : String} (hname : BracketFree name.toList)
    (hvalue : BracketFree value.toList) (hnames : ∀ other ∈ names, BracketFree other.toList)
    (hnew : name ∉ names) (htext : Segmented text) :
    occurring names (substitute [(name, value)] text) = occurring names text := by
  refine List.filter_congr ?_
  intro other hother
  have hne : other ≠ name := by
    rintro rfl
    exact hnew hother
  rw [occurs_substitute (hnames other hother) (by simpa using hname) (by simpa using hvalue) htext]
  simp [hne]

/-- Filling the first names is a pass with the values of those that occur in the text as it was. -/
theorem fill_append (after : List String) (hnodup : before.Nodup)
    (hnames : ∀ name ∈ before, BracketFree name.toList) (htext : Segmented text)
    (hrun : (occurring before text).mapM scope.resolve state = (.ok values, next))
    (hvalues : ∀ value ∈ values, BracketFree value.toList) :
    fill scope (before ++ after) text state =
      fill scope after (substitute ((occurring before text).zip values) text) next := by
  induction before generalizing text state values with
  | nil =>
      obtain ⟨-, rfl⟩ := Prod.mk.inj hrun
      rw [List.nil_append, occurring, List.filter_nil, List.zip_nil_left, substitute_nil]
  | cons name before ih =>
      obtain ⟨hnew, hnodup⟩ := List.nodup_cons.1 hnodup
      obtain ⟨hname, hnames⟩ := List.forall_mem_cons.1 hnames
      rw [List.cons_append, fill_cons]
      by_cases hoccurs : occurs (placeholder name) text = true
      · have hfirst : occurring (name :: before) text = name :: occurring before text :=
          List.filter_cons_of_pos hoccurs
        rw [hfirst] at hrun ⊢
        obtain ⟨value, middle, rest, rfl, hvalue, hrest⟩ := exists_of_mapM_resolve_cons hrun
        obtain ⟨hfree, hvalues⟩ := List.forall_mem_cons.1 hvalues
        -- The text changes here, but not which of the later names occur in it.
        have hsame := occurring_substitute hname hfree hnames hnew htext
        have hflat : Segmented (substitute [(name, value)] text) :=
          segmented_substitute (by simpa using hname) (by simpa using hfree) htext
        rw [if_pos hoccurs, Evaluator.bind_of_ok hvalue, replaceAll_placeholder,
          ih hnodup hnames hflat (hsame.symm ▸ hrest) hvalues, hsame, List.zip_cons_cons,
          substitute_substitute hname hfree
            (bracketFree_zip (bracketFree_occurring _ hnames) hvalues).1 htext]
      · have hskip : occurring (name :: before) text = occurring before text :=
          List.filter_cons_of_neg hoccurs
        rw [hskip] at hrun ⊢
        rw [if_neg hoccurs, ih hnodup hnames htext hrun hvalues]

/-- The place of an occurring name among all names. -/
theorem exists_of_occurring_eq_append {first rest : List String}
    (h : occurring names text = first ++ name :: rest) :
    ∃ before after, names = before ++ name :: after ∧ occurring before text = first ∧
      occurs (placeholder name) text = true := by
  obtain ⟨before, tail, rfl, rfl, htail⟩ := List.filter_eq_append_iff.1 h
  obtain ⟨skipped, after, rfl, hskipped, hoccurs, -⟩ := List.filter_eq_cons_iff.1 htail
  refine ⟨before ++ skipped, after, by simp, ?_, hoccurs⟩
  rw [occurring, List.filter_append, List.filter_eq_nil_iff.2 hskipped, List.append_nil]

/-- Filling all names is a pass with the values of those that occur. -/
theorem fill_of_ok (hnodup : names.Nodup) (hnames : ∀ name ∈ names, BracketFree name.toList)
    (htext : Segmented text)
    (hrun : (occurring names text).mapM scope.resolve state = (.ok values, next))
    (hvalues : ∀ value ∈ values, BracketFree value.toList) :
    fill scope names text state = (.ok (substitute ((occurring names text).zip values) text), next) := by
  have h := fill_append [] hnodup hnames htext hrun hvalues
  rw [List.append_nil, fill_nil] at h
  exact h

/-- A pass with the values of all names that occur leaves no placeholder of any name. -/
theorem occurs_filled (hnames : ∀ name ∈ names, BracketFree name.toList) (htext : Segmented text)
    (hlength : (occurring names text).length = values.length)
    (hvalues : ∀ value ∈ values, BracketFree value.toList) (hname : name ∈ names) :
    occurs (placeholder name) (substitute ((occurring names text).zip values) text) = false := by
  have hzip := bracketFree_zip (bracketFree_occurring text hnames) hvalues
  rw [occurs_substitute (hnames name hname) hzip.1 hzip.2 htext, List.map_fst_zip hlength.le]
  cases hoccurs : occurs (placeholder name) text with
  | false => rfl
  | true =>
      have hused : name ∈ occurring names text := List.mem_filter.2 ⟨hname, hoccurs⟩
      simpa using hused

/-- Filling stops at the first name that has no value. -/
theorem fill_of_error {first rest : List String} {e : Error} {final : State}
    (hnodup : names.Nodup) (hnames : ∀ name ∈ names, BracketFree name.toList)
    (htext : Segmented text) (hused : occurring names text = first ++ name :: rest)
    (hrun : first.mapM scope.resolve state = (.ok values, next))
    (hvalues : ∀ value ∈ values, BracketFree value.toList)
    (herror : scope.resolve name next = (.error e, final)) :
    fill scope names text state = (.error e, final) := by
  obtain ⟨before, after, rfl, rfl, hoccurs⟩ := exists_of_occurring_eq_append hused
  obtain ⟨hbefore, -, hdisjoint⟩ := List.nodup_append.1 hnodup
  obtain ⟨hfree, hname⟩ := List.forall_mem_append.1 hnames
  have hzip := bracketFree_zip (bracketFree_occurring text hfree) hvalues
  have hnew : name ∉ occurring before text := by
    intro hmem
    exact hdisjoint name (List.mem_filter.1 hmem).1 name (by simp) rfl
  rw [fill_append _ hbefore hfree htext hrun hvalues, fill_cons, if_pos, Evaluator.bind_of_error herror]
  rw [occurs_substitute (hname name (by simp)) hzip.1 hzip.2 htext,
    List.map_fst_zip (length_of_mapM_resolve hrun).le]
  simp [hoccurs, hnew]

end

/-- **Filling name after name is one pass.** Let no name have a bracket in it and let the brackets of the
body not nest. If the names that occur in the body as it was written have values without brackets, then
expanding the template puts these values in the place of all their placeholders at once; no other name is
asked for, and no placeholder of a name is left. If one of these names is the first without a value, then
expanding fails with its error. -/
theorem expand_eq_substitute (template : Template) (seed : UInt64) (registry : Registry)
    (rowCounts : RowCounts)
    (hnames : ∀ name ∈ template.substitutions.keys, BracketFree name.toList)
    (hbody : Flat template.body.toList) :
    (∀ values state,
      template.usedNames.mapM (template.scope registry rowCounts).resolve (.ofSeed seed) =
        (.ok values, state) →
      (∀ value ∈ values, BracketFree value.toList) →
      template.expand seed registry rowCounts =
        .ok (.ofList (substitute (template.usedNames.zip values) template.body.toList)) ∧
      (fill (template.scope registry rowCounts) template.substitutions.keys template.body.toList
        (.ofSeed seed)).2 = state ∧
      ∀ name ∈ template.substitutions.keys,
        occurs (placeholder name)
          (substitute (template.usedNames.zip values) template.body.toList) = false) ∧
    (∀ first name rest values state error final,
      template.usedNames = first ++ name :: rest →
      first.mapM (template.scope registry rowCounts).resolve (.ofSeed seed) = (.ok values, state) →
      (∀ value ∈ values, BracketFree value.toList) →
      (template.scope registry rowCounts).resolve name state = (.error error, final) →
      template.expand seed registry rowCounts = .error error) := by
  have htext := hbody.segmented
  have hnodup := template.substitutions.nodup_keys
  constructor
  · intro values state hrun hvalues
    have hfill := fill_of_ok hnodup hnames htext hrun hvalues
    refine ⟨?_, ?_, ?_⟩
    · rw [expand, hfill]
      rfl
    · rw [hfill]
    · intro name hname
      exact occurs_filled hnames htext (length_of_mapM_resolve hrun) hvalues hname
  · intro first name rest values state error final hused hrun hvalues herror
    rw [expand, fill_of_error hnodup hnames htext hused hrun hvalues herror]
    rfl

/-- A sum of two names, with a third name in brackets that is not defined. -/
def sumTemplate (second : Expr) : Template :=
  ⟨1, "[A]+[B]=[C] [A]", ∅, ⟨[("A", .text "x"), ("B", second), ("D", .reference "E")], by simp⟩⟩

theorem flat_sumTemplate (second : Expr) : Flat (sumTemplate second).body.toList := by
  refine flat_iff_segmented.2 (?_ : Segmented "[A]+[B]=[C] [A]".toList)
  exact @Segmented.bracket ['A'] _ (by decide) (.char (by decide)
    (@Segmented.bracket ['B'] _ (by decide) (.char (by decide)
      (@Segmented.bracket ['C'] _ (by decide) (.char (by decide)
        (@Segmented.bracket ['A'] [] (by decide) (.ending (by decide))))))))

/-- The first request for a name that stands for a fixed text writes the entry of that name only. -/
theorem exists_resolve_of_text {scope : Scope} {name text : String} {state : State}
    (hfind : scope.substitutions.find? name = some (.text text))
    (hcache : state.cache[name]? = none) (hfree : name ∉ state.inProgress) :
    ∃ next, scope.resolve name state = (.ok text, next) ∧ next.inProgress = state.inProgress ∧
      ∀ other ≠ name, next.cache[other]? = state.cache[other]? := by
  refine ⟨_, resolveValue_of_lookup (.stored hcache hfind hfree rfl), ?_, ?_⟩
  · simp [State.enter, State.leave, State.store]
  · intro other hother
    simp [State.enter, State.leave, State.store, Std.HashMap.getElem?_insert, hother.symm]

theorem expand_sumTemplate :
    (sumTemplate (.text "y")).expand 0 .empty .scaleOne = .ok "x+y=[C] x" ∧
      (sumTemplate (.choice [])).expand 0 .empty .scaleOne = .error (.emptyRange "0" "0") := by
  have hfirst (second : Expr) : ∃ next,
      ((sumTemplate second).scope .empty .scaleOne).resolve "A" (.ofSeed 0) = (.ok "x", next) ∧
        next.inProgress = [] ∧ next.cache["B"]? = none := by
    have hfind : ((sumTemplate second).scope .empty .scaleOne).substitutions.find? "A" =
        some (.text "x") := rfl
    obtain ⟨next, hnext, hprogress, hcache⟩ :=
      @exists_resolve_of_text _ _ _ (.ofSeed 0) hfind (by simp [State.ofSeed])
        (by simp [State.ofSeed])
    exact ⟨next, hnext, hprogress, by simp [hcache, State.ofSeed]⟩
  constructor
  · obtain ⟨state, hstate, hprogress, hcache⟩ := hfirst (.text "y")
    have hfind : ((sumTemplate (.text "y")).scope .empty .scaleOne).substitutions.find? "B" =
        some (.text "y") := rfl
    obtain ⟨final, hfinal, -, -⟩ := exists_resolve_of_text hfind hcache (by simp [hprogress])
    have hrun := mapM_resolve_cons hstate (mapM_resolve_cons hfinal (mapM_resolve_nil _ _))
    have h := (expand_eq_substitute (sumTemplate (.text "y")) 0 .empty .scaleOne (by decide)
      (flat_sumTemplate _)).1 ["x", "y"] final hrun (by decide)
    rw [h.1]
    cbv
  · obtain ⟨state, hstate, hprogress, hcache⟩ := hfirst (.choice [])
    have hfind : ((sumTemplate (.choice [])).scope .empty .scaleOne).substitutions.find? "B" =
        some (.choice []) := rfl
    have hlookup : Lookup _ (namesWithin ((sumTemplate (.choice [])).scope .empty .scaleOne) 3) "B"
        state _ _ := .failed hcache hfind (by simp [hprogress]) rfl
    exact (expand_eq_substitute (sumTemplate (.choice [])) 0 .empty .scaleOne (by decide)
      (flat_sumTemplate _)).2 ["A"] "B" [] ["x"] state _ _ rfl
        (mapM_resolve_cons hstate (mapM_resolve_nil _ _)) (by decide) (resolveValue_of_lookup hlookup)

end QueryVariants.Template
