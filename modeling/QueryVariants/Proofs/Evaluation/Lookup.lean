import QueryVariants.Proofs.Evaluation.Consults

/-!
# One request for a name

`Lookup` lists what a request for a name can come to, whether it asks for the whole value or for one
item: both entry points look into the cache first, and both put the name in progress while they evaluate
it. What is proved of the five cases holds of both.
-/

namespace QueryVariants.Evaluation

open Macro

/-- What a request for a name in `state` comes to: a result, and the state it leaves. -/
inductive Lookup (scope : Scope) (names : Names) (name : String) (state : State) :
    Except Error Value → State → Prop
  | cached {value : Value} (hcache : state.cache[name]? = some value) :
    Lookup scope names name state (.ok value) state
  | unknown (hcache : state.cache[name]? = none)
    (hfind : scope.substitutions.find? name = none) :
    Lookup scope names name state (.error (.unknownSubstitution name)) state
  | cycle {e : Expr} (hcache : state.cache[name]? = none)
    (hfind : scope.substitutions.find? name = some e) (hmem : name ∈ state.inProgress) :
    Lookup scope names name state (.error (.cyclicReference name)) state
  | failed {e : Expr} {error : Error} {next : State} (hcache : state.cache[name]? = none)
    (hfind : scope.substitutions.find? name = some e) (hfree : name ∉ state.inProgress)
    (hrun : compute scope names e (state.enter name) = (.error error, next)) :
    Lookup scope names name state (.error error) (next.leave name)
  | stored {e : Expr} {value : Value} {next : State} (hcache : state.cache[name]? = none)
    (hfind : scope.substitutions.find? name = some e) (hfree : name ∉ state.inProgress)
    (hrun : compute scope names e (state.enter name) = (.ok value, next)) :
    Lookup scope names name state (.ok value) ((next.leave name).store name value)

section

variable {scope : Scope} {names : Names} {name : String} {state : State} {e : Expr}

theorem lookup_computeAndStore (names : Names) (hcache : state.cache[name]? = none)
    (hfind : scope.substitutions.find? name = some e) :
    Lookup scope names name state (computeAndStore scope names name e state).1
      (computeAndStore scope names name e state).2 := by
  by_cases hmem : name ∈ state.inProgress
  · have hduring : Evaluator.during name (compute scope names e) state =
        (.error (.cyclicReference name), state) := by
      simp only [Evaluator.during, if_pos hmem]
    rw [computeAndStore, Evaluator.bind_of_error hduring]
    exact .cycle hcache hfind hmem
  · rcases hrun : compute scope names e (state.enter name) with ⟨error | value, next⟩
    · have hduring : Evaluator.during name (compute scope names e) state =
          (.error error, next.leave name) := by
        simp only [Evaluator.during, if_neg hmem, hrun]
      rw [computeAndStore, Evaluator.bind_of_error hduring]
      exact .failed hcache hfind hmem hrun
    · have hduring : Evaluator.during name (compute scope names e) state =
          (.ok value, next.leave name) := by
        simp only [Evaluator.during, if_neg hmem, hrun]
      rw [computeAndStore, Evaluator.bind_of_ok hduring]
      exact .stored hcache hfind hmem hrun

theorem get_apply (state : State) : (get : Evaluator State) state = (.ok state, state) := rfl

theorem substitution_of_none (hfind : scope.substitutions.find? name = none) :
    Evaluator.ofExcept (scope.substitution name) state =
      (.error (.unknownSubstitution name), state) := by
  rw [Scope.substitution, hfind]
  rfl

theorem substitution_of_some (hfind : scope.substitutions.find? name = some e) :
    Evaluator.ofExcept (scope.substitution name) state = (.ok e, state) := by
  rw [Scope.substitution, hfind]
  rfl

/-- A request for the text of a name shows the value that is looked up. -/
theorem exists_lookup_of_resolveValue (scope : Scope) (names : Names) (name : String)
    (state : State) :
    ∃ result next, Lookup scope names name state result next ∧
      resolveValue scope names name state = (result.map Value.render, next) := by
  rw [resolveValue, Evaluator.bind_of_ok (get_apply state)]
  rcases hcache : state.cache[name]? with _ | value
  · rcases hfind : scope.substitutions.find? name with _ | e
    · exact ⟨_, _, .unknown hcache hfind, Evaluator.bind_of_error (substitution_of_none hfind)⟩
    · refine ⟨_, _, lookup_computeAndStore names hcache hfind, ?_⟩
      simp only [Evaluator.bind_of_ok (substitution_of_some hfind)]
      rcases hrun : computeAndStore scope names name e state with ⟨error | value, next⟩
      · exact Evaluator.bind_of_error hrun
      · exact Evaluator.bind_of_ok hrun
  · exact ⟨_, _, .cached hcache, rfl⟩

/-- A request for an item reads it off the value that is looked up, unless the name has no value yet and
does not stand for a list. -/
theorem exists_lookup_of_resolveItem (scope : Scope) (names : Names) (name : String) (index : Nat)
    (state : State) :
    (∃ result next, Lookup scope names name state result next ∧
      resolveItem scope names name index state = (result.bind (readItem name index), next)) ∨
    (state.cache[name]? = none ∧
      (∃ e, scope.substitutions.find? name = some e ∧ ∀ inner count, e ≠ .list inner count) ∧
      resolveItem scope names name index state = (.error (.notAList name), state)) := by
  rw [resolveItem, Evaluator.bind_of_ok (get_apply state)]
  rcases hcache : state.cache[name]? with _ | value
  · rcases hfind : scope.substitutions.find? name with _ | e
    · exact .inl ⟨_, _, .unknown hcache hfind,
        Evaluator.bind_of_error (substitution_of_none hfind)⟩
    · simp only [Evaluator.bind_of_ok (substitution_of_some hfind)]
      cases e with
      | list inner count =>
          refine .inl ⟨_, _, lookup_computeAndStore names hcache hfind, ?_⟩
          rcases hrun : computeAndStore scope names name (.list inner count) state with
            ⟨error | value, next⟩
          · exact Evaluator.bind_of_error hrun
          · exact Evaluator.bind_of_ok hrun
      | _ => exact .inr ⟨trivial, ⟨_, rfl, by simp⟩, rfl⟩
  · exact .inl ⟨_, _, .cached hcache, rfl⟩

end

/-! ### Two ways to get names -/

section

variable {scope : Scope} {names other : Names} {name : String} {state : State}

theorem computeAndStore_congr {e : Expr}
    (h : name ∉ state.inProgress →
      compute scope names e (state.enter name) = compute scope other e (state.enter name)) :
    computeAndStore scope names name e state = computeAndStore scope other name e state := by
  apply Evaluator.bind_congr_left
  by_cases hmem : name ∈ state.inProgress
  · simp only [Evaluator.during, if_pos hmem]
  · simp only [Evaluator.during, if_neg hmem, h hmem]

theorem resolveValue_congr
    (h : ∀ e, scope.substitutions.find? name = some e → name ∉ state.inProgress →
      compute scope names e (state.enter name) = compute scope other e (state.enter name)) :
    resolveValue scope names name state = resolveValue scope other name state := by
  rw [resolveValue, resolveValue, Evaluator.bind_of_ok (get_apply state),
    Evaluator.bind_of_ok (get_apply state)]
  rcases state.cache[name]? with _ | value
  · rcases hfind : scope.substitutions.find? name with _ | e
    · simp only [Evaluator.bind_of_error (substitution_of_none hfind)]
    · simp only [Evaluator.bind_of_ok (substitution_of_some hfind)]
      exact Evaluator.bind_congr_left (computeAndStore_congr (h e hfind))
  · rfl

theorem resolveItem_congr (index : Nat)
    (h : ∀ e, scope.substitutions.find? name = some e → name ∉ state.inProgress →
      compute scope names e (state.enter name) = compute scope other e (state.enter name)) :
    resolveItem scope names name index state = resolveItem scope other name index state := by
  rw [resolveItem, resolveItem, Evaluator.bind_of_ok (get_apply state),
    Evaluator.bind_of_ok (get_apply state)]
  rcases state.cache[name]? with _ | value
  · rcases hfind : scope.substitutions.find? name with _ | e
    · simp only [Evaluator.bind_of_error (substitution_of_none hfind)]
    · simp only [Evaluator.bind_of_ok (substitution_of_some hfind)]
      cases e with
      | list inner count => exact Evaluator.bind_congr_left (computeAndStore_congr (h _ hfind))
      | _ => rfl
  · rfl

end

/-- A value that has been looked up is in the cache. -/
theorem Lookup.cache_of_ok {scope : Scope} {names : Names} {name : String} {state next : State}
    {value : Value} (h : Lookup scope names name state (.ok value) next) :
    next.cache[name]? = some value := by
  cases h with
  | cached hcache => exact hcache
  | stored _ _ _ _ => exact Std.HashMap.getElem?_insert_self

/-- A request comes to one thing only. -/
theorem Lookup.unique {scope : Scope} {names : Names} {name : String} {state next final : State}
    {first second : Except Error Value} (h : Lookup scope names name state first next)
    (hother : Lookup scope names name state second final) : first = second ∧ next = final := by
  cases h <;> cases hother <;> grind

theorem resolveValue_of_lookup {scope : Scope} {names : Names} {name : String}
    {state next : State} {result : Except Error Value}
    (h : Lookup scope names name state result next) :
    resolveValue scope names name state = (result.map Value.render, next) := by
  obtain ⟨other, final, hother, hresolve⟩ := exists_lookup_of_resolveValue scope names name state
  obtain ⟨rfl, rfl⟩ := h.unique hother
  exact hresolve

/-! ### The shape of values -/

/-- The value of a list has as many items as its expression says; every other value is a text. -/
def Value.HasShape (value : Value) : Expr → Prop
  | .list _ count => ∃ items, value = .list items ∧ items.length = count
  | _ => ∃ text, value = .scalar text

theorem length_of_collect {draw : Evaluator String} {missing budget : Nat}
    {seen : Std.HashSet String} {items result : List String} {state next : State}
    (h : collect draw missing budget seen items state = (.ok result, next)) :
    result.length = missing + items.length := by
  induction missing, budget, seen, items using collect.induct generalizing state with
  | case1 budget seen items =>
      rw [collect] at h
      obtain rfl : items.reverse = result := Except.ok.inj (Prod.mk.inj h).1
      simp
  | case2 budget seen items missing ihnew ihrepeated =>
      rw [collect] at h
      obtain ⟨value, middle, -, hrest⟩ := Evaluator.exists_of_bind_ok h
      split at hrest
      · have := ihnew value hrest
        simp only [List.length_cons] at this
        omega
      · specialize ihrepeated value
        cases budget with
        | zero =>
            have := ihrepeated hrest
            simp only [List.length_cons] at this
            omega
        | succ budget => exact ihrepeated hrest

theorem hasShape_of_compute {scope : Scope} {names : Names} {e : Expr} {value : Value}
    {state next : State} (h : compute scope names e state = (.ok value, next)) :
    value.HasShape e := by
  cases e with
  | list inner count =>
      obtain ⟨items, middle, hitems, hvalue⟩ := Evaluator.exists_of_bind_ok h
      obtain rfl : Value.list items = value := Except.ok.inj (Prod.mk.inj hvalue).1
      exact ⟨items, rfl, by simpa using length_of_collect hitems⟩
  | _ =>
      obtain ⟨text, middle, -, hvalue⟩ := Evaluator.exists_of_bind_ok h
      exact ⟨text, (Except.ok.inj (Prod.mk.inj hvalue).1).symm⟩

end QueryVariants.Evaluation
