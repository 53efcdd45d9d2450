import QueryVariants.Proofs.Evaluation.Cache

/-!
# What a failed call leaves behind

A call that fails ends in the middle of nested evaluations, and each of them takes its name off again on the
way out. What stays is the work that was done before: the values of the names whose own evaluations had come
to an end. `Course` is the record of that work. It is the least relation that nested evaluations hand on, so
that every call runs along a course is one more instance of that scheme; and the cache after a course holds
what it held before and what was completed on the way, no more and no less.
-/

namespace QueryVariants.Evaluation

open Macro

/-- A course from one state to another, with the names whose own evaluations were completed on the way and the
values they came to, in order. The evaluation of a name is a course inside the course. -/
inductive Course (scope : Scope) : List (String × Value) → State → State → Prop
  | rest (state : State) : Course scope [] state state
  | draw (state : State) (stream : Random.Stream) : Course scope [] state { state with stream := stream }
  | trans {done more : List (String × Value)} {state next final : State} (first : Course scope done state next)
    (second : Course scope more next final) : Course scope (done ++ more) state final
  | failed {done : List (String × Value)} {name : String} {state next : State} (hfree : name ∉ state.inProgress)
    (inner : Course scope done (state.enter name) next) : Course scope done state (next.leave name)
  | completed {done : List (String × Value)} {name : String} {state next : State} {e : Expr} {value : Value}
    {depth : Nat} (hcache : state.cache[name]? = none) (hfind : scope.substitutions.find? name = some e)
    (hfree : name ∉ state.inProgress)
    (hrun : compute scope (namesWithin scope depth) e (state.enter name) = (.ok value, next))
    (inner : Course scope done (state.enter name) next) :
    Course scope (done ++ [(name, value)]) state ((next.leave name).store name value)

/-- What a call may change: only values of names whose evaluations were completed are new. -/
structure State.Advances (scope : Scope) (state next : State) : Prop where
  inProgress : next.inProgress = state.inProgress
  kept : ∀ (name : String) (value : Value),
    state.cache[name]? = some value → next.cache[name]? = some value
  added : ∃ done, Course scope done state next ∧ ∀ (name : String) (value : Value),
    next.cache[name]? = some value ↔ state.cache[name]? = some value ∨ (name, value) ∈ done

section

variable {scope : Scope} {done : List (String × Value)} {state next : State} {name : String} {error : Error}

theorem course_evolution (scope : Scope) :
    NestedEvolution scope fun state next => ∃ done, Course scope done state next where
  refl state := ⟨[], .rest state⟩
  trans := fun ⟨_, first⟩ ⟨_, second⟩ => ⟨_, .trans first second⟩
  draw state stream := ⟨[], .draw state stream⟩
  failed hfree := fun ⟨_, inner⟩ => ⟨_, .failed hfree inner⟩
  stored hcache hfind hfree hrun := fun ⟨_, inner⟩ => ⟨_, .completed hcache hfind hfree hrun inner⟩

theorem Course.grows (h : Course scope done state next) : state.Grows next := by
  induction h with
  | rest state => exact (grows_evolution scope).refl state
  | draw state stream => exact (grows_evolution scope).draw state stream
  | trans _ _ ihfirst ihsecond => exact (grows_evolution scope).trans ihfirst ihsecond
  | failed hfree _ ih => exact (grows_evolution scope).failed hfree ih
  | completed hcache hfind hfree hrun _ ih => exact (grows_evolution scope).stored hcache hfind hfree hrun ih

/-- The cache after a course holds what it held before and what was completed. -/
theorem Course.cache_iff (h : Course scope done state next) (name : String) (value : Value) :
    next.cache[name]? = some value ↔ state.cache[name]? = some value ∨ (name, value) ∈ done := by
  induction h with
  | rest | draw => simp
  | trans _ _ ihfirst ihsecond => rw [ihsecond, ihfirst, List.mem_append, or_assoc]
  | failed _ _ ih => exact ih
  | @completed done entered state next e result depth hcache _ _ hrun inner ih =>
      change next.cache[name]? = some value ↔ state.cache[name]? = some value ∨ (name, value) ∈ done at ih
      rw [State.cache_store, List.mem_append, List.mem_singleton, ← or_assoc, ← ih]
      by_cases heq : entered = name
      · subst heq
        -- The entry was free until now, so it is not among those that the inner course has made.
        have hfree : next.cache[entered]? = none := by
          rw [inner.grows.reserved List.mem_cons_self]
          exact hcache
        simp [hfree, eq_comm]
      · have hne : (name, value) ≠ (entered, result) := fun h => heq (Prod.mk.inj h).1.symm
        rw [if_neg heq, or_iff_left hne]
        rfl

theorem Course.advances (h : Course scope done state next) : state.Advances scope next :=
  ⟨h.grows.inProgress, fun _ _ => h.grows.kept, done, h, h.cache_iff⟩

/-- A look-up that fails leaves the name without a value. -/
theorem Lookup.cache_of_error {depth : Nat}
    (h : Lookup scope (namesWithin scope depth) name state (.error error) next) :
    next.cache[name]? = none := by
  cases h with
  | unknown hcache _ => exact hcache
  | cycle hcache _ _ => exact hcache
  | @failed e _ last hcache _ _ hrun =>
      have hfree := cache_compute_of_inProgress scope depth e hcache
      rw [hrun] at hfree
      exact hfree

/-- A value that an item cannot be read off is a text or a list that is too short. -/
theorem readItem_eq_error_iff {index : Nat} {value : Value} :
    readItem name index value = .error error ↔
      (∃ text, value = .scalar text ∧ error = .cacheShape name) ∨
        ∃ items, value = .list items ∧ items.length ≤ index ∧
          error = .listIndexOutOfRange name index items.length := by
  cases value with
  | scalar text => simp [readItem, eq_comm]
  | list items =>
      rcases h : items[index]? with _ | item
      · simpa [readItem, h, eq_comm] using fun _ => List.getElem?_eq_none_iff.1 h
      · have hindex := (List.getElem?_eq_some_iff.1 h).1
        simpa [readItem, h] using fun hlength => absurd hindex (Nat.not_lt_of_le hlength)

/-- An evaluation runs along a course, and so does a request for a name or for an item. -/
theorem advances_evaluate (scope : Scope) (depth : Nat) (e : Expr) (state : State) :
    state.Advances scope (evaluate scope (namesWithin scope depth) e state).2 := by
  obtain ⟨done, hcourse⟩ := (consults_evaluate scope e).along (course_evolution scope).toEvolution
    ((course_evolution scope).along depth) state
  exact hcourse.advances

theorem advances_resolveValue (scope : Scope) (depth : Nat) (name : String) (state : State) :
    state.Advances scope (resolveValue scope (namesWithin scope depth) name state).2 := by
  obtain ⟨done, hcourse⟩ := ((course_evolution scope).along (depth + 1)).value name state
  exact hcourse.advances

theorem advances_resolveItem (scope : Scope) (depth : Nat) (name : String) (index : Nat) (state : State) :
    state.Advances scope (resolveItem scope (namesWithin scope depth) name index state).2 := by
  obtain ⟨done, hcourse⟩ := ((course_evolution scope).along (depth + 1)).item name index state
  exact hcourse.advances

theorem cache_of_resolveValue_error {depth : Nat}
    (h : resolveValue scope (namesWithin scope depth) name state = (.error error, next)) :
    next.cache[name]? = none := by
  obtain ⟨result, last, hlookup, heq⟩ :=
    exists_lookup_of_resolveValue scope (namesWithin scope depth) name state
  obtain ⟨hresult, rfl⟩ := Prod.mk.inj (heq.symm.trans h)
  rcases result with failure | value
  · exact hlookup.cache_of_error
  · cases hresult

theorem resolveItem_of_ne_list {names : Names} {index : Nat} {e : Expr} (hcache : state.cache[name]? = none)
    (hfind : scope.substitutions.find? name = some e) (hlist : ∀ inner count, e ≠ .list inner count) :
    resolveItem scope names name index state = (.error (.notAList name), state) := by
  rw [resolveItem, Evaluator.bind_of_ok (get_apply state), hcache]
  simp only [Evaluator.bind_of_ok (substitution_of_some hfind)]
  cases e with
  | list inner count => exact absurd rfl (hlist inner count)
  | _ => rfl

/-- A text that an item was to be read off was in the cache before. -/
theorem cache_of_resolveItem_cacheShape {depth index : Nat} {text : String}
    (hlookup : Lookup scope (namesWithin scope depth) name state (.ok (.scalar text)) next)
    (h : resolveItem scope (namesWithin scope depth) name index state = (.error (.cacheShape name), next)) :
    state.cache[name]? = some (.scalar text) := by
  cases hlookup with
  | cached hcache => exact hcache
  | @stored e _ _ hcache hfind _ hrun =>
      have hshape := hasShape_of_compute hrun
      by_cases hlist : ∃ inner count, e = .list inner count
      · obtain ⟨inner, count, rfl⟩ := hlist
        obtain ⟨items, hitems, -⟩ := hshape
        cases hitems
      · rw [resolveItem_of_ne_list hcache hfind fun inner count heq => hlist ⟨inner, count, heq⟩] at h
        cases (Prod.mk.inj h).1

/-- An item that is not read leaves the name without a value, unless there was a value to read it off. -/
theorem cache_of_resolveItem_error {depth index : Nat}
    (h : resolveItem scope (namesWithin scope depth) name index state = (.error error, next)) :
    next.cache[name]? = none ∨
      (∃ text, state.cache[name]? = some (.scalar text) ∧ error = .cacheShape name) ∨
      ∃ items, next.cache[name]? = some (.list items) ∧ items.length ≤ index ∧
        error = .listIndexOutOfRange name index items.length := by
  obtain ⟨result, last, hlookup, heq⟩ | ⟨hcache, -, heq⟩ :=
    exists_lookup_of_resolveItem scope (namesWithin scope depth) name index state
  · obtain ⟨hresult, rfl⟩ := Prod.mk.inj (heq.symm.trans h)
    rcases result with failure | value
    · exact .inl hlookup.cache_of_error
    · have hcached := hlookup.cache_of_ok
      rcases readItem_eq_error_iff.1 hresult with ⟨text, rfl, rfl⟩ | ⟨items, rfl, hlength, herror⟩
      · exact .inr (.inl ⟨text, cache_of_resolveItem_cacheShape hlookup h, rfl⟩)
      · exact .inr (.inr ⟨items, hcached, hlength, herror⟩)
  · obtain ⟨-, rfl⟩ := Prod.mk.inj (heq.symm.trans h)
    exact .inl hcache

end

/-- **A failed call leaves the state clean.** In every state and at every depth of nesting, of which a call from
outside is the one that `Scope.names` allows:
1. an expression that fails leaves the names in progress as they were, keeps every entry of the cache, and has
   run along a course whose completed evaluations are exactly the entries that are new;
2. so does a request for a name that fails, and the name has no value afterwards;
3. so does a request for an item that fails, and the name has no value afterwards, unless its value is a text
   that was there before, or its list is too short for the index: then the error says so;
4. between the calls of a sequence, of which any may have failed, no name is in progress. -/
theorem failed_call_leaves_clean (scope : Scope) :
    (∀ depth e state error next, evaluate scope (namesWithin scope depth) e state = (.error error, next) →
      state.Advances scope next) ∧
    (∀ depth name state error next,
      resolveValue scope (namesWithin scope depth) name state = (.error error, next) →
      state.Advances scope next ∧ next.cache[name]? = none) ∧
    (∀ depth name index state error next,
      resolveItem scope (namesWithin scope depth) name index state = (.error error, next) →
      state.Advances scope next ∧ (next.cache[name]? = none ∨
        (∃ text, state.cache[name]? = some (.scalar text) ∧ error = .cacheShape name) ∨
        ∃ items, next.cache[name]? = some (.list items) ∧ items.length ≤ index ∧
          error = .listIndexOutOfRange name index items.length)) ∧
    (∀ seed calls, (scope.stateAfter seed calls).inProgress = []) := by
  refine ⟨?_, ?_, ?_, inProgress_stateAfter scope⟩
  · intro depth e state error next h
    have hadvances := advances_evaluate scope depth e state
    rwa [h] at hadvances
  · intro depth name state error next h
    have hadvances := advances_resolveValue scope depth name state
    rw [h] at hadvances
    exact ⟨hadvances, cache_of_resolveValue_error h⟩
  · intro depth name index state error next h
    have hadvances := advances_resolveItem scope depth name index state
    rw [h] at hadvances
    exact ⟨hadvances, cache_of_resolveItem_error h⟩

end QueryVariants.Evaluation
