import QueryVariants.Proofs.Evaluation.Calls

/-!
# The cache

An entry of the cache is written once. While the substitution of a name is evaluated the name is in
progress, and no evaluation inside it can write the entry of a name in progress, so the entry is still
free when the value is stored. `State.Grows` is the invariant: it holds across every evaluation in every
state, and that a name keeps its entry is only one of its three parts.
-/

namespace QueryVariants.Evaluation

open Macro

/-- What an evaluation may do to its state, the stream apart. -/
structure State.Grows (state next : State) : Prop where
  inProgress : next.inProgress = state.inProgress
  kept : ∀ {name : String} {value : Value}, state.cache[name]? = some value →
    next.cache[name]? = some value
  /-- The entries of names in progress are left to the evaluations that put them in progress. -/
  reserved : ∀ {name : String}, name ∈ state.inProgress → next.cache[name]? = state.cache[name]?

/-- Every entry belongs to a substitution and has its shape. -/
def State.Shaped (scope : Scope) (state : State) : Prop :=
  ∀ name value, state.cache[name]? = some value →
    ∃ e, scope.substitutions.find? name = some e ∧ value.HasShape e

section

variable {scope : Scope} {names : Names} {name : String} {state next : State}

theorem State.cache_store (state : State) (name other : String) (value : Value) :
    (state.store name value).cache[other]? =
      if name = other then some value else state.cache[other]? := by
  simp [State.store, Std.HashMap.getElem?_insert]

theorem State.inProgress_leave (h : next.inProgress = (state.enter name).inProgress) :
    (next.leave name).inProgress = state.inProgress := by
  simp [State.leave, h, State.enter]

theorem grows_evolution (scope : Scope) : NestedEvolution scope State.Grows where
  refl state := ⟨rfl, id, fun _ => rfl⟩
  trans first second :=
    { inProgress := second.inProgress.trans first.inProgress
      kept := fun h => second.kept (first.kept h)
      reserved := fun h =>
        (second.reserved (first.inProgress.symm ▸ h)).trans (first.reserved h) }
  draw state stream := ⟨rfl, id, fun _ => rfl⟩
  failed hfree h :=
    { inProgress := State.inProgress_leave h.inProgress
      kept := h.kept
      reserved := fun hmem => h.reserved (List.mem_cons_of_mem _ hmem) }
  stored {depth name state next e value} hcache hfind hfree hrun h := by
    -- Storing writes one entry, which was free before and is not one of the names in progress.
    have hother : ∀ {other}, name ≠ other →
        ((next.leave name).store name value).cache[other]? = next.cache[other]? := by
      intro other hne
      rw [State.cache_store, if_neg hne]
      rfl
    constructor
    · exact State.inProgress_leave h.inProgress
    · intro other kept hkept
      have hne : name ≠ other := by
        rintro rfl
        simp [hcache] at hkept
      rw [hother hne]
      exact h.kept hkept
    · intro other hmem
      have hne : name ≠ other := by
        rintro rfl
        exact hfree hmem
      rw [hother hne]
      exact h.reserved (List.mem_cons_of_mem _ hmem)

theorem shaped_evolution (scope : Scope) :
    NestedEvolution scope fun state next => state.Shaped scope → next.Shaped scope where
  refl _ := id
  trans first second := second ∘ first
  draw _ _ := id
  failed _ h := h
  stored {depth name state next e value} hcache hfind hfree hrun h := by
    intro hstate other found hfound
    rw [State.cache_store] at hfound
    split at hfound
    · next heq =>
      obtain rfl := Option.some.inj hfound
      exact ⟨e, heq ▸ hfind, hasShape_of_compute hrun⟩
    · exact h hstate other found hfound

/-- The entry that a name is about to get is free until its own evaluation ends. -/
theorem cache_compute_of_inProgress (scope : Scope) (depth : Nat) (e : Expr)
    (hcache : state.cache[name]? = none) :
    (compute scope (namesWithin scope depth) e (state.enter name)).2.cache[name]? = none := by
  have hgrows := (consults_compute scope e).along (grows_evolution scope).toEvolution
    ((grows_evolution scope).along depth) (state.enter name)
  rw [hgrows.reserved List.mem_cons_self]
  exact hcache

theorem resolveValue_of_cached {value : Value} (hcache : state.cache[name]? = some value) :
    resolveValue scope names name state = (.ok value.render, state) := by
  rw [resolveValue, Evaluator.bind_of_ok (get_apply state), hcache]
  rfl

/-- The names in progress are the same after a call as before it: none, between the calls of a
sequence. -/
theorem inProgress_stateAfter (scope : Scope) (seed : UInt64) (calls : List Call) :
    (scope.stateAfter seed calls).inProgress = [] :=
  ((grows_evolution scope).along_transcript calls (.ofSeed seed)).inProgress

end

end QueryVariants.Evaluation
