import QueryVariants.Proofs.Evaluation.Cycles

/-!
# Scopes that agree on some names

An evaluation sees the substitutions of its scope only through the names it asks for. If two scopes agree
on a set of names that is closed under references, then a request for one of these names does the same in
both: it draws the same numbers, leaves the same cache, and succeeds or fails alike. The induction is on
the depth of nesting, and since the sizes of the scopes may differ, a depth that suffices for both is
compared.
-/

namespace QueryVariants.Evaluation

open Macro

/-- Two scopes agree on the names that are kept, and these refer only to each other. -/
structure Scope.AgreeOn (keep : String → Bool) (scope other : Scope) : Prop where
  registry : scope.registry = other.registry
  rowCounts : scope.rowCounts = other.rowCounts
  find? : ∀ {name}, keep name = true →
    scope.substitutions.find? name = other.substitutions.find? name
  closed : ∀ {name e}, keep name = true → scope.substitutions.find? name = some e →
    ∀ used ∈ e.references, keep used = true

section

variable {scope other : Scope} (hregistry : scope.registry = other.registry)
  (hrowCounts : scope.rowCounts = other.rowCounts)

include hregistry hrowCounts

theorem rowCount_congr (relation : String) : scope.rowCount relation = other.rowCount relation := by
  unfold Scope.rowCount
  rw [hregistry, hrowCounts]

/-- The substitutions of the scope are seen through the names alone. -/
theorem evaluate_congr (names : Names) (e : Expr) : evaluate scope names e = evaluate other names e := by
  induction e with
  | rowCount relation => simp only [evaluate, rowCount_congr hregistry hrowCounts]
  | format _ _ ih | list _ _ ih | divide _ _ ih | member _ _ _ ih => simp only [evaluate, ih]
  | random _ _ ihfirst ihsecond | date _ _ _ ihfirst ihsecond | append _ _ ihfirst ihsecond =>
      simp only [evaluate, ihfirst, ihsecond]
  | text | draw | reference | item | choice => simp only [evaluate]

theorem compute_congr (names : Names) (e : Expr) : compute scope names e = compute other names e := by
  cases e with
  | list inner count => simp only [compute, evaluate_congr hregistry hrowCounts]
  | _ => simp only [compute, evaluate_congr hregistry hrowCounts]

section

variable {name : String} (hfind : scope.substitutions.find? name = other.substitutions.find? name)

include hfind

theorem resolveValue_congr_scope (names : Names) :
    resolveValue scope names name = resolveValue other names name := by
  unfold resolveValue computeAndStore Scope.substitution
  rw [hfind]
  simp only [compute_congr hregistry hrowCounts]

theorem resolveItem_congr_scope (names : Names) (index : Nat) :
    resolveItem scope names name index = resolveItem other names name index := by
  unfold resolveItem computeAndStore Scope.substitution
  rw [hfind]
  simp only [compute_congr hregistry hrowCounts]

end

end

section

variable {keep : String → Bool} {scope other : Scope} {name : String}

/-- No draw and no request breaks the relation between all states. -/
theorem evolution_true : Evolution fun _ _ => True :=
  ⟨fun _ => trivial, fun _ _ => trivial, fun _ _ => trivial⟩

/-- At every depth, a name that is kept gets its value and its items in the same way. -/
theorem namesWithin_eq_of_agreeOn (h : scope.AgreeOn keep other) (depth : Nat) (hname : keep name = true)
    (state : State) :
    (namesWithin scope depth).value name state = (namesWithin other depth).value name state ∧
      ∀ index, (namesWithin scope depth).item name index state =
        (namesWithin other depth).item name index state := by
  induction depth generalizing name state with
  | zero => exact ⟨rfl, fun _ => rfl⟩
  | succ depth ih =>
      have hfind := h.find? hname
      have hcompute : ∀ e, other.substitutions.find? name = some e → name ∉ state.inProgress →
          compute other (namesWithin scope depth) e (state.enter name) =
            compute other (namesWithin other depth) e (state.enter name) := by
        intro e he _
        have hclosed := h.closed hname (hfind.trans he)
        exact (consults_compute other e).eq_of_agree evolution_true
          ⟨fun _ _ => trivial, fun _ _ _ => trivial⟩
          (fun used hused next _ => (ih (hclosed used hused) next).1)
          (fun used hused index next _ => (ih (hclosed used hused) next).2 index)
      constructor
      · change resolveValue scope (namesWithin scope depth) name state =
          resolveValue other (namesWithin other depth) name state
        rw [resolveValue_congr_scope h.registry h.rowCounts hfind]
        exact resolveValue_congr hcompute
      · intro index
        change resolveItem scope (namesWithin scope depth) name index state =
          resolveItem other (namesWithin other depth) name index state
        rw [resolveItem_congr_scope h.registry h.rowCounts hfind]
        exact resolveItem_congr index hcompute

/-- A name that is kept resolves in the same way, as long as no name is in progress. -/
theorem resolve_eq_of_agreeOn (h : scope.AgreeOn keep other) (hname : keep name = true) {state : State}
    (hidle : state.inProgress = []) : scope.resolve name state = other.resolve name state := by
  have hscope : scope.substitutions.size <
      scope.substitutions.size + other.substitutions.size + 1 := by omega
  have hother : other.substitutions.size <
      scope.substitutions.size + other.substitutions.size + 1 := by omega
  calc
    scope.resolve name state =
        (namesWithin scope (scope.substitutions.size + other.substitutions.size + 1)).value name
          state :=
      (namesWithin_eq_of_room (room_of_inProgress_nil hidle (Nat.lt_succ_self _))
        (room_of_inProgress_nil hidle hscope) name).1
    _ = (namesWithin other (scope.substitutions.size + other.substitutions.size + 1)).value name
          state := (namesWithin_eq_of_agreeOn h _ hname state).1
    _ = other.resolve name state :=
      (namesWithin_eq_of_room (room_of_inProgress_nil hidle hother)
        (room_of_inProgress_nil hidle (Nat.lt_succ_self _)) name).1

end

/-- A request leaves no name in progress that was not in progress before. -/
theorem inProgress_resolve (scope : Scope) (name : String) (state : State) :
    (scope.resolve name state).2.inProgress = state.inProgress :=
  (((grows_evolution scope).along _).value name state).inProgress

end QueryVariants.Evaluation
