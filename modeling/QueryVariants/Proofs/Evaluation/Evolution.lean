import QueryVariants.Proofs.Evaluation.Lookup

/-!
# Relations that hold across evaluations

A relation between states that holds across a draw, and that entering and leaving a name carries from
the inner evaluation to the outer one, holds across every evaluation: at every depth of nesting, and
whether it succeeds or fails. Each property of what an evaluation does to its state is an instance.
-/

namespace QueryVariants.Evaluation

open Macro

/-- A relation between the states before and after a computation that no draw can break. -/
structure Evolution (R : State → State → Prop) : Prop where
  refl : ∀ state, R state state
  trans : ∀ {state next final}, R state next → R next final → R state final
  draw : ∀ state stream, R state { state with stream := stream }

/-- A relation between states that an inner evaluation hands on to the evaluation of the name around
it. -/
structure NestedEvolution (scope : Scope) (R : State → State → Prop) : Prop extends Evolution R where
  failed : ∀ {name state next}, name ∉ state.inProgress → R (state.enter name) next →
    R state (next.leave name)
  stored : ∀ {depth name state next e value}, state.cache[name]? = none →
    scope.substitutions.find? name = some e → name ∉ state.inProgress →
    compute scope (namesWithin scope depth) e (state.enter name) = (.ok value, next) →
    R (state.enter name) next → R state ((next.leave name).store name value)

/-- Requests to `names` move along a relation between states. -/
structure Names.Along (names : Names) (R : State → State → Prop) : Prop where
  value : ∀ name state, R state (names.value name state).2
  item : ∀ name index state, R state (names.item name index state).2

section

variable {R : State → State → Prop} {scope : Scope} {names : Names}

theorem Consults.along {own : Error → Prop} {may must : List String} {α : Type}
    {m : Names → Evaluator α} (hm : Consults own may must m) (hR : Evolution R) (hnames : names.Along R)
    (state : State) : R state (m names state).2 := by
  induction hm generalizing state with
  | ofExcept result _ _ => exact hR.refl state
  | onStream f _ => exact hR.draw state _
  | @bind _ _ first rest _ _ _ _ ihfirst ihrest =>
      change R state ((first names >>= fun value => rest value names) state).2
      have hfirst := ihfirst state
      rcases hrun : first names state with ⟨error | value, next⟩
      · rw [Evaluator.bind_of_error hrun]
        rwa [hrun] at hfirst
      · rw [Evaluator.bind_of_ok hrun]
        rw [hrun] at hfirst
        exact hR.trans hfirst (ihrest value next)
  | value _ => exact hnames.value _ state
  | item index _ => exact hnames.item _ index state
  | weaken _ _ ih => exact ih state

/-- An error that a computation does not raise itself comes from a request for one of its names. -/
theorem Consults.exists_request {own : Error → Prop} {may must : List String} {α : Type}
    {m : Names → Evaluator α} (hm : Consults own may must m) (hR : Evolution R) (hnames : names.Along R)
    {state : State} {e : Error} (h : (m names state).1 = .error e) (hown : ¬own e) :
    ∃ name ∈ may, ∃ next, R state next ∧ ((names.value name next).1 = .error e ∨
      ∃ index, (names.item name index next).1 = .error e) := by
  induction hm generalizing state with
  | ofExcept result hresult _ => exact absurd (hresult e h) hown
  | onStream f hf => exact absurd (hf state.stream e h) hown
  | @bind _ _ first rest _ _ hfirst _ ihfirst ihrest =>
      change ((first names >>= fun value => rest value names) state).1 = .error e at h
      have hmove := hfirst.along hR hnames state
      rcases hrun : first names state with ⟨error | value, next⟩
      · rw [Evaluator.bind_of_error hrun] at h
        exact ihfirst (by rw [hrun]; exact congrArg Except.error (Except.error.inj h))
      · rw [Evaluator.bind_of_ok hrun] at h
        rw [hrun] at hmove
        obtain ⟨name, hname, asked, hasked, hfail⟩ := ihrest value h
        exact ⟨name, hname, asked, hR.trans hmove hasked, hfail⟩
  | value hname => exact ⟨_, hname, state, hR.refl state, .inl h⟩
  | item index hname => exact ⟨_, hname, state, hR.refl state, .inr ⟨index, h⟩⟩
  | weaken _ _ ih => exact ih h

/-- A computation cannot tell apart two ways to get names that agree on the names it asks for. -/
theorem Consults.eq_of_agree {own : Error → Prop} {may must : List String} {α : Type}
    {m : Names → Evaluator α} (hm : Consults own may must m) {other : Names} (hR : Evolution R)
    (hnames : names.Along R) {state : State}
    (hvalue : ∀ name ∈ may, ∀ next, R state next →
      names.value name next = other.value name next)
    (hitem : ∀ name ∈ may, ∀ index next, R state next →
      names.item name index next = other.item name index next) :
    m names state = m other state := by
  induction hm generalizing state with
  | ofExcept result _ _ => rfl
  | onStream f _ => rfl
  | @bind _ _ first rest _ _ hfirst _ ihfirst ihrest =>
      change (first names >>= fun value => rest value names) state =
        (first other >>= fun value => rest value other) state
      have hsame := ihfirst hvalue hitem
      have hmove := hfirst.along hR hnames state
      rcases hrun : first names state with ⟨error | value, next⟩
      · rw [Evaluator.bind_of_error hrun, Evaluator.bind_of_error (hsame ▸ hrun)]
      · rw [Evaluator.bind_of_ok hrun, Evaluator.bind_of_ok (hsame ▸ hrun)]
        rw [hrun] at hmove
        exact ihrest value
          (fun name hname asked hasked => hvalue name hname asked (hR.trans hmove hasked))
          (fun name hname index asked hasked =>
            hitem name hname index asked (hR.trans hmove hasked))
  | value hname => exact hvalue _ hname state (hR.refl state)
  | item index hname => exact hitem _ hname index state (hR.refl state)
  | weaken _ _ ih => exact ih hvalue hitem

theorem NestedEvolution.of_lookup (hR : NestedEvolution scope R) {depth : Nat}
    (hnames : (namesWithin scope depth).Along R) {name : String} {state next : State}
    {result : Except Error Value}
    (h : Lookup scope (namesWithin scope depth) name state result next) : R state next := by
  cases h with
  | cached _ | unknown _ _ | cycle _ _ _ => exact hR.refl state
  | @failed e _ _ hcache hfind hfree hrun =>
      have hmove := (consults_compute scope e).along hR.toEvolution hnames (state.enter name)
      rw [hrun] at hmove
      exact hR.failed hfree hmove
  | @stored e _ _ hcache hfind hfree hrun =>
      have hmove := (consults_compute scope e).along hR.toEvolution hnames (state.enter name)
      rw [hrun] at hmove
      exact hR.stored hcache hfind hfree hrun hmove

/-- Requests move along such a relation at every depth of nesting. -/
theorem NestedEvolution.along (hR : NestedEvolution scope R) (depth : Nat) :
    (namesWithin scope depth).Along R := by
  induction depth with
  | zero => exact ⟨fun _ => hR.refl, fun _ _ => hR.refl⟩
  | succ depth ih =>
      constructor
      · intro name state
        change R state (resolveValue scope (namesWithin scope depth) name state).2
        obtain ⟨result, next, hlookup, heq⟩ :=
          exists_lookup_of_resolveValue scope (namesWithin scope depth) name state
        rw [heq]
        exact hR.of_lookup ih hlookup
      · intro name index state
        change R state (resolveItem scope (namesWithin scope depth) name index state).2
        obtain ⟨result, next, hlookup, heq⟩ | ⟨-, -, heq⟩ :=
          exists_lookup_of_resolveItem scope (namesWithin scope depth) name index state
        · rw [heq]
          exact hR.of_lookup ih hlookup
        · rw [heq]
          exact hR.refl state

end

end QueryVariants.Evaluation
