import QueryVariants.Proofs.Evaluation.Cache

/-!
# Expressions that have one value

An expression that draws nothing and asks for no name has one value as far as the relations that it counts have
one size. So what it comes to by itself, where every request for a name fails, it comes to in every scope that
agrees on these sizes, in every state, and the state stays as it is. A name that stands for such an expression
resolves to its value at any moment of an expansion: the value that is stored is no other.
-/

namespace QueryVariants

open Macro

/-- Whether the value of an expression is drawn, whatever the values of its operands are. -/
def Macro.Expr.draws : Expr → Bool
  | random _ _ | date _ _ _ | draw _ _ _ | choice _ => true
  | _ => false

namespace Evaluation

/-! ### Computations that are known beforehand -/

/-- What the first computation yields in a state the second yields in every state, and neither changes its
state. -/
def Foretells {α : Type} (first : Evaluator α) (state : State) (second : Evaluator α) : Prop :=
  ∀ value next, first state = (.ok value, next) → next = state ∧ ∀ other, second other = (.ok value, other)

namespace Foretells

section

variable {α β : Type} {state : State} {first second : Evaluator α} {f g : α → Evaluator β}

theorem of_error {error : Error} (h : (first state).1 = .error error) : Foretells first state second := by
  intro value next hrun
  rw [hrun] at h
  cases h

theorem ofExcept {result other : Except Error α} (h : ∀ value, result = .ok value → other = .ok value) :
    Foretells (Evaluator.ofExcept result) state (Evaluator.ofExcept other) := by
  intro value next hrun
  obtain ⟨hvalue, rfl⟩ := Prod.mk.inj hrun
  exact ⟨rfl, fun s => Prod.ext (h value hvalue) rfl⟩

theorem check (result : Except Error α) :
    Foretells (Evaluator.ofExcept result) state (Evaluator.ofExcept result) :=
  ofExcept fun _ => id

theorem pure (value : α) : Foretells (Pure.pure value) state (Pure.pure value) :=
  check (.ok value)

theorem bind (hfirst : Foretells first state second) (hrest : ∀ value, Foretells (f value) state (g value)) :
    Foretells (first >>= f) state (second >>= g) := by
  intro value final hrun
  obtain ⟨middle, next, hmiddle, hvalue⟩ := Evaluator.exists_of_bind_ok hrun
  obtain ⟨rfl, hsecond⟩ := hfirst middle next hmiddle
  obtain ⟨rfl, hlast⟩ := hrest middle value final hvalue
  exact ⟨rfl, fun other => (Evaluator.bind_of_ok (hsecond other)).trans (hlast other)⟩

theorem ite {c : Prop} [Decidable c] {first' second' : Evaluator α} (hpos : Foretells first state second)
    (hneg : Foretells first' state second') :
    Foretells (if c then first else first') state (if c then second else second') := by
  by_cases hc : c
  · simpa only [if_pos hc] using hpos
  · simpa only [if_neg hc] using hneg

end

theorem collect {state : State} {draw other : Evaluator String} (h : Foretells draw state other)
    (missing budget : Nat) (seen : Std.HashSet String) (items : List String) :
    Foretells (collect draw missing budget seen items) state (collect other missing budget seen items) := by
  induction missing, budget, seen, items using collect.induct with
  | case1 budget seen items =>
      rw [Evaluation.collect, Evaluation.collect]
      exact .pure _
  | case2 budget seen items missing ihnew ihrepeated =>
      rw [Evaluation.collect, Evaluation.collect]
      refine .bind h fun value => .ite (ihnew value) ?_
      specialize ihrepeated value
      cases budget with
      | zero => exact ihrepeated
      | succ budget => exact ihrepeated

end Foretells

/-! ### Expressions -/

/-- A node draws nothing, and what it counts has the same size in another scope. -/
structure Steady (scope other : Scope) (node : Expr) : Prop where
  draws : node.draws = false
  rowCount : ∀ {relation count}, node = .rowCount relation → scope.rowCount relation = .ok count →
    other.rowCount relation = .ok count

section

variable {scope other : Scope} {names names' : Names} {state : State} {e : Expr}

/-- An evaluation without names and draws is known beforehand. -/
theorem foretells_evaluate (hvalue : ∀ name, ∃ error, (names.value name state).1 = .error error)
    (hitem : ∀ name index, ∃ error, (names.item name index state).1 = .error error)
    (h : ∀ node ∈ e.nodes, Steady scope other node) :
    Foretells (evaluate scope names e) state (evaluate other names' e) := by
  induction e with
  | text value => exact .pure value
  | rowCount relation =>
      exact .bind (.ofExcept fun count => (h _ List.mem_cons_self).rowCount rfl) fun count => .pure _
  | format inner value ih =>
      exact .bind (ih fun node hnode => h node (List.mem_cons_of_mem _ hnode)) fun input => .pure _
  | list inner count ih =>
      exact .bind (.collect (ih fun node hnode => h node (List.mem_cons_of_mem _ hnode)) _ _ _ _) fun items =>
        .pure _
  | divide inner divisor ih =>
      refine .bind (ih fun node hnode => h node (List.mem_cons_of_mem _ hnode)) fun value => ?_
      exact .bind (.check _) fun dividend => .pure _
  | member index table field ih =>
      refine .bind (ih fun node hnode => h node (List.mem_cons_of_mem _ hnode)) fun value => ?_
      exact .bind (.check _) fun row => .ite (.check (.error _)) (.check _)
  | append left right ihleft ihright =>
      obtain ⟨hleft, hright⟩ := List.forall_mem_append.1 (List.forall_mem_cons.1 h).2
      exact .bind (ihleft hleft) fun leftValue => .bind (ihright hright) fun rightValue => .pure _
  | reference name =>
      obtain ⟨error, herror⟩ := hvalue name
      exact .of_error herror
  | item name index =>
      obtain ⟨error, herror⟩ := hitem name index
      exact .of_error herror
  | random | date | draw | choice => cases (h _ List.mem_cons_self).draws

end

/-! ### Evaluation by itself -/

/-- The scope of an expression by itself. -/
def Scope.alone : Scope :=
  ⟨∅, .empty, .scaleOne⟩

/-- No name has a value. -/
def State.Fresh (state : State) : Prop :=
  ∀ name : String, state.cache[name]? = none

theorem fresh_ofSeed (seed : UInt64) : (State.ofSeed seed).Fresh := by
  intro name
  simp [State.ofSeed]

section

variable {scope : Scope} {state : State} {e : Expr}

/-- Every request fails, and leaves the state as it is. -/
theorem resolve_alone (hfresh : state.Fresh) (name : String) :
    Scope.alone.resolve name state = (.error (.unknownSubstitution name), state) ∧
      ∀ index, Scope.alone.resolveItem name index state = (.error (.unknownSubstitution name), state) := by
  have hfind : Scope.alone.substitutions.find? name = none := rfl
  constructor
  · exact resolveValue_of_lookup (.unknown (hfresh name) hfind)
  · intro index
    change Evaluation.resolveItem Scope.alone _ name index state = _
    rw [Evaluation.resolveItem, Evaluator.bind_of_ok (get_apply state), hfresh name]
    exact Evaluator.bind_of_error (substitution_of_none hfind)

/-- By itself an expression counts with scale factor one, and no table stands in for a relation. -/
theorem find?_scaleOne_of_rowCount {relation : String} {count : Nat}
    (h : Scope.alone.rowCount relation = .ok count) : RowCounts.scaleOne.find? relation = some count := by
  unfold Scope.rowCount at h
  split at h
  · rename_i hfind
    rw [← Except.ok.inj h]
    exact hfind
  · split at h
    · rename_i htable
      cases htable
    · cases h

/-- The value that an expression has by itself is its value in every scope where it is steady. -/
theorem evaluate_of_evaluateConstant {text : String} (hconstant : evaluateConstant e = .ok text)
    (h : ∀ node ∈ e.nodes, Steady .alone scope node) (names : Names) (state : State) :
    evaluate scope names e state = (.ok text, state) := by
  have hfails := resolve_alone (fresh_ofSeed 0)
  have hforetells : Foretells (Scope.alone.evaluate e) (.ofSeed 0) (evaluate scope names e) :=
    foretells_evaluate (fun name => ⟨_, congrArg Prod.fst (hfails name).1⟩)
      (fun name index => ⟨_, congrArg Prod.fst ((hfails name).2 index)⟩) h
  exact (hforetells text _ (Prod.ext hconstant rfl)).2 state

/-- An expression by itself fails for what it is made of, or because it asks for a name. -/
theorem error_of_evaluateConstant {error : Error} (h : evaluateConstant e = .error error) :
    error.aboutMacro = true ∨ ∃ name, error = .unknownSubstitution name := by
  by_cases hmacro : error.aboutMacro = true
  · exact .inl hmacro
  right
  have hevolution : Evolution fun state next => state.Fresh → next.Fresh :=
    ⟨fun _ => id, fun hfirst hsecond => hsecond ∘ hfirst, fun _ _ => id⟩
  have hnames : Scope.alone.names.Along fun state next => state.Fresh → next.Fresh := by
    constructor
    · intro name state hfresh
      change (Scope.alone.resolve name state).2.Fresh
      rwa [(resolve_alone hfresh name).1]
    · intro name index state hfresh
      change (Scope.alone.resolveItem name index state).2.Fresh
      rwa [(resolve_alone hfresh name).2 index]
  obtain ⟨name, -, next, hnext, hrequest⟩ :=
    (consults_evaluate_of fun _ _ _ => aboutMacro_of_raises).exists_request hevolution hnames h hmacro
  have hfails := resolve_alone (hnext (fresh_ofSeed 0)) name
  rcases hrequest with hrequest | ⟨index, hrequest⟩
  · exact ⟨name, Except.error.inj (hrequest.symm.trans (congrArg Prod.fst hfails.1))⟩
  · exact ⟨name, Except.error.inj (hrequest.symm.trans (congrArg Prod.fst (hfails.2 index)))⟩

end

/-! ### Names -/

/-- If a name has a value, the value shows the text. -/
def State.Shows (state : State) (name text : String) : Prop :=
  ∀ value, state.cache[name]? = some value → value.render = text

section

variable {scope : Scope} {name text : String} {e : Expr}

/-- The value that a name gets shows the text of its expression. -/
theorem exists_compute_of_evaluate {names : Names} {state next : State}
    (h : evaluate scope names e state = (.ok text, next)) :
    ∃ value, compute scope names e state = (.ok value, next) ∧ value.render = text := by
  cases e with
  | list inner count =>
      obtain ⟨items, middle, hitems, hvalue⟩ := Evaluator.exists_of_bind_ok h
      obtain ⟨htext, rfl⟩ := Prod.mk.inj hvalue
      exact ⟨.list items, Evaluator.bind_of_ok hitems, Except.ok.inj htext⟩
  | _ => exact ⟨.scalar text, Evaluator.bind_of_ok h, rfl⟩

theorem shows_evolution (hfind : scope.substitutions.find? name = some e)
    (h : ∀ names state, evaluate scope names e state = (.ok text, state)) :
    NestedEvolution scope fun state next => state.Shows name text → next.Shows name text where
  refl _ := id
  trans first second := second ∘ first
  draw _ _ := id
  failed _ h := h
  stored {depth other state next e' value} hcache hother hfree hrun hnext := by
    intro hstate found hfound
    rw [State.cache_store] at hfound
    split at hfound
    · rename_i heq
      subst heq
      obtain rfl : e = e' := Option.some.inj (hfind.symm.trans hother)
      obtain ⟨expected, hexpected, hrender⟩ := exists_compute_of_evaluate
        (h (namesWithin scope depth) (state.enter other))
      obtain rfl : expected = value := Except.ok.inj (Prod.mk.inj (hexpected.symm.trans hrun)).1
      rwa [← Option.some.inj hfound]
    · exact hnext hstate found hfound

/-- A name whose expression has one value resolves to it after any calls. -/
theorem resolve_of_evaluate (hfind : scope.substitutions.find? name = some e)
    (h : ∀ names state, evaluate scope names e state = (.ok text, state)) (seed : UInt64)
    (calls : List Call) : (scope.resolve name (scope.stateAfter seed calls)).1 = .ok text := by
  have hshows : (scope.stateAfter seed calls).Shows name text := by
    refine (shows_evolution hfind h).along_transcript calls (.ofSeed seed) ?_
    intro value hvalue
    simp [State.ofSeed] at hvalue
  change (resolveValue scope _ name _).1 = _
  rcases hcache : (scope.stateAfter seed calls).cache[name]? with _ | value
  · have hfree : name ∉ (scope.stateAfter seed calls).inProgress := by
      rw [inProgress_stateAfter]
      exact List.not_mem_nil
    obtain ⟨value, hvalue, hrender⟩ := exists_compute_of_evaluate
      (h (namesWithin scope scope.substitutions.size) ((scope.stateAfter seed calls).enter name))
    rw [resolveValue_of_lookup (.stored hcache hfind hfree hvalue), ← hrender]
    rfl
  · rw [resolveValue_of_cached hcache, ← hshows value hcache]

end

end Evaluation

end QueryVariants
