import QueryVariants.Proofs.Distribution.Drawing
import QueryVariants.Proofs.Evaluation.Cache
import QueryVariants.Proofs.Macro.Sound

/-!
# The errors of an evaluation

What the reader has checked cannot fail when it is evaluated. A sound node raises only errors that depend on
values: a text that is no number or no date, an empty range, a row that does not exist, weights that are all
zero, an unknown relation. What is left are the errors of requests for names. A request for an item cannot
fail by itself either, as long as items are asked for only of lists that are long enough: the cache keeps a
list of the right length under the name of a list. The induction is on the depth of nesting.
-/

namespace QueryVariants

open Macro

/-- The errors that an evaluation may end with although its template was read. -/
def Error.expected : Error → Bool
  | unknownSubstitution _ | cyclicReference _ | unknownRelation _ | invalidNumber _ _ | invalidDate _
  | emptyRange _ _ | rowOutOfRange _ _ _ | emptyWeights _ _ => true
  | _ => false

namespace Evaluation

/-! ### Nodes -/

theorem expected_of_readInteger {place value : String} {error : Error}
    (h : readInteger place value = .error error) : error.expected = true := by
  unfold readInteger at h
  split at h
  · cases h
  · obtain rfl := Except.error.inj h
    rfl

theorem expected_of_readDate {value : String} {error : Error} (h : readDate value = .error error) :
    error.expected = true := by
  unfold readDate at h
  split at h
  · cases h
  · obtain rfl := Except.error.inj h
    rfl

theorem expected_of_rowCount {scope : Scope} {relation : String} {error : Error}
    (h : scope.rowCount relation = .error error) : error.expected = true := by
  unfold Scope.rowCount at h
  split at h
  · cases h
  · split at h
    · cases h
    · obtain rfl := Except.error.inj h
      rfl

/-- A sound node raises none of the errors that the reader is there to prevent. -/
theorem expected_of_raises {scope : Scope} {node : Expr} {error : Error} (hsound : node.Sound)
    (h : Raises scope node error) : error.expected = true := by
  cases node with
  | rowCount relation => exact expected_of_rowCount h
  | random start stop =>
      rcases h with ⟨place, value, h⟩ | ⟨start, stop, rfl⟩
      · exact expected_of_readInteger h
      · rfl
  | date first last kind =>
      rcases h with ⟨value, h⟩ | ⟨start, stop, rfl⟩
      · exact expected_of_readDate h
      · rfl
  | divide inner divisor =>
      obtain ⟨place, value, h⟩ := h
      exact expected_of_readInteger h
  | member index table field =>
      rcases h with ⟨place, value, h⟩ | ⟨row, rfl⟩ | ⟨row, hrow, h⟩
      · exact expected_of_readInteger h
      · rfl
      · obtain ⟨value, hvalue⟩ := Table.exists_cell hsound.1 hsound.2 hrow
        rw [hvalue] at h
        cases h
  | draw table field column =>
      obtain ⟨stream, h⟩ := h
      obtain rfl := Table.eq_emptyWeights_of_drawValue hsound.1 hsound.2.1 hsound.2.2 h
      rfl
  | choice options =>
      -- The reader refuses both totals.
      obtain ⟨hpos, hlt⟩ := hsound
      rcases h with ⟨htotal, -⟩ | ⟨htotal, -⟩ <;> omega
  | _ => cases h

/-- A choice that was read always has a value. -/
theorem exists_evaluate_choice {options : List (String × Nat)} (hsound : (Expr.choice options).Sound)
    (scope : Scope) (names : Names) (state : State) :
    ∃ text next, evaluate scope names (.choice options) state = (.ok text, next) := by
  obtain ⟨hpos, hlt⟩ := hsound
  rw [evaluate, if_neg (Nat.not_le_of_lt hlt), if_neg (Nat.ne_of_gt hpos)]
  exact ⟨_, _, rfl⟩

/-! ### Requests -/

/-- What a name may stand for: an expression that was read, or an item of a list that is long enough. -/
inductive Scope.Admits (scope : Scope) : Expr → Prop
  | read {e : Expr} (hsound : ∀ node ∈ e.nodes, node.Sound) : scope.Admits e
  | item {list : String} {index count : Nat} {inner : Expr}
    (hlist : scope.substitutions.find? list = some (.list inner count)) (hindex : index < count) :
    scope.Admits (.item list index)

def Scope.WellMade (scope : Scope) : Prop :=
  ∀ name e, scope.substitutions.find? name = some e → scope.Admits e

section

variable {scope : Scope} {names : Names} {name : String} {state next : State} {e : Expr} {error : Error}

/-- Names that get their values in one way, and of which no item is asked for. -/
def Names.withoutItems (names : Names) : Names :=
  ⟨names.value, fun _ _ => pure ""⟩

/-- A sound expression asks for no items. -/
theorem evaluate_withoutItems (hsound : ∀ node ∈ e.nodes, node.Sound) :
    evaluate scope names e = evaluate scope names.withoutItems e := by
  induction e with
  | format inner value ih | list inner count ih | divide inner divisor ih | member inner table field ih =>
      simp only [evaluate, ih (List.forall_mem_cons.1 hsound).2]
  | random first second ihfirst ihsecond | date first second kind ihfirst ihsecond
  | append first second ihfirst ihsecond =>
      obtain ⟨hfirst, hsecond⟩ := List.forall_mem_append.1 (List.forall_mem_cons.1 hsound).2
      simp only [evaluate, ihfirst hfirst, ihsecond hsecond]
  | item name index => exact (hsound _ List.mem_cons_self).elim
  | text | rowCount | draw | reference | choice => simp only [evaluate, Names.withoutItems]

theorem compute_withoutItems (hsound : ∀ node ∈ e.nodes, node.Sound) :
    compute scope names e = compute scope names.withoutItems e := by
  cases e with
  | list inner count =>
      simp only [compute]
      rw [evaluate_withoutItems (List.forall_mem_cons.1 hsound).2]
  | _ =>
      simp only [compute]
      rw [evaluate_withoutItems hsound]

/-- The names of a scope answer requests with expected errors only. -/
structure Names.Expected (scope : Scope) (names : Names) : Prop where
  along : names.Along fun state next => state.Shaped scope → next.Shaped scope
  value : ∀ {name state error}, state.Shaped scope → (names.value name state).1 = .error error →
    error.expected = true
  item : ∀ {name index inner count state error}, state.Shaped scope →
    scope.substitutions.find? name = some (.list inner count) → index < count →
    (names.item name index state).1 = .error error → error.expected = true

/-- Computing the value of a name raises expected errors only. -/
theorem expected_of_compute (hnames : names.Expected scope) (hstate : state.Shaped scope)
    (he : scope.Admits e) (h : (compute scope names e state).1 = .error error) :
    error.expected = true := by
  cases he with
  | read hsound =>
      by_contra hunexpected
      rw [compute_withoutItems hsound] at h
      have halong : names.withoutItems.Along fun state next => state.Shaped scope → next.Shaped scope :=
        ⟨hnames.along.value, fun _ _ _ => id⟩
      have hraises : ∀ node ∈ e.nodes, ∀ error, Raises scope node error → error.expected = true :=
        fun node hnode _ => expected_of_raises (hsound node hnode)
      obtain ⟨asked, -, reached, hreached, hfail⟩ := (consults_compute_of hraises).exists_request
        (shaped_evolution scope).toEvolution halong h hunexpected
      rcases hfail with hfail | ⟨index, hfail⟩
      · exact hunexpected (hnames.value (hreached hstate) hfail)
      · cases hfail
  | @item list index count inner hlist hindex =>
      simp only [compute, evaluate] at h
      rcases hitem : names.item list index state with ⟨failure | text, next⟩
      · rw [Evaluator.bind_of_error hitem] at h
        obtain rfl := Except.error.inj h
        exact hnames.item hstate hlist hindex (congrArg Prod.fst hitem)
      · rw [Evaluator.bind_of_ok hitem] at h
        cases h

theorem expected_of_lookup (hscope : scope.WellMade) (hnames : names.Expected scope)
    (hstate : state.Shaped scope) (h : Lookup scope names name state (.error error) next) :
    error.expected = true := by
  cases h with
  | unknown | cycle => rfl
  | @failed e _ final hcache hfind hfree hrun =>
      have hentered : (state.enter name).Shaped scope := hstate
      exact expected_of_compute hnames hentered (hscope name e hfind) (congrArg Prod.fst hrun)

/-- An item of a value of the right shape can be read. -/
theorem exists_readItem (name : String) {value : Value} {inner : Expr} {count index : Nat}
    (h : value.HasShape (.list inner count)) (hindex : index < count) :
    ∃ text, readItem name index value = .ok text := by
  obtain ⟨items, rfl, rfl⟩ := h
  rw [readItem, List.getElem?_eq_getElem hindex]
  exact ⟨_, rfl⟩

end

/-- Requests for names end with expected errors only, at every depth of nesting. -/
theorem expected_namesWithin {scope : Scope} (hscope : scope.WellMade) (depth : Nat) :
    (namesWithin scope depth).Expected scope := by
  induction depth with
  | zero =>
      refine ⟨(shaped_evolution scope).along 0, ?_, ?_⟩
      · intro name state error _ h
        obtain rfl := Except.error.inj h
        rfl
      · intro name index inner count state error _ _ _ h
        obtain rfl := Except.error.inj h
        rfl
  | succ depth ih =>
      refine ⟨(shaped_evolution scope).along (depth + 1), ?_, ?_⟩
      · intro name state error hstate h
        change (resolveValue scope (namesWithin scope depth) name state).1 = .error error at h
        obtain ⟨result, next, hlookup, heq⟩ :=
          exists_lookup_of_resolveValue scope (namesWithin scope depth) name state
        rw [heq] at h
        rcases result with failure | value
        · obtain rfl := Except.error.inj h
          exact expected_of_lookup hscope ih hstate hlookup
        · cases h
      · intro name index inner count state error hstate hlist hindex h
        change (resolveItem scope (namesWithin scope depth) name index state).1 = .error error at h
        obtain ⟨result, next, hlookup, heq⟩ | ⟨-, ⟨e, hfind, hnotList⟩, -⟩ :=
          exists_lookup_of_resolveItem scope (namesWithin scope depth) name index state
        · rw [heq] at h
          rcases result with failure | value
          · obtain rfl := Except.error.inj h
            exact expected_of_lookup hscope ih hstate hlookup
          · -- The value is in the cache now, and there it has the shape of the list.
            have hnext : next.Shaped scope :=
              (shaped_evolution scope).of_lookup ((shaped_evolution scope).along depth) hlookup hstate
            obtain ⟨e, hfind, hshape⟩ := hnext name value hlookup.cache_of_ok
            obtain rfl : .list inner count = e := Option.some.inj (hlist.symm.trans hfind)
            obtain ⟨text, htext⟩ := exists_readItem name hshape hindex
            rw [Except.bind, htext] at h
            cases h
        · exact absurd (Option.some.inj (hfind.symm.trans hlist)) (hnotList inner count)

theorem shaped_ofSeed (scope : Scope) (seed : UInt64) : (State.ofSeed seed).Shaped scope := by
  intro name value h
  simp [State.ofSeed] at h

end Evaluation

end QueryVariants
