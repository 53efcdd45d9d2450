import QueryVariants.Proofs.Evaluation.Guarded
import QueryVariants.Proofs.OrderedMap

/-!
# How a call ends

A call comes to an end in one of two ways: it returns a value or an error, or it stops in the middle at a fault.
The evaluation with guards tells them apart, since only a fault depends on what faults are reported as. Nothing
else can happen, because the depth of nesting is never used up. What a call returns is the answer without guards,
so what is known of cyclic references holds of it.
-/

namespace QueryVariants.Evaluation

open Macro Relation

/-- The answer to a call, with guards. -/
def Guarded.answer (report : Fault → Error) (scope : Scope) : Call → Evaluator String
  | .value name => Guarded.resolve report scope name
  | .item name index => (Guarded.namesWithin report scope (scope.substitutions.size + 1)).item name index
  | .expression e => Guarded.evaluate report scope (Guarded.namesWithin report scope (scope.substitutions.size + 1)) e

namespace Scope

variable (scope : Scope)

/-- A call returns if its answer has nothing to do with the report of a fault. -/
def Returns (call : Call) (state : State) (result : Except Error String) (next : State) : Prop :=
  ∀ report, Guarded.answer report scope call state = (result, next)

/-- A call stops at a fault if it ends with the report of it, whatever that is. -/
def StopsAt (call : Call) (state : State) (fault : Fault) : Prop :=
  ∃ next, ∀ report, Guarded.answer report scope call state = (.error (report fault), next)

/-- The faults that a call can come to. -/
def CallRisks (fault : Fault) : Call → Prop
  | .value name | .item name _ => scope.Risks name fault
  | .expression e => Evaluation.Risks scope fault e ∨ ∃ name ∈ e.references, scope.Risks name fault

end Scope

section

variable {scope : Scope} {call : Call} {calls : List Call} {state next final : State}
  {result : Except Error String}

theorem Scope.Returns.not_stopsAt (h : scope.Returns call state result next) (fault : Fault) :
    ¬scope.StopsAt call state fault := by
  rintro ⟨last, hstop⟩
  have hresult : ∀ report : Fault → Error, result = .error (report fault) := fun report =>
    (Prod.mk.inj ((h report).symm.trans (hstop report))).1
  cases (hresult fun _ => .notAList "").symm.trans (hresult fun _ => .cacheShape "")

theorem follows_answer (scope : Scope) (call : Call) :
    Guarded.Follows [] (scope.CallRisks · call) id (fun report => Guarded.answer report scope call)
      (scope.answer call) := by
  have hnames : ∀ name, (∀ fault, scope.Risks name fault → scope.CallRisks fault call) →
      Guarded.FollowsName (State.ofSeed 0).inProgress (scope.CallRisks · call) id
        (fun report => Guarded.namesWithin report scope (scope.substitutions.size + 1)) scope.names name :=
    fun name => Guarded.follows_namesWithin fun _ => .inl rfl
  cases call with
  | value name => exact (hnames name fun _ => id).value
  | item name index => exact (hnames name fun _ => id).item index
  | expression e =>
      exact Guarded.follows_evaluate (fun _ => .inl) fun name hname =>
        hnames name fun fault h => .inr ⟨name, hname, h⟩

/-- A call that begins with no name in progress returns the answer without guards, or it stops at a fault that it
risks. -/
theorem returns_or_stopsAt (scope : Scope) (call : Call) (hstate : state.inProgress = []) :
    scope.Returns call state (scope.answer call state).1 (scope.answer call state).2 ∨
      ∃ fault, scope.CallRisks fault call ∧ scope.StopsAt call state fault := by
  rcases follows_answer scope call state hstate with ⟨fault, next, hrisks, hstop⟩ | ⟨hsame, -⟩
  · exact .inr ⟨fault, hrisks, next, hstop⟩
  · exact .inl hsame

theorem Scope.Returns.answer_eq (h : scope.Returns call state result next) (hstate : state.inProgress = []) :
    scope.answer call state = (result, next) := by
  rcases returns_or_stopsAt scope call hstate with hreturns | ⟨fault, -, hstop⟩
  · exact (hreturns fun _ => .notAList "").symm.trans (h _)
  · exact absurd hstop (h.not_stopsAt fault)

/-- Whether a call returns, and what, can be seen from two runs. -/
theorem outcome?_eq_some_iff (hstate : state.inProgress = []) :
    Guarded.outcome? (fun report => Guarded.answer report scope call) state = some (result, next) ↔
      scope.Returns call state result next := by
  unfold Guarded.outcome?
  beta_reduce
  rcases returns_or_stopsAt scope call hstate with hreturns | ⟨fault, -, hstop⟩
  · have hiff : scope.Returns call state result next ↔
        (scope.answer call state).1 = result ∧ (scope.answer call state).2 = next := by
      refine ⟨fun h => ?_, ?_⟩
      · exact ⟨congrArg Prod.fst (h.answer_eq hstate), congrArg Prod.snd (h.answer_eq hstate)⟩
      · rintro ⟨rfl, rfl⟩
        exact hreturns
    rw [hreturns, hreturns, hiff]
    rcases scope.answer call state with ⟨error | value, final⟩ <;> simp
  · have hnot : ¬scope.Returns call state result next := fun h => h.not_stopsAt fault hstop
    obtain ⟨last, hlast⟩ := hstop
    rw [hlast, hlast]
    simp [hnot]

end

end QueryVariants.Evaluation
