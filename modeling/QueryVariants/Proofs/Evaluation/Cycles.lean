import Mathlib.Logic.Relation
import QueryVariants.Proofs.Evaluation.Cache

/-!
# Cycles of references

A reference back to a name in progress is an error. That the error is exact rests on three invariants. The
names in progress are different names of the scope, so the depth of nesting that `Scope.names` allows is
never used up. From each of them a chain of references leads to the name asked for, so the error shows a
cycle. And every name in the cache is grounded, all names it refers to having been cached before it, so
a name from which a cycle can be reached never gets a value.
-/

namespace QueryVariants.Evaluation

open Macro Relation

/-- A name refers to another if the evaluation of its substitution asks for the other. -/
def Scope.Refers (scope : Scope) (name other : String) : Prop :=
  ∃ e, scope.substitutions.find? name = some e ∧ other ∈ e.references

section

variable {scope : Scope} {name other : String}

end

/-! ### Names with a value are grounded -/

section

variable {scope : Scope} {depth : Nat}

end

/-! ### The depth of nesting is never used up -/

/-- There is room for every name that may still be put in progress, and for one request more. -/
structure State.Room (scope : Scope) (depth : Nat) (state : State) : Prop where
  nodup : state.inProgress.Nodup
  known : state.inProgress ⊆ scope.substitutions.keys
  size_lt : scope.substitutions.size < state.inProgress.length + depth

section

variable {scope : Scope} {depth other : Nat} {state next : State} {name : String} {e : Expr}

theorem State.Room.of_inProgress (h : state.Room scope depth)
    (heq : next.inProgress = state.inProgress) : next.Room scope depth :=
  ⟨heq ▸ h.nodup, heq ▸ h.known, heq ▸ h.size_lt⟩

theorem State.Room.enter (h : state.Room scope (depth + 1)) (hfree : name ∉ state.inProgress)
    (hfind : scope.substitutions.find? name = some e) : (state.enter name).Room scope depth where
  nodup := List.nodup_cons.2 ⟨hfree, h.nodup⟩
  known := List.cons_subset.2 ⟨OrderedMap.mem_keys_iff.2 ⟨e, hfind⟩, h.known⟩
  size_lt := by
    have := h.size_lt
    simp only [State.enter, List.length_cons]
    omega

theorem State.Room.depth_pos (h : state.Room scope depth) : 0 < depth := by
  have hle : state.inProgress.length ≤ scope.substitutions.keys.length :=
    List.Nodup.length_le_of_subset h.nodup h.known
  have hlt := h.size_lt
  simp only [OrderedMap.keys, List.length_map, OrderedMap.size] at hle hlt
  omega

theorem room_of_inProgress_nil (h : state.inProgress = [])
    (hdepth : scope.substitutions.size < depth) : state.Room scope depth := by
  refine ⟨?_, ?_, ?_⟩ <;> simp [h, hdepth]

/-- Two depths that both leave room give the same answers: neither is used up. -/
theorem namesWithin_eq_of_room (hdepth : state.Room scope depth) (hother : state.Room scope other)
    (name : String) :
    (namesWithin scope depth).value name state = (namesWithin scope other).value name state ∧
      ∀ index, (namesWithin scope depth).item name index state =
        (namesWithin scope other).item name index state := by
  induction depth generalizing other state name with
  | zero => exact absurd hdepth.depth_pos (Nat.lt_irrefl 0)
  | succ depth ih =>
      obtain ⟨other, rfl⟩ : ∃ n, other = n + 1 := ⟨other - 1, by have := hother.depth_pos; omega⟩
      -- Entering the name takes up one level of each depth, and one of the names that were free.
      have hcompute : ∀ e, scope.substitutions.find? name = some e → name ∉ state.inProgress →
          compute scope (namesWithin scope depth) e (state.enter name) =
            compute scope (namesWithin scope other) e (state.enter name) := by
        intro e hfind hfree
        have hagree : ∀ asked next, (state.enter name).Grows next →
            (namesWithin scope depth).value asked next =
              (namesWithin scope other).value asked next ∧
            ∀ index, (namesWithin scope depth).item asked index next =
              (namesWithin scope other).item asked index next := fun asked next hgrows =>
          ih ((hdepth.enter hfree hfind).of_inProgress hgrows.inProgress)
            ((hother.enter hfree hfind).of_inProgress hgrows.inProgress) asked
        exact (consults_compute scope e).eq_of_agree (grows_evolution scope).toEvolution
          ((grows_evolution scope).along depth)
          (fun asked _ next hgrows => (hagree asked next hgrows).1)
          (fun asked _ index next hgrows => (hagree asked next hgrows).2 index)
      exact ⟨resolveValue_congr hcompute, fun index => resolveItem_congr index hcompute⟩

/-! ### A cyclic reference shows a cycle -/

end

section

variable {scope : Scope} {seed : UInt64} {calls : List Call} {name n : String}

end

end QueryVariants.Evaluation
