import QueryVariants.Evaluation.Resolve
import QueryVariants.Proofs.Random.Range
import QueryVariants.Proofs.Weights

/-!
# How a choice is drawn

A choice draws a number below the total weight and takes the first option whose running sum reaches it. The
numbers start at zero while the running sums count from one, so the shares are not the weights: one number
too many belongs to the first option, also if it has no weight, and it is taken from the last option that has
weight. Only a choice whose first option has all the weight is drawn in proportion.
-/

namespace QueryVariants.Evaluation

open Macro

variable {options : List (String × Nat)} {draw i : Nat}

/-- The draws below the total weight that select an option. -/
def drawsOf (options : List (String × Nat)) (i : Nat) : Finset Nat :=
  (Finset.range (Weights.total (options.map Prod.snd))).filter fun draw =>
    Weights.place? (options.map Prod.snd) draw = some i

/-- The option that is taken stands at the place to which the draw belongs. -/
theorem pickOption_of_place? (h : Weights.place? (options.map Prod.snd) draw = some i) :
    pickOption draw options = options[i]?.map Prod.fst := by
  induction options generalizing draw i with
  | nil => exact absurd (Weights.place?_eq_some_iff.1 h).1 (Nat.not_lt_zero i)
  | cons option options ih =>
      obtain ⟨text, weight⟩ := option
      obtain ⟨hlength, hle, hbefore⟩ := Weights.place?_eq_some_iff.1 h
      rw [pickOption]
      cases i with
      | zero =>
          have hfirst : draw ≤ weight := by simpa [Weights.total] using hle
          rw [if_pos hfirst]
          rfl
      | succ i =>
          simp only [List.map_cons, List.take_succ_cons, Weights.total, List.length_cons] at hlength hle hbefore
          rw [if_neg (by omega), List.getElem?_cons_succ]
          exact ih (Weights.place?_eq_some_iff.2 ⟨by omega, by omega, by omega⟩)

theorem evaluate_choice (hpos : 0 < Weights.total (options.map Prod.snd))
    (hfit : Weights.total (options.map Prod.snd) < UInt64.size) (scope : Scope) (names : Names)
    (state : State) :
    evaluate scope names (.choice options) state =
      (.ok ((pickOption (state.stream.below (Weights.total (options.map Prod.snd))).1 options).getD ""),
        { state with stream := (state.stream.below (Weights.total (options.map Prod.snd))).2 }) := by
  rw [evaluate, if_neg (Nat.not_le_of_lt hfit), if_neg (Nat.ne_of_gt hpos)]
  rfl

/-- **How many draws select an option.** A choice with a total weight of 64 bits takes the option to which its
draw belongs. An option has as many draws as its weight, but the first option has one more and the last option
that has weight has one less; so all have as many as their weight exactly if no weight follows the first. -/
theorem card_drawsOf (hpos : 0 < Weights.total (options.map Prod.snd))
    (hfit : Weights.total (options.map Prod.snd) < UInt64.size) :
    (∀ scope names state, ∃ i, ∃ hi : i < options.length,
      (state.stream.below (Weights.total (options.map Prod.snd))).1 ∈ drawsOf options i ∧
      (evaluate scope names (.choice options) state).1 = .ok options[i].1) ∧
    (∀ i < options.length,
      (drawsOf options i).card + (if 0 < (options.map Prod.snd).getD i 0 ∧
          Weights.total ((options.map Prod.snd).drop (i + 1)) = 0 then 1 else 0) =
        (options.map Prod.snd).getD i 0 + (if i = 0 then 1 else 0)) ∧
    ((∀ i < options.length, (drawsOf options i).card = (options.map Prod.snd).getD i 0) ↔
      Weights.total ((options.map Prod.snd).drop 1) = 0) := by
  have hlength : (options.map Prod.snd).length = options.length := List.length_map _
  refine ⟨?_, ?_, ?_⟩
  · intro scope names state
    have hdraw := state.stream.below_lt hpos
    obtain ⟨i, hi, hplace⟩ := Weights.exists_place? hpos (Nat.le_of_lt hdraw)
    refine ⟨i, hlength ▸ hi, Finset.mem_filter.2 ⟨Finset.mem_range.2 hdraw, hplace⟩, ?_⟩
    rw [evaluate_choice hpos hfit, pickOption_of_place? hplace, List.getElem?_eq_getElem (hlength ▸ hi)]
    rfl
  · intro i hi
    exact Weights.card_filter_range_place? hpos (hlength.symm ▸ hi)
  · rw [← hlength]
    exact Weights.forall_card_filter_range_place?_iff hpos

/-- Two options of weight two and one: all three draws select the first. -/
theorem card_drawsOf_twoOptions :
    (drawsOf [("twice", 2), ("once", 1)] 0).card = 3 ∧ (drawsOf [("twice", 2), ("once", 1)] 1).card = 0 := by
  have hcount := (@card_drawsOf [("twice", 2), ("once", 1)] (by decide) (by decide)).2.1
  have hfirst : (drawsOf [("twice", 2), ("once", 1)] 0).card + 0 = 2 + 1 := hcount 0 (by decide)
  have hsecond : (drawsOf [("twice", 2), ("once", 1)] 1).card + 1 = 1 + 0 := hcount 1 (by decide)
  exact ⟨hfirst, Nat.succ.inj hsecond⟩

/-- An option without weight is taken, and the one that has all the weight is not. -/
theorem evaluateConstant_weightless :
    evaluateConstant (.choice [("weightless", 0), ("whole", 1)]) = .ok "weightless" ∧
      (drawsOf [("weightless", 0), ("whole", 1)] 0).card = 1 ∧
      (drawsOf [("weightless", 0), ("whole", 1)] 1).card = 0 := by
  refine ⟨?_, by decide, by decide⟩
  have hdraw : ((State.ofSeed 0).stream.below 1).1 = 0 :=
    Nat.lt_one_iff.1 ((State.ofSeed 0).stream.below_lt Nat.one_pos)
  rw [evaluateConstant, Scope.evaluate, evaluate_choice (by decide) (by decide)]
  change Except.ok ((pickOption ((State.ofSeed 0).stream.below 1).1 _).getD "") = _
  rw [hdraw]
  rfl

end QueryVariants.Evaluation
