import QueryVariants.Proofs.Evaluation.Consults

/-!
# How a list of distinct values is collected

Every value that is evaluated for a list is either kept or discarded, and `Sieved` is the rule that decides:
a new value is kept, a repeated one is discarded as long as there are discards left, and kept after that. So
the discards are bounded, and an evaluation that keeps nothing uses one of them up: that is why the list gets
complete whatever the values are, also when they are all the same. The induction is over the steps of the
collection, with the trials so far as the invariant.
-/

namespace QueryVariants.Evaluation

open Macro

/-- The values that a computation gives when it is run again and again, each time in the state that the last run
has left. -/
inductive Draws (draw : Evaluator String) : List String → State → State → Prop
  | nil (state : State) : Draws draw [] state state
  | cons {value : String} {values : List String} {state next final : State}
    (hfirst : draw state = (.ok value, next)) (hrest : Draws draw values next final) :
    Draws draw (value :: values) state final

/-- A value that was evaluated for a list, and whether it was kept. -/
structure Trial where
  value : String
  kept : Bool
  deriving DecidableEq, Repr

def keptValues (trials : List Trial) : List String :=
  (trials.filter Trial.kept).map Trial.value

def discardedValues (trials : List Trial) : List String :=
  (trials.filter fun trial => !trial.kept).map Trial.value

/-- The rule by which values are kept or discarded when as many as `budget` may be discarded. -/
inductive Sieved (budget : Nat) : List Trial → Prop
  | nil : Sieved budget []
  | fresh {trials : List Trial} {value : String} (h : Sieved budget trials) (hnew : value ∉ keptValues trials) :
    Sieved budget (trials ++ [⟨value, true⟩])
  | discarded {trials : List Trial} {value : String} (h : Sieved budget trials)
    (hseen : value ∈ keptValues trials) (hbudget : (discardedValues trials).length < budget) :
    Sieved budget (trials ++ [⟨value, false⟩])
  | repeated {trials : List Trial} {value : String} (h : Sieved budget trials)
    (hseen : value ∈ keptValues trials) (hbudget : (discardedValues trials).length = budget) :
    Sieved budget (trials ++ [⟨value, true⟩])

section

variable {trials more : List Trial} {trial : Trial} {value : String} {budget : Nat}

theorem keptValues_append : keptValues (trials ++ more) = keptValues trials ++ keptValues more := by
  simp [keptValues]

theorem discardedValues_append :
    discardedValues (trials ++ more) = discardedValues trials ++ discardedValues more := by
  simp [discardedValues]

@[simp] theorem keptValues_kept : keptValues [⟨value, true⟩] = [value] := rfl

@[simp] theorem keptValues_discarded : keptValues [⟨value, false⟩] = [] := rfl

@[simp] theorem discardedValues_kept : discardedValues [⟨value, true⟩] = [] := rfl

@[simp] theorem discardedValues_discarded : discardedValues [⟨value, false⟩] = [value] := rfl

theorem length_keptValues_cons (trial : Trial) (trials : List Trial) :
    (keptValues (trial :: trials)).length = (keptValues trials).length + (keptValues [trial]).length := by
  rw [← List.singleton_append, keptValues_append, List.length_append, Nat.add_comm]

/-- Every value that was evaluated is kept or discarded. -/
theorem length_keptValues_add_length_discardedValues (trials : List Trial) :
    (keptValues trials).length + (discardedValues trials).length = trials.length := by
  induction trials with
  | nil => rfl
  | cons trial trials ih =>
      have hfirst : (keptValues [trial]).length + (discardedValues [trial]).length = 1 := by
        obtain ⟨value, kept⟩ := trial
        cases kept <;> rfl
      have hdiscarded : discardedValues (trial :: trials) = discardedValues [trial] ++ discardedValues trials := by
        rw [← discardedValues_append, List.singleton_append]
      rw [length_keptValues_cons, hdiscarded, List.length_append, List.length_cons]
      omega

theorem keptValues_sublist (trials : List Trial) : (keptValues trials).Sublist (trials.map Trial.value) :=
  List.filter_sublist.map _

namespace Sieved

theorem length_discardedValues_le (h : Sieved budget trials) : (discardedValues trials).length ≤ budget := by
  induction h with
  | nil => exact Nat.zero_le budget
  | fresh _ _ ih | repeated _ _ _ ih => simpa [discardedValues_append] using ih
  | discarded _ _ hbudget _ =>
      rw [discardedValues_append, List.length_append]
      exact hbudget

/-- Every value that was evaluated is in the list. -/
theorem mem_keptValues (h : Sieved budget trials) : ∀ trial ∈ trials, trial.value ∈ keptValues trials := by
  induction h with
  | nil => simp
  | fresh _ _ ih | repeated _ _ _ ih | discarded _ _ _ ih =>
      intro trial htrial
      rw [keptValues_append]
      rcases List.mem_append.1 htrial with htrial | htrial
      · exact List.mem_append_left _ (ih trial htrial)
      · obtain rfl := List.mem_singleton.1 htrial
        simp [*]

/-- Repeated values are in the list only if all discards were used up. -/
theorem nodup_or_length_eq (h : Sieved budget trials) :
    (keptValues trials).Nodup ∨ (discardedValues trials).length = budget := by
  induction h with
  | nil => exact .inl List.nodup_nil
  | @fresh trials value _ hnew ih =>
      rw [discardedValues_append, keptValues_append]
      refine ih.imp (fun hnodup => ?_) (fun hlength => by simpa using hlength)
      refine List.nodup_append.2 ⟨hnodup, by simp, ?_⟩
      rintro first hfirst second hsecond rfl
      obtain rfl := List.mem_singleton.1 hsecond
      exact hnew hfirst
  | discarded _ _ hbudget ih =>
      rw [keptValues_append]
      exact .inl (by simpa using ih.resolve_right (Nat.ne_of_lt hbudget))
  | repeated _ _ hbudget _ => exact .inr (by simpa [discardedValues_append] using hbudget)

/-- How the last value was dealt with. -/
theorem of_concat (h : Sieved budget (trials ++ [trial])) :
    Sieved budget trials ∧
      (trial.kept = true ∧ (trial.value ∈ keptValues trials → (discardedValues trials).length = budget) ∨
        trial.kept = false ∧ trial.value ∈ keptValues trials) := by
  generalize hall : trials ++ [trial] = all at h
  cases h with
  | nil => simp at hall
  | fresh h hnew =>
      obtain ⟨rfl, hlast⟩ := List.append_inj' hall rfl
      obtain rfl := List.singleton_inj.1 hlast
      exact ⟨h, .inl ⟨rfl, fun hseen => absurd hseen hnew⟩⟩
  | discarded h hseen _ =>
      obtain ⟨rfl, hlast⟩ := List.append_inj' hall rfl
      obtain rfl := List.singleton_inj.1 hlast
      exact ⟨h, .inr ⟨rfl, hseen⟩⟩
  | repeated h _ hbudget =>
      obtain ⟨rfl, hlast⟩ := List.append_inj' hall rfl
      obtain rfl := List.singleton_inj.1 hlast
      exact ⟨h, .inl ⟨rfl, fun _ => hbudget⟩⟩

theorem of_append (h : Sieved budget (trials ++ more)) : Sieved budget trials := by
  induction more generalizing trials with
  | nil => rwa [List.append_nil] at h
  | cons trial more ih =>
      rw [List.append_cons] at h
      exact (ih h).of_concat.1

/-- What was discarded was in the list already, and what was kept was not, unless all discards were used up. -/
theorem at_split {before after : List Trial} (h : Sieved budget (before ++ trial :: after)) :
    trial.kept = true ∧ (trial.value ∈ keptValues before → (discardedValues before).length = budget) ∨
      trial.kept = false ∧ trial.value ∈ keptValues before := by
  rw [List.append_cons] at h
  exact h.of_append.of_concat.2

end Sieved

end

/-! ### The collection -/

/-- What a collection of `missing` more values comes to after some trials: a list that is complete, or the error
of an evaluation, in the state that this evaluation has left. -/
inductive Collects (draw : Evaluator String) (budget : Nat) (trials : List Trial) (missing : Nat) (state : State) :
    Except Error (List String) → State → Prop
  | complete {more : List Trial} {final : State} (hdraws : Draws draw (more.map Trial.value) state final)
    (hsieved : Sieved budget (trials ++ more)) (hlength : (keptValues more).length = missing) :
    Collects draw budget trials missing state (.ok (keptValues (trials ++ more))) final
  | failed {more : List Trial} {reached final : State} {error : Error}
    (hdraws : Draws draw (more.map Trial.value) state reached) (hsieved : Sieved budget (trials ++ more))
    (hlength : (keptValues more).length < missing) (herror : draw reached = (.error error, final)) :
    Collects draw budget trials missing state (.error error) final

section

variable {draw : Evaluator String} {total missing budget : Nat} {trials : List Trial} {value : String}
  {state next final : State} {result : Except Error (List String)}

/-- A value that is kept is one of those that were missing. -/
theorem Collects.of_trial (trial : Trial) (hdraw : draw state = (.ok trial.value, next))
    (h : Collects draw total (trials ++ [trial]) missing next result final) :
    Collects draw total trials (missing + (keptValues [trial]).length) state result final := by
  cases h with
  | @complete more _ hdraws hsieved hlength =>
      have hall : Draws draw ((trial :: more).map Trial.value) state final := .cons hdraw hdraws
      rw [← List.append_cons] at hsieved ⊢
      exact .complete hall hsieved (by rw [length_keptValues_cons, hlength])
  | @failed more reached _ _ hdraws hsieved hlength herror =>
      have hall : Draws draw ((trial :: more).map Trial.value) state reached := .cons hdraw hdraws
      rw [← List.append_cons] at hsieved
      exact .failed hall hsieved (by rw [length_keptValues_cons]; exact Nat.add_lt_add_right hlength _) herror

/-- The arguments of a collection after some trials: what they kept is in `items` and `seen`, and what they
discarded is missing from the budget. -/
structure Reached (total : Nat) (trials : List Trial) (budget : Nat) (seen : Std.HashSet String)
    (items : List String) : Prop where
  sieved : Sieved total trials
  items : items.reverse = keptValues trials
  seen : ∀ value, value ∈ seen ↔ value ∈ keptValues trials
  budget : (discardedValues trials).length + budget = total

namespace Reached

variable {seen : Std.HashSet String} {items : List String}

theorem start (total : Nat) : Reached total [] total ∅ [] :=
  ⟨.nil, rfl, by simp [keptValues], Nat.zero_add total⟩

theorem fresh (h : Reached total trials budget seen items) (hnew : value ∉ seen) :
    Reached total (trials ++ [⟨value, true⟩]) budget (seen.insert value) (value :: items) where
  sieved := .fresh h.sieved (by rwa [← h.seen])
  items := by rw [List.reverse_cons, h.items, keptValues_append, keptValues_kept]
  seen other := by
    rw [Std.HashSet.mem_insert, h.seen, keptValues_append, keptValues_kept, List.mem_append, List.mem_singleton,
      beq_iff_eq, or_comm, eq_comm]
  budget := by rw [discardedValues_append, discardedValues_kept, List.append_nil, h.budget]

theorem discarded (h : Reached total trials (budget + 1) seen items) (hseen : value ∈ seen) :
    Reached total (trials ++ [⟨value, false⟩]) budget seen items where
  sieved := .discarded h.sieved ((h.seen value).1 hseen) (by have := h.budget; omega)
  items := by rw [h.items, keptValues_append, keptValues_discarded, List.append_nil]
  seen other := by rw [h.seen, keptValues_append, keptValues_discarded, List.append_nil]
  budget := by
    have := h.budget
    rw [discardedValues_append, discardedValues_discarded, List.length_append, List.length_singleton]
    omega

theorem repeated (h : Reached total trials 0 seen items) (hseen : value ∈ seen) :
    Reached total (trials ++ [⟨value, true⟩]) 0 seen (value :: items) where
  sieved := .repeated h.sieved ((h.seen value).1 hseen) h.budget
  items := by rw [List.reverse_cons, h.items, keptValues_append, keptValues_kept]
  seen other := by
    rw [h.seen, keptValues_append, keptValues_kept, List.mem_append, List.mem_singleton, or_iff_left_of_imp]
    rintro rfl
    exact (h.seen other).1 hseen
  budget := by rw [discardedValues_append, discardedValues_kept, List.append_nil, h.budget]

end Reached

/-- The collection goes on from the trials so far. -/
theorem collects_collect {seen : Std.HashSet String} {items : List String}
    (h : Reached total trials budget seen items) (state : State) :
    Collects draw total trials missing state (collect draw missing budget seen items state).1
      (collect draw missing budget seen items state).2 := by
  have hnone : ∀ state, Draws draw (([] : List Trial).map Trial.value) state state := .nil
  induction missing, budget, seen, items using collect.induct generalizing trials state with
  | case1 budget seen items =>
      have hcomplete := Collects.complete (hnone state) ((List.append_nil trials).symm ▸ h.sieved) rfl
      rw [collect]
      rwa [List.append_nil, ← h.items] at hcomplete
  | case2 budget seen items missing ihnew ihseen =>
      rw [collect]
      rcases hdraw : draw state with ⟨error | value, next⟩
      · rw [Evaluator.bind_of_error hdraw]
        exact .failed (hnone state) ((List.append_nil trials).symm ▸ h.sieved) (Nat.succ_pos missing) hdraw
      · rw [Evaluator.bind_of_ok hdraw]
        by_cases hseen : value ∈ seen
        · rw [if_neg (by simpa using hseen)]
          specialize ihseen value
          cases budget with
          | zero => exact .of_trial ⟨value, true⟩ hdraw (ihseen (h.repeated hseen) next)
          | succ budget => exact .of_trial ⟨value, false⟩ hdraw (ihseen (h.discarded hseen) next)
        · rw [if_pos (by simpa using hseen)]
          exact .of_trial ⟨value, true⟩ hdraw (ihnew value (h.fresh hseen) next)

theorem collects_collectDistinct (draw : Evaluator String) (count : Nat) (state : State) :
    Collects draw (discardBudget count) [] count state (collectDistinct draw count state).1
      (collectDistinct draw count state).2 :=
  collects_collect (.start _) state

end

/-- **A list is always complete, and repeats values only after its last discard.** For every expression, number of
items and state:
1. if no evaluation fails, of as many as there may be, then the list succeeds;
2. a list that succeeds has all its items, and they are what was kept of the values that were evaluated one after
the other up to its final state: at most `2 * count + 10001` of these were discarded, the items stand in their
order, every value that was evaluated is an item, no item is repeated unless exactly `2 * count + 10001` values
were discarded, each before the first repeated item, and every value that was discarded was an item already;
3. a list that fails does so with the error of the evaluation that came after such values, in the state that this
evaluation has left, while items were still missing. -/
theorem collectDistinct_complete (scope : Scope) (names : Names) (inner : Expr) (count : Nat) (state : State) :
    ((∀ values reached, Draws (evaluate scope names inner) values state reached →
        values.length < count + (2 * count + 10001) →
        ∃ value next, evaluate scope names inner reached = (.ok value, next)) →
      ∃ items final, collectDistinct (evaluate scope names inner) count state = (.ok items, final)) ∧
    (∀ items final, collectDistinct (evaluate scope names inner) count state = (.ok items, final) →
      items.length = count ∧ ∃ trials, items = keptValues trials ∧
        Draws (evaluate scope names inner) (trials.map Trial.value) state final ∧
        (discardedValues trials).length ≤ 2 * count + 10001 ∧
        items.Sublist (trials.map Trial.value) ∧
        (∀ trial ∈ trials, trial.value ∈ items) ∧
        (items.Nodup ∨ (discardedValues trials).length = 2 * count + 10001) ∧
        ∀ before trial after, trials = before ++ trial :: after →
          trial.kept = true ∧
              (trial.value ∈ keptValues before → (discardedValues before).length = 2 * count + 10001) ∨
            trial.kept = false ∧ trial.value ∈ keptValues before) ∧
    (∀ error final, collectDistinct (evaluate scope names inner) count state = (.error error, final) →
      ∃ trials reached, Draws (evaluate scope names inner) (trials.map Trial.value) state reached ∧
        Sieved (2 * count + 10001) trials ∧ (keptValues trials).length < count ∧
        evaluate scope names inner reached = (.error error, final)) := by
  have hcollects := collects_collectDistinct (evaluate scope names inner) count state
  refine ⟨fun hvalues => ?_, fun items final h => ?_, fun error final h => ?_⟩
  · rcases hrun : collectDistinct (evaluate scope names inner) count state with ⟨error | items, final⟩
    · rw [hrun] at hcollects
      cases hcollects with
      | @failed trials reached _ _ hdraws hsieved hlength herror =>
          -- Too few values were evaluated for this one to be allowed to fail.
          have hbound : (trials.map Trial.value).length < count + (2 * count + 10001) := by
            have hdiscarded : (discardedValues trials).length ≤ 2 * count + 10001 :=
              Sieved.length_discardedValues_le hsieved
            have hall := length_keptValues_add_length_discardedValues trials
            rw [List.length_map]
            omega
          obtain ⟨value, next, hvalue⟩ := hvalues _ reached hdraws hbound
          cases (Prod.mk.inj (herror.symm.trans hvalue)).1
    · exact ⟨items, final, rfl⟩
  · rw [h] at hcollects
    cases hcollects with
    | @complete trials _ hdraws hsieved hlength =>
        refine ⟨hlength, trials, rfl, hdraws, hsieved.length_discardedValues_le, keptValues_sublist trials,
          hsieved.mem_keptValues, hsieved.nodup_or_length_eq, ?_⟩
        rintro before trial after rfl
        exact hsieved.at_split
  · rw [h] at hcollects
    cases hcollects with
    | @failed trials reached _ _ hdraws hsieved hlength herror =>
        exact ⟨trials, reached, hdraws, hsieved, hlength, herror⟩

end QueryVariants.Evaluation
