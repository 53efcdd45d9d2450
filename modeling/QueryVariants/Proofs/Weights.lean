import Mathlib.Order.Interval.Finset.Nat
import QueryVariants.Weights

/-!
# Places and shares

A number belongs to the first place at which the running sum reaches it. Counted from one to the total,
every place gets as many numbers as its weight: they lie above the running sum before the place and reach up
to its own. Counted from zero, one number more belongs to the first place, and the total, which belongs to
the last place that has weight, is left out.
-/

namespace QueryVariants.Weights

variable {weights : List Nat} {n i : Nat}

/-- The place to which a number belongs. -/
def place? (weights : List Nat) (n : Nat) : Option Nat :=
  (runningSums 0 weights).findIdx? (n ≤ ·)

/-! ### Sums of beginnings -/

theorem total_append (weights more : List Nat) : total (weights ++ more) = total weights + total more := by
  induction weights with
  | nil => simp [total]
  | cons weight weights ih => rw [List.cons_append, total, total, ih, Nat.add_assoc]

theorem total_take_succ (weights : List Nat) (i : Nat) :
    total (weights.take (i + 1)) = total (weights.take i) + weights.getD i 0 := by
  induction weights generalizing i with
  | nil => simp [total]
  | cons weight weights ih =>
      cases i with
      | zero => simp [total]
      | succ i =>
          simp only [List.take_succ_cons, total, ih i, List.getD_cons_succ]
          omega

theorem monotone_total_take (weights : List Nat) : Monotone fun i => total (weights.take i) := by
  apply monotone_nat_of_le_succ
  intro i
  rw [total_take_succ]
  omega

theorem total_take_add_total_drop (weights : List Nat) (i : Nat) :
    total (weights.take i) + total (weights.drop i) = total weights := by
  rw [← total_append, List.take_append_drop]

theorem getElem?_runningSums (start : Nat) (weights : List Nat) (i : Nat) :
    (runningSums start weights)[i]? =
      if i < weights.length then some (start + total (weights.take (i + 1))) else none := by
  induction weights generalizing start i with
  | nil => rfl
  | cons weight weights ih =>
      cases i with
      | zero => simp [runningSums, total]
      | succ i =>
          rw [runningSums, List.getElem?_cons_succ, ih, List.length_cons, List.take_succ_cons, total,
            Nat.add_assoc]
          simp

theorem getElem_runningSums (h : i < (runningSums 0 weights).length) :
    (runningSums 0 weights)[i] = total (weights.take (i + 1)) := by
  have hlength : i < weights.length := by rwa [length_runningSums] at h
  have hsome := getElem?_runningSums 0 weights i
  rw [List.getElem?_eq_getElem h, if_pos hlength, Nat.zero_add] at hsome
  exact Option.some.inj hsome

theorem getD_runningSums (hi : i < weights.length) :
    (runningSums 0 weights).getD i 0 = total (weights.take (i + 1)) := by
  rw [List.getD_eq_getElem?_getD, getElem?_runningSums, if_pos hi, Option.getD_some, Nat.zero_add]

/-- With a zero in front the running sums are the sums before the places. -/
theorem getD_zero_cons_runningSums (hi : i ≤ weights.length) :
    (0 :: runningSums 0 weights).getD i 0 = total (weights.take i) := by
  cases i with
  | zero => rfl
  | succ i => exact getD_runningSums hi

theorem pairwise_runningSums (weights : List Nat) : (runningSums 0 weights).Pairwise (· ≤ ·) := by
  rw [List.pairwise_iff_getElem]
  intro i j hi hj hij
  rw [getElem_runningSums, getElem_runningSums]
  exact monotone_total_take weights (by omega)

/-! ### Places -/

/-- A number that belongs to a place is above the running sum before it, unless the place is the first. -/
theorem place?_eq_some_iff :
    place? weights n = some i ↔
      i < weights.length ∧ n ≤ total (weights.take (i + 1)) ∧ (i = 0 ∨ total (weights.take i) < n) := by
  rw [place?, List.findIdx?_eq_some_iff_getElem]
  simp only [getElem_runningSums, length_runningSums, decide_eq_true_eq, not_le, exists_prop]
  refine and_congr_right fun _ => and_congr_right fun _ => ?_
  constructor
  · intro hbefore
    cases i with
    | zero => exact .inl rfl
    | succ i => exact .inr (hbefore i (Nat.lt_succ_self i))
  · rintro (rfl | hbefore) j hj
    · cases hj
    · exact lt_of_le_of_lt (monotone_total_take weights hj) hbefore

theorem place?_eq_some_iff_mem_Ioc (hpos : 0 < n) :
    place? weights n = some i ↔
      i < weights.length ∧ n ∈ Finset.Ioc (total (weights.take i)) (total (weights.take (i + 1))) := by
  rw [place?_eq_some_iff, Finset.mem_Ioc]
  refine and_congr_right fun _ => ?_
  constructor
  · rintro ⟨hle, rfl | hlt⟩
    · exact ⟨hpos, hle⟩
    · exact ⟨hlt, hle⟩
  · rintro ⟨hlt, hle⟩
    exact ⟨hle, .inr hlt⟩

theorem place?_zero (h : weights ≠ []) : place? weights 0 = some i ↔ i = 0 := by
  rw [place?_eq_some_iff]
  constructor
  · rintro ⟨-, -, hi | hlt⟩
    · exact hi
    · cases hlt
  · rintro rfl
    exact ⟨List.length_pos_iff.2 h, Nat.zero_le _, .inl rfl⟩

/-- The total belongs to the last place that has weight. -/
theorem place?_total (hpos : 0 < total weights) (hi : i < weights.length) :
    place? weights (total weights) = some i ↔
      0 < weights.getD i 0 ∧ total (weights.drop (i + 1)) = 0 := by
  have hsplit := total_take_add_total_drop weights (i + 1)
  have hsucc := total_take_succ weights i
  rw [place?_eq_some_iff_mem_Ioc hpos, Finset.mem_Ioc]
  constructor
  · rintro ⟨-, hlt, hle⟩
    omega
  · rintro ⟨hweight, hrest⟩
    omega

theorem ne_nil_of_total_pos (h : 0 < total weights) : weights ≠ [] := by
  rintro rfl
  cases h

/-- Every number up to the total belongs to a place. -/
theorem exists_place? (hpos : 0 < total weights) (hle : n ≤ total weights) :
    ∃ i < weights.length, place? weights n = some i := by
  have hlength := length_runningSums 0 weights
  have hreached : ∃ sum ∈ runningSums 0 weights, n ≤ sum := by
    have hlast : weights.length - 1 < weights.length := by
      have := List.length_pos_iff.2 (ne_nil_of_total_pos hpos)
      omega
    refine ⟨_, List.getElem_mem (hlength ▸ hlast), ?_⟩
    rwa [getElem_runningSums, List.take_of_length_le (by omega)]
  obtain ⟨i, hi⟩ : ∃ i, place? weights n = some i := by
    rw [← Option.isSome_iff_exists, place?, List.findIdx?_isSome, List.any_eq_true]
    obtain ⟨sum, hsum, hle⟩ := hreached
    exact ⟨sum, hsum, decide_eq_true hle⟩
  exact ⟨i, (place?_eq_some_iff.1 hi).1, hi⟩

/-! ### Shares -/

/-- The numbers from one to the total that belong to a place. -/
theorem filter_place?_eq_Ioc (hi : i < weights.length) :
    (Finset.Icc 1 (total weights)).filter (place? weights · = some i) =
      Finset.Ioc (total (weights.take i)) (total (weights.take (i + 1))) := by
  have hsplit := total_take_add_total_drop weights (i + 1)
  ext n
  rw [Finset.mem_filter, Finset.mem_Icc]
  constructor
  · rintro ⟨⟨hpos, -⟩, hplace⟩
    exact ((place?_eq_some_iff_mem_Ioc hpos).1 hplace).2
  · intro hmem
    obtain ⟨hlt, hle⟩ := Finset.mem_Ioc.1 hmem
    exact ⟨⟨by omega, by omega⟩, (place?_eq_some_iff_mem_Ioc (by omega)).2 ⟨hi, hmem⟩⟩

/-- A place gets as many of the numbers from one to the total as its weight. -/
theorem card_filter_place? (hi : i < weights.length) :
    ((Finset.Icc 1 (total weights)).filter (place? weights · = some i)).card = weights.getD i 0 := by
  rw [filter_place?_eq_Ioc hi, Nat.card_Ioc, total_take_succ, Nat.add_sub_cancel_left]

theorem card_filter_insert {p : Nat → Prop} [DecidablePred p] {numbers : Finset Nat} (h : n ∉ numbers) :
    ((insert n numbers).filter p).card = (numbers.filter p).card + if p n then 1 else 0 := by
  rw [Finset.filter_insert]
  split
  · exact Finset.card_insert_of_notMem fun hmem => h (Finset.mem_filter.1 hmem).1
  · rfl

/-- Of the numbers below the total the first place gets one more than its weight, and the last place that has
weight one less. -/
theorem card_filter_range_place? (hpos : 0 < total weights) (hi : i < weights.length) :
    ((Finset.range (total weights)).filter (place? weights · = some i)).card +
        (if 0 < weights.getD i 0 ∧ total (weights.drop (i + 1)) = 0 then 1 else 0) =
      weights.getD i 0 + (if i = 0 then 1 else 0) := by
  -- Both sides count the numbers from zero to the total: one adds the total, the other adds zero.
  have hends : insert (total weights) (Finset.range (total weights)) =
      insert 0 (Finset.Icc 1 (total weights)) := by
    ext n
    simp only [Finset.mem_insert, Finset.mem_range, Finset.mem_Icc]
    omega
  calc ((Finset.range (total weights)).filter (place? weights · = some i)).card +
        (if 0 < weights.getD i 0 ∧ total (weights.drop (i + 1)) = 0 then 1 else 0)
    _ = ((insert (total weights) (Finset.range (total weights))).filter
          (place? weights · = some i)).card := by
        rw [card_filter_insert (by simp)]
        simp only [place?_total hpos hi]
    _ = ((insert 0 (Finset.Icc 1 (total weights))).filter (place? weights · = some i)).card := by
        rw [hends]
    _ = weights.getD i 0 + (if i = 0 then 1 else 0) := by
        rw [card_filter_insert (by simp), card_filter_place? hi]
        simp only [place?_zero (ne_nil_of_total_pos hpos)]

/-- The numbers below the total are shared out by weight only if the first place has all the weight. -/
theorem forall_card_filter_range_place?_iff (hpos : 0 < total weights) :
    (∀ i < weights.length,
      ((Finset.range (total weights)).filter (place? weights · = some i)).card = weights.getD i 0) ↔
    total (weights.drop 1) = 0 := by
  have hfirst := total_take_succ weights 0
  have hsplit := total_take_add_total_drop weights 1
  simp only [Nat.zero_add, List.take_zero, total] at hfirst
  constructor
  · intro hall
    have hlength := List.length_pos_iff.2 (ne_nil_of_total_pos hpos)
    have hcount := card_filter_range_place? hpos hlength
    rw [hall 0 hlength, if_pos rfl] at hcount
    split at hcount
    · rename_i hlast
      exact hlast.2
    · omega
  · intro hrest i hi
    have hcount := card_filter_range_place? hpos hi
    rcases Nat.eq_zero_or_pos i with rfl | hi
    · rw [if_pos ⟨by omega, hrest⟩, if_pos rfl] at hcount
      omega
    · have hbefore : total (weights.take 1) ≤ total (weights.take i) := monotone_total_take weights hi
      have hsucc := total_take_succ weights i
      have hupto := total_take_add_total_drop weights (i + 1)
      rw [if_neg (by omega), if_neg (by omega)] at hcount
      omega

end QueryVariants.Weights
