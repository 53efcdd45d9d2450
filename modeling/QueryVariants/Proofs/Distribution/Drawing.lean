import QueryVariants.Proofs.Distribution.WellFormed
import QueryVariants.Proofs.Random.Range
import QueryVariants.Proofs.Weights

/-!
# Draws from a table

The running sums of a weight column end with its total, so a number from one to the total is reached by one
of them. A draw over a column therefore finds a row, and the row has a value in every field of the table. It
fails only when all weights are zero.
-/

namespace QueryVariants

namespace Table

variable {table : Table} {field column row : Nat}

/-- The row of a number is its place among the weights of the column. -/
theorem rowForWeight_eq_ok_iff {weights : List Nat} {weight : Nat}
    (hweights : table.weightColumn column = .ok weights) :
    table.rowForWeight column weight = .ok row ↔ Weights.place? weights weight = some row := by
  rw [rowForWeight, cumulative, hweights]
  simp only [Except.map, bind, Except.bind]
  rw [Weights.place?]
  cases (Weights.runningSums 0 weights).findIdx? (weight ≤ ·) <;> simp

theorem length_le_of_weightColumn {weights : List Nat} (h : table.weightColumn column = .ok weights) :
    weights.length ≤ table.size := by
  unfold weightColumn at h
  split at h
  · rw [← Except.ok.inj h]
    exact List.length_filterMap_le _ _
  · cases h

/-- The number that is drawn below the total of a column belongs to a row. -/
theorem exists_rowForWeight {total weight : Nat} (htotal : table.totalWeight column = .ok total)
    (hpos : 0 < weight) (hle : weight ≤ total) :
    ∃ row < table.size, table.rowForWeight column weight = .ok row := by
  obtain ⟨weights, hweights, rfl⟩ := Result.map_eq_ok_iff.1 htotal
  obtain ⟨row, hrow, hplace⟩ := Weights.exists_place? (by omega) hle
  exact ⟨row, Nat.lt_of_lt_of_le hrow (length_le_of_weightColumn hweights),
    (rowForWeight_eq_ok_iff hweights).2 hplace⟩

theorem exists_totalWeight (hcolumn : column < table.weights.length) :
    ∃ total, table.totalWeight column = .ok total := by
  rw [totalWeight, weightColumn, if_pos hcolumn]
  exact ⟨_, rfl⟩

theorem drawRow_of_pos {total : Nat} (stream : Random.Stream)
    (htotal : table.totalWeight column = .ok total) (hpos : 0 < total) :
    table.drawRow column stream =
      (table.rowForWeight column (1 + (stream.below total).1), (stream.below total).2) := by
  obtain ⟨more, rfl⟩ := Nat.exists_eq_add_one.2 hpos
  rw [drawRow, htotal]
  rfl

/-- A draw from a column and a field that exist fails only when there is no weight to draw from. -/
theorem eq_emptyWeights_of_drawValue {stream : Random.Stream} {error : Error} (hwell : table.WellFormed)
    (hfield : field < table.fields.length) (hcolumn : column < table.weights.length)
    (h : (table.drawValue field column stream).1 = .error error) :
    error = .emptyWeights table.name column := by
  obtain ⟨total, htotal⟩ := exists_totalWeight hcolumn
  rcases Nat.eq_zero_or_pos total with rfl | hpos
  · rw [drawValue, drawRow, htotal] at h
    exact (Except.error.inj h).symm
  · have hoffset := stream.below_lt hpos
    obtain ⟨row, hrow, hfind⟩ :
        ∃ row < table.size, table.rowForWeight column (1 + (stream.below total).1) = .ok row :=
      exists_rowForWeight htotal (by omega) (by omega)
    obtain ⟨value, hvalue⟩ := exists_cell hwell hfield hrow
    have hdraw : (table.drawRow column stream).1 = .ok row := by
      rw [drawRow_of_pos stream htotal hpos]
      exact hfind
    rw [drawValue] at h
    dsimp only at h
    rw [hdraw, Except.bind, hvalue] at h
    cases h

end Table

end QueryVariants
