import QueryVariants.Proofs.Distribution.Reading
import QueryVariants.Proofs.Text.Numeral

/-!
# What tables hold

A table that was read has a row, a value column and a weight column, rows of one shape, and columns of
weights that a draw can work with. Whatever evaluates expressions relies on this and on nothing else
about tables.
-/

namespace QueryVariants

open Text QueryVariants.Distribution

/-- What a table must be like to have been read: all rows have the shape that the names give, values
are free of backslashes and line feeds, weights are numbers of 63 bits, and the totals of the columns
have 64. -/
structure Table.WellFormed (table : Table) : Prop where
  fields_ne_nil : table.fields ≠ []
  weights_ne_nil : table.weights ≠ []
  rows_ne_nil : table.rows ≠ []
  values_length : ∀ row ∈ table.rows, row.values.length = table.fields.length
  weights_length : ∀ row ∈ table.rows, row.weights.length = table.weights.length
  values : ∀ row ∈ table.rows, ∀ value ∈ row.values, '\\' ∉ value.toList ∧ '\n' ∉ value.toList
  weights : ∀ row ∈ table.rows, ∀ weight ∈ row.weights, weight ≤ maxSigned
  totals : ∀ column < table.weights.length,
    Weights.total (columnWeights table.rows column) < UInt64.size

namespace Table

section

variable {fields weights : List String} {record : List Char} {row : Row}

theorem fields_ne_nil_of_readFrom (h : row.ReadFrom fields weights record) : fields ≠ [] := by
  obtain ⟨left, right, -, hvalues, -⟩ := h.parts
  intro hnil
  have hlength := h.values_length
  rw [hnil, List.length_nil, hvalues, List.length_map, List.length_eq_zero_iff] at hlength
  exact splitValues_ne_nil hlength

theorem weights_ne_nil_of_readFrom (h : row.ReadFrom fields weights record) : weights ≠ [] := by
  obtain ⟨left, right, -, -, hweights⟩ := h.parts
  have hsame := congrArg List.length hweights
  rw [List.length_map, List.length_map, h.weights_length] at hsame
  intro hnil
  rw [hnil, List.length_nil, List.length_eq_zero_iff] at hsame
  exact splitValues_ne_nil hsame

theorem values_of_readFrom (h : row.ReadFrom fields weights record) (hrecord : '\n' ∉ record) :
    ∀ value ∈ row.values, '\\' ∉ value.toList ∧ '\n' ∉ value.toList := by
  obtain ⟨left, right, hparts, hvalues, -⟩ := h.parts
  intro value hvalue
  rw [hvalues] at hvalue
  obtain ⟨chars, hchars, rfl⟩ := List.mem_map.1 hvalue
  obtain ⟨hbackslash, hsub⟩ := of_mem_splitValues hchars
  have hleft : left ∈ splitParts record := hparts ▸ List.mem_cons_self
  rw [String.toList_ofList]
  exact ⟨hbackslash, fun hnewline => hrecord (mem_of_mem_splitUnescaped hleft (hsub _ hnewline))⟩

theorem weights_of_readFrom (h : row.ReadFrom fields weights record) :
    ∀ weight ∈ row.weights, weight ≤ maxSigned := by
  obtain ⟨left, right, -, -, hweights⟩ := h.parts
  intro weight hweight
  have hread : some (weight : Int) ∈ (splitValues right).map readSigned? := by
    rw [hweights]
    exact List.mem_map.2 ⟨weight, hweight, rfl⟩
  obtain ⟨raw, -, hraw⟩ := List.mem_map.1 hread
  exact Int.ofNat_le.1 (readSigned?_bounds hraw).2

theorem exists_record_of_mem {recs : List (Nat × List Char)} {rows : List Row}
    (h : List.Forall₂ (fun rec row => Row.ReadFrom fields weights rec.2 row) recs rows)
    (hrow : row ∈ rows) : ∃ rec ∈ recs, row.ReadFrom fields weights rec.2 := by
  induction h with
  | nil => cases hrow
  | cons hfirst _ ih =>
      rcases List.mem_cons.1 hrow with rfl | hrow
      · exact ⟨_, List.mem_cons_self, hfirst⟩
      · obtain ⟨rec, hrec, hfrom⟩ := ih hrow
        exact ⟨rec, List.mem_cons_of_mem _ hrec, hfrom⟩

end

/-- A table that was read is well formed. -/
theorem wellFormed_of_parse {name text : String} {fields weights : List String} {table : Table}
    (h : Table.parse name text fields weights = .ok table) : table.WellFormed := by
  obtain ⟨-, rfl, rfl, hrows, hall, htotals⟩ := parse_eq_ok_iff.1 h
  have hrow : ∀ row ∈ table.rows, ∃ record, '\n' ∉ record ∧
      row.ReadFrom table.fields table.weights record := by
    intro row hmem
    obtain ⟨⟨line, record⟩, hrecord, hfrom⟩ := exists_record_of_mem hall hmem
    exact ⟨record, newline_notMem_of_mem_records hrecord, hfrom⟩
  obtain ⟨first, hfirst⟩ := List.exists_mem_of_ne_nil _ hrows
  obtain ⟨record, -, hfrom⟩ := hrow first hfirst
  refine
    { fields_ne_nil := fields_ne_nil_of_readFrom hfrom
      weights_ne_nil := weights_ne_nil_of_readFrom hfrom
      rows_ne_nil := hrows
      values_length := ?_
      weights_length := ?_
      values := ?_
      weights := ?_
      totals := htotals }
  all_goals
    intro row hmem
    obtain ⟨record, hrecord, hfrom⟩ := hrow row hmem
  · exact hfrom.values_length
  · exact hfrom.weights_length
  · exact values_of_readFrom hfrom hrecord
  · exact weights_of_readFrom hfrom

/-! ### Columns and cells -/

section

variable {table : Table}

/-- Rows that all reach a place make a column with an entry for each. -/
theorem filterMap_getElem?_eq_map {α : Type} {entries : Row → List α} {rows : List Row} {i : Nat} (default : α)
    (h : ∀ row ∈ rows, i < (entries row).length) :
    rows.filterMap (fun row => (entries row)[i]?) = rows.map fun row => (entries row).getD i default := by
  rw [List.filterMap_eq_map_iff_forall_eq_some]
  intro row hrow
  rw [List.getD_eq_getElem?_getD, List.getElem?_eq_getElem (h row hrow), Option.getD_some]

theorem valueColumn_eq (h : table.WellFormed) {field : Nat} (hfield : field < table.fields.length) :
    table.valueColumn field = .ok (table.rows.map fun row => row.values.getD field "") := by
  rw [valueColumn, if_pos hfield]
  congr 1
  exact filterMap_getElem?_eq_map "" fun row hrow => (h.values_length row hrow).symm ▸ hfield

theorem weightColumn_eq (h : table.WellFormed) {column : Nat} (hcolumn : column < table.weights.length) :
    table.weightColumn column = .ok (columnWeights table.rows column) := by
  rw [weightColumn, if_pos hcolumn, columnWeights]
  congr 1
  exact filterMap_getElem?_eq_map 0 fun row hrow => (h.weights_length row hrow).symm ▸ hcolumn

theorem cell_eq_ok_iff (h : table.WellFormed) {field row : Nat} {value : String} :
    table.cell field row = .ok value ↔
      ∃ r, table.rows[row]? = some r ∧ r.values[field]? = some value := by
  rw [cell]
  by_cases hfield : field < table.fields.length
  · rw [valueColumn_eq h hfield]
    rcases hrow : table.rows[row]? with _ | r
    · simp [bind, Except.bind, hrow]
    · have hlength := h.values_length r (List.mem_of_getElem? hrow)
      simp [bind, Except.bind, hfield, hlength, hrow]
  · simp only [valueColumn, if_neg hfield, bind, Except.bind, reduceCtorEq, false_iff]
    rintro ⟨r, hrow, hvalue⟩
    have hlength := h.values_length r (List.mem_of_getElem? hrow)
    obtain ⟨hlt, -⟩ := List.getElem?_eq_some_iff.1 hvalue
    omega

theorem weightAt_eq_ok_iff (h : table.WellFormed) {column row weight : Nat} :
    table.weightAt column row = .ok weight ↔
      ∃ r, table.rows[row]? = some r ∧ r.weights[column]? = some weight := by
  rw [weightAt]
  by_cases hcolumn : column < table.weights.length
  · rw [weightColumn_eq h hcolumn, columnWeights]
    rcases hrow : table.rows[row]? with _ | r
    · simp [bind, Except.bind, hrow]
    · have hlength := h.weights_length r (List.mem_of_getElem? hrow)
      simp [bind, Except.bind, hcolumn, hlength, hrow]
  · simp only [weightColumn, if_neg hcolumn, bind, Except.bind, reduceCtorEq, false_iff]
    rintro ⟨r, hrow, hweight⟩
    have hlength := h.weights_length r (List.mem_of_getElem? hrow)
    obtain ⟨hlt, -⟩ := List.getElem?_eq_some_iff.1 hweight
    omega

theorem totalWeight_eq (h : table.WellFormed) {column : Nat} (hcolumn : column < table.weights.length) :
    table.totalWeight column = .ok (Weights.total (columnWeights table.rows column)) := by
  rw [totalWeight, weightColumn_eq h hcolumn]
  rfl

theorem cumulative_eq_runningSums (h : table.WellFormed) {column : Nat}
    (hcolumn : column < table.weights.length) :
    table.cumulative column = .ok (Weights.runningSums 0 (columnWeights table.rows column)) := by
  rw [cumulative, weightColumn_eq h hcolumn]
  rfl

theorem weightAt_eq (h : table.WellFormed) {column row : Nat} (hcolumn : column < table.weights.length)
    (hrow : row < table.size) :
    table.weightAt column row = .ok ((columnWeights table.rows column).getD row 0) := by
  have hlength : row < (columnWeights table.rows column).length := by
    rwa [columnWeights, List.length_map]
  rw [weightAt, weightColumn_eq h hcolumn]
  simp [bind, Except.bind, hlength]

theorem exists_cell (h : table.WellFormed) {field row : Nat} (hfield : field < table.fields.length)
    (hrow : row < table.size) : ∃ value, table.cell field row = .ok value := by
  have hfound : table.rows[row]? = some table.rows[row] := List.getElem?_eq_getElem hrow
  have hlength := h.values_length _ (List.getElem_mem hrow)
  exact ⟨_, (cell_eq_ok_iff h).2 ⟨_, hfound, List.getElem?_eq_getElem (hlength ▸ hfield)⟩⟩

end

end Table

end QueryVariants
