import QueryVariants.Proofs.Distribution.Offences
import QueryVariants.Proofs.Distribution.WellFormed
import QueryVariants.Proofs.Weights

/-!
# Which texts are tables

A text is a table if its records stand for rows and no column adds up to more than 64 bits hold. The table then
has what the records say; otherwise the first record that does not fit is reported with its line. Both are
stated by the grammar of records, on every text.
-/

namespace QueryVariants.Distribution

open Text

/-- The rows that records stand for, with a total of 64 bits in every column. -/
structure Accepts (fields weights : List String) (recs : List (Nat × List Char)) (rows : List Row) : Prop where
  standsFor : List.Forall₂ (fun rec row => StandsFor fields weights rec.2 row) recs rows
  totals : ∀ column < weights.length, Weights.total (columnWeights rows column) < UInt64.size

/-- The first record that does not fit: the records before it are accepted, and with it they are not. -/
def FirstOffence (fields weights : List String) (recs : List (Nat × List Char)) (line : Nat)
    (problem : String) : Prop :=
  ∃ before record after rows, recs = before ++ (line, record) :: after ∧
    Accepts fields weights before rows ∧
    (∀ more, ¬Accepts fields weights (before ++ [(line, record)]) more) ∧
    Problem fields weights (fun column => Weights.total (columnWeights rows column)) record problem

/-- The value of a record at one place. -/
def HasValue (record : List Char) (field : Nat) (value : String) : Prop :=
  ∃ values raws, Halves record values raws ∧ values[field]? = some value.toList

/-- The weight of a record at one place. -/
def HasWeight (record : List Char) (column weight : Nat) : Prop :=
  ∃ values raws raw, Halves record values raws ∧ raws[column]? = some raw ∧ Denotes raw weight

/-- What one weight column of a table holds, beside the weights of the records. -/
structure HoldsColumn (table : Table) (recs : List (Nat × List Char)) (column : Nat)
    (weights sums : List Nat) : Prop where
  length : weights.length = recs.length
  length_sums : sums.length = recs.length
  weight : ∀ row line record, recs[row]? = some (line, record) →
    HasWeight record column (weights.getD row 0) ∧
      table.weightAt column row = .ok (weights.getD row 0)
  cumulative : table.cumulative column = .ok sums
  sum : ∀ row < recs.length, sums.getD row 0 = Weights.total (weights.take (row + 1))
  increasing : sums.Pairwise (· ≤ ·)
  /-- The weight of a row is what its sum adds to the sum before it. -/
  difference : ∀ row < recs.length, (0 :: sums).getD row 0 ≤ sums.getD row 0 ∧
    table.weightAt column row = .ok (sums.getD row 0 - (0 :: sums).getD row 0)
  total : table.totalWeight column = .ok (Weights.total weights)
  total_lt : Weights.total weights < UInt64.size

/-- What a table holds of the records that it was read from. -/
structure HoldsRecords (table : Table) (recs : List (Nat × List Char)) : Prop where
  fields_ne_nil : table.fields ≠ []
  weights_ne_nil : table.weights ≠ []
  size_pos : 0 < table.size
  size_eq : table.size = recs.length
  cell : ∀ row line record, recs[row]? = some (line, record) → ∀ field < table.fields.length,
    ∃ value, HasValue record field value ∧ table.cell field row = .ok value
  column : ∀ column < table.weights.length, ∃ weights sums,
    HoldsColumn table recs column weights sums

section

variable {fields weights : List String} {recs : List (Nat × List Char)} {rows : List Row}

theorem accepts_iff : Accepts fields weights recs rows ↔
    List.Forall₂ (fun rec row => Row.ReadFrom fields weights rec.2 row) recs rows ∧
      ∀ column < weights.length, Weights.total (columnWeights rows column) < UInt64.size := by
  simp only [← standsFor_iff]
  exact ⟨fun h => ⟨h.standsFor, h.totals⟩, fun h => ⟨h.1, h.2⟩⟩

/-- A record with a problem does not fit behind the records before it, whatever rows are tried. -/
theorem Problem.not_accepts {before : List (Nat × List Char)} {line : Nat} {record : List Char}
    {problem : String} (hbefore : Accepts fields weights before rows)
    (h : Problem fields weights (fun column => Weights.total (columnWeights rows column)) record problem)
    (more : List Row) : ¬Accepts fields weights (before ++ [(line, record)]) more := by
  intro hmore
  have hfirst := List.forall₂_take before.length hmore.standsFor
  have hlast := List.forall₂_drop before.length hmore.standsFor
  rw [List.take_left] at hfirst
  rw [List.drop_left] at hlast
  have hrows : more.take before.length = rows :=
    List.right_unique_forall₂' (fun _ _ _ hrow hother => hrow.unique hother) hfirst hbefore.standsFor
  obtain ⟨row, rest, hrow, hrest, hdrop⟩ := List.forall₂_cons_left_iff.1 hlast
  obtain rfl := List.forall₂_nil_left_iff.1 hrest
  obtain ⟨column, hcolumn, hoverflow⟩ := h.exists_overflow hrow
  have htotal := hmore.totals column hcolumn
  rw [← List.take_append_drop before.length more, hrows, hdrop, columnWeights, List.map_append,
    Weights.total_append] at htotal
  have hsum : Weights.total (columnWeights rows column) + row.weights.getD column 0 < UInt64.size := htotal
  omega

end

end QueryVariants.Distribution

namespace QueryVariants.Table

open Text QueryVariants.Distribution

variable {name text : String} {fields weights : List String} {table : Table}

theorem standsFor_of_parse (h : Table.parse name text fields weights = .ok table) :
    List.Forall₂ (fun rec row => StandsFor table.fields table.weights rec.2 row) (records text.toList)
      table.rows := by
  obtain ⟨-, rfl, rfl, -, hall, htotals⟩ := parse_eq_ok_iff.1 h
  exact (accepts_iff.2 ⟨hall, htotals⟩).standsFor

theorem cell_of_standsFor (h : table.WellFormed) {recs : List (Nat × List Char)}
    (hall : List.Forall₂ (fun rec row => StandsFor table.fields table.weights rec.2 row) recs table.rows)
    {row line field : Nat} {record : List Char} (hrecord : recs[row]? = some (line, record))
    (hfield : field < table.fields.length) :
    ∃ value, HasValue record field value ∧ table.cell field row = .ok value := by
  obtain ⟨found, hfound, hstands⟩ := exists_of_forall₂_of_getElem? hall hrecord
  obtain ⟨raws, hhalves, -⟩ := hstands.halves
  obtain ⟨value, hvalue⟩ : ∃ value, found.values[field]? = some value :=
    ⟨_, List.getElem?_eq_getElem (by rwa [hstands.values_length])⟩
  refine ⟨value, ⟨_, raws, hhalves, ?_⟩, (cell_eq_ok_iff h).2 ⟨found, hfound, hvalue⟩⟩
  rw [List.getElem?_map, hvalue, Option.map_some]

theorem weightAt_of_standsFor (h : table.WellFormed) {recs : List (Nat × List Char)}
    (hall : List.Forall₂ (fun rec row => StandsFor table.fields table.weights rec.2 row) recs table.rows)
    {row line column : Nat} {record : List Char} (hrecord : recs[row]? = some (line, record))
    (hcolumn : column < table.weights.length) :
    ∃ weight, HasWeight record column weight ∧ table.weightAt column row = .ok weight := by
  obtain ⟨found, hfound, hstands⟩ := exists_of_forall₂_of_getElem? hall hrecord
  obtain ⟨raws, hhalves, hraws⟩ := hstands.halves
  have hlength := hraws.length_eq.trans hstands.weights_length
  obtain ⟨raw, hraw⟩ : ∃ raw, raws[column]? = some raw :=
    ⟨_, List.getElem?_eq_getElem (by rwa [hlength])⟩
  obtain ⟨weight, hweight, hdenotes⟩ := exists_of_forall₂_of_getElem? hraws hraw
  exact ⟨weight, ⟨_, raws, raw, hhalves, hraw, hdenotes⟩,
    (weightAt_eq_ok_iff h).2 ⟨found, hfound, hweight⟩⟩

theorem holdsColumn (h : table.WellFormed) {recs : List (Nat × List Char)}
    (hall : List.Forall₂ (fun rec row => StandsFor table.fields table.weights rec.2 row) recs table.rows)
    {column : Nat} (hcolumn : column < table.weights.length) :
    HoldsColumn table recs column (columnWeights table.rows column)
      (Weights.runningSums 0 (columnWeights table.rows column)) := by
  have hsize : table.size = recs.length := hall.length_eq.symm
  have hlength : (columnWeights table.rows column).length = recs.length :=
    (List.length_map _).trans hsize
  have hat : ∀ row < recs.length,
      table.weightAt column row = .ok ((columnWeights table.rows column).getD row 0) :=
    fun row hrow => weightAt_eq h hcolumn (hsize ▸ hrow)
  constructor
  case length => exact hlength
  case length_sums => rw [Weights.length_runningSums, hlength]
  case weight =>
    intro row line record hrecord
    obtain ⟨hrow, -⟩ := List.getElem?_eq_some_iff.1 hrecord
    obtain ⟨weight, hweight, hread⟩ := weightAt_of_standsFor h hall hrecord hcolumn
    rw [hat row hrow] at hread
    obtain rfl := Except.ok.inj hread
    exact ⟨hweight, hat row hrow⟩
  case cumulative => exact cumulative_eq_runningSums h hcolumn
  case sum =>
    intro row hrow
    exact Weights.getD_runningSums (by omega)
  case increasing => exact Weights.pairwise_runningSums _
  case difference =>
    intro row hrow
    rw [hat row hrow, Weights.getD_zero_cons_runningSums (by omega), Weights.getD_runningSums (by omega),
      Weights.total_take_succ, Nat.add_sub_cancel_left]
    exact ⟨Nat.le_add_right _ _, rfl⟩
  case total => exact totalWeight_eq h hcolumn
  case total_lt => exact h.totals column hcolumn

theorem holdsRecords_of_parse (h : Table.parse name text fields weights = .ok table) :
    HoldsRecords table (records text.toList) := by
  have hwell := wellFormed_of_parse h
  have hall := standsFor_of_parse h
  constructor
  case fields_ne_nil => exact hwell.fields_ne_nil
  case weights_ne_nil => exact hwell.weights_ne_nil
  case size_pos => exact List.length_pos_iff.2 hwell.rows_ne_nil
  case size_eq => exact hall.length_eq.symm
  case cell => exact fun _ _ _ hrecord _ hfield => cell_of_standsFor hwell hall hrecord hfield
  case column => exact fun _ hcolumn => ⟨_, _, holdsColumn hwell hall hcolumn⟩

/-- A text whose records are not accepted is refused at the first that does not fit. -/
theorem exists_firstOffence (h : ∀ rows, ¬Accepts fields weights (records text.toList) rows) :
    ∃ line problem, Table.parse name text fields weights = .error (.distributionFormat name line problem) ∧
      FirstOffence fields weights (records text.toList) line problem := by
  cases hread : readRows name fields weights (weights.map fun _ => 0) (records text.toList) with
  | ok rows => exact absurd (accepts_iff.2 (readRows_zero_eq_ok_iff.1 hread)) (h rows)
  | error error =>
      obtain ⟨before, line, record, after, rows, problem, hrecords, rfl, hrows, hproblem⟩ :=
        exists_first_problem hread (by simp)
      have hbefore := accepts_iff.2 (readRows_zero_eq_ok_iff.1 hrows)
      simp only [getD_map_zero, Nat.zero_add] at hproblem
      refine ⟨line, problem, ?_, before, record, after, rows, hrecords, hbefore,
        fun more => hproblem.not_accepts hbefore more, hproblem⟩
      rw [Table.parse, hread]

/-- **Which texts are tables.** A text is a table exactly if it has a record and all of its records are
accepted, and the table then holds what the records say. A text without a record is empty; any other is refused
at the first record that does not fit, with the number of its line. -/
theorem parse_by_grammar (name text : String) (fields weights : List String) :
    (∀ table, Table.parse name text fields weights = .ok table ↔
      table.name = name ∧ table.fields = fields ∧ table.weights = weights ∧ records text.toList ≠ [] ∧
        Accepts fields weights (records text.toList) table.rows) ∧
    (∀ table, Table.parse name text fields weights = .ok table →
      HoldsRecords table (records text.toList)) ∧
    (records text.toList = [] → Table.parse name text fields weights = .error (.emptyDistribution name)) ∧
    (records text.toList ≠ [] → (∀ rows, ¬Accepts fields weights (records text.toList) rows) →
      ∃ line problem, Table.parse name text fields weights = .error (.distributionFormat name line problem) ∧
        FirstOffence fields weights (records text.toList) line problem) ∧
    (∀ line record, (line, record) ∈ records text.toList ↔ IsRecord text.toList line record) ∧
    (records text.toList).Pairwise (fun first second => first.1 < second.1) := by
  refine ⟨?_, fun _ => holdsRecords_of_parse, ?_, fun _ => exists_firstOffence, fun _ _ => mem_records_iff,
    pairwise_records _⟩
  · intro table
    rw [parse_eq_ok_iff, accepts_iff]
    refine and_congr_right fun _ => and_congr_right fun _ => and_congr_right fun _ => ?_
    refine and_congr_left fun hall => ?_
    rw [ne_eq, ne_eq, ← List.length_eq_zero_iff, ← List.length_eq_zero_iff, hall.1.length_eq]
  · intro hnone
    rw [Table.parse, hnone]
    rfl

/-- A comment and a blank line stand before the record whose second weight is negative. -/
theorem parse_by_grammar_negative :
    Table.parse "letters" "-- letters\n\na:1,2\nb:1,-3\nc" ["letter"] ["1", "2"] =
        .error (.distributionFormat "letters" 4 "weight cannot be negative: -3") ∧
      FirstOffence ["letter"] ["1", "2"] (records "-- letters\n\na:1,2\nb:1,-3\nc".toList) 4
        "weight cannot be negative: -3" := by
  have hparse : Table.parse "letters" "-- letters\n\na:1,2\nb:1,-3\nc" ["letter"] ["1", "2"] =
      .error (.distributionFormat "letters" 4 "weight cannot be negative: -3") := by
    decide +kernel
  obtain ⟨hok, -, -, hrefused, -⟩ :=
    parse_by_grammar "letters" "-- letters\n\na:1,2\nb:1,-3\nc" ["letter"] ["1", "2"]
  have hrecords : records "-- letters\n\na:1,2\nb:1,-3\nc".toList ≠ [] := by
    decide
  have hnone : ∀ rows, ¬Accepts ["letter"] ["1", "2"]
      (records "-- letters\n\na:1,2\nb:1,-3\nc".toList) rows := by
    intro rows haccepts
    have htable := (hok ⟨"letters", ["letter"], ["1", "2"], rows⟩).2 ⟨rfl, rfl, rfl, hrecords, haccepts⟩
    rw [hparse] at htable
    cases htable
  obtain ⟨line, problem, herror, hoffence⟩ := hrefused hrecords hnone
  rw [hparse] at herror
  obtain ⟨-, rfl, rfl⟩ := Error.distributionFormat.inj (Except.error.inj herror)
  exact ⟨hparse, hoffence⟩

end QueryVariants.Table
