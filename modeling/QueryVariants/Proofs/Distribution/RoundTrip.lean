import QueryVariants.Proofs.Distribution.WellFormed
import QueryVariants.Proofs.Weights

/-!
# Writing a table and reading it back

A value is written between a backslash and a backslash with a space, and each comma and colon inside gets
a backslash of its own. The outer backslashes keep the blanks at the ends of the value from being cut off
and the line from being taken for a comment, and the space keeps the last of them from escaping what
follows. All backslashes go when the line has been split, so the value comes back whatever it holds.
-/

namespace QueryVariants

open Text QueryVariants.Distribution

namespace Distribution

/-! ### The written form -/

/-- A character of a value; what separates gets a backslash. -/
def escapedChar (c : Char) : List Char :=
  if c = ',' ∨ c = ':' then ['\\', c] else [c]

/-- The written form of a value without the space that ends it. -/
def escaped (value : List Char) : List Char :=
  '\\' :: value.flatMap escapedChar ++ ['\\']

def writtenValue (value : List Char) : List Char :=
  escaped value ++ [' ']

def writtenRow (row : Row) : List Char :=
  List.intercalate [','] ((row.values.map String.toList).map writtenValue) ++
    ':' :: List.intercalate [','] (row.weights.map natDigits)

/-- The rows, each on a line of its own. -/
def writtenRows (rows : List Row) : String :=
  String.ofList ((rows.map writtenRow).flatMap (· ++ ['\n']))

/-! ### Values -/

section

variable {delimiter : Char} {before : Bool} {value : List Char}

theorem covered_escapedChars (hdelimiter : delimiter = ',' ∨ delimiter = ':') (rest : List Char)
    (hrest : ∀ before, covered delimiter before rest = true) :
    covered delimiter before (value.flatMap escapedChar ++ rest) = true := by
  induction value generalizing before with
  | nil => exact hrest before
  | cons c value ih =>
      rw [List.flatMap_cons, List.append_assoc, escapedChar]
      split
      · have hbackslash : '\\' ≠ delimiter := by
          rintro rfl
          simp at hdelimiter
        simp [covered, hbackslash, ih]
      · rename_i hc
        have hne : c ≠ delimiter := by
          rintro rfl
          exact hc hdelimiter
        simp [covered, hne, ih]

theorem covered_escaped (hdelimiter : delimiter = ',' ∨ delimiter = ':') :
    covered delimiter before (escaped value) = true := by
  have hbackslash : delimiter ∉ ['\\'] := by
    rintro h
    rw [List.mem_singleton.1 h] at hdelimiter
    simp at hdelimiter
  have hrest : covered delimiter true (value.flatMap escapedChar ++ ['\\']) = true :=
    covered_escapedChars hdelimiter ['\\'] fun before => covered_of_notMem hbackslash
  have hfirst : '\\' ≠ delimiter := by simpa [eq_comm] using hbackslash
  simp [escaped, covered, hfirst, hrest]

theorem covered_writtenValue (hdelimiter : delimiter = ',' ∨ delimiter = ':') :
    covered delimiter before (writtenValue value) = true := by
  have hspace : delimiter ∉ [' '] := by
    rintro h
    rw [List.mem_singleton.1 h] at hdelimiter
    simp at hdelimiter
  rw [writtenValue, covered_append, covered_escaped hdelimiter, covered_of_notMem hspace]
  rfl

theorem endsEscaped_writtenValue : endsEscaped before (writtenValue value) = false := by
  rw [writtenValue, endsEscaped_append]
  rfl

theorem trimmed_escaped : Trimmed (escaped value) :=
  .enclosed _ (by decide) (by decide)

theorem trim_writtenValue : trim (writtenValue value) = escaped value :=
  trimmed_escaped.trim_append_blank (by decide)

theorem filter_escaped (h : '\\' ∉ value) : (escaped value).filter (· ≠ '\\') = value := by
  have hchars : ∀ s : List Char, '\\' ∉ s → (s.flatMap escapedChar).filter (· ≠ '\\') = s := by
    intro s hs
    induction s with
    | nil => rfl
    | cons c s ih =>
        obtain ⟨hc, hs⟩ := List.ne_and_not_mem_of_not_mem_cons hs
        rw [List.flatMap_cons, List.filter_append, ih hs, escapedChar]
        split <;> simp [Ne.symm hc]
  simp only [escaped, List.cons_append, List.filter_cons, List.filter_append, hchars value h]
  simp

end

/-! ### Rows -/

/-- The values of a row, joined and trimmed, are split where they were joined. -/
theorem exists_trimmed_of_values (value : List Char) (values : List (List Char)) :
    ∃ s, List.intercalate [','] ((value :: values).map writtenValue) = s ++ [' '] ∧ Trimmed s ∧
      splitUnescaped ',' s = (value :: values).map escaped := by
  induction values generalizing value with
  | nil =>
      refine ⟨escaped value, by simp [writtenValue], trimmed_escaped, ?_⟩
      rw [splitUnescaped, splitAt_of_covered (covered_escaped (.inl rfl)), List.map_singleton,
        trimmed_escaped.trim_eq, List.map_singleton]
  | cons next values ih =>
      obtain ⟨s, hjoin, htrimmed, hsplit⟩ := ih next
      refine ⟨writtenValue value ++ ',' :: s, ?_, ?_, ?_⟩
      · rw [List.map_cons, List.map_cons, List.intercalate_cons_cons, ← List.map_cons, hjoin]
        simp
      · obtain ⟨last, hlast, hblank⟩ := htrimmed.last
        refine ⟨⟨'\\', rfl, by decide⟩, ⟨last, ?_, hblank⟩⟩
        rw [List.getLast?_append, List.getLast?_cons, hlast]
        rfl
      · rw [splitUnescaped, splitAt_append (covered_writtenValue (.inl rfl)) endsEscaped_writtenValue,
          List.map_cons, trim_writtenValue, ← splitUnescaped, hsplit]
        rfl

theorem splitValues_values {values : List (List Char)} (hne : values ≠ [])
    (h : ∀ value ∈ values, '\\' ∉ value) :
    splitValues (trim (List.intercalate [','] (values.map writtenValue))) = values := by
  obtain ⟨value, rest, rfl⟩ := List.exists_cons_of_ne_nil hne
  obtain ⟨s, hjoin, htrimmed, hsplit⟩ := exists_trimmed_of_values value rest
  rw [hjoin, htrimmed.trim_append_blank (by decide), splitValues, hsplit, List.map_map]
  conv => rhs; rw [← List.map_id (value :: rest)]
  apply List.map_congr_left
  intro other hother
  exact filter_escaped (h other hother)

theorem notMem_natDigits {c : Char} (hc : c.isDigit = false) (n : Nat) : c ∉ natDigits n := by
  intro hmem
  rw [isDigit_of_mem_natDigits hmem] at hc
  cases hc

theorem trimmed_natDigits (n : Nat) : Trimmed (natDigits n) :=
  .of_isDigit natDigits_ne_nil fun _ => isDigit_of_mem_natDigits

theorem trimmed_joined_weights {weights : List Nat} (hne : weights ≠ []) :
    Trimmed (List.intercalate [','] (weights.map natDigits)) := by
  induction weights with
  | nil => exact absurd rfl hne
  | cons weight weights ih =>
      cases weights with
      | nil => simpa using trimmed_natDigits weight
      | cons next rest =>
          rw [List.map_cons, List.map_cons, List.intercalate_cons_cons, ← List.map_cons]
          exact ((trimmed_natDigits weight).append (.singleton (by decide))).append
            (ih (List.cons_ne_nil _ _))

theorem splitValues_weights {weights : List Nat} (hne : weights ≠ []) :
    splitValues (trim (List.intercalate [','] (weights.map natDigits))) = weights.map natDigits := by
  have hcovered : ∀ piece ∈ weights.map natDigits, covered ',' false piece = true := by
    intro piece hpiece
    obtain ⟨weight, -, rfl⟩ := List.mem_map.1 hpiece
    exact covered_of_notMem (notMem_natDigits rfl weight)
  have hend : ∀ piece ∈ weights.map natDigits, endsEscaped false piece = false := by
    intro piece hpiece
    obtain ⟨weight, -, rfl⟩ := List.mem_map.1 hpiece
    exact endsEscaped_of_notMem natDigits_ne_nil (notMem_natDigits rfl weight)
  rw [(trimmed_joined_weights hne).trim_eq, splitValues, splitUnescaped,
    splitAt_intercalate (by simpa using hne) hcovered hend, List.map_map, List.map_map]
  apply List.map_congr_left
  intro weight _
  have hplain : ∀ c ∈ natDigits weight, decide (c ≠ '\\') = true := by
    intro c hc
    exact decide_eq_true fun heq => notMem_natDigits rfl weight (heq ▸ hc)
  simp only [Function.comp_apply, (trimmed_natDigits weight).trim_eq, List.filter_eq_self.2 hplain]

theorem covered_joined_values (values : List (List Char)) :
    covered ':' false (List.intercalate [','] (values.map writtenValue)) = true := by
  apply covered_intercalate (by decide)
  intro piece hpiece before
  obtain ⟨value, -, rfl⟩ := List.mem_map.1 hpiece
  exact covered_writtenValue (.inr rfl)

theorem covered_joined_weights (weights : List Nat) :
    covered ':' false (List.intercalate [','] (weights.map natDigits)) = true := by
  apply covered_intercalate (by decide)
  intro piece hpiece before
  obtain ⟨weight, -, rfl⟩ := List.mem_map.1 hpiece
  exact covered_of_notMem (notMem_natDigits rfl weight)

/-- The written form of a row is read as that row. -/
theorem readFrom_writtenRow {fields weights : List String} {row : Row}
    (hvalues : row.values ≠ []) (hweights : row.weights ≠ [])
    (hfields : row.values.length = fields.length) (hnames : row.weights.length = weights.length)
    (hplain : ∀ value ∈ row.values, '\\' ∉ value.toList)
    (hbound : ∀ weight ∈ row.weights, weight ≤ maxSigned) :
    row.ReadFrom fields weights (writtenRow row) := by
  have hne : row.values.map String.toList ≠ [] := by simpa using hvalues
  have hend : endsEscaped false
      (List.intercalate [','] ((row.values.map String.toList).map writtenValue)) = false := by
    obtain ⟨value, rest, heq⟩ := List.exists_cons_of_ne_nil hne
    obtain ⟨s, hjoin, -, -⟩ := exists_trimmed_of_values value rest
    rw [heq, hjoin, endsEscaped_append]
    rfl
  refine ⟨⟨trim (List.intercalate [','] ((row.values.map String.toList).map writtenValue)),
    trim (List.intercalate [','] (row.weights.map natDigits)), ?_, ?_, ?_⟩, hfields, hnames⟩
  · rw [splitParts, splitUnescaped, writtenRow, splitAt_append (covered_joined_values _) hend,
      splitAt_of_covered (covered_joined_weights _)]
    rfl
  · rw [splitValues_values hne (by simpa using hplain), List.map_map]
    simp [Function.comp_def]
  · rw [splitValues_weights hweights, List.map_map]
    apply List.map_congr_left
    intro weight hweight
    exact readSigned?_natDigits (hbound weight hweight)

/-! ### Tables -/

theorem newline_notMem_writtenValue {value : List Char} (h : '\n' ∉ value) :
    '\n' ∉ writtenValue value := by
  have hchars : '\n' ∉ value.flatMap escapedChar := by
    intro hmem
    obtain ⟨c, hc, hmem⟩ := List.mem_flatMap.1 hmem
    rw [escapedChar] at hmem
    split at hmem
    · obtain rfl : '\n' = c := by simpa using hmem
      exact h hc
    · obtain rfl := List.mem_singleton.1 hmem
      exact h hc
  simp [writtenValue, escaped, hchars]

theorem newline_notMem_writtenRow {row : Row} (h : ∀ value ∈ row.values, '\n' ∉ value.toList) :
    '\n' ∉ writtenRow row := by
  have hleft : '\n' ∉ List.intercalate [','] ((row.values.map String.toList).map writtenValue) := by
    apply notMem_intercalate (by decide)
    intro piece hpiece
    obtain ⟨chars, hchars, rfl⟩ := List.mem_map.1 hpiece
    obtain ⟨value, hvalue, rfl⟩ := List.mem_map.1 hchars
    exact newline_notMem_writtenValue (h value hvalue)
  have hright : '\n' ∉ List.intercalate [','] (row.weights.map natDigits) := by
    apply notMem_intercalate (by decide)
    intro piece hpiece
    obtain ⟨weight, -, rfl⟩ := List.mem_map.1 hpiece
    exact notMem_natDigits rfl weight
  rw [writtenRow, List.mem_append, List.mem_cons]
  rintro (hmem | hmem | hmem)
  · exact hleft hmem
  · cases hmem
  · exact hright hmem

/-- A row begins with a backslash and ends with a digit. -/
theorem trimmed_writtenRow {row : Row} (hvalues : row.values ≠ []) (hweights : row.weights ≠ []) :
    (∃ rest, writtenRow row = '\\' :: rest) ∧ Trimmed (writtenRow row) := by
  obtain ⟨value, values, heq⟩ := List.exists_cons_of_ne_nil hvalues
  have hhead : ∃ rest, writtenRow row = '\\' :: rest := by
    rw [writtenRow, heq]
    cases values with
    | nil => exact ⟨_, rfl⟩
    | cons next rest =>
        rw [List.map_cons, List.map_cons, List.map_cons, List.map_cons, List.intercalate_cons_cons]
        exact ⟨_, rfl⟩
  obtain ⟨last, hlast, hblank⟩ := (trimmed_joined_weights hweights).last
  refine ⟨hhead, ?_, ⟨last, ?_, hblank⟩⟩
  · obtain ⟨rest, hrest⟩ := hhead
    exact ⟨'\\', by rw [hrest]; rfl, by decide⟩
  · rw [writtenRow, List.getLast?_append, List.getLast?_cons, hlast]
    rfl

/-- The records of a written table are its rows. -/
theorem map_snd_records_writtenRows {rows : List Row} (hvalues : ∀ row ∈ rows, row.values ≠ [])
    (hweights : ∀ row ∈ rows, row.weights ≠ [])
    (hnewline : ∀ row ∈ rows, ∀ value ∈ row.values, '\n' ∉ value.toList) :
    (records (writtenRows rows).toList).map Prod.snd = rows.map writtenRow := by
  have hlines : lines (writtenRows rows).toList = rows.map writtenRow := by
    rw [writtenRows, String.toList_ofList]
    apply lines_flatMap
    · intro line hline
      obtain ⟨row, hrow, rfl⟩ := List.mem_map.1 hline
      exact newline_notMem_writtenRow (hnewline row hrow)
    · intro line hline hreturn
      obtain ⟨row, hrow, rfl⟩ := List.mem_map.1 hline
      obtain ⟨last, hlast, hblank⟩ := (trimmed_writtenRow (hvalues row hrow) (hweights row hrow)).2.last
      obtain rfl := Option.some.inj (hlast.symm.trans hreturn)
      cases hblank
  have htrim : (rows.map writtenRow).map trim = rows.map writtenRow := by
    rw [List.map_map]
    apply List.map_congr_left
    intro row hrow
    exact (trimmed_writtenRow (hvalues row hrow) (hweights row hrow)).2.trim_eq
  rw [map_snd_records, hlines, htrim, List.filter_eq_self]
  intro line hline
  obtain ⟨row, hrow, rfl⟩ := List.mem_map.1 hline
  obtain ⟨rest, hrest⟩ := (trimmed_writtenRow (hvalues row hrow) (hweights row hrow)).1
  rw [hrest]
  rfl

end Distribution

namespace Table

variable {table : Table}

theorem WellFormed.values_ne_nil (h : table.WellFormed) {row : Row} (hrow : row ∈ table.rows) :
    row.values ≠ [] := by
  intro hnil
  have hlength := h.values_length row hrow
  rw [hnil, List.length_nil, eq_comm, List.length_eq_zero_iff] at hlength
  exact h.fields_ne_nil hlength

theorem WellFormed.row_weights_ne_nil (h : table.WellFormed) {row : Row} (hrow : row ∈ table.rows) :
    row.weights ≠ [] := by
  intro hnil
  have hlength := h.weights_length row hrow
  rw [hnil, List.length_nil, eq_comm, List.length_eq_zero_iff] at hlength
  exact h.weights_ne_nil hlength

theorem WellFormed.parse_written (h : table.WellFormed) :
    Table.parse table.name (writtenRows table.rows) table.fields table.weights = .ok table := by
  have hrecords := map_snd_records_writtenRows (fun _ => h.values_ne_nil)
    (fun _ => h.row_weights_ne_nil) fun row hrow value hvalue => (h.values row hrow value hvalue).2
  refine parse_eq_ok_iff.2 ⟨rfl, rfl, rfl, h.rows_ne_nil, ?_, h.totals⟩
  rw [← List.forall₂_map_left_iff (f := Prod.snd)
    (R := fun record row => Row.ReadFrom table.fields table.weights record row), hrecords,
    List.forall₂_map_left_iff, List.forall₂_same]
  intro row hrow
  exact readFrom_writtenRow (h.values_ne_nil hrow) (h.row_weights_ne_nil hrow)
    (h.values_length row hrow) (h.weights_length row hrow)
    (fun value hvalue => (h.values row hrow value hvalue).1) (h.weights row hrow)

/-- The running sums of a column are the totals of its beginnings. -/
theorem cumulative_eq (h : table.WellFormed) {column : Nat} (hcolumn : column < table.weights.length) :
    table.cumulative column = .ok ((List.range table.size).map fun row =>
      Weights.total ((columnWeights table.rows column).take (row + 1))) := by
  rw [cumulative_eq_runningSums h hcolumn]
  congr 1
  apply List.ext_getElem?
  intro row
  have hlength : (columnWeights table.rows column).length = table.size := List.length_map _
  rw [Weights.getElem?_runningSums, hlength, List.getElem?_map, Nat.zero_add]
  by_cases hrow : row < table.size
  · rw [if_pos hrow, List.getElem?_range hrow, Option.map_some]
  · rw [if_neg hrow, List.getElem?_eq_none (by simpa using hrow), Option.map_none]

/-- **Every table can be written and read back.**
1. The written rows of a table are read, and as that very table, exactly if it is well formed: whatever
   characters its values hold besides backslashes and line feeds.
2. The table that was read from any text is the one read from its own written rows.
3. The table then has the cells and the weights of its rows, and the running sums of a column are the
   totals of its beginnings. -/
theorem parse_writtenRows_iff (table : Table) :
    (Table.parse table.name (writtenRows table.rows) table.fields table.weights = .ok table ↔
      table.WellFormed) ∧
    (∀ text, Table.parse table.name text table.fields table.weights = .ok table →
      Table.parse table.name (writtenRows table.rows) table.fields table.weights = .ok table) ∧
    (table.WellFormed →
      (∀ field row value, table.cell field row = .ok value ↔
        ∃ r, table.rows[row]? = some r ∧ r.values[field]? = some value) ∧
      (∀ column row weight, table.weightAt column row = .ok weight ↔
        ∃ r, table.rows[row]? = some r ∧ r.weights[column]? = some weight) ∧
      ∀ column < table.weights.length,
        table.cumulative column = .ok ((List.range table.size).map fun row =>
          Weights.total ((columnWeights table.rows column).take (row + 1)))) := by
  refine ⟨⟨wellFormed_of_parse, WellFormed.parse_written⟩, ?_, ?_⟩
  · intro text htext
    exact (wellFormed_of_parse htext).parse_written
  · intro h
    exact ⟨fun _ _ _ => cell_eq_ok_iff h, fun _ _ _ => weightAt_eq_ok_iff h, fun _ => cumulative_eq h⟩

/-- Values that are blank, that look like a comment and that hold what separates. -/
def awkwardTable : Table :=
  ⟨"awkward", ["first", "second"], ["even", "skewed"],
    [⟨["", " --a, b:\t"], [0, 9223372036854775807]⟩, ⟨[":", ",,"], [1, 9223372036854775807]⟩]⟩

theorem parse_writtenRows_awkwardTable :
    Table.parse "awkward" (writtenRows awkwardTable.rows) ["first", "second"] ["even", "skewed"] =
      .ok awkwardTable := by
  refine (parse_writtenRows_iff awkwardTable).1.2 ?_
  constructor <;> decide

end Table

end QueryVariants
