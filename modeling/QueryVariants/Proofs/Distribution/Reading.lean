import Mathlib.Data.List.Forall2
import QueryVariants.Distribution.Table
import QueryVariants.Proofs.Distribution.Splitting
import QueryVariants.Proofs.Result

/-!
# When a table is read

Reading a table threads the running sums of its weight columns through the records. What it comes to
can be said without them: each record must read as a row by itself, and the totals of the columns must
fit in 64 bits. `Table.parse_eq_ok_iff` says so for the whole text; it is the only statement on `parse`
that the other proofs need.
-/

namespace QueryVariants

open Text QueryVariants.Distribution

/-- The weights of the rows at one place. -/
def columnWeights (rows : List Row) (column : Nat) : List Nat :=
  rows.map fun row => row.weights.getD column 0

/-- A row holds what the record says, with as many values and weights as there are names. -/
structure Row.ReadFrom (fields weights : List String) (record : List Char) (row : Row) : Prop where
  parts : ∃ left right, splitParts record = [left, right] ∧
    row.values = (splitValues left).map String.ofList ∧
    (splitValues right).map readSigned? = row.weights.map fun weight : Nat => some (weight : Int)
  values_length : row.values.length = fields.length
  weights_length : row.weights.length = weights.length

namespace Table

section

variable {fail : String → Error} {fields weightNames : List String} {sums weights : List Nat}
  {raws : List (List Char)} {record : List Char} {row : Row}

theorem getD_zipWith_add (h : weights.length = sums.length) (i : Nat) :
    (List.zipWith (· + ·) sums weights).getD i 0 = sums.getD i 0 + weights.getD i 0 := by
  induction sums generalizing weights i with
  | nil =>
      obtain rfl := List.length_eq_zero_iff.1 h
      rfl
  | cons sum sums ih =>
      obtain ⟨weight, weights, rfl⟩ := List.exists_cons_of_length_eq_add_one h
      cases i with
      | zero => rfl
      | succ i => exact ih (by simpa using h) i

/-- Weights are read if each is a number that is not negative and fits on top of its running sum. -/
theorem readWeights_eq_ok_iff (h : raws.length = sums.length) :
    readWeights fail sums raws = .ok weights ↔
      raws.map readSigned? = weights.map (fun weight : Nat => some (weight : Int)) ∧
        ∀ i < sums.length, sums.getD i 0 + weights.getD i 0 < UInt64.size := by
  induction sums generalizing raws weights with
  | nil =>
      obtain rfl := List.length_eq_zero_iff.1 h
      cases weights <;> simp [readWeights]
  | cons sum sums ih =>
      obtain ⟨raw, raws, rfl⟩ := List.exists_cons_of_length_eq_add_one h
      have hlength : raws.length = sums.length := by simpa using h
      rw [readWeights, List.length_cons, Nat.forall_lt_succ_left]
      constructor
      · intro hread
        split at hread
        · cases hread
        · rename_i value hvalue
          split at hread
          · cases hread
          · rename_i hneg
            split at hread
            · cases hread
            · rename_i hfit
              obtain ⟨rest, hrest, rfl⟩ := Result.map_eq_ok_iff.1 hread
              obtain ⟨hraws, hsums⟩ := (ih hlength).1 hrest
              have hcast : ((value.toNat : Nat) : Int) = value := Int.toNat_of_nonneg (by omega)
              refine ⟨?_, Nat.lt_of_not_le hfit, hsums⟩
              rw [List.map_cons, List.map_cons, hvalue, hraws, hcast]
      · rintro ⟨hraws, hfirst, hsums⟩
        cases weights with
        | nil => cases hraws
        | cons weight weights =>
            obtain ⟨hvalue, hraws⟩ := List.cons.inj hraws
            have hneg : ¬((weight : Int) < 0) := by omega
            have hfit : ¬UInt64.size ≤ sum + weight := Nat.not_le_of_lt hfirst
            have hrest := (ih hlength).2 ⟨hraws, hsums⟩
            simp only [hvalue, if_neg hneg, Int.toNat_natCast, if_neg hfit, hrest]
            rfl

/-- A record is read as a row if it fits the names by itself and its weights fit on top of the sums. -/
theorem readRow_eq_ok_iff (h : weightNames.length = sums.length) :
    readRow fail fields weightNames sums record = .ok row ↔
      row.ReadFrom fields weightNames record ∧
        ∀ i < sums.length, sums.getD i 0 + row.weights.getD i 0 < UInt64.size := by
  rw [readRow]
  constructor
  · intro hread
    split at hread
    · rename_i left right hparts
      simp only at hread
      split at hread
      · cases hread
      · rename_i hvalues
        split at hread
        · cases hread
        · rename_i hraws
          obtain ⟨weights, hweights, rfl⟩ := Result.map_eq_ok_iff.1 hread
          obtain ⟨hmap, hsums⟩ := (readWeights_eq_ok_iff (by omega)).1 hweights
          have hlength := congrArg List.length hmap
          simp only [List.length_map] at hlength
          exact ⟨⟨⟨left, right, hparts, rfl, hmap⟩, not_not.1 hvalues, by simp only; omega⟩, hsums⟩
    · cases hread
  · rintro ⟨⟨⟨left, right, hparts, hvalues, hmap⟩, hfields, hnames⟩, hsums⟩
    have hlength := congrArg List.length hmap
    simp only [List.length_map] at hlength
    have hleft : ¬((splitValues left).map String.ofList).length ≠ fields.length := by
      rw [← hvalues]
      exact not_not_intro hfields
    have hright : ¬(splitValues right).length ≠ weightNames.length := by omega
    have hread : readWeights fail sums (splitValues right) = .ok row.weights :=
      (readWeights_eq_ok_iff (by omega)).2 ⟨hmap, hsums⟩
    simp only [hparts, if_neg hleft, if_neg hright, hread]
    rw [← hvalues]
    rfl

theorem readRows_cons_eq_ok_iff {name : String} {line : Nat} {recs : List (Nat × List Char)}
    {rows : List Row} :
    readRows name fields weightNames sums ((line, record) :: recs) = .ok rows ↔
      ∃ row rest, rows = row :: rest ∧
        readRow (.distributionFormat name line) fields weightNames sums record = .ok row ∧
        readRows name fields weightNames (List.zipWith (· + ·) sums row.weights) recs = .ok rest := by
  rw [readRows]
  constructor
  · intro hread
    split at hread
    · cases hread
    · rename_i row hrow
      obtain ⟨rest, hrest, rfl⟩ := Result.map_eq_ok_iff.1 hread
      exact ⟨row, rest, rfl, hrow, hrest⟩
  · rintro ⟨row, rest, rfl, hrow, hrest⟩
    simp only [hrow, hrest]
    rfl

/-- The records of a table are read if each fits by itself and the columns fit on top of the sums. -/
theorem readRows_eq_ok_iff {name : String} {recs : List (Nat × List Char)} {rows : List Row}
    (h : weightNames.length = sums.length) (hsums : ∀ i < sums.length, sums.getD i 0 < UInt64.size) :
    readRows name fields weightNames sums recs = .ok rows ↔
      List.Forall₂ (fun rec row => Row.ReadFrom fields weightNames rec.2 row) recs rows ∧
        ∀ i < sums.length, sums.getD i 0 + Weights.total (columnWeights rows i) < UInt64.size := by
  induction recs generalizing sums rows with
  | nil =>
      cases rows with
      | nil => simpa [readRows, columnWeights, Weights.total] using hsums
      | cons row rows => simp [readRows]
  | cons rec recs ih =>
      obtain ⟨line, record⟩ := rec
      -- What is read after a row is read on top of the sums that the row adds to.
      have hnext : ∀ {row : Row} {rows : List Row}, row.weights.length = sums.length →
          (∀ i < sums.length, sums.getD i 0 + row.weights.getD i 0 < UInt64.size) →
          (readRows name fields weightNames (List.zipWith (· + ·) sums row.weights) recs = .ok rows ↔
            List.Forall₂ (fun rec row => Row.ReadFrom fields weightNames rec.2 row) recs rows ∧
              ∀ i < sums.length, sums.getD i 0 + Weights.total (columnWeights (row :: rows) i) <
                UInt64.size) := by
        intro row rows hlength hfit
        have hzip : (List.zipWith (· + ·) sums row.weights).length = sums.length := by simp [hlength]
        rw [ih (h.trans hzip.symm) (by simpa only [hzip, getD_zipWith_add hlength] using hfit)]
        simp only [hzip, getD_zipWith_add hlength, Nat.add_assoc]
        rfl
      rw [readRows_cons_eq_ok_iff]
      constructor
      · rintro ⟨row, rest, rfl, hrow, hrest⟩
        obtain ⟨hfrom, hfit⟩ := (readRow_eq_ok_iff h).1 hrow
        obtain ⟨hall, htotals⟩ := (hnext (hfrom.weights_length.trans h) hfit).1 hrest
        exact ⟨.cons hfrom hall, htotals⟩
      · rintro ⟨hall, htotals⟩
        cases hall with
        | @cons _ row _ rest hfrom hall =>
            have hfit : ∀ i < sums.length, sums.getD i 0 + row.weights.getD i 0 < UInt64.size := by
              intro i hi
              have htotal : sums.getD i 0 + (row.weights.getD i 0 + Weights.total (columnWeights rest i)) <
                  UInt64.size := htotals i hi
              omega
            exact ⟨row, rest, rfl, (readRow_eq_ok_iff h).2 ⟨hfrom, hfit⟩,
              (hnext (hfrom.weights_length.trans h) hfit).2 ⟨hall, htotals⟩⟩

end

theorem getD_map_zero (weights : List String) (i : Nat) : (weights.map fun _ => 0).getD i 0 = 0 := by
  rw [List.getD_eq_getElem?_getD, List.getElem?_map]
  cases weights[i]? <;> rfl

/-- Records are read from the start of a table if each fits by itself and the columns have totals of 64 bits. -/
theorem readRows_zero_eq_ok_iff {name : String} {fields weights : List String}
    {recs : List (Nat × List Char)} {rows : List Row} :
    readRows name fields weights (weights.map fun _ => 0) recs = .ok rows ↔
      List.Forall₂ (fun rec row => Row.ReadFrom fields weights rec.2 row) recs rows ∧
        ∀ i < weights.length, Weights.total (columnWeights rows i) < UInt64.size := by
  rw [readRows_eq_ok_iff (by simp) ?_]
  · simp only [List.length_map, getD_map_zero, Nat.zero_add]
  · intro i _
    rw [getD_map_zero]
    decide

/-- **When a table is read.** The text must have a record, each record must read as a row by itself, and
each column must have a total below `2 ^ 64`; the rows are then those of the records, in order. -/
theorem parse_eq_ok_iff {name text : String} {fields weights : List String} {table : Table} :
    Table.parse name text fields weights = .ok table ↔
      table.name = name ∧ table.fields = fields ∧ table.weights = weights ∧ table.rows ≠ [] ∧
        List.Forall₂ (fun rec row => Row.ReadFrom fields weights rec.2 row) (records text.toList)
          table.rows ∧
        ∀ i < weights.length, Weights.total (columnWeights table.rows i) < UInt64.size := by
  rw [Table.parse]
  constructor
  · intro hparse
    split at hparse
    · cases hparse
    · cases hparse
    · rename_i rows hne hrows
      obtain rfl := Except.ok.inj hparse
      obtain ⟨hall, htotals⟩ := readRows_zero_eq_ok_iff.1 hrows
      exact ⟨rfl, rfl, rfl, hne, hall, htotals⟩
  · rintro ⟨rfl, rfl, rfl, hne, hall, htotals⟩
    split
    · rename_i heq
      rw [readRows_zero_eq_ok_iff.2 ⟨hall, htotals⟩] at heq
      cases heq
    · rename_i heq
      rw [readRows_zero_eq_ok_iff.2 ⟨hall, htotals⟩] at heq
      exact absurd (Except.ok.inj heq) hne
    · rename_i found _ heq
      rw [readRows_zero_eq_ok_iff.2 ⟨hall, htotals⟩] at heq
      obtain rfl := Except.ok.inj heq
      rfl

end Table

end QueryVariants
