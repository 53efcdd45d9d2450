import QueryVariants.Proofs.Distribution.Grammar

/-!
# What is wrong with a record

A reader of tables stops at the first record that fits neither the names nor the sums before it, and reports
what is wrong. Each report is tied here to its cause in the grammar of records: the parts, the values and the
weights are counted in this order, and then the weights are taken one by one.
-/

namespace QueryVariants.Distribution

open Text

/-- What is wrong with a weight on top of the sum of its column, as it is reported. -/
inductive WeightProblem (sum : Nat) (raw : List Char) : String → Prop where
  | notInteger (denotes : ∀ n, ¬Denotes raw n) :
      WeightProblem sum raw s!"weight '{String.ofList raw}' is not an integer"
  | negative {n : Int} (denotes : Denotes raw n) (negative : n < 0) :
      WeightProblem sum raw s!"weight cannot be negative: {n}"
  | overflow {n : Nat} (denotes : Denotes raw n) (overflow : UInt64.size ≤ sum + n) :
      WeightProblem sum raw "cumulative weight overflows"

/-- What is wrong with a record on top of the sums of the columns, as it is reported. -/
inductive Problem (fields weights : List String) (sums : Nat → Nat) (record : List Char) : String → Prop where
  | parts {pieces : List (List Char)} (cuts : Cuts ':' record pieces) (count : pieces.length ≠ 2) :
      Problem fields weights sums record
        (s!"expected 2 colon-separated parts but found {pieces.length}: " ++ String.ofList record)
  | values {values raws : List (List Char)} (halves : Halves record values raws)
      (count : values.length ≠ fields.length) :
      Problem fields weights sums record
        s!"expected {fields.length} values but found {values.length}: {quoteList (values.map String.ofList)}"
  | weights {values raws : List (List Char)} (halves : Halves record values raws)
      (fits : values.length = fields.length) (count : raws.length ≠ weights.length) :
      Problem fields weights sums record
        (s!"expected {weights.length} weights but found {raws.length}: " ++
          quoteList (raws.map String.ofList))
  /-- The first weight that cannot be added. -/
  | weight {values raws : List (List Char)} {column : Nat} {raw : List Char} {problem : String}
      (halves : Halves record values raws) (fits : values.length = fields.length)
      (count : raws.length = weights.length) (found : raws[column]? = some raw)
      (before : ∀ i < column, ∃ n : Nat, Denotes (raws.getD i []) n ∧ sums i + n < UInt64.size)
      (wrong : WeightProblem (sums column) raw problem) :
      Problem fields weights sums record problem

/-! ### Problems are not reported without a cause -/

section

variable {fields weights : List String} {sums : Nat → Nat} {record : List Char} {problem : String}

theorem exists_of_forall₂_of_getElem? {α β : Type} {R : α → β → Prop} {as : List α} {bs : List β}
    (h : List.Forall₂ R as bs) {i : Nat} {a : α} (ha : as[i]? = some a) :
    ∃ b, bs[i]? = some b ∧ R a b := by
  induction h generalizing i with
  | nil => cases ha
  | cons hhead _ ih =>
      cases i with
      | zero =>
          obtain rfl := Option.some.inj ha
          exact ⟨_, rfl, hhead⟩
      | succ i => exact ih ha

/-- A weight with a problem denotes no number that can be added. -/
theorem WeightProblem.overflows {sum : Nat} {raw : List Char} {weight : Nat}
    (h : WeightProblem sum raw problem) (hweight : Denotes raw weight) : UInt64.size ≤ sum + weight := by
  cases h with
  | notInteger hdenotes => exact absurd hweight (hdenotes weight)
  | negative hdenotes hnegative =>
      have hsame := hdenotes.unique hweight
      omega
  | overflow hdenotes hoverflow =>
      have hsame := hdenotes.unique hweight
      omega

/-- A record with a problem stands for no row whose weights can be added. -/
theorem Problem.exists_overflow {row : Row} (h : Problem fields weights sums record problem)
    (hrow : StandsFor fields weights record row) :
    ∃ column < weights.length, UInt64.size ≤ sums column + row.weights.getD column 0 := by
  obtain ⟨⟨raws, hhalves, hraws⟩, hfields, hnames⟩ := hrow
  cases h with
  | parts hcuts hcount =>
      obtain ⟨left, right, hpieces, -⟩ := hhalves
      rw [← cuts_iff.1 hcuts, cuts_iff.1 hpieces] at hcount
      exact absurd rfl hcount
  | values hother hcount =>
      obtain ⟨rfl, -⟩ := hother.unique hhalves
      rw [List.length_map] at hcount
      exact absurd hfields hcount
  | weights hother _ hcount =>
      obtain ⟨-, rfl⟩ := hother.unique hhalves
      exact absurd (hraws.length_eq.trans hnames) hcount
  | @weight _ _ column raw _ hother _ _ hfound _ hwrong =>
      obtain ⟨-, rfl⟩ := hother.unique hhalves
      obtain ⟨weight, hweight, hdenotes⟩ := exists_of_forall₂_of_getElem? hraws hfound
      obtain ⟨hcolumn, -⟩ := List.getElem?_eq_some_iff.1 hweight
      refine ⟨column, hnames ▸ hcolumn, ?_⟩
      rw [List.getD_eq_getElem?_getD, hweight, Option.getD_some]
      exact hwrong.overflows hdenotes

end

end QueryVariants.Distribution

/-! ### The reader reports problems -/

namespace QueryVariants.Table

open Text QueryVariants.Distribution

section

variable {fail : String → Error} {fields weightNames : List String} {sums : List Nat}
  {raws : List (List Char)} {record : List Char} {error : Error}

/-- The reader of weights fails at the first that cannot be added. -/
theorem exists_weightProblem (h : readWeights fail sums raws = .error error) :
    ∃ column raw problem, error = fail problem ∧ raws[column]? = some raw ∧
      (∀ i < column, ∃ n : Nat, Denotes (raws.getD i []) n ∧ sums.getD i 0 + n < UInt64.size) ∧
      WeightProblem (sums.getD column 0) raw problem := by
  induction sums generalizing raws with
  | nil => simp [readWeights] at h
  | cons sum sums ih =>
      cases raws with
      | nil => simp [readWeights] at h
      | cons raw raws =>
          rw [readWeights] at h
          split at h
          · rename_i hnone
            refine ⟨0, raw, _, (Except.error.inj h).symm, rfl, by simp, .notInteger ?_⟩
            intro n hdenotes
            rw [readSigned?_eq_some_iff.2 hdenotes] at hnone
            cases hnone
          · rename_i value hvalue
            have hdenotes := readSigned?_eq_some_iff.1 hvalue
            split at h
            · rename_i hnegative
              exact ⟨0, raw, _, (Except.error.inj h).symm, rfl, by simp, .negative hdenotes hnegative⟩
            · rename_i hnegative
              have hcast : ((value.toNat : Nat) : Int) = value := Int.toNat_of_nonneg (by omega)
              rw [← hcast] at hdenotes
              split at h
              · rename_i hoverflow
                exact ⟨0, raw, _, (Except.error.inj h).symm, rfl, by simp, .overflow hdenotes hoverflow⟩
              · rename_i hfit
                obtain ⟨column, other, problem, rfl, hfound, hbefore, hwrong⟩ :=
                  ih (Result.map_eq_error_iff.1 h)
                refine ⟨column + 1, other, problem, rfl, hfound, ?_, hwrong⟩
                rintro (_ | i) hi
                · exact ⟨value.toNat, hdenotes, Nat.lt_of_not_le hfit⟩
                · exact hbefore i (Nat.lt_of_succ_lt_succ hi)

/-- The reader of a record fails with what is wrong with it. -/
theorem exists_problem (h : readRow fail fields weightNames sums record = .error error) :
    ∃ problem, error = fail problem ∧ Problem fields weightNames (sums.getD · 0) record problem := by
  rw [readRow] at h
  split at h
  · rename_i left right hparts
    have hhalves : Halves record (splitValues left) (splitValues right) :=
      halves_iff.2 ⟨left, right, hparts, rfl, rfl⟩
    simp only [List.length_map] at h
    split at h
    · rename_i hcount
      exact ⟨_, (Except.error.inj h).symm, .values hhalves hcount⟩
    · rename_i hfields
      split at h
      · rename_i hcount
        exact ⟨_, (Except.error.inj h).symm, .weights hhalves (not_not.1 hfields) hcount⟩
      · rename_i hnames
        obtain ⟨column, raw, problem, rfl, hfound, hbefore, hwrong⟩ :=
          exists_weightProblem (Result.map_eq_error_iff.1 h)
        exact ⟨problem, rfl,
          .weight hhalves (not_not.1 hfields) (not_not.1 hnames) hfound hbefore hwrong⟩
  · rename_i hparts
    have hlength : (splitParts record).length = (splitAt ':' false record).length := List.length_map _
    rw [hlength] at h
    refine ⟨_, (Except.error.inj h).symm, .parts (cuts_splitAt record) ?_⟩
    rw [← hlength]
    intro hcount
    obtain ⟨left, right, heq⟩ := List.length_eq_two.1 hcount
    exact hparts left right heq

/-- The reader of records fails at the first with a problem, having read the records before it. -/
theorem exists_first_problem {name : String} {recs : List (Nat × List Char)}
    (h : readRows name fields weightNames sums recs = .error error) (hnames : weightNames.length = sums.length) :
    ∃ before line record after rows problem, recs = before ++ (line, record) :: after ∧
      error = .distributionFormat name line problem ∧
      readRows name fields weightNames sums before = .ok rows ∧
      Problem fields weightNames (fun i => sums.getD i 0 + Weights.total (columnWeights rows i)) record
        problem := by
  induction recs generalizing sums with
  | nil => cases h
  | cons rec recs ih =>
      obtain ⟨line, record⟩ := rec
      rw [readRows] at h
      split at h
      · rename_i found hrow
        obtain rfl := Except.error.inj h
        obtain ⟨problem, rfl, hproblem⟩ := exists_problem hrow
        exact ⟨[], line, record, recs, [], problem, rfl, rfl, rfl, hproblem⟩
      · rename_i row hrow
        have hlength : row.weights.length = sums.length :=
          ((readRow_eq_ok_iff hnames).1 hrow).1.weights_length.trans hnames
        obtain ⟨before, line', record', after, rows, problem, rfl, rfl, hrows, hproblem⟩ :=
          ih (Result.map_eq_error_iff.1 h) (by simpa [hlength] using hnames)
        refine ⟨(line, record) :: before, line', record', after, row :: rows, problem, rfl, rfl,
          readRows_cons_eq_ok_iff.2 ⟨row, rows, rfl, hrow, hrows⟩, ?_⟩
        simp only [getD_zipWith_add hlength, Nat.add_assoc] at hproblem
        exact hproblem

end

end QueryVariants.Table
