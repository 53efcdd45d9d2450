import QueryVariants.Macro.Parser
import QueryVariants.Proofs.Distribution.Registries
import QueryVariants.Proofs.Evaluation.Consults

/-!
# What the reader guarantees

The reader checks what would be a failure of the evaluation if it were wrong: the length of a list, a
divisor, the place of a column, the total of the weights of a choice. These checks are the soundness of a
node, and every node of an expression that was read is sound. The induction is that of the reader; the
forms without operands are read by functions of their own and have a lemma each.
-/

namespace QueryVariants.Macro

open Text

/-- What the reader checks of a node. References to items are not read: a template adds them. -/
def Expr.Sound : Expr → Prop
  | .list _ count => count ≤ maxListCount
  | .divide _ divisor => 1 < divisor ∧ divisor ≤ maxSigned
  | .member _ table field => table.WellFormed ∧ field < table.fields.length
  | .draw table field column =>
    table.WellFormed ∧ field < table.fields.length ∧ column < table.weights.length
  | .choice options =>
    0 < Weights.total (options.map Prod.snd) ∧ Weights.total (options.map Prod.snd) < UInt64.size
  | .item _ _ => False
  | _ => True

section

variable {registry : Registry} {source : String} {s : List Char} {table : Table} {e : Expr}

theorem lt_of_readField {field : Nat} (h : readField table s = .ok field) : field < table.fields.length := by
  obtain ⟨position, -, h⟩ := Result.bind_eq_ok_iff.1 h
  split at h
  · have hfield := Except.ok.inj h
    omega
  · cases h

theorem lt_of_weightIndex {weight : String} {column : Nat} (h : table.weightIndex weight = .ok column) :
    column < table.weights.length := by
  unfold Table.weightIndex at h
  split at h
  · rename_i found hfound
    obtain rfl := Except.ok.inj h
    exact (List.findIdx?_eq_some_iff_findIdx_eq.1 hfound).1
  · split at h
    · split at h
      · have hcolumn := Except.ok.inj h
        omega
      · cases h
    · cases h

/-- Only a single argument or choices with a total in range are read. -/
theorem sound_of_readText (h : readText source s = .ok e) : ∀ node ∈ e.nodes, node.Sound := by
  unfold readText at h
  split at h
  · cases h
  · cases h
  · obtain rfl := Except.ok.inj h
    simp [Expr.nodes, Expr.Sound]
  · obtain ⟨options, -, h⟩ := Result.bind_eq_ok_iff.1 h
    dsimp only at h
    split at h
    · rename_i htotal
      obtain rfl := Except.ok.inj h
      simpa [Expr.nodes, Expr.Sound] using htotal
    · cases h

/-- A divisor is put into the expression only if it is greater than one. -/
theorem sound_of_readRowCount (h : readRowCount source s = .ok e) : ∀ node ∈ e.nodes, node.Sound := by
  have hquotient : ∀ (relation : String) (divisor : Int), divisor ≤ maxSigned →
      ∀ node ∈ (if 1 < divisor then Expr.divide (.rowCount relation) divisor
        else .rowCount relation).nodes, node.Sound := by
    intro relation divisor hle
    by_cases hlt : 1 < divisor
    · rw [if_pos hlt]
      simpa [Expr.nodes, Expr.Sound] using ⟨hlt, hle⟩
    · rw [if_neg hlt]
      simp [Expr.nodes, Expr.Sound]
  unfold readRowCount at h
  split at h
  · obtain ⟨_, hcall, h⟩ := Result.bind_eq_ok_iff.1 h
    obtain rfl := Except.ok.inj hcall
    dsimp only at h
    split at h
    · cases h
    · obtain rfl := Except.ok.inj h
      exact hquotient _ 1 (by decide)
  · split at h
    · rename_i divisor hread
      obtain ⟨_, hcall, h⟩ := Result.bind_eq_ok_iff.1 h
      obtain rfl := Except.ok.inj hcall
      dsimp only at h
      split at h
      · cases h
      · obtain rfl := Except.ok.inj h
        exact hquotient _ divisor (readSigned?_bounds hread).2
    · cases h

theorem sound_of_readDraw (hregistry : registry.Parsed) (h : readDraw registry source s = .ok e) :
    ∀ node ∈ e.nodes, node.Sound := by
  unfold readDraw at h
  split at h
  · obtain ⟨table, htable, h⟩ := Result.bind_eq_ok_iff.1 h
    obtain ⟨field, hfield, h⟩ := Result.bind_eq_ok_iff.1 h
    obtain ⟨column, hcolumn, h⟩ := Result.bind_eq_ok_iff.1 h
    obtain rfl := Except.ok.inj h
    have hwellFormed := hregistry.wellFormed (Registry.find?_of_get htable)
    simpa [Expr.nodes, Expr.Sound] using
      ⟨hwellFormed, lt_of_readField hfield, lt_of_weightIndex hcolumn⟩
  · cases h

theorem sound_of_readExpr (hregistry : registry.Parsed) (h : readExpr registry source s = .ok e) :
    ∀ node ∈ e.nodes, node.Sound := by
  fun_induction readExpr registry source s generalizing e with
  | case1 => exact sound_of_readText h
  | case3 s _ inner count _ ih =>
      obtain ⟨n, -, h⟩ := Result.bind_eq_ok_iff.1 h
      split at h
      · cases h
      · rename_i hcount
        obtain ⟨operand, hoperand, h⟩ := Result.bind_eq_ok_iff.1 h
        obtain rfl := Except.ok.inj h
        exact List.forall_mem_cons.2 ⟨Nat.le_of_not_lt hcount, ih hoperand⟩
  | case6 s _ first last _ _ kind _ ihfirst ihlast =>
      obtain ⟨low, hlow, h⟩ := Result.bind_eq_ok_iff.1 h
      obtain ⟨high, hhigh, h⟩ := Result.bind_eq_ok_iff.1 h
      obtain rfl := Except.ok.inj h
      exact List.forall_mem_cons.2 ⟨trivial, List.forall_mem_append.2 ⟨ihfirst hlow, ihlast hhigh⟩⟩
  | case8 => exact sound_of_readRowCount h
  | case9 s _ name index field _ ih =>
      obtain ⟨table, htable, h⟩ := Result.bind_eq_ok_iff.1 h
      obtain ⟨place, hplace, h⟩ := Result.bind_eq_ok_iff.1 h
      obtain ⟨operand, hoperand, h⟩ := Result.bind_eq_ok_iff.1 h
      obtain rfl := Except.ok.inj h
      have hwellFormed := hregistry.wellFormed (Registry.find?_of_get htable)
      exact List.forall_mem_cons.2 ⟨⟨hwellFormed, lt_of_readField hplace⟩, ih hoperand⟩
  | case11 | case12 => exact sound_of_readDraw hregistry h
  | case14 s _ first last _ _ _ ihfirst ihlast =>
      obtain ⟨low, hlow, h⟩ := Result.bind_eq_ok_iff.1 h
      obtain ⟨high, hhigh, h⟩ := Result.bind_eq_ok_iff.1 h
      obtain rfl := Except.ok.inj h
      exact List.forall_mem_cons.2 ⟨trivial, List.forall_mem_append.2 ⟨ihfirst hlow, ihlast hhigh⟩⟩
  | case17 s _ name tail _ ih =>
      obtain ⟨operand, hoperand, rfl⟩ := Result.map_eq_ok_iff.1 h
      refine List.forall_mem_cons.2 ⟨trivial, List.forall_mem_append.2 ⟨?_, ih hoperand⟩⟩
      simp [Expr.nodes, Expr.Sound]
  -- A constant text, and a reference.
  | case2 | case16 | case19 =>
      obtain rfl := Except.ok.inj h
      simp [Expr.nodes, Expr.Sound]
  -- The text does not fit its form.
  | case4 | case5 | case7 | case10 | case13 | case15 | case18 | case20 => cases h

theorem readDraw_ne_item {name : String} {index : Nat} : readDraw registry source s ≠ .ok (.item name index) := by
  intro h
  unfold readDraw at h
  split at h
  · obtain ⟨_, -, h⟩ := Result.bind_eq_ok_iff.1 h
    obtain ⟨_, -, h⟩ := Result.bind_eq_ok_iff.1 h
    obtain ⟨_, -, h⟩ := Result.bind_eq_ok_iff.1 h
    cases Except.ok.inj h
  · cases h

/-- No text is read as an item of a list, whatever tables there are. -/
theorem readExpr_ne_item {name : String} {index : Nat} : readExpr registry source s ≠ .ok (.item name index) := by
  fun_cases readExpr registry source s <;> intro h
  case case1 => exact sound_of_readText h _ List.mem_cons_self
  case case3 =>
    obtain ⟨_, -, h⟩ := Result.bind_eq_ok_iff.1 h
    split at h
    · cases h
    · obtain ⟨_, -, h⟩ := Result.bind_eq_ok_iff.1 h
      cases Except.ok.inj h
  case case6 | case14 =>
    obtain ⟨_, -, h⟩ := Result.bind_eq_ok_iff.1 h
    obtain ⟨_, -, h⟩ := Result.bind_eq_ok_iff.1 h
    cases Except.ok.inj h
  case case8 => exact sound_of_readRowCount h _ List.mem_cons_self
  case case9 =>
    obtain ⟨_, -, h⟩ := Result.bind_eq_ok_iff.1 h
    obtain ⟨_, -, h⟩ := Result.bind_eq_ok_iff.1 h
    obtain ⟨_, -, h⟩ := Result.bind_eq_ok_iff.1 h
    cases Except.ok.inj h
  case case11 | case12 => exact readDraw_ne_item h
  case case17 =>
    obtain ⟨_, -, h⟩ := Result.map_eq_ok_iff.1 h
    cases h
  case case2 | case16 | case19 => cases Except.ok.inj h
  -- The text does not fit its form.
  case case4 | case5 | case7 | case10 | case13 | case15 | case18 | case20 => cases h

end

/-- **Every node of an expression that was read is sound.** -/
theorem sound_of_parse {source : String} {registry : Registry} {e : Expr} (hregistry : registry.Parsed)
    (h : Expr.parse source registry = .ok e) : ∀ node ∈ e.nodes, node.Sound :=
  sound_of_readExpr hregistry h

end QueryVariants.Macro
