import QueryVariants.Proofs.Evaluation.Constant
import QueryVariants.Proofs.Evaluation.Ranges
import QueryVariants.Proofs.Template.Overwriting

/-!
# The row limit and its helpers

The expression of a row limit is evaluated twice: by itself when the template is read, for the helpers, and in
the scope of an expansion, for the limit itself. A limit that draws nothing comes to the same both times if the
relations that it counts have the sizes of scale factor one in the expansion, which are the sizes that the
reading of a template supposes. With other sizes the limit follows them and the helpers do not.
-/

namespace QueryVariants.Template

open Evaluation Macro Text

section

variable {defines : OrderedMap Expr} {limits : List (String × Expr)} {name : String} {e : Expr}

/-- Only a name with a point in it is the name of an item. -/
theorem not_hiddenBy_of_notMem (hname : '.' ∉ name.toList) (list : String) (index : Nat) :
    ¬HiddenBy defines name list index := by
  rintro ⟨_, _, _, _, -, -, -, rfl⟩
  exact hname (point_mem_itemName _ _)

/-- A helper stands in the map if there is no define of its name. -/
theorem find?_helper (hname : '.' ∉ name.toList) (hdefines : name ∉ defines.keys) :
    (OrderedMap.ofList (limits ++ defines.entries.flatMap fun (name, e) => withItems name e)).find? name =
      (OrderedMap.ofList limits).find? name := by
  rw [OrderedMap.ofList_eq_insertMany, OrderedMap.ofList_eq_insertMany, OrderedMap.insertMany_append]
  apply OrderedMap.find?_insertMany_of_notMem
  intro hmem
  obtain ⟨⟨key, value⟩, hentry, rfl⟩ := List.mem_map.1 hmem
  obtain ⟨⟨owner, e⟩, howner, hitem⟩ := List.mem_flatMap.1 hentry
  rcases eq_or_item_of_mem_withItems hitem with ⟨rfl, -⟩ | ⟨_, _, index, -, -, rfl, -⟩
  · exact hdefines (List.mem_map.2 ⟨_, howner, rfl⟩)
  · exact hname (point_mem_itemName _ _)

end

/-- The text of the helper that shows the limit. -/
theorem formatInteger_limit (limit : Int) :
    Expr.formatInteger limit "LIMIT %d" = "LIMIT " ++ toString limit := by
  have hreplaced : replaceAll ['%', 'd'] (toString limit).toList "LIMIT %d".toList =
      "LIMIT ".toList ++ (toString limit).toList := by
    change replaceAll ['%', 'd'] _ ['L', 'I', 'M', 'I', 'T', ' ', '%', 'd'] = _
    simp [replaceAll, List.isPrefixOf]
  rw [Expr.formatInteger]
  apply String.toList_inj.1
  rw [String.toList_ofList, String.toList_append]
  exact hreplaced

/-- What has the size of scale factor one is counted as it is by itself. -/
theorem steady_of_rowCounts {node : Expr} {rowCounts : RowCounts} (substitutions : OrderedMap Expr)
    (tables : Registry) (hdraws : node.draws = false)
    (hcounts : ∀ relation, node = .rowCount relation →
      rowCounts.find? relation = RowCounts.scaleOne.find? relation) :
    Steady .alone ⟨substitutions, tables, rowCounts⟩ node := by
  refine ⟨hdraws, ?_⟩
  intro relation count hnode hcount
  have hfind := (hcounts relation hnode).trans (find?_scaleOne_of_rowCount hcount)
  simp only [Scope.rowCount, hfind]

/-- **The limit that is shown is the limit by itself.** A template that was read and whose row limit draws
nothing shows one integer as its limit, whatever the seed, the tables, the row counts and the calls before: the
one that the limit comes to with the row counts of scale factor one. With row counts that give the relations
counted in the limit the same sizes, the limit resolves to the text of that integer. -/
theorem resolve_rowLimit {id : Nat} {text : String} {registry : Registry} {template : Template} {e : Expr}
    (hparse : parse id text registry = .ok template) (hlimit : template.defines.find? limitName = some e)
    (hdraws : ∀ node ∈ e.nodes, node.draws = false) (hhelper : "_LIMITC" ∉ template.defines.keys) :
    ∃ value limit, evaluateConstant e = .ok value ∧ Denotes (trim value.toList) limit ∧
      ∀ (tables : Registry) (rowCounts : RowCounts) (seed : UInt64) (calls : List Call),
        ((template.scope tables rowCounts).resolve "_LIMITC"
            ((template.scope tables rowCounts).stateAfter seed calls)).1 = .ok ("LIMIT " ++ toString limit) ∧
          ((∀ relation, .rowCount relation ∈ e.nodes →
              rowCounts.find? relation = RowCounts.scaleOne.find? relation) →
            ((template.scope tables rowCounts).resolve limitName
              ((template.scope tables rowCounts).stateAfter seed calls)).1 = .ok value) := by
  obtain ⟨limits, hlimits, hsubstitutions⟩ := exists_limits_of_parse hparse
  obtain ⟨value, limit, hvalue, hread, rfl⟩ := exists_limit_of_helpers hlimits hlimit
  have hshown : template.substitutions.find? "_LIMITC" = some (.format (.text "LIMIT %d") limit) := by
    rw [hsubstitutions, find?_helper (by decide) hhelper, OrderedMap.ofList_eq_insertMany]
    rfl
  have hself : template.substitutions.find? limitName = some e := by
    rw [hsubstitutions]
    exact find?_of_not_hiddenBy hlimit fun list index => not_hiddenBy_of_notMem (by decide) list index
  refine ⟨value, limit, hvalue, readInteger_eq_ok_iff.1 hread, ?_⟩
  intro tables rowCounts seed calls
  constructor
  · refine resolve_of_evaluate hshown ?_ seed calls
    intro names state
    rw [← formatInteger_limit]
    rfl
  · intro hcounts
    refine resolve_of_evaluate hself (evaluate_of_evaluateConstant hvalue ?_) seed calls
    intro node hnode
    refine steady_of_rowCounts _ _ (hdraws node hnode) ?_
    rintro relation rfl
    exact hcounts relation hnode

/-- A row limit that is the number of stores. -/
def storeLimit : Template :=
  ⟨1, "select [_LIMIT] [_LIMITC]\n", ⟨[("_LIMIT", .rowCount "store")], by simp⟩,
    ⟨limitHelpers 12 ++ [("_LIMIT", .rowCount "store")], by simp [limitHelpers]⟩⟩

theorem find?_scaleOne_store : RowCounts.scaleOne.find? "store" = some 12 := by
  have hname : upperString "store" = "STORE" := by decide
  rw [RowCounts.find?, hname, RowCounts.scaleOne, OrderedMap.ofList_eq_insertMany]
  rfl

theorem draws_store : ∀ node ∈ (Expr.rowCount "store").nodes, node.draws = false := by
  simp [Expr.nodes, Expr.draws]

theorem evaluateConstant_store : evaluateConstant (.rowCount "store") = .ok "12" := by
  have hcount : Scope.rowCount ⟨∅, .empty, .scaleOne⟩ "store" = .ok 12 := by
    rw [Scope.rowCount, find?_scaleOne_store]
  rw [evaluateConstant, Scope.evaluate, evaluate, hcount]
  rfl

theorem parse_storeLimit :
    parse 1 "define _LIMIT = rowcount(\"store\");\nselect [_LIMIT] [_LIMITC]" .empty = .ok storeLimit := by
  have hcall : arguments? "rowcount(".toList [')'] "rowcount(\"store\")".toList =
      some ["\"store\"".toList] := by cbv
  have hdivisor : splitDivisor? "rowcount(\"store\")".toList = none := by decide
  have hread : readRowCount "rowcount(\"store\")" "rowcount(\"store\")".toList = .ok (.rowCount "store") := by
    simp only [readRowCount, hdivisor, bind, Except.bind, hcall]
    rfl
  have hdefine : Defines .empty "_LIMIT = rowcount(\"store\");".toList ("_LIMIT", .rowCount "store") :=
    ⟨"rowcount(\"store\")", rfl, (readExpr_of_rowCount rfl).trans hread⟩
  have hhelpers : helpers ((∅ : OrderedMap Expr).insertMany [("_LIMIT", .rowCount "store")]) =
      .ok (limitHelpers 12) := by
    change (evaluateConstant (.rowCount "store") >>= fun value => readInteger limitName value >>= fun limit =>
      .ok (limitHelpers limit)) = _
    rw [evaluateConstant_store]
    rfl
  refine parse_eq_ok_iff.2 ⟨[("_LIMIT", .rowCount "store")], limitHelpers 12, .cons hdefine .nil, hhelpers, ?_⟩
  rw [assemble, OrderedMap.ofList_eq_insertMany]
  rfl

theorem resolve_storeLimit :
    parse 1 "define _LIMIT = rowcount(\"store\");\nselect [_LIMIT] [_LIMITC]" .empty = .ok storeLimit ∧
      ((storeLimit.scope .empty .scaleOne).resolve "_LIMITC"
        ((storeLimit.scope .empty .scaleOne).stateAfter 0 [])).1 = .ok "LIMIT 12" ∧
      ((storeLimit.scope .empty .scaleOne).resolve limitName
        ((storeLimit.scope .empty .scaleOne).stateAfter 0 [.value "_LIMITC"])).1 = .ok "12" := by
  obtain ⟨value, limit, hvalue, hdenotes, hresolve⟩ :=
    resolve_rowLimit parse_storeLimit (e := .rowCount "store") rfl draws_store (by decide)
  obtain rfl : "12" = value := Except.ok.inj (evaluateConstant_store.symm.trans hvalue)
  obtain rfl : limit = 12 := hdenotes.unique (readSigned?_eq_some_iff.1 rfl)
  exact ⟨parse_storeLimit, (hresolve .empty .scaleOne 0 []).1,
    (hresolve .empty .scaleOne 0 [.value "_LIMITC"]).2 fun _ _ => rfl⟩

/-- The template in a world of five stores. -/
def fiveStores : Scope :=
  storeLimit.scope .empty (RowCounts.scaleOne.withOverrides [("store", 5)])

/-- In a world of five stores the limit is five, and a limit of twelve is shown. -/
theorem resolve_fiveStores :
    parse 1 "define _LIMIT = rowcount(\"store\");\nselect [_LIMIT] [_LIMITC]" .empty = .ok storeLimit ∧
      storeLimit.defines.find? limitName = some (.rowCount "store") ∧
      (∀ node ∈ (Expr.rowCount "store").nodes, node.draws = false) ∧ "_LIMITC" ∉ storeLimit.defines.keys ∧
      (fiveStores.resolve "_LIMITC" (fiveStores.stateAfter 0 [])).1 = .ok "LIMIT 12" ∧
      (fiveStores.resolve limitName (fiveStores.stateAfter 0 [.value "_LIMITC"])).1 = .ok "5" := by
  have hfind : (RowCounts.scaleOne.withOverrides [("store", 5)]).find? "store" = some 5 := by
    rw [RowCounts.withOverrides, List.mergeSort_singleton, RowCounts.find?]
    exact (OrderedMap.find?_insert _ _ _ _).trans (if_pos rfl)
  have hcount : fiveStores.rowCount "store" = .ok 5 := by
    rw [fiveStores, scope, Scope.rowCount, hfind]
  refine ⟨parse_storeLimit, rfl, draws_store, by decide, ?_, ?_⟩
  · refine @resolve_of_evaluate fiveStores "_LIMITC" "LIMIT 12" (.format (.text "LIMIT %d") 12) rfl ?_ 0 []
    intro names state
    exact congrArg (fun text => (Except.ok text, state)) (formatInteger_limit 12)
  · refine @resolve_of_evaluate fiveStores limitName "5" (.rowCount "store") rfl ?_ 0 _
    intro names state
    rw [evaluate, hcount]
    rfl

end QueryVariants.Template
