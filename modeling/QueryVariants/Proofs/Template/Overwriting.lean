import QueryVariants.Proofs.Macro.Reading
import QueryVariants.Proofs.Macro.Sound
import QueryVariants.Proofs.OrderedMap
import QueryVariants.Proofs.Template.Parsing

/-!
# Defines that give way to items

The substitutions of a template are put into one map, the helpers of the row limit first and then each define
with its items, and what is put in later stands. So a helper gives way to a define of its name, and an item
of a list gives way to a define behind the list. But a define in front of a list that has an item of its name
gives way to the item. The name of an item tells its list and its place, so there is one such item at most.
-/

namespace QueryVariants.Template

open Macro Text

/-- The define of the name stands in front of a list that has this name for one of its items. -/
def HiddenBy (defines : OrderedMap Expr) (name list : String) (index : Nat) : Prop :=
  ∃ before inner count after,
    defines.entries = before ++ (list, .list inner count) :: after ∧ name ∈ before.map Prod.fst ∧
      index < count ∧ name = list ++ "." ++ toString (index + 1)

theorem toList_itemName (list : String) (k : Nat) :
    (list ++ "." ++ toString k).toList = list.toList ++ '.' :: natDigits k := by
  rw [String.toList_append, String.toList_append, List.append_assoc]
  exact congrArg (list.toList ++ '.' :: ·) Nat.toList_repr

theorem point_mem_itemName (list : String) (k : Nat) : '.' ∈ (list ++ "." ++ toString k).toList := by
  rw [toList_itemName]
  exact List.mem_append_right _ List.mem_cons_self

theorem itemName_ne (list : String) (k : Nat) : list ≠ list ++ "." ++ toString k := by
  intro h
  have hlength := congrArg List.length (congrArg String.toList h)
  rw [toList_itemName, List.length_append, List.length_cons] at hlength
  omega

/-- The name of an item tells its list and its place. -/
theorem itemName_inj {list other : String} {k m : Nat}
    (h : list ++ "." ++ toString k = other ++ "." ++ toString m) : list = other ∧ k = m := by
  have hpoint : ∀ n, '.' ∉ (natDigits n).reverse := by
    intro n hmem
    exact absurd (isDigit_of_mem_natDigits (List.mem_reverse.1 hmem)) (by decide)
  have hchars : list.toList ++ '.' :: natDigits k = other.toList ++ '.' :: natDigits m := by
    rw [← toList_itemName, ← toList_itemName, h]
  -- The last point is the first one from the other end.
  have hreverse : (natDigits k).reverse ++ '.' :: list.toList.reverse =
      (natDigits m).reverse ++ '.' :: other.toList.reverse := by
    simpa using congrArg List.reverse hchars
  obtain ⟨hdigits, hlist⟩ := append_cons_inj_of_notMem (hpoint k) (hpoint m) hreverse
  constructor
  · exact String.toList_inj.1 (List.reverse_inj.1 hlist)
  · rw [← digitsValue_natDigits (n := k), List.reverse_inj.1 hdigits, digitsValue_natDigits]

section

variable {name key : String} {e value : Expr}

theorem eq_or_item_of_mem_withItems (h : (key, value) ∈ withItems name e) :
    (key = name ∧ value = e) ∨ ∃ inner count index, e = .list inner count ∧ index < count ∧
      key = name ++ "." ++ toString (index + 1) ∧ value = .item name index := by
  rcases List.mem_cons.1 h with hself | hitem
  · obtain ⟨rfl, rfl⟩ := Prod.mk.inj hself
    exact .inl ⟨rfl, rfl⟩
  · split at hitem
    · rename_i inner count
      obtain ⟨index, hindex, heq⟩ := List.mem_map.1 hitem
      obtain ⟨rfl, rfl⟩ := Prod.mk.inj heq
      exact .inr ⟨inner, count, index, rfl, List.mem_range.1 hindex, rfl, rfl⟩
    · cases hitem

end

section

variable {defines : OrderedMap Expr} {limits before after : List (String × Expr)} {name list : String}
  {e other : Expr} {index : Nat}

theorem notMem_of_entries (h : defines.entries = before ++ (name, e) :: after) (other : Expr) :
    (name, other) ∉ after := by
  intro hmem
  have hnodup := defines.nodup
  rw [h, List.map_append, List.map_cons, List.nodup_append] at hnodup
  exact (List.nodup_cons.1 hnodup.2.1).1 (List.mem_map.2 ⟨_, hmem, rfl⟩)

/-- What stands behind a define has its name only if it is an item that hides the define. -/
theorem exists_hiddenBy_of_mem (h : defines.entries = before ++ (name, e) :: after)
    (hmem : (name, other) ∈ after.flatMap fun (name, e) => withItems name e) :
    ∃ list index, HiddenBy defines name list index ∧ other = .item list index := by
  obtain ⟨⟨owner, value⟩, howner, hitem⟩ := List.mem_flatMap.1 hmem
  rcases eq_or_item_of_mem_withItems hitem with ⟨rfl, -⟩ | ⟨inner, count, index, rfl, hindex, hname, hother⟩
  · exact absurd howner (notMem_of_entries h value)
  · obtain ⟨between, rest, rfl⟩ := List.append_of_mem howner
    have hentries : defines.entries = (before ++ (name, e) :: between) ++ (owner, .list inner count) :: rest := by
      rw [h, List.append_assoc, List.cons_append]
    have hbefore : name ∈ (before ++ (name, e) :: between).map Prod.fst :=
      List.mem_map.2 ⟨(name, e), List.mem_append_right _ List.mem_cons_self, rfl⟩
    exact ⟨owner, index, ⟨_, inner, count, rest, hentries, hbefore, hindex, hname⟩, hother⟩

/-- A define that no item hides keeps its place in the map. -/
theorem find?_of_not_hiddenBy (hdefine : defines.find? name = some e)
    (hnot : ∀ list index, ¬HiddenBy defines name list index) :
    (OrderedMap.ofList (limits ++ defines.entries.flatMap fun (name, e) => withItems name e)).find? name =
      some e := by
  obtain ⟨before, after, hentries⟩ := List.append_of_mem (OrderedMap.mem_of_find? hdefine)
  rw [hentries, List.flatMap_append, ← List.append_assoc]
  apply OrderedMap.find?_ofList_append
  · exact List.mem_map.2 ⟨(name, e), List.mem_append_left _ List.mem_cons_self, rfl⟩
  · intro other hother
    rcases List.mem_append.1 hother with hself | hlater
    · rcases eq_or_item_of_mem_withItems hself with ⟨-, hother⟩ | ⟨_, _, index, -, -, hname, -⟩
      · exact hother
      · exact absurd hname (itemName_ne name (index + 1))
    · obtain ⟨list, index, hhidden, -⟩ := exists_hiddenBy_of_mem hentries hlater
      exact absurd hhidden (hnot list index)

/-- An item that hides a define stands in its place. -/
theorem find?_of_hiddenBy (hhidden : HiddenBy defines name list index) :
    (OrderedMap.ofList (limits ++ defines.entries.flatMap fun (name, e) => withItems name e)).find? name =
      some (.item list index) := by
  obtain ⟨before, inner, count, after, hentries, hbefore, hindex, hname⟩ := hhidden
  obtain ⟨⟨key, e⟩, hdefine, hkey⟩ := List.mem_map.1 hbefore
  obtain rfl : name = key := hkey.symm
  obtain ⟨front, between, rfl⟩ := List.append_of_mem hdefine
  rw [List.append_assoc, List.cons_append] at hentries
  have hitem : (name, Expr.item list index) ∈ withItems list (.list inner count) :=
    List.mem_cons_of_mem _ (List.mem_map.2 ⟨index, List.mem_range.2 hindex, by rw [hname]⟩)
  have hmem : (name, Expr.item list index) ∈
      (between ++ (list, .list inner count) :: after).flatMap fun (name, e) => withItems name e :=
    List.mem_flatMap.2 ⟨_, List.mem_append_right _ List.mem_cons_self, hitem⟩
  rw [hentries, List.flatMap_append, List.flatMap_cons, ← List.append_assoc, ← List.append_assoc]
  apply OrderedMap.find?_ofList_append
  · exact List.mem_map.2 ⟨_, hmem, rfl⟩
  · intro other hother
    obtain ⟨list', index', ⟨_, _, _, _, _, _, _, hname'⟩, rfl⟩ := exists_hiddenBy_of_mem hentries hother
    obtain ⟨rfl, hplace⟩ := itemName_inj (hname'.symm.trans hname)
    obtain rfl : index' = index := by omega
    rfl

end

section

variable {id : Nat} {text name : String} {registry : Registry} {template : Template} {e : Expr}

/-- **A define is lost to the item of a list behind it, and to nothing else.** The substitutions of a template
that was read map the name of a define to its expression unless the define stands in front of a list that has
an item of that name; they map it to that item then. -/
theorem find?_substitutions_iff (hparse : parse id text registry = .ok template)
    (hdefine : template.defines.find? name = some e) :
    (template.substitutions.find? name = some e ↔
        ∀ list index, ¬HiddenBy template.defines name list index) ∧
      ∀ list index, HiddenBy template.defines name list index →
        template.substitutions.find? name = some (.item list index) := by
  obtain ⟨limits, -, hsubstitutions⟩ := exists_limits_of_parse hparse
  rw [hsubstitutions]
  refine ⟨⟨?_, find?_of_not_hiddenBy hdefine⟩, fun list index => find?_of_hiddenBy⟩
  intro hkept list index hhidden
  obtain ⟨value, hvalue⟩ := exists_parse_of_find? hparse hdefine
  rw [find?_of_hiddenBy hhidden] at hkept
  obtain rfl := Option.some.inj hkept
  exact readExpr_ne_item hvalue

/-- A list with a define of the name of an item in front of it and one behind it. -/
def listBetween : Template :=
  ⟨1, "select [L.1] [L.2]\n",
    ⟨[("L.1", .text "7"), ("L", .list (.text "5") 2), ("L.2", .text "8")], by simp⟩,
    ⟨[("L.1", .item "L" 0), ("L", .list (.text "5") 2), ("L.2", .text "8")], by simp⟩⟩

theorem parse_listBetween :
    parse 1 "define L.1 = 7;\ndefine L = ulist(5, 2);\ndefine L.2 = 8;\nselect [L.1] [L.2]" .empty =
      .ok listBetween := by
  have hbefore : Defines .empty "L.1 = 7;".toList ("L.1", .text "7") := ⟨"7", rfl, readExpr_of_bare rfl rfl⟩
  have hbehind : Defines .empty "L.2 = 8;".toList ("L.2", .text "8") := ⟨"8", rfl, readExpr_of_bare rfl rfl⟩
  have hlist : Defines .empty "L = ulist(5, 2);".toList ("L", .list (.text "5") 2) := by
    have hcall : arguments? "ulist(".toList [')'] "ulist(5, 2)".toList = some [['5'], ['2']] := by cbv
    exact ⟨"ulist(5, 2)", rfl, readExpr_of_list rfl hcall rfl (by decide) (readExpr_of_bare rfl rfl)⟩
  refine parse_eq_ok_iff.2 ⟨[("L.1", .text "7"), ("L", .list (.text "5") 2), ("L.2", .text "8")], [],
    .cons hbefore (.cons hlist (.cons hbehind .nil)), rfl, ?_⟩
  rw [assemble, OrderedMap.ofList_eq_insertMany]
  rfl

/-- The define in front of the list is lost. -/
theorem lost_listBetween :
    parse 1 "define L.1 = 7;\ndefine L = ulist(5, 2);\ndefine L.2 = 8;\nselect [L.1] [L.2]" .empty =
        .ok listBetween ∧
      listBetween.defines.find? "L.1" = some (.text "7") ∧
      listBetween.substitutions.find? "L.1" ≠ some (.text "7") :=
  ⟨parse_listBetween, rfl, by decide⟩

theorem hiddenBy_listBetween : HiddenBy listBetween.defines "L.1" "L" 0 :=
  ⟨[("L.1", .text "7")], .text "5", 2, [("L.2", .text "8")], rfl, by decide, by decide, rfl⟩

theorem not_hiddenBy_listBetween (list : String) (index : Nat) :
    ¬HiddenBy listBetween.defines "L.2" list index := by
  rintro ⟨before, inner, count, after, hentries, hbefore, -, -⟩
  -- The list is the second define, and only the first one stands in front of it.
  rcases before with _ | ⟨first, _ | ⟨second, _ | ⟨third, before⟩⟩⟩
  · cases hbefore
  · obtain ⟨rfl, -⟩ := List.cons.inj hentries
    exact absurd hbefore (by decide)
  · simp [listBetween] at hentries
  · simp [listBetween] at hentries

theorem find?_substitutions_listBetween :
    parse 1 "define L.1 = 7;\ndefine L = ulist(5, 2);\ndefine L.2 = 8;\nselect [L.1] [L.2]" .empty =
        .ok listBetween ∧
      listBetween.substitutions.find? "L.1" = some (.item "L" 0) ∧
      listBetween.substitutions.find? "L.2" = some (.text "8") :=
  ⟨parse_listBetween,
    (find?_substitutions_iff parse_listBetween (e := .text "7") rfl).2 "L" 0 hiddenBy_listBetween,
    (find?_substitutions_iff parse_listBetween rfl).1.2 not_hiddenBy_listBetween⟩

end

end QueryVariants.Template
