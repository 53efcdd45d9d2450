import QueryVariants.Proofs.Evaluation.Errors
import QueryVariants.Proofs.Template.Overwriting

/-!
# The substitutions of a template that was read

A template adds to its defines the helpers of the row limit, which are constant texts, and the items of its
lists. An item is asked for under the name of its list, so it matters what the map holds under that name:
the list itself, as long as no item of another list bears the name. The define of the list comes behind
the helpers in the map, so a helper of the same name gives way.
-/

namespace QueryVariants.Template

open Evaluation Macro Text

/-- No define has the name of an item of a list. -/
def ItemsApart (template : Template) : Prop :=
  ∀ list inner count, template.defines.find? list = some (.list inner count) →
    ∀ k, 1 ≤ k → k ≤ count → list ++ "." ++ toString k ∉ template.defines.keys

section

variable {limits : List (String × Expr)} {defines : OrderedMap Expr} {name : String} {e : Expr}

theorem sound_of_mem_helpers (hlimits : helpers defines = .ok limits) (hmem : (name, e) ∈ limits) :
    ∀ node ∈ e.nodes, node.Sound := by
  rcases helpers_eq_ok hlimits with ⟨-, rfl⟩ | ⟨-, limit, rfl⟩
  · cases hmem
  · have hformat : ∃ text, e = .format (.text text) limit := by
      simp only [limitHelpers, List.mem_cons, Prod.mk.injEq, List.not_mem_nil, or_false] at hmem
      rcases hmem with ⟨-, rfl⟩ | ⟨-, rfl⟩ | ⟨-, rfl⟩ <;> exact ⟨_, rfl⟩
    obtain ⟨text, rfl⟩ := hformat
    simp [Expr.nodes, Expr.Sound]

/-- The name of a list stands for the list in the map, whatever else the template adds. -/
theorem find?_list {inner : Expr} {count : Nat}
    (hapart : ∀ list inner count, defines.find? list = some (.list inner count) →
      ∀ k, 1 ≤ k → k ≤ count → list ++ "." ++ toString k ∉ defines.keys)
    (hlist : defines.find? name = some (.list inner count)) :
    (OrderedMap.ofList (limits ++
      defines.entries.flatMap fun (name, e) => withItems name e)).find? name = some (.list inner count) := by
  apply find?_of_not_hiddenBy hlist
  rintro owner index ⟨before, inner, count, after, hentries, -, hindex, rfl⟩
  -- An item of another list would have the name of this define.
  have howner : defines.find? owner = some (.list inner count) := by
    apply OrderedMap.find?_of_mem
    rw [hentries]
    exact List.mem_append_right _ List.mem_cons_self
  exact hapart owner inner count howner (index + 1) (by omega) (by omega)
    (OrderedMap.mem_keys_iff.2 ⟨_, hlist⟩)

end

/-- Every substitution of a template that was read is sound, or it is an item of a list that the map holds
and that is long enough. -/
theorem wellMade_scope {id : Nat} {text : String} {registry : Registry} {template : Template}
    (hregistry : registry.Parsed) (hparse : parse id text registry = .ok template)
    (hapart : template.ItemsApart) (tables : Registry) (rowCounts : RowCounts) :
    (template.scope tables rowCounts).WellMade := by
  obtain ⟨limits, hlimits, hsubstitutions⟩ := exists_limits_of_parse hparse
  intro name e hfind
  rw [scope, hsubstitutions] at hfind
  rcases List.mem_append.1 (OrderedMap.mem_of_find?_ofList hfind) with hmem | hmem
  · exact .read (sound_of_mem_helpers hlimits hmem)
  · obtain ⟨⟨owner, value⟩, howner, hitem⟩ := List.mem_flatMap.1 hmem
    have hdefine := OrderedMap.find?_of_mem howner
    rcases eq_or_item_of_mem_withItems hitem with ⟨rfl, rfl⟩ | ⟨inner, count, index, rfl, hindex, -, rfl⟩
    · obtain ⟨source, hread⟩ := exists_parse_of_find? hparse hdefine
      exact .read (sound_of_parse hregistry hread)
    · have hlist : template.substitutions.find? owner = some (.list inner count) := by
        rw [hsubstitutions]
        exact find?_list hapart hdefine
      exact .item hlist hindex

end QueryVariants.Template
