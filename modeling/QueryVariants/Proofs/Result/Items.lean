import Mathlib.Data.List.Forall2
import QueryVariants.Proofs.Result

/-!
# Lists that are read item by item

A list is read from its first item on, and stops at the first item that cannot be read. So what comes out is the
values of all items in order, or the error of the first item that has one.
-/

namespace QueryVariants.Result

variable {α β : Type} {read : α → Except Error β} {items : List α} {values : List β} {error : Error}

theorem mapM_eq_ok_iff :
    items.mapM read = .ok values ↔ List.Forall₂ (fun item value => read item = .ok value) items values := by
  induction items generalizing values with
  | nil => cases values <;> simp [pure, Except.pure]
  | cons item items ih =>
      rw [List.mapM_cons, bind_eq_ok_iff, List.forall₂_cons_left_iff]
      refine exists_congr fun value => ?_
      rw [bind_eq_ok_iff]
      constructor
      · rintro ⟨hvalue, rest, hrest, hvalues⟩
        exact ⟨rest, hvalue, ih.1 hrest, (Except.ok.inj hvalues).symm⟩
      · rintro ⟨rest, hvalue, hrest, rfl⟩
        exact ⟨hvalue, rest, ih.2 hrest, rfl⟩

theorem exists_of_mem_items (h : items.mapM read = .ok values) {item : α} (hitem : item ∈ items) :
    ∃ value, read item = .ok value := by
  obtain ⟨i, hi, rfl⟩ := List.getElem_of_mem hitem
  have hall := mapM_eq_ok_iff.1 h
  exact ⟨_, hall.get hi (hall.length_eq ▸ hi)⟩

/-- The error is that of the first item that cannot be read. -/
theorem mapM_eq_error_iff :
    items.mapM read = .error error ↔
      ∃ before item after, items = before ++ item :: after ∧
        (∀ earlier ∈ before, ∃ value, read earlier = .ok value) ∧ read item = .error error := by
  induction items with
  | nil => simp [pure, Except.pure]
  | cons item items ih =>
      rw [List.mapM_cons, bind_eq_error_iff]
      constructor
      · rintro (hread | ⟨value, hread, h⟩)
        · exact ⟨[], item, items, rfl, List.forall_mem_nil _, hread⟩
        · rcases bind_eq_error_iff.1 h with hrest | ⟨rest, -, hdone⟩
          · obtain ⟨before, other, after, rfl, hbefore, hother⟩ := ih.1 hrest
            exact ⟨item :: before, other, after, rfl, List.forall_mem_cons.2 ⟨⟨value, hread⟩, hbefore⟩, hother⟩
          · cases hdone
      · rintro ⟨before, other, after, hitems, hbefore, hother⟩
        rcases before with _ | ⟨first, before⟩
        · obtain ⟨rfl, -⟩ := List.cons.inj hitems
          exact .inl hother
        · obtain ⟨rfl, htail⟩ := List.cons.inj hitems
          obtain ⟨⟨value, hread⟩, hbefore⟩ := List.forall_mem_cons.1 hbefore
          exact .inr ⟨value, hread,
            bind_eq_error_iff.2 (.inl (ih.2 ⟨before, other, after, htail, hbefore, hother⟩))⟩

end QueryVariants.Result
