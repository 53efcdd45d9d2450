import QueryVariants.Error

/-!
# Readers that succeed

A reader is a sequence of steps that may fail. One that succeeds did so step by step, and one whose steps all
succeed does so too.
-/

namespace QueryVariants.Result

variable {α β : Type} {result : Except Error α} {f : α → β} {g : α → Except Error β} {value : β}

theorem map_eq_ok_iff : result.map f = .ok value ↔ ∃ a, result = .ok a ∧ f a = value := by
  cases result <;> simp [Except.map]

theorem map_eq_error_iff {error : Error} : result.map f = .error error ↔ result = .error error := by
  cases result <;> simp [Except.map]

theorem bind_eq_ok_iff : (result >>= g) = .ok value ↔ ∃ a, result = .ok a ∧ g a = .ok value := by
  cases result <;> simp [bind, Except.bind]

theorem bind_eq_error_iff {error : Error} :
    (result >>= g) = .error error ↔ result = .error error ∨ ∃ a, result = .ok a ∧ g a = .error error := by
  cases result <;> simp [bind, Except.bind]

theorem exists_ok_iff : (∃ value, result = .ok value) ↔ ∀ error, result ≠ .error error := by
  cases result <;> simp

theorem exists_bind (h : ∃ a, result = .ok a) (hnext : ∀ a, ∃ value, g a = .ok value) :
    ∃ value, (result >>= g) = .ok value := by
  obtain ⟨a, ha⟩ := h
  obtain ⟨value, hvalue⟩ := hnext a
  exact ⟨value, bind_eq_ok_iff.2 ⟨a, ha, hvalue⟩⟩

/-- A list is read if each of its items is. -/
theorem exists_mapM {read : α → Except Error β} {items : List α}
    (h : ∀ item ∈ items, ∃ value, read item = .ok value) :
    ∃ values, items.mapM read = .ok values := by
  induction items with
  | nil => exact ⟨[], rfl⟩
  | cons item items ih =>
      obtain ⟨⟨first, hfirst⟩, hrest⟩ := List.forall_mem_cons.1 h
      obtain ⟨rest, hvalues⟩ := ih hrest
      rw [List.mapM_cons, hfirst]
      exact ⟨first :: rest, bind_eq_ok_iff.2 ⟨first, rfl, bind_eq_ok_iff.2 ⟨rest, hvalues, rfl⟩⟩⟩

/-- Each value of a list that was read was read from an item. -/
theorem exists_of_mem_of_mapM {read : α → Except Error β} {items : List α} {values : List β}
    (h : items.mapM read = .ok values) (hvalue : value ∈ values) : ∃ item ∈ items, read item = .ok value := by
  induction items generalizing values with
  | nil =>
      obtain rfl := Except.ok.inj h
      cases hvalue
  | cons item items ih =>
      rw [List.mapM_cons] at h
      obtain ⟨first, hfirst, h⟩ := bind_eq_ok_iff.1 h
      obtain ⟨rest, hrest, h⟩ := bind_eq_ok_iff.1 h
      obtain rfl := Except.ok.inj h
      rcases List.mem_cons.1 hvalue with rfl | hvalue
      · exact ⟨item, List.mem_cons_self, hfirst⟩
      · obtain ⟨other, hother, hread⟩ := ih hrest hvalue
        exact ⟨other, List.mem_cons_of_mem _ hother, hread⟩

/-! ### Readers that fail -/

/-- A reader fails with errors of one kind only. -/
def FailsOnly (own : Error → Prop) {α : Type} (result : Except Error α) : Prop :=
  ∀ error, result = .error error → own error

namespace FailsOnly

variable {own : Error → Prop}

theorem ok (value : α) : FailsOnly own (.ok value) := by
  intro error h
  cases h

theorem error {error : Error} (h : own error) : FailsOnly own (.error error : Except Error α) := by
  rintro _ ⟨⟩
  exact h

theorem bind (hfirst : FailsOnly own result) (hrest : ∀ value, FailsOnly own (g value)) :
    FailsOnly own (result >>= g) := by
  rcases result with failure | value
  · exact fun error h => hfirst error (congrArg Except.error (Except.error.inj h))
  · exact hrest value

theorem map (h : FailsOnly own result) (f : α → β) : FailsOnly own (result.map f) :=
  fun error herror => h error (map_eq_error_iff.1 herror)

theorem mapM {read : α → Except Error β} {items : List α} (h : ∀ item, FailsOnly own (read item)) :
    FailsOnly own (items.mapM read) := by
  induction items with
  | nil => exact .ok []
  | cons item items ih =>
      rw [List.mapM_cons]
      exact .bind (h item) fun first => .bind ih fun rest => .ok _

end FailsOnly

end QueryVariants.Result
