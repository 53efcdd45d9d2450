import QueryVariants.Distribution.Registry
import QueryVariants.Proofs.Distribution.WellFormed
import QueryVariants.Proofs.Result

/-!
# Registries of tables that were read

Every way to load a registry reads its tables, be it from the bundled texts or from files. So what reading
guarantees of a table holds of every table that is found in a registry.
-/

namespace QueryVariants

open QueryVariants.Distribution

/-- The table was read from some text. -/
def Table.Parsed (table : Table) : Prop :=
  ∃ name text fields weights, Table.parse name text fields weights = .ok table

theorem Table.Parsed.wellFormed {table : Table} (h : table.Parsed) : table.WellFormed := by
  obtain ⟨name, text, fields, weights, h⟩ := h
  exact wellFormed_of_parse h

/-- All tables of the registry were read from texts. -/
def Registry.Parsed (registry : Registry) : Prop :=
  ∀ name table, registry.tables.find? name = some table → table.Parsed

namespace Registry

variable {registry : Registry} {name : String} {table : Table} {tables : List Table}

theorem find?_of_get (h : registry.get name = .ok table) : registry.find? name = some table := by
  unfold get at h
  split at h
  · rename_i found hfound
    rw [hfound, Except.ok.inj h]
  · cases h

theorem Parsed.wellFormed (h : registry.Parsed) (hfind : registry.find? name = some table) :
    table.WellFormed :=
  (h _ table hfind).wellFormed

/-- What holds of the tables that a registry is made of holds of all tables that are found in it. -/
theorem forall_find?_ofTables {property : String → Table → Prop}
    (h : ∀ table ∈ tables, property table.name table) :
    ∀ name table, (ofTables tables).tables.find? name = some table → property name table := by
  have hempty : ∀ name table, empty.tables.find? name = some table → property name table := by
    intro name table hfind
    cases hfind
  rw [ofTables]
  generalize empty = registry at hempty
  induction tables generalizing registry with
  | nil => exact hempty
  | cons table tables ih =>
      obtain ⟨hfirst, hrest⟩ := List.forall_mem_cons.1 h
      apply ih hrest
      intro name found hfind
      rw [insert, OrderedMap.find?_insert] at hfind
      split at hfind
      · rename_i hname
        obtain rfl := Option.some.inj hfind
        exact hname ▸ hfirst
      · exact hempty name found hfind

theorem parsed_ofTables (h : ∀ table ∈ tables, table.Parsed) : (ofTables tables).Parsed :=
  forall_find?_ofTables h

/-- The registry of the bundled texts. -/
theorem parsed_of_bundled (h : bundled = .ok registry) : registry.Parsed := by
  obtain ⟨tables, htables, h⟩ := Result.bind_eq_ok_iff.1 h
  obtain rfl := Except.ok.inj h
  apply parsed_ofTables
  intro table htable
  obtain ⟨shape, -, hparse⟩ := Result.exists_of_mem_of_mapM htables htable
  exact ⟨_, _, _, _, hparse⟩

theorem parsed_of_load {tree : FileTree} {path : String} {fields weights : List String}
    (h : Table.load tree path name fields weights = .ok table) : table.Parsed := by
  unfold Table.load at h
  split at h
  · cases h
  · exact ⟨_, _, _, _, h⟩

theorem parsed_of_loadShape {tree : FileTree} {dir : String} {shape : Shape}
    (h : loadShape tree dir shape = .ok table) : table.Parsed := by
  unfold loadShape at h
  dsimp only at h
  split at h
  · exact parsed_of_load h
  · exact ⟨_, _, _, _, h⟩

/-- A registry in which files of a directory stand in front of the bundled texts. -/
theorem parsed_of_withOverrides {tree : FileTree} {dir : String}
    (h : withOverrides tree dir = .ok registry) : registry.Parsed := by
  unfold withOverrides at h
  split at h
  · cases h
  obtain ⟨tables, htables, h⟩ := Result.bind_eq_ok_iff.1 h
  obtain rfl := Except.ok.inj h
  apply parsed_ofTables
  intro table htable
  obtain ⟨shape, -, hload⟩ := Result.exists_of_mem_of_mapM htables htable
  exact parsed_of_loadShape hload

end Registry

end QueryVariants
