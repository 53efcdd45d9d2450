import QueryVariants.Proofs.OrderedMap
import QueryVariants.Proofs.Result.Items
import QueryVariants.Proofs.Template.Layers
import QueryVariants.Template.Catalog

/-!
# What a catalog holds

A catalog is read number by number, from 1 to 99, and stops at the first number whose text cannot be found or
read. So what it holds for a number depends on the first answer of the source for that number alone, and a number
without a text leaves no trace.
-/

namespace QueryVariants

theorem mem_queryIds {id : Nat} : id ∈ queryIds ↔ 1 ≤ id ∧ id ≤ 99 := by
  rw [queryIds, List.mem_range'_1]
  omega

theorem pairwise_queryIds : queryIds.Pairwise (· < ·) :=
  List.pairwise_lt_range'

theorem validateQueryId_of_inRange {id : Nat} (hrange : 1 ≤ id ∧ id ≤ 99) : validateQueryId id = .ok id :=
  if_pos hrange

theorem validateQueryId_of_outOfRange {id : Nat} (hrange : ¬(1 ≤ id ∧ id ≤ 99)) :
    validateQueryId id = .error (.queryIdOutOfRange id) :=
  if_neg hrange

namespace Catalog

variable {tree : FileTree} {source : TemplateSource} {registry : Registry} {ids : List Nat} {id : Nat}

/-- What a catalog takes for a number: nothing if the source has no text. -/
def readEntry (tree : FileTree) (source : TemplateSource) (registry : Registry) (id : Nat) :
    Except Error (Option (Nat × Template)) := do
  match ← source.firstAnswer tree id with
  | none => return none
  | some text => return some (id, ← Template.parse id text registry)

/-- Nothing can be taken for a number: its text cannot be found or cannot be read. -/
def FailsAt (tree : FileTree) (source : TemplateSource) (registry : Registry) (id : Nat) (error : Error) :
    Prop :=
  source.firstAnswer tree id = .error error ∨
    ∃ text, source.firstAnswer tree id = .ok (some text) ∧ Template.parse id text registry = .error error

theorem readEntry_eq_error_iff {error : Error} :
    readEntry tree source registry id = .error error ↔ FailsAt tree source registry id error := by
  rw [readEntry, FailsAt, Result.bind_eq_error_iff]
  refine or_congr_right ?_
  constructor
  · rintro ⟨_ | text, hanswer, h⟩
    · cases h
    · rcases Result.bind_eq_error_iff.1 h with hparse | ⟨template, -, hdone⟩
      · exact ⟨text, hanswer, hparse⟩
      · cases hdone
  · rintro ⟨text, hanswer, hparse⟩
    exact ⟨some text, hanswer, Result.bind_eq_error_iff.2 (.inl hparse)⟩

theorem readEntry_eq_none_iff :
    readEntry tree source registry id = .ok none ↔ source.firstAnswer tree id = .ok none := by
  rw [readEntry, Result.bind_eq_ok_iff]
  constructor
  · rintro ⟨_ | text, hanswer, h⟩
    · exact hanswer
    · obtain ⟨template, -, hdone⟩ := Result.bind_eq_ok_iff.1 h
      cases hdone
  · exact fun hanswer => ⟨none, hanswer, rfl⟩

theorem readEntry_eq_some_iff {entry : Nat × Template} :
    readEntry tree source registry id = .ok (some entry) ↔
      entry.1 = id ∧
        ∃ text, source.firstAnswer tree id = .ok (some text) ∧ Template.parse id text registry = .ok entry.2 := by
  rw [readEntry, Result.bind_eq_ok_iff]
  constructor
  · rintro ⟨_ | text, hanswer, h⟩
    · cases h
    · obtain ⟨template, hparse, hdone⟩ := Result.bind_eq_ok_iff.1 h
      obtain rfl := Option.some.inj (Except.ok.inj hdone)
      exact ⟨rfl, text, hanswer, hparse⟩
  · rintro ⟨rfl, text, hanswer, hparse⟩
    exact ⟨some text, hanswer, Result.bind_eq_ok_iff.2 ⟨entry.2, hparse, rfl⟩⟩

/-- The numbers are read one by one, and those without a text are left out. -/
theorem loadIds_eq (tree : FileTree) (source : TemplateSource) (registry : Registry) (ids : List Nat) :
    loadIds tree source registry ids =
      (ids.mapM (readEntry tree source registry)).map fun entries => entries.filterMap fun entry => entry := by
  induction ids with
  | nil => rfl
  | cons id ids ih =>
      rw [loadIds, TemplateSource.load_eq_firstAnswer, List.mapM_cons, readEntry]
      rcases source.firstAnswer tree id with failure | _ | text
      · rfl
      · refine ih.trans ?_
        cases ids.mapM (readEntry tree source registry) <;> rfl
      · simp only [bind, Except.bind]
        cases Template.parse id text registry with
        | error failure => rfl
        | ok template =>
            simp only [ih]
            cases ids.mapM (readEntry tree source registry) <;> rfl

/-! ### The entries of a list of numbers -/

section

variable {entries : List (Option (Nat × Template))}

theorem mem_filterMap_of_readEntry
    (h : List.Forall₂ (fun id entry => readEntry tree source registry id = .ok entry) ids entries)
    {entry : Nat × Template} :
    entry ∈ entries.filterMap (fun entry => entry) ↔
      entry.1 ∈ ids ∧ readEntry tree source registry entry.1 = .ok (some entry) := by
  induction h with
  | nil => simp
  | @cons id found ids entries hread _ ih =>
      have hfound : found = some entry ↔
          entry.1 = id ∧ readEntry tree source registry entry.1 = .ok (some entry) := by
        constructor
        · rintro rfl
          obtain ⟨hid, -⟩ := readEntry_eq_some_iff.1 hread
          exact ⟨hid, hid ▸ hread⟩
        · rintro ⟨rfl, hentry⟩
          exact Except.ok.inj (hread.symm.trans hentry)
      rw [List.mem_cons, or_and_right, ← hfound, ← ih]
      simp only [List.mem_filterMap, List.mem_cons, exists_eq_right]
      rw [eq_comm (a := some entry)]

theorem sublist_of_readEntry
    (h : List.Forall₂ (fun id entry => readEntry tree source registry id = .ok entry) ids entries) :
    ((entries.filterMap fun entry => entry).map Prod.fst).Sublist ids := by
  induction h with
  | nil => exact .slnil
  | @cons id found ids entries hread _ ih =>
      rcases found with _ | entry
      · exact ih.cons id
      · obtain ⟨rfl, -⟩ := readEntry_eq_some_iff.1 hread
        exact ih.cons_cons entry.1

end

/-! ### Catalogs that are read, and those that are not -/

theorem exists_readEntry (h : ∀ error, ¬FailsAt tree source registry id error) :
    ∃ entry, readEntry tree source registry id = .ok entry :=
  Result.exists_ok_iff.2 fun error herror => h error (readEntry_eq_error_iff.1 herror)

/-- The error is that of the least number for which nothing can be taken. -/
theorem load_eq_error_iff {error : Error} :
    Catalog.load tree source registry = .error error ↔
      ∃ id, (1 ≤ id ∧ id ≤ 99) ∧ FailsAt tree source registry id error ∧
        ∀ earlier, 1 ≤ earlier → earlier < id → ∀ failure, ¬FailsAt tree source registry earlier failure := by
  rw [Catalog.load, Result.map_eq_error_iff, loadIds_eq, Result.map_eq_error_iff, Result.mapM_eq_error_iff]
  constructor
  · rintro ⟨before, id, after, hids, hbefore, herror⟩
    have hrange : id ∈ queryIds := hids ▸ List.mem_append_right before List.mem_cons_self
    have hsorted := pairwise_queryIds
    rw [hids, List.pairwise_append, List.pairwise_cons] at hsorted
    refine ⟨id, mem_queryIds.1 hrange, readEntry_eq_error_iff.1 herror, fun earlier hlow hlt failure hfails => ?_⟩
    have hmem : earlier ∈ before ++ id :: after := hids ▸ mem_queryIds.2 ⟨hlow, by
      have := (mem_queryIds.1 hrange).2
      omega⟩
    rcases List.mem_append.1 hmem with hmem | hmem
    · obtain ⟨entry, hentry⟩ := hbefore earlier hmem
      rw [readEntry_eq_error_iff.2 hfails] at hentry
      cases hentry
    · rcases List.mem_cons.1 hmem with rfl | hmem
      · exact Nat.lt_irrefl _ hlt
      · exact Nat.lt_asymm hlt (hsorted.2.1.1 earlier hmem)
  · rintro ⟨id, hrange, hfails, hearlier⟩
    obtain ⟨before, after, hids⟩ := List.append_of_mem (mem_queryIds.2 hrange)
    have hsorted := pairwise_queryIds
    rw [hids, List.pairwise_append] at hsorted
    refine ⟨before, id, after, hids, fun earlier hmem => exists_readEntry ?_, readEntry_eq_error_iff.2 hfails⟩
    have hlow : earlier ∈ queryIds := hids ▸ List.mem_append_left _ hmem
    exact hearlier earlier (mem_queryIds.1 hlow).1 (hsorted.2.2 earlier hmem id List.mem_cons_self)

/-- What a source gives a catalog: the templates of the numbers with a text, in ascending order. -/
structure Provides (tree : FileTree) (source : TemplateSource) (registry : Registry) (catalog : Catalog) :
    Prop where
  ascending : catalog.ids.Pairwise (· < ·)
  mem_iff : ∀ entry, entry ∈ catalog.templates ↔
    (1 ≤ entry.1 ∧ entry.1 ≤ 99) ∧ readEntry tree source registry entry.1 = .ok (some entry)
  read : ∀ id, 1 ≤ id → id ≤ 99 → ∃ entry, readEntry tree source registry id = .ok entry

variable {catalog : Catalog}

theorem provides_of_load (h : Catalog.load tree source registry = .ok catalog) :
    Provides tree source registry catalog := by
  rw [Catalog.load, Result.map_eq_ok_iff] at h
  obtain ⟨templates, h, rfl⟩ := h
  rw [loadIds_eq, Result.map_eq_ok_iff] at h
  obtain ⟨entries, h, rfl⟩ := h
  have hentries := Result.mapM_eq_ok_iff.1 h
  refine ⟨pairwise_queryIds.sublist (sublist_of_readEntry hentries), fun entry => ?_, fun id hlow hhigh => ?_⟩
  · rw [← mem_queryIds]
    exact mem_filterMap_of_readEntry hentries
  · exact Result.exists_of_mem_items h (mem_queryIds.2 ⟨hlow, hhigh⟩)

/-- A number is held exactly if a leaf has a text for it: no failure stands in front of that leaf. -/
theorem Provides.mem_ids_iff (h : Provides tree source registry catalog) :
    id ∈ catalog.ids ↔
      (1 ≤ id ∧ id ≤ 99) ∧ ∃ leaf ∈ source.leaves, ∃ text, leaf.load tree id = .ok (some text) := by
  constructor
  · intro hid
    obtain ⟨entry, hentry, rfl⟩ := List.mem_map.1 hid
    obtain ⟨hrange, hread⟩ := (h.mem_iff entry).1 hentry
    obtain ⟨-, text, hanswer, -⟩ := readEntry_eq_some_iff.1 hread
    obtain ⟨leaf, hleaf, hload⟩ := TemplateSource.exists_leaf_of_firstAnswer hanswer
    exact ⟨hrange, leaf, hleaf, text, hload⟩
  · rintro ⟨hrange, leaf, hleaf, text, hload⟩
    have hdecides := TemplateSource.decides_firstAnswer_of_leaf hleaf hload
    obtain ⟨_ | entry, hread⟩ := h.read id hrange.1 hrange.2
    · rw [readEntry_eq_none_iff.1 hread] at hdecides
      cases hdecides
    · obtain ⟨rfl, -⟩ := readEntry_eq_some_iff.1 hread
      exact List.mem_map_of_mem ((h.mem_iff entry).2 ⟨hrange, hread⟩)

theorem get_of_outOfRange (catalog : Catalog) (hrange : ¬(1 ≤ id ∧ id ≤ 99)) :
    catalog.get id = .error (.queryIdOutOfRange id) := by
  rw [get, validateQueryId_of_outOfRange hrange]
  rfl

theorem get_eq_lookup (catalog : Catalog) (hrange : 1 ≤ id ∧ id ≤ 99) :
    catalog.get id =
      match catalog.templates.lookup id with
      | some template => .ok template
      | none => .error (.unknownQuery id) := by
  rw [get, validateQueryId_of_inRange hrange]
  rfl

theorem get_of_notMem (hrange : 1 ≤ id ∧ id ≤ 99) (hid : id ∉ catalog.ids) :
    catalog.get id = .error (.unknownQuery id) := by
  have hlookup : catalog.templates.lookup id = none := by
    rw [List.lookup_eq_none_iff]
    rintro entry hentry
    have hne : entry.1 ≠ id := fun heq => hid (heq ▸ List.mem_map_of_mem hentry)
    simpa using Ne.symm hne
  rw [get_eq_lookup catalog hrange, hlookup]

theorem Provides.get_of_mem (h : Provides tree source registry catalog) (hid : id ∈ catalog.ids) :
    ∃ text template, source.firstAnswer tree id = .ok (some text) ∧
      Template.parse id text registry = .ok template ∧ catalog.get id = .ok template := by
  obtain ⟨entry, hentry, rfl⟩ := List.mem_map.1 hid
  obtain ⟨hrange, hread⟩ := (h.mem_iff entry).1 hentry
  obtain ⟨-, text, hanswer, hparse⟩ := readEntry_eq_some_iff.1 hread
  have hnodup : (catalog.templates.map Prod.fst).Nodup := h.ascending.imp fun hlt => Nat.ne_of_lt hlt
  have hlookup : catalog.templates.lookup entry.1 = some entry.2 := (lookup_eq_some_iff_mem hnodup).2 hentry
  exact ⟨text, entry.2, hanswer, hparse, by rw [get_eq_lookup catalog hrange, hlookup]⟩

/-- **A catalog is exactly what the layers provide.** Reading it fails exactly if there is a number from 1 to 99
for which the first leaf that has the text or fails does fail, or has a text that cannot be read as a template,
and then with the error of the least such number. Otherwise the catalog lists in ascending order the numbers from
1 to 99 for which some leaf has a text. For these it holds the template of the first text; every other number
from 1 to 99 is unknown, and all other numbers are out of range, whatever the source has under them. Layers
within layers may be laid out in one list. -/
theorem load_exact (tree : FileTree) (source : TemplateSource) (registry : Registry) :
    (∀ error, Catalog.load tree source registry = .error error ↔
      ∃ id, (1 ≤ id ∧ id ≤ 99) ∧ FailsAt tree source registry id error ∧
        ∀ earlier, 1 ≤ earlier → earlier < id → ∀ failure, ¬FailsAt tree source registry earlier failure) ∧
    (∀ catalog, Catalog.load tree source registry = .ok catalog →
      catalog.ids.Pairwise (· < ·) ∧ catalog.size = catalog.ids.length ∧
      (∀ id, id ∈ catalog.ids ↔
        (1 ≤ id ∧ id ≤ 99) ∧ ∃ leaf ∈ source.leaves, ∃ text, leaf.load tree id = .ok (some text)) ∧
      (∀ id ∈ catalog.ids, ∃ text template, source.firstAnswer tree id = .ok (some text) ∧
        Template.parse id text registry = .ok template ∧ catalog.get id = .ok template) ∧
      (∀ id, 1 ≤ id ∧ id ≤ 99 → id ∉ catalog.ids → catalog.get id = .error (.unknownQuery id)) ∧
      ∀ id, ¬(1 ≤ id ∧ id ≤ 99) → catalog.get id = .error (.queryIdOutOfRange id)) ∧
    (∀ id, (TemplateSource.layers source.leaves).load tree id = source.load tree id) ∧
    Catalog.load tree (.layers source.leaves) registry = Catalog.load tree source registry := by
  refine ⟨fun error => load_eq_error_iff, fun catalog hload => ?_, fun id => ?_, ?_⟩
  · have hprovides := provides_of_load hload
    exact ⟨hprovides.ascending, (List.length_map _).symm, fun id => hprovides.mem_ids_iff,
      fun id hid => hprovides.get_of_mem hid, fun id hrange hid => get_of_notMem hrange hid,
      fun id hrange => get_of_outOfRange catalog hrange⟩
  · rw [TemplateSource.load_layers_leaves]
  · have hentry : readEntry tree (.layers source.leaves) registry = readEntry tree source registry := by
      funext id
      rw [readEntry, TemplateSource.firstAnswer, TemplateSource.leaves_layers_leaves, readEntry,
        TemplateSource.firstAnswer]
    rw [Catalog.load, loadIds_eq, hentry, ← loadIds_eq, ← Catalog.load]

/-- A broken text is reported although a layer behind it has another, and a number out of range is not looked
at. -/
theorem load_exact_broken :
    Catalog.load ⟨[], []⟩
        (.layers [.layers [.memory [(0, "define A")], .memory [(5, "define A")]], .memory [(5, "b")]]) .empty =
      .error (.templateSyntax 5 1 "define without '='") := by
  refine ((load_exact _ _ _).1 _).2 ⟨5, by decide, .inr ⟨"define A", rfl, rfl⟩, ?_⟩
  intro earlier hlow hlt failure hfails
  have hread := readEntry_eq_error_iff.2 hfails
  obtain rfl | rfl | rfl | rfl : earlier = 1 ∨ earlier = 2 ∨ earlier = 3 ∨ earlier = 4 := by omega
  all_goals cases hread

end Catalog

end QueryVariants
