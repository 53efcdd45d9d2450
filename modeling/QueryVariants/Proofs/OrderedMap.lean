import QueryVariants.OrderedMap

/-!
# Maps and their parts

What a map holds under the names of one kind does not depend on what was inserted under the others: taking
entries out by their names and inserting entries can be done in either order.
-/

namespace QueryVariants

/-- A name stands with one value only in a list of entries whose names differ. -/
theorem lookup_eq_some_iff_mem {α β : Type} [BEq α] [LawfulBEq α] {entries : List (α × β)} {key : α} {value : β}
    (h : (entries.map Prod.fst).Nodup) : entries.lookup key = some value ↔ (key, value) ∈ entries := by
  induction entries with
  | nil => simp
  | cons entry entries ih =>
      obtain ⟨name, old⟩ := entry
      obtain ⟨hname, hentries⟩ := List.nodup_cons.1 h
      rw [List.lookup_cons, List.mem_cons, Prod.mk.injEq]
      by_cases hkey : key = name
      · subst hkey
        have hmem : (key, value) ∉ entries := fun hmem => hname (List.mem_map.2 ⟨_, hmem, rfl⟩)
        simp [hmem, eq_comm]
      · have hne : (key == name) = false := by simpa using hkey
        simp [hne, hkey, ih hentries]

/-- The entries whose names are kept. -/
def keepNames {α : Type} (keep : String → Bool) (entries : List (String × α)) : List (String × α) :=
  entries.filter fun entry => keep entry.1

section

variable {α : Type} {keep : String → Bool} {name key : String} {value : α} {entries : List (String × α)}

theorem keepNames_cons_of_pos (h : keep key = true) :
    keepNames keep ((key, value) :: entries) = (key, value) :: keepNames keep entries :=
  List.filter_cons_of_pos h

theorem keepNames_cons_of_neg (h : keep key = false) :
    keepNames keep ((key, value) :: entries) = keepNames keep entries :=
  List.filter_cons_of_neg (by simpa using h)

theorem keepNames_append (entries more : List (String × α)) :
    keepNames keep (entries ++ more) = keepNames keep entries ++ keepNames keep more :=
  List.filter_append _ _

theorem keepNames_eq_self (h : ∀ entry ∈ entries, keep entry.1 = true) : keepNames keep entries = entries :=
  List.filter_eq_self.2 h

theorem keepNames_eq_nil (h : ∀ entry ∈ entries, keep entry.1 = false) : keepNames keep entries = [] := by
  apply List.filter_eq_nil_iff.2
  intro entry hentry
  simp [h entry hentry]

theorem keepNames_insertInto_of_pos (hname : keep name = true) :
    keepNames keep (insertInto name value entries) = insertInto name value (keepNames keep entries) := by
  induction entries with
  | nil => exact keepNames_cons_of_pos hname
  | cons entry entries ih =>
      obtain ⟨key, old⟩ := entry
      by_cases hentry : key = name
      · subst hentry
        rw [insertInto, if_pos rfl, keepNames_cons_of_pos hname, keepNames_cons_of_pos hname, insertInto,
          if_pos rfl]
      · rw [insertInto, if_neg hentry]
        cases hkey : keep key with
        | true => rw [keepNames_cons_of_pos hkey, keepNames_cons_of_pos hkey, ih, insertInto, if_neg hentry]
        | false => rw [keepNames_cons_of_neg hkey, keepNames_cons_of_neg hkey, ih]

theorem keepNames_insertInto_of_neg (hname : keep name = false) :
    keepNames keep (insertInto name value entries) = keepNames keep entries := by
  induction entries with
  | nil => exact keepNames_cons_of_neg hname
  | cons entry entries ih =>
      obtain ⟨key, old⟩ := entry
      by_cases hentry : key = name
      · subst hentry
        rw [insertInto, if_pos rfl, keepNames_cons_of_neg hname, keepNames_cons_of_neg hname]
      · rw [insertInto, if_neg hentry]
        cases hkey : keep key with
        | true => rw [keepNames_cons_of_pos hkey, keepNames_cons_of_pos hkey, ih]
        | false => rw [keepNames_cons_of_neg hkey, keepNames_cons_of_neg hkey, ih]

theorem lookup_keepNames (hname : keep name = true) :
    (keepNames keep entries).lookup name = entries.lookup name := by
  induction entries with
  | nil => rfl
  | cons entry entries ih =>
      obtain ⟨key, value⟩ := entry
      by_cases hsame : name = key
      · subst hsame
        rw [keepNames_cons_of_pos hname, List.lookup_cons_self, List.lookup_cons_self]
      · have hne : (name == key) = false := by simpa using hsame
        cases hkey : keep key with
        | true => rw [keepNames_cons_of_pos hkey, List.lookup_cons, List.lookup_cons, hne, ih]
        | false => rw [keepNames_cons_of_neg hkey, List.lookup_cons, hne, ih]

end

namespace OrderedMap

section

variable {α : Type} {map other : OrderedMap α} {name : String} {value : α} {entries : List (String × α)}

theorem insertMany_cons (map : OrderedMap α) (name : String) (value : α) (entries : List (String × α)) :
    map.insertMany ((name, value) :: entries) = (map.insert name value).insertMany entries := rfl

theorem mem_keys_insert {key : String} : key ∈ (map.insert name value).keys ↔ key ∈ map.keys ∨ key = name := by
  rw [keys_insert]
  split
  · rename_i hmem
    constructor
    · exact .inl
    · rintro (hkey | rfl)
      · exact hkey
      · exact hmem
  · rw [List.mem_append, List.mem_singleton]

theorem mem_keys_insertMany {key : String} :
    key ∈ (map.insertMany entries).keys ↔ key ∈ map.keys ∨ key ∈ entries.map Prod.fst := by
  induction entries generalizing map with
  | nil => simp [insertMany]
  | cons entry entries ih =>
      obtain ⟨name, value⟩ := entry
      rw [insertMany_cons, ih, mem_keys_insert, List.map_cons, List.mem_cons, or_assoc]

theorem mem_keys_ofList {key : String} : key ∈ (ofList entries).keys ↔ key ∈ entries.map Prod.fst := by
  rw [ofList_eq_insertMany, mem_keys_insertMany]
  constructor
  · rintro (hkey | hkey)
    · cases hkey
    · exact hkey
  · exact .inr

/-- Inserting entries and taking out some names can be done in either order. -/
theorem keepNames_insertMany (keep : String → Bool) (other : OrderedMap α)
    (hmap : keepNames keep map.entries = other.entries) :
    keepNames keep (map.insertMany entries).entries =
      (other.insertMany (keepNames keep entries)).entries := by
  induction entries generalizing map other with
  | nil => exact hmap
  | cons entry entries ih =>
      obtain ⟨name, value⟩ := entry
      cases hname : keep name with
      | true =>
          rw [keepNames_cons_of_pos hname, insertMany_cons, insertMany_cons]
          apply ih
          exact (keepNames_insertInto_of_pos hname).trans (congrArg (insertInto name value) hmap)
      | false =>
          rw [keepNames_cons_of_neg hname, insertMany_cons]
          apply ih
          exact (keepNames_insertInto_of_neg hname).trans hmap

theorem keepNames_ofList (keep : String → Bool) (entries : List (String × α)) :
    keepNames keep (ofList entries).entries =
      (ofList (keepNames keep entries)).entries := by
  rw [ofList_eq_insertMany, ofList_eq_insertMany]
  exact keepNames_insertMany keep empty rfl

theorem find?_eq_of_keepNames {keep : String → Bool}
    (h : keepNames keep map.entries = other.entries) (hname : keep name = true) :
    map.find? name = other.find? name := by
  unfold find?
  rw [← h, lookup_keepNames hname]

theorem insertMany_append (map : OrderedMap α) (entries more : List (String × α)) :
    map.insertMany (entries ++ more) = (map.insertMany entries).insertMany more :=
  List.foldl_append

theorem find?_insertMany_of_notMem (h : name ∉ entries.map Prod.fst) :
    (map.insertMany entries).find? name = map.find? name := by
  induction entries generalizing map with
  | nil => rfl
  | cons entry entries ih =>
      obtain ⟨key, value⟩ := entry
      rw [List.map_cons] at h
      obtain ⟨hkey, hentries⟩ := List.ne_and_not_mem_of_not_mem_cons h
      rw [insertMany_cons, ih hentries, find?_insert, if_neg hkey]

theorem mem_or_find?_of_find?_insertMany (h : (map.insertMany entries).find? name = some value) :
    (name, value) ∈ entries ∨ name ∉ entries.map Prod.fst ∧ map.find? name = some value := by
  induction entries generalizing map with
  | nil => exact .inr ⟨List.not_mem_nil, h⟩
  | cons entry entries ih =>
      obtain ⟨key, first⟩ := entry
      rcases ih h with hmem | ⟨hlater, hfirst⟩
      · exact .inl (List.mem_cons_of_mem _ hmem)
      · rw [find?_insert] at hfirst
        split at hfirst
        · rename_i hkey
          obtain rfl := Option.some.inj hfirst
          exact .inl (hkey ▸ List.mem_cons_self)
        · rename_i hkey
          refine .inr ⟨?_, hfirst⟩
          rw [List.map_cons]
          exact List.not_mem_cons_of_ne_of_not_mem hkey hlater

theorem mem_of_find?_ofList (h : (ofList entries).find? name = some value) : (name, value) ∈ entries := by
  rw [ofList_eq_insertMany] at h
  rcases mem_or_find?_of_find?_insertMany h with hmem | ⟨-, hempty⟩
  · exact hmem
  · cases hempty

/-- The last entries of a list decide what the map holds under their names. -/
theorem find?_ofList_append {more : List (String × α)} (hmem : name ∈ more.map Prod.fst)
    (hsame : ∀ other, (name, other) ∈ more → other = value) :
    (ofList (entries ++ more)).find? name = some value := by
  rw [ofList_eq_insertMany, insertMany_append]
  have hkey : name ∈ ((empty.insertMany entries).insertMany more).keys := mem_keys_insertMany.2 (.inr hmem)
  obtain ⟨found, hfound⟩ := mem_keys_iff.1 hkey
  rcases mem_or_find?_of_find?_insertMany hfound with hlater | ⟨hnot, -⟩
  · rw [hfound, hsame found hlater]
  · exact absurd hmem hnot

theorem find?_of_mem (h : (name, value) ∈ map.entries) : map.find? name = some value :=
  (lookup_eq_some_iff_mem map.nodup).2 h

theorem mem_of_find? (h : map.find? name = some value) : (name, value) ∈ map.entries :=
  (lookup_eq_some_iff_mem map.nodup).1 h

end

end OrderedMap

end QueryVariants
