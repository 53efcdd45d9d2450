import Std.Data.HashMap
import Std.Data.HashSet

/-!
# Maps that remember the order of insertion

The order of the defines of a template decides the order in which random values are drawn, so the maps
that hold them list their entries in the order in which the names first appeared. A map of many entries
is built at once, with a hash table beside it; the result is the same as that of inserting the entries one
after the other.
-/

namespace QueryVariants

/-- Gives `name` a value in place: an old entry of that name keeps its position. -/
def insertInto {α : Type} (name : String) (value : α) : List (String × α) → List (String × α)
  | [] => [(name, value)]
  | entry :: rest =>
    if entry.1 = name then (name, value) :: rest else entry :: insertInto name value rest

theorem map_fst_insertInto {α : Type} (name : String) (value : α) (entries : List (String × α)) :
    (insertInto name value entries).map Prod.fst =
      if name ∈ entries.map Prod.fst then entries.map Prod.fst
      else entries.map Prod.fst ++ [name] := by
  induction entries with
  | nil => simp [insertInto]
  | cons entry rest ih => grind [insertInto]

theorem nodup_insertInto {α : Type} (name : String) (value : α) {entries : List (String × α)}
    (h : (entries.map Prod.fst).Nodup) : ((insertInto name value entries).map Prod.fst).Nodup := by
  rw [map_fst_insertInto]
  split
  · exact h
  · next hmem =>
    rw [List.nodup_append]
    exact ⟨h, by simp, by grind⟩

theorem lookup_insertInto {α : Type} (name other : String) (value : α)
    (entries : List (String × α)) :
    (insertInto name value entries).lookup other =
      if other = name then some value else entries.lookup other := by
  induction entries with
  | nil => grind [insertInto]
  | cons entry rest ih => grind [insertInto]

/-- Entries in the order of their first insertion. -/
structure OrderedMap (α : Type) where
  entries : List (String × α)
  /-- No two entries have the same name. -/
  nodup : (entries.map Prod.fst).Nodup
  deriving DecidableEq, Repr

namespace OrderedMap

variable {α : Type}

def empty : OrderedMap α := ⟨[], by simp⟩

instance : EmptyCollection (OrderedMap α) := ⟨empty⟩

instance : Inhabited (OrderedMap α) := ⟨empty⟩

def find? (map : OrderedMap α) (name : String) : Option α :=
  map.entries.lookup name

def keys (map : OrderedMap α) : List String :=
  map.entries.map Prod.fst

def insert (map : OrderedMap α) (name : String) (value : α) : OrderedMap α :=
  ⟨insertInto name value map.entries, nodup_insertInto name value map.nodup⟩

/-- Inserts the entries one after the other. -/
def insertMany (map : OrderedMap α) (entries : List (String × α)) : OrderedMap α :=
  entries.foldl (fun map (name, value) => map.insert name value) map

def size (map : OrderedMap α) : Nat :=
  map.entries.length

theorem nodup_keys (map : OrderedMap α) : map.keys.Nodup :=
  map.nodup

@[simp] theorem find?_empty (name : String) : (empty : OrderedMap α).find? name = none := rfl

/-- Reading after writing. -/
theorem find?_insert (map : OrderedMap α) (name other : String) (value : α) :
    (map.insert name value).find? other = if other = name then some value else map.find? other :=
  lookup_insertInto name other value map.entries

theorem mem_keys_iff {map : OrderedMap α} {name : String} :
    name ∈ map.keys ↔ ∃ value, map.find? name = some value := by
  obtain ⟨entries, hnodup⟩ := map
  simp only [keys, find?]
  clear hnodup
  induction entries with
  | nil => simp
  | cons entry rest ih =>
    obtain ⟨key, value⟩ := entry
    by_cases h : name = key
    · simp [h]
    · have hne : (name == key) = false := by simpa using h
      simp [List.lookup_cons, hne, h, ih]

/-- Writing keeps the old names in their order and adds a new one at the end. -/
theorem keys_insert (map : OrderedMap α) (name : String) (value : α) :
    (map.insert name value).keys = if name ∈ map.keys then map.keys else map.keys ++ [name] :=
  map_fst_insertInto name value map.entries

/-- The names that are not seen yet, each where it first appears. -/
def newNames (seen : Std.HashSet String) : List (String × α) → List String
  | [] => []
  | (name, _) :: rest =>
    if seen.contains name then newNames seen rest else name :: newNames (seen.insert name) rest

/-- The last value of each name. -/
def latestValues (latest : Std.HashMap String α) (entries : List (String × α)) :
    Std.HashMap String α :=
  entries.foldl (fun latest (name, value) => latest.insert name value) latest

/-- Each name where it first appears, with its last value. -/
def collect (entries : List (String × α)) : List (String × α) :=
  let latest := latestValues ∅ entries
  (newNames ∅ entries).filterMap fun name => latest[name]?.map fun value => (name, value)

theorem keys_insertMany (map : OrderedMap α) (seen : Std.HashSet String)
    (entries : List (String × α)) (hseen : ∀ name, seen.contains name = true ↔ name ∈ map.keys) :
    (map.insertMany entries).keys = map.keys ++ newNames seen entries := by
  induction entries generalizing map seen with
  | nil => simp [insertMany, newNames]
  | cons entry rest ih =>
    obtain ⟨name, value⟩ := entry
    have hkeys := keys_insert map name value
    change ((map.insert name value).insertMany rest).keys = _
    rw [newNames]
    by_cases hname : name ∈ map.keys
    · rw [if_pos ((hseen name).2 hname), ih _ seen (by simpa [hkeys, hname] using hseen), hkeys,
        if_pos hname]
    · rw [if_neg (fun h => hname ((hseen name).1 h)), ih _ (seen.insert name) ?_, hkeys, if_neg hname]
      · simp
      · intro other
        rw [hkeys, if_neg hname, Std.HashSet.contains_insert]
        grind

theorem find?_insertMany (map : OrderedMap α) (latest : Std.HashMap String α)
    (entries : List (String × α)) (hlatest : ∀ name, latest[name]? = map.find? name)
    (name : String) : (latestValues latest entries)[name]? = (map.insertMany entries).find? name := by
  induction entries generalizing map latest with
  | nil => exact hlatest name
  | cons entry rest ih =>
    refine ih (map.insert entry.1 entry.2) (latest.insert entry.1 entry.2) fun other => ?_
    rw [find?_insert, Std.HashMap.getElem?_insert, hlatest]
    grind

theorem filterMap_eq_of_mem {β γ : Type} {f g : β → Option γ} {items : List β}
    (h : ∀ x ∈ items, f x = g x) : items.filterMap f = items.filterMap g := by
  induction items with
  | nil => rfl
  | cons x rest ih => grind

/-- Reading each name of a list of entries in turn gives the list back. -/
theorem filterMap_lookup {entries : List (String × α)} (h : (entries.map Prod.fst).Nodup) :
    ((entries.map Prod.fst).filterMap fun name =>
      (entries.lookup name).map fun value => (name, value)) = entries := by
  induction entries with
  | nil => rfl
  | cons entry rest ih =>
    obtain ⟨key, value⟩ := entry
    simp only [List.map_cons, List.nodup_cons] at h
    simp only [List.map_cons, List.filterMap_cons, List.lookup_cons, beq_self_eq_true,
      Option.map_some]
    congr 1
    refine Eq.trans (filterMap_eq_of_mem fun name hname => ?_) (ih h.2)
    have hne : (name == key) = false := by
      simp only [beq_eq_false_iff_ne, ne_eq]
      rintro rfl
      exact h.1 hname
    rw [hne]

theorem collect_eq (entries : List (String × α)) :
    collect entries = ((empty : OrderedMap α).insertMany entries).entries := by
  have hnames := keys_insertMany (empty : OrderedMap α) ∅ entries (by simp [empty, keys])
  have hvalues := find?_insertMany (empty : OrderedMap α) ∅ entries (by simp)
  have hempty : (empty : OrderedMap α).keys = [] := rfl
  rw [hempty, List.nil_append] at hnames
  simp only [collect, ← hnames, hvalues]
  exact filterMap_lookup (nodup_keys _)

/-- The map of a list of entries: each name stands where it first appears and has its last value. -/
def ofList (entries : List (String × α)) : OrderedMap α :=
  ⟨collect entries, collect_eq entries ▸ nodup_keys _⟩

/-- Building a map at once is the same as inserting the entries one after the other. -/
theorem ofList_eq_insertMany (entries : List (String × α)) :
    ofList entries = (empty : OrderedMap α).insertMany entries := by
  have h := collect_eq entries
  simp only [ofList, h]

end OrderedMap

end QueryVariants
