import QueryVariants.Generator
import QueryVariants.Proofs.Output.Limited
import QueryVariants.Proofs.Result.Items

/-!
# Batches compose

A query of a batch is generated from its number and the seed alone, so a batch is its queries read item by item,
and a batch of two lists is the one behind the other. The reports follow the queries that were generated: as many
as there are, each with its place and the length of the whole list.
-/

namespace QueryVariants.Generator

open Output

/-- What a batch holds for a query. -/
def entry (generator : Generator) (seed : UInt64) (id : Nat) : Except Error GeneratedQuery :=
  (generator.generateSql id seed).map (GeneratedQuery.mk id seed)

/-- The reports on the first queries of a list. -/
def reports (ids : List Nat) (count : Nat) : List Progress :=
  (ids.take count).mapIdx fun place id => ⟨id, place + 1, ids.length⟩

variable {generator : Generator} {seed : UInt64} {ids : List Nat} {total done : Nat}

theorem entry_eq_ok_iff {id : Nat} {query : GeneratedQuery} :
    generator.entry seed id = .ok query ↔
      ∃ sql, generator.generateSql id seed = .ok sql ∧ query = ⟨id, seed, sql⟩ := by
  rw [entry, Result.map_eq_ok_iff]
  simp only [eq_comm]

theorem exists_entry_iff {id : Nat} :
    (∃ query, generator.entry seed id = .ok query) ↔ ∃ sql, generator.generateSql id seed = .ok sql := by
  simp only [entry, Result.map_eq_ok_iff]
  exact ⟨fun ⟨_, sql, hsql, _⟩ => ⟨sql, hsql⟩, fun ⟨sql, hsql⟩ => ⟨_, sql, hsql, rfl⟩⟩

/-! ### The rest of a batch -/

/-- Neither the reports that were made nor the queries that were generated have a part in the next query. -/
theorem snd_generateFrom (generator : Generator) (seed : UInt64) (total done : Nat) (ids : List Nat) :
    (generator.generateFrom seed total done ids).2 = ids.mapM (generator.entry seed) := by
  induction ids generalizing done with
  | nil => rfl
  | cons id ids ih =>
      rw [generateFrom, List.mapM_cons, entry]
      cases generator.generateSql id seed with
      | error failure => rfl
      | ok sql =>
          have hrest := ih (done + 1)
          simp only [Except.map, hrest]
          cases ids.mapM (generator.entry seed) <;> rfl

theorem fst_generateFrom_cons {id : Nat} {sql : String} (h : generator.generateSql id seed = .ok sql) :
    (generator.generateFrom seed total done (id :: ids)).1 =
      ⟨id, done + 1, total⟩ :: (generator.generateFrom seed total (done + 1) ids).1 := by
  rw [generateFrom, h]

theorem fst_generateFrom_of_error {id : Nat} {error : Error} (h : generator.generateSql id seed = .error error) :
    (generator.generateFrom seed total done (id :: ids)).1 = [] := by
  rw [generateFrom, h]

/-- Queries that are generated are reported in order. -/
theorem fst_generateFrom_append {before : List Nat}
    (h : ∀ id ∈ before, ∃ sql, generator.generateSql id seed = .ok sql) (after : List Nat) :
    (generator.generateFrom seed total done (before ++ after)).1 =
      before.mapIdx (fun place id => (⟨id, done + place + 1, total⟩ : Progress)) ++
        (generator.generateFrom seed total (done + before.length) after).1 := by
  induction before generalizing done with
  | nil => rfl
  | cons id before ih =>
      obtain ⟨⟨sql, hsql⟩, hbefore⟩ := List.forall_mem_cons.1 h
      have hplace : ∀ place, done + 1 + place = done + (place + 1) := fun place => by omega
      rw [List.cons_append, fst_generateFrom_cons hsql, ih hbefore, List.mapIdx_cons, List.length_cons]
      simp only [hplace, List.cons_append, Nat.add_zero]

/-! ### Whole batches -/

theorem snd_generate (generator : Generator) (seed : UInt64) (ids : List Nat) :
    (generator.generate ids seed).2 = ids.mapM (generator.entry seed) :=
  snd_generateFrom generator seed ids.length 0 ids

theorem generate_of_ok {queries : List GeneratedQuery} (h : (generator.generate ids seed).2 = .ok queries) :
    List.Forall₂ (fun id query => ∃ sql, generator.generateSql id seed = .ok sql ∧ query = ⟨id, seed, sql⟩)
        ids queries ∧
      (generator.generate ids seed).1 = reports ids ids.length := by
  rw [snd_generate] at h
  have hentries := (Result.mapM_eq_ok_iff.1 h).imp fun id query hentry => entry_eq_ok_iff.1 hentry
  have hall : ∀ id ∈ ids, ∃ sql, generator.generateSql id seed = .ok sql :=
    fun id hid => exists_entry_iff.1 (Result.exists_of_mem_items h hid)
  have hreports : (generator.generateFrom seed ids.length 0 (ids ++ [])).1 = _ := fst_generateFrom_append hall []
  rw [List.append_nil] at hreports
  refine ⟨hentries, ?_⟩
  rw [generate, hreports, reports, List.take_length, generateFrom, List.append_nil]
  simp only [Nat.zero_add]

theorem generate_of_error {error : Error} (h : (generator.generate ids seed).2 = .error error) :
    ∃ before id after, ids = before ++ id :: after ∧
      (∀ earlier ∈ before, ∃ sql, generator.generateSql earlier seed = .ok sql) ∧
      generator.generateSql id seed = .error error ∧
      (generator.generate ids seed).1 = reports ids before.length := by
  rw [snd_generate, Result.mapM_eq_error_iff] at h
  obtain ⟨before, id, after, hids, hbefore, herror⟩ := h
  have hall : ∀ earlier ∈ before, ∃ sql, generator.generateSql earlier seed = .ok sql :=
    fun earlier hearlier => exists_entry_iff.1 (hbefore earlier hearlier)
  have hfails : generator.generateSql id seed = .error error := Result.map_eq_error_iff.1 herror
  refine ⟨before, id, after, hids, hall, hfails, ?_⟩
  have htake : ids.take before.length = before := by
    rw [hids]
    exact List.take_left
  have hreports : (generator.generateFrom seed ids.length 0 (before ++ id :: after)).1 = _ :=
    fst_generateFrom_append hall (id :: after)
  rw [fst_generateFrom_of_error hfails, List.append_nil, ← hids] at hreports
  rw [generate, hreports, reports, htake]
  simp only [Nat.zero_add]

theorem written_sql_append (first second : List GeneratedQuery) :
    (Format.sql.write (.ofLimit none) (first ++ second)).2.written =
      (Format.sql.write (.ofLimit none) first).2.written ++
        (Format.sql.write (.ofLimit none) second).2.written := by
  have htext : Format.sql.text (first ++ second) = Format.sql.text first ++ Format.sql.text second := by
    change joinedText (sqlPieces (first ++ second)) = joinedText (sqlPieces first) ++ joinedText (sqlPieces second)
    rw [sqlPieces_append, joinedText_append]
  rw [write_unlimited, write_unlimited, write_unlimited, htext, toList_toUTF8_append]

/-- **Batches compose.** A batch of two lists is generated exactly if both of them are, and then it is the one
behind the other, and so is its script. Each query of a batch is what is generated for its number and the seed
alone. If a batch fails, then with the error of the first query of the list that is not generated. The reports
are made for the queries in front of it, or for all queries of the list, in order: each has the number of its
query, how many are done, and the length of the list. -/
theorem generate_append (generator : Generator) (seed : UInt64) :
    (∀ xs ys : List Nat,
      ((∃ queries, (generator.generate (xs ++ ys) seed).2 = .ok queries) ↔
        (∃ first, (generator.generate xs seed).2 = .ok first) ∧
          ∃ second, (generator.generate ys seed).2 = .ok second) ∧
      ∀ first second, (generator.generate xs seed).2 = .ok first → (generator.generate ys seed).2 = .ok second →
        (generator.generate (xs ++ ys) seed).2 = .ok (first ++ second) ∧
          (Format.sql.write (.ofLimit none) (first ++ second)).2.written =
            (Format.sql.write (.ofLimit none) first).2.written ++
              (Format.sql.write (.ofLimit none) second).2.written) ∧
    (∀ ids queries, (generator.generate ids seed).2 = .ok queries →
      List.Forall₂ (fun id query => ∃ sql, generator.generateSql id seed = .ok sql ∧ query = ⟨id, seed, sql⟩)
          ids queries ∧
        (generator.generate ids seed).1 = reports ids ids.length) ∧
    ∀ ids error, (generator.generate ids seed).2 = .error error →
      ∃ before id after, ids = before ++ id :: after ∧
        (∀ earlier ∈ before, ∃ sql, generator.generateSql earlier seed = .ok sql) ∧
        generator.generateSql id seed = .error error ∧
        (generator.generate ids seed).1 = reports ids before.length := by
  refine ⟨fun xs ys => ?_, fun ids queries h => generate_of_ok h, fun ids error h => generate_of_error h⟩
  have happend : (generator.generate (xs ++ ys) seed).2 =
      ((generator.generate xs seed).2 >>= fun first =>
        (generator.generate ys seed).2 >>= fun second => pure (first ++ second)) := by
    simp only [snd_generate, List.mapM_append]
  rw [happend]
  refine ⟨⟨?_, ?_⟩, ?_⟩
  · rintro ⟨queries, h⟩
    obtain ⟨first, hfirst, h⟩ := Result.bind_eq_ok_iff.1 h
    obtain ⟨second, hsecond, -⟩ := Result.bind_eq_ok_iff.1 h
    exact ⟨⟨first, hfirst⟩, second, hsecond⟩
  · rintro ⟨⟨first, hfirst⟩, second, hsecond⟩
    rw [hfirst, hsecond]
    exact ⟨first ++ second, rfl⟩
  · intro first second hfirst hsecond
    rw [hfirst, hsecond]
    exact ⟨rfl, written_sql_append first second⟩

/-- A catalog of one query, and a batch with a repeated number and one that is missing. -/
theorem generate_append_missing :
    let template : Template := ⟨7, "select 1\n", .empty, .empty⟩
    let generator : Generator := ⟨.empty, .scaleOne, ⟨[(7, template)]⟩⟩
    (generator.generate ([7] ++ [7]) 5).2 = .ok ([⟨7, 5, "select 1\n"⟩] ++ [⟨7, 5, "select 1\n"⟩]) ∧
      ∃ before id after, [7, 7, 8, 7] = before ++ id :: after ∧
        generator.generateSql id 5 = .error (.unknownQuery 8) ∧
        (generator.generate [7, 7, 8, 7] 5).1 = reports [7, 7, 8, 7] before.length := by
  intro template generator
  obtain ⟨happend, -, hfails⟩ := generate_append generator 5
  have hsql : generator.generateSql 7 5 = .ok "select 1\n" := congrArg Except.ok String.ofList_toList
  have hone : (generator.generate [7] 5).2 = .ok [⟨7, 5, "select 1\n"⟩] := by
    rw [snd_generate, List.mapM_cons, entry, hsql]
    rfl
  have hmissing : (generator.generate [7, 7, 8, 7] 5).2 = .error (.unknownQuery 8) := rfl
  obtain ⟨before, id, after, hids, -, herror, hreports⟩ := hfails _ _ hmissing
  exact ⟨((happend [7] [7]).2 _ _ hone hone).1, before, id, after, hids, herror, hreports⟩

end QueryVariants.Generator
