import Mathlib.Data.List.Nodup
import QueryVariants.Config
import QueryVariants.Proofs.Template.Catalog

/-!
# The queries of a configuration

A configuration lists queries in any order, some of them several times, and some that no template can have. The
list is gone through once to check the configuration and once to select the queries. Both stop at the first
number that is out of range, so a configuration that passes the check has a selection. The selection is
collected number by number: what is kept of the numbers so far are their first occurrences, in order.
-/

namespace QueryVariants

/-- The numbers of a list without repeats, in the order in which they first occur. -/
structure FirstOccurrences (listed ids : List Nat) : Prop where
  nodup : ids.Nodup
  mem_iff : ∀ id, id ∈ ids ↔ id ∈ listed
  ordered : ids.Pairwise fun id later => listed.idxOf id < listed.idxOf later

namespace FirstOccurrences

variable {listed ids : List Nat} {id : Nat}

theorem nil : FirstOccurrences [] [] :=
  ⟨.nil, fun _ => .rfl, .nil⟩

/-- Numbers that are added at the end do not move the first occurrences. -/
theorem ordered_append (h : FirstOccurrences listed ids) (rest : List Nat) :
    ids.Pairwise fun id later => (listed ++ rest).idxOf id < (listed ++ rest).idxOf later := by
  refine h.ordered.imp_of_mem fun {id later} hid hlater hlt => ?_
  rwa [List.idxOf_append_of_mem ((h.mem_iff id).1 hid), List.idxOf_append_of_mem ((h.mem_iff later).1 hlater)]

theorem append_repeated (h : FirstOccurrences listed ids) (hid : id ∈ ids) :
    FirstOccurrences (listed ++ [id]) ids where
  nodup := h.nodup
  mem_iff other := by
    rw [List.mem_append, List.mem_singleton, ← h.mem_iff]
    exact (or_iff_left_of_imp fun heq => heq ▸ hid).symm
  ordered := h.ordered_append [id]

theorem append_fresh (h : FirstOccurrences listed ids) (hid : id ∉ ids) :
    FirstOccurrences (listed ++ [id]) (ids ++ [id]) where
  nodup := h.nodup.append (List.nodup_singleton id) (List.disjoint_singleton.2 hid)
  mem_iff other := by rw [List.mem_append, List.mem_append, h.mem_iff]
  ordered := by
    have hfresh : id ∉ listed := fun hmem => hid ((h.mem_iff id).2 hmem)
    refine List.pairwise_append.2 ⟨h.ordered_append [id], List.pairwise_singleton _ _, ?_⟩
    intro earlier hearlier other hother
    obtain rfl := List.mem_singleton.1 hother
    have hmem : earlier ∈ listed := (h.mem_iff earlier).1 hearlier
    rw [List.idxOf_append_of_mem hmem, List.idxOf_append_of_notMem hfresh]
    have hlt : listed.idxOf earlier < listed.length := List.idxOf_lt_length_iff.2 hmem
    omega

/-- A list has only one list of first occurrences. -/
theorem unique {others : List Nat} (h : FirstOccurrences listed ids) (hothers : FirstOccurrences listed others) :
    ids = others := by
  have hperm : ids.Perm others :=
    (List.perm_ext_iff_of_nodup h.nodup hothers.nodup).2 fun id => (h.mem_iff id).trans (hothers.mem_iff id).symm
  exact hperm.eq_of_pairwise (fun _ _ _ _ hlt hgt => absurd hgt (Nat.lt_asymm hlt)) h.ordered hothers.ordered

end FirstOccurrences

/-- The first number of a list that no query can have. -/
def FirstOutOfRange (listed : List Nat) (id : Nat) : Prop :=
  ∃ before after, listed = before ++ id :: after ∧
    (∀ earlier ∈ before, 1 ≤ earlier ∧ earlier ≤ 99) ∧ ¬(1 ≤ id ∧ id ≤ 99)

section

variable {listed : List Nat} {id : Nat}

theorem FirstOutOfRange.mem (h : FirstOutOfRange listed id) : id ∈ listed := by
  obtain ⟨before, after, rfl, -, -⟩ := h
  exact List.mem_append_right before List.mem_cons_self

theorem FirstOutOfRange.outOfRange (h : FirstOutOfRange listed id) : ¬(1 ≤ id ∧ id ≤ 99) := by
  obtain ⟨-, -, -, -, hrange⟩ := h
  exact hrange

theorem isNone_validateQueryId : (validateQueryId id).toOption.isNone ↔ ¬(1 ≤ id ∧ id ≤ 99) := by
  by_cases hrange : 1 ≤ id ∧ id ≤ 99
  · simp [validateQueryId_of_inRange hrange, Except.toOption, hrange]
  · simp [validateQueryId_of_outOfRange hrange, Except.toOption, hrange]

theorem find?_eq_some_iff_firstOutOfRange :
    listed.find? (fun id => (validateQueryId id).toOption.isNone) = some id ↔ FirstOutOfRange listed id := by
  rw [List.find?_eq_some_iff_append, isNone_validateQueryId]
  simp only [Bool.not_eq_true', ← Bool.not_eq_true, isNone_validateQueryId, not_not]
  constructor
  · rintro ⟨hrange, before, after, hlisted, hbefore⟩
    exact ⟨before, after, hlisted, hbefore, hrange⟩
  · rintro ⟨before, after, hlisted, hbefore, hrange⟩
    exact ⟨hrange, before, after, hlisted, hbefore⟩

theorem exists_firstOutOfRange (hid : id ∈ listed) (hrange : ¬(1 ≤ id ∧ id ≤ 99)) :
    ∃ first, FirstOutOfRange listed first := by
  have hfound : (listed.find? fun id => (validateQueryId id).toOption.isNone).isSome :=
    List.find?_isSome.2 ⟨id, hid, isNone_validateQueryId.2 hrange⟩
  obtain ⟨first, hfirst⟩ := Option.isSome_iff_exists.1 hfound
  exact ⟨first, find?_eq_some_iff_firstOutOfRange.1 hfirst⟩

theorem not_firstOutOfRange_nil : ¬FirstOutOfRange [] id :=
  fun h => List.not_mem_nil h.mem

theorem firstOutOfRange_cons_of_inRange {raw : Nat} (hraw : 1 ≤ raw ∧ raw ≤ 99) :
    FirstOutOfRange (raw :: listed) id ↔ FirstOutOfRange listed id := by
  have hpass : (validateQueryId raw).toOption.isNone = false :=
    Bool.eq_false_iff.2 (mt isNone_validateQueryId.1 (not_not.2 hraw))
  simp only [← find?_eq_some_iff_firstOutOfRange, List.find?_cons, hpass]

theorem firstOutOfRange_cons_of_outOfRange {raw : Nat} (hraw : ¬(1 ≤ raw ∧ raw ≤ 99)) :
    FirstOutOfRange (raw :: listed) id ↔ id = raw := by
  simp only [← find?_eq_some_iff_firstOutOfRange, List.find?_cons, isNone_validateQueryId.2 hraw, Option.some_inj]
  exact eq_comm

end

namespace Config

/-! ### The numbers one by one -/

section

variable {seen rest : List Nat} {raw : Nat}

theorem distinctIds_of_outOfRange (hraw : ¬(1 ≤ raw ∧ raw ≤ 99)) :
    distinctIds seen (raw :: rest) = .error (.queryIdOutOfRange raw) := by
  rw [distinctIds, validateQueryId_of_outOfRange hraw]
  rfl

theorem distinctIds_of_mem (hraw : 1 ≤ raw ∧ raw ≤ 99) (hseen : raw ∈ seen) :
    distinctIds seen (raw :: rest) = distinctIds seen rest := by
  rw [distinctIds, validateQueryId_of_inRange hraw]
  exact if_pos hseen

theorem distinctIds_of_notMem (hraw : 1 ≤ raw ∧ raw ≤ 99) (hseen : raw ∉ seen) :
    distinctIds seen (raw :: rest) = (distinctIds (raw :: seen) rest).map fun ids => raw :: ids := by
  rw [distinctIds, validateQueryId_of_inRange hraw]
  refine (if_neg hseen).trans ?_
  cases distinctIds (raw :: seen) rest <;> rfl

/-- The selection fails with the first number that is out of range, whatever has been seen before. -/
theorem distinctIds_eq_error_iff {error : Error} :
    distinctIds seen rest = .error error ↔ ∃ id, FirstOutOfRange rest id ∧ error = .queryIdOutOfRange id := by
  induction rest generalizing seen with
  | nil => simp [distinctIds, not_firstOutOfRange_nil]
  | cons raw rest ih =>
      by_cases hraw : 1 ≤ raw ∧ raw ≤ 99
      · simp only [firstOutOfRange_cons_of_inRange hraw]
        by_cases hseen : raw ∈ seen
        · rw [distinctIds_of_mem hraw hseen, ih]
        · rw [distinctIds_of_notMem hraw hseen, Result.map_eq_error_iff, ih]
      · rw [distinctIds_of_outOfRange hraw, Except.error.injEq]
        simp only [firstOutOfRange_cons_of_outOfRange hraw, exists_eq_left]
        exact eq_comm

/-- What is kept of the numbers so far and of those that follow are the first occurrences in all of them. The
numbers seen so far are those that were kept, in any order. -/
theorem firstOccurrences_of_distinctIds {before kept ids : List Nat} (h : FirstOccurrences before kept)
    (hseen : ∀ id, id ∈ seen ↔ id ∈ kept) (hids : distinctIds seen rest = .ok ids) :
    FirstOccurrences (before ++ rest) (kept ++ ids) := by
  induction rest generalizing before kept seen ids with
  | nil =>
      obtain rfl := Except.ok.inj hids
      rwa [List.append_nil, List.append_nil]
  | cons raw rest ih =>
      by_cases hraw : 1 ≤ raw ∧ raw ≤ 99
      · rw [List.append_cons]
        by_cases hmem : raw ∈ seen
        · rw [distinctIds_of_mem hraw hmem] at hids
          exact ih (h.append_repeated ((hseen raw).1 hmem)) hseen hids
        · rw [distinctIds_of_notMem hraw hmem] at hids
          obtain ⟨later, hlater, rfl⟩ := Result.map_eq_ok_iff.1 hids
          rw [List.append_cons kept]
          refine ih (h.append_fresh (mt (hseen raw).2 hmem)) (fun id => ?_) hlater
          rw [List.mem_cons, hseen, List.mem_append, List.mem_singleton, or_comm]
      · rw [distinctIds_of_outOfRange hraw] at hids
        cases hids

end

/-! ### Configurations -/

section

variable {config : Config} {id : Nat}

/-- The queries as they are listed; none without a list. -/
def listedIds (config : Config) : List Nat :=
  config.queries?.getD []

theorem queryIds_eq_error_iff {error : Error} :
    config.queryIds = .error error ↔
      ∃ id, FirstOutOfRange config.listedIds id ∧ error = .queryIdOutOfRange id :=
  distinctIds_eq_error_iff

theorem firstOccurrences_of_queryIds {ids : List Nat} (h : config.queryIds = .ok ids) :
    FirstOccurrences config.listedIds ids :=
  firstOccurrences_of_distinctIds .nil (fun _ => .rfl) h

theorem exists_queryIds_iff :
    (∃ ids, config.queryIds = .ok ids) ↔ ∀ id ∈ config.listedIds, 1 ≤ id ∧ id ≤ 99 := by
  rw [Result.exists_ok_iff]
  constructor
  · intro hnone id hid
    by_contra hrange
    obtain ⟨first, hfirst⟩ := exists_firstOutOfRange hid hrange
    exact hnone _ (queryIds_eq_error_iff.2 ⟨first, hfirst, rfl⟩)
  · intro hall error herror
    obtain ⟨first, hfirst, -⟩ := queryIds_eq_error_iff.1 herror
    exact hfirst.outOfRange (hall first hfirst.mem)

theorem queryIds_eq_ok_iff {ids : List Nat} :
    config.queryIds = .ok ids ↔
      (∀ id ∈ config.listedIds, 1 ≤ id ∧ id ≤ 99) ∧ FirstOccurrences config.listedIds ids := by
  constructor
  · exact fun hids => ⟨exists_queryIds_iff.1 ⟨ids, hids⟩, firstOccurrences_of_queryIds hids⟩
  · rintro ⟨hall, hfirst⟩
    obtain ⟨others, hothers⟩ := exists_queryIds_iff.2 hall
    rw [hothers, hfirst.unique (firstOccurrences_of_queryIds hothers)]

/-- The check names the same number as the selection. -/
theorem validate_eq_configQueryOutOfRange_iff :
    config.validate = .error (.configQueryOutOfRange id) ↔ FirstOutOfRange config.listedIds id := by
  rw [validate, ← listedIds, ← find?_eq_some_iff_firstOutOfRange]
  cases config.listedIds.find? fun id => (validateQueryId id).toOption.isNone with
  | some first => simp
  | none =>
      -- What is left to check is the names of the relations, and they have an error of their own.
      dsimp only
      split <;> simp [pure, Except.pure]

/-- A configuration that was read has been checked. -/
theorem validate_of_read {tree : FileTree} {dir : String} (h : Config.read tree dir = .ok (some config)) :
    config.validate = .ok () := by
  simp only [Config.read] at h
  -- Without a file nothing is read, and a file that is unreadable or malformed is an error.
  split at h
  · cases h
  · split at h
    · cases h
    · split at h
      · cases h
      · obtain ⟨⟨⟩, hvalid, hread⟩ := Result.bind_eq_ok_iff.1 h
        obtain rfl := Option.some.inj (Except.ok.inj hread)
        exact hvalid

theorem exists_queryIds_of_validate (h : config.validate = .ok ()) : ∃ ids, config.queryIds = .ok ids := by
  refine Result.exists_ok_iff.2 fun error herror => ?_
  obtain ⟨first, hfirst, -⟩ := queryIds_eq_error_iff.1 herror
  rw [validate_eq_configQueryOutOfRange_iff.2 hfirst] at h
  cases h

end

/-- **The selection of a configuration.** It fails exactly if some listed number is out of range, and then with
the first such number in the list; the check of the configuration rejects it for the same number, and for no
other. Otherwise the selection is the listed numbers without repeats, in the order in which they first occur. A
configuration that was read from a file always has a selection. -/
theorem queryIds_exact (config : Config) :
    ((∃ error, config.queryIds = .error error) ↔ ∃ id ∈ config.listedIds, ¬(1 ≤ id ∧ id ≤ 99)) ∧
    (∀ error, config.queryIds = .error error → ∃ id, FirstOutOfRange config.listedIds id ∧
      error = .queryIdOutOfRange id ∧ config.validate = .error (.configQueryOutOfRange id)) ∧
    (∀ id, config.validate = .error (.configQueryOutOfRange id) →
      config.queryIds = .error (.queryIdOutOfRange id)) ∧
    (∀ ids, config.queryIds = .ok ids ↔
      (∀ id ∈ config.listedIds, 1 ≤ id ∧ id ≤ 99) ∧ FirstOccurrences config.listedIds ids) ∧
    ∀ tree dir, Config.read tree dir = .ok (some config) → ∃ ids, config.queryIds = .ok ids := by
  refine ⟨⟨?_, ?_⟩, fun error herror => ?_, fun id hvalidate => ?_, fun ids => queryIds_eq_ok_iff,
    fun tree dir hread => exists_queryIds_of_validate (validate_of_read hread)⟩
  · rintro ⟨error, herror⟩
    obtain ⟨id, hfirst, -⟩ := queryIds_eq_error_iff.1 herror
    exact ⟨id, hfirst.mem, hfirst.outOfRange⟩
  · rintro ⟨id, hid, hrange⟩
    obtain ⟨first, hfirst⟩ := exists_firstOutOfRange hid hrange
    exact ⟨_, queryIds_eq_error_iff.2 ⟨first, hfirst, rfl⟩⟩
  · obtain ⟨id, hfirst, rfl⟩ := queryIds_eq_error_iff.1 herror
    exact ⟨id, hfirst, rfl, validate_eq_configQueryOutOfRange_iff.2 hfirst⟩
  · exact queryIds_eq_error_iff.2 ⟨id, validate_eq_configQueryOutOfRange_iff.1 hvalidate, rfl⟩

/-- A configuration with a list of queries and nothing else. -/
def listing (queries : List Nat) : Config :=
  { Config.default with queries? := some queries }

/-- A working directory with a configuration file that lists a query twice. -/
def repeatedSelection : FileTree :=
  (FileTree.ofCurrent ["work"]).put ["work", "dsqgen.toml"] (.file "[generate]\nqueries = [7, 3, 7]\n".toUTF8)

/-- A number is not cut down to eight bits: 300 is named, although it would leave 44. -/
theorem queryIds_exact_repeatedSelection :
    (listing [7, 300, 7, 0]).queryIds = .error (.queryIdOutOfRange 300) ∧
      FirstOutOfRange [7, 300, 7, 0] 300 ∧
      (listing [7, 300, 7, 0]).validate = .error (.configQueryOutOfRange 300) ∧
      Config.read repeatedSelection "." = .ok (some { listing [7, 3, 7] with dir? := some "/work" }) ∧
      { listing [7, 3, 7] with dir? := some "/work" }.queryIds = .ok [7, 3] ∧
      FirstOccurrences [7, 3, 7] [7, 3] := by
  have hselection : (listing [7, 300, 7, 0]).validate = .error (.configQueryOutOfRange 300) := by decide
  obtain ⟨-, hnamed, hagree, -⟩ := queryIds_exact (listing [7, 300, 7, 0])
  have herror := hagree 300 hselection
  obtain ⟨id, hfirst, hid, hvalidate⟩ := hnamed _ herror
  obtain rfl := Error.queryIdOutOfRange.inj hid
  have hread : Config.read repeatedSelection "." = .ok (some { listing [7, 3, 7] with dir? := some "/work" }) := by
    decide +kernel
  obtain ⟨-, -, -, hok, hreads⟩ := queryIds_exact { listing [7, 3, 7] with dir? := some "/work" }
  obtain ⟨ids, hids⟩ := hreads repeatedSelection "." hread
  obtain rfl : [7, 3] = ids := Except.ok.inj hids
  exact ⟨herror, hfirst, hvalidate, hread, hids, ((hok _).1 hids).2⟩

end Config

end QueryVariants
